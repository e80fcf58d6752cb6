import App20.Lib.Bytes

/-!
# UTF-8

The bytes of a text, and the text of bytes, if they are those of one.

* `decodeUtf8_encodeUtf8`: the bytes of a text are read as that text.
-/

namespace App20.Lib

def encodeUtf8 (s : List Char) : Bytes := (s.flatMap String.utf8EncodeChar).map UInt8.toFin

def decodeUtf8 (bytes : Bytes) : Option (List Char) :=
  (bytes.map UInt8.ofFin).toByteArray.utf8Decode?.map Array.toList

theorem decodeUtf8_encodeUtf8 (s : List Char) : decodeUtf8 (encodeUtf8 s) = some s := by
  have hbytes : (encodeUtf8 s).map UInt8.ofFin = s.flatMap String.utf8EncodeChar := by
    unfold encodeUtf8
    rw [List.map_map]
    exact List.map_id _
  have hencode : ((encodeUtf8 s).map UInt8.ofFin).toByteArray = s.utf8Encode := by
    rw [hbytes]
    rfl
  unfold decodeUtf8
  rw [hencode, List.utf8Decode?_utf8Encode]
  rfl

theorem encodeUtf8_injective : Function.Injective encodeUtf8 := by
  intro s t h
  have hread := decodeUtf8_encodeUtf8 s
  rw [h, decodeUtf8_encodeUtf8] at hread
  exact (Option.some.inj hread).symm

end App20.Lib
