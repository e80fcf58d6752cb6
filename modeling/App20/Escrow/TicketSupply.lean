import App20.Escrow.Network

/-!
# The supply of tickets

`TicketsSound` ties the three storages together: every ticket address that the escrow has
recorded runs the code of its class, belongs to this escrow and pool and to its own deal or
lock, and its supply is the one that the status of the deal or the flags of the lock call for.

A call into the world touches one contract. `cores` reads all tickets without their allowances,
which is all that the supply depends on.
-/

namespace App20.Escrow

open App20.Lib App20.Lib.Exec App20.Starknet
open Function (update update_self update_of_ne update_eq_self)

variable {Y : Type}

/-! ## What a call into the world leaves of the tickets -/

def Ticket.core (t : Ticket) : Ticket := { t with allowances := fun _ _ => 0 }

def cores (w : World Y) (a : ContractAddress) : Option (TicketKind × Ticket) :=
  match w a with
  | some (.ticket kind t) => some (kind, t.core)
  | _ => none

variable {a token owner pool ticket : ContractAddress} {code : TokenCode Y} {b : Bool}
  {s : State (World Y)} {noteId dealId lockId : Felt} {out : List OpenNoteDeposit}
  {accounted after : U256} {cx : CallContext}

theorem cores_ticket {w : World Y} {kind : TicketKind} {t : Ticket}
    (h : w a = some (.ticket kind t)) : cores w a = some (kind, t.core) := by
  unfold cores
  rw [h]

theorem cores_eq_some {w : World Y} {kind : TicketKind} {c : Ticket}
    (h : cores w a = some (kind, c)) : ∃ t, w a = some (.ticket kind t) ∧ t.core = c := by
  unfold cores at h
  split at h
  · next kind' t hw =>
    rw [Option.some.injEq, Prod.mk.injEq] at h
    obtain ⟨rfl, rfl⟩ := h
    exact ⟨t, hw, rfl⟩
  · cases h

theorem cores_update_other {w : World Y} {y : Y} (h : cores w a = none) :
    cores (update w a (some (.other y))) = cores w := by
  funext b
  by_cases hb : b = a
  · rw [hb, h]
    unfold cores
    rw [update_self]
  · unfold cores
    rw [update_of_ne hb]

theorem cores_update_ticket {w : World Y} {kind : TicketKind} {t t' : Ticket}
    (h : w a = some (.ticket kind t)) (hcore : t'.core = t.core) :
    cores (update w a (some (.ticket kind t'))) = cores w := by
  funext b
  by_cases hb : b = a
  · rw [hb, cores_ticket h]
    unfold cores
    rw [update_self]
    simp only [hcore]
  · unfold cores
    rw [update_of_ne hb]

theorem world_called {caller : ContractAddress} {c : TokenCall} {w w' : World Y}
    (h : World.call code caller token c w = some (b, w')) :
    (∃ kind t t', w token = some (.ticket kind t) ∧ TicketCalled kind t caller c t' ∧
      w' = update w token (some (.ticket kind t'))) ∨
    (∃ y y', w token = some (.other y) ∧ w' = update w token (some (.other y'))) := by
  unfold World.call at h
  split at h
  · next kind t hw =>
    split at h
    · next t' hcall =>
      rw [Option.some.injEq, Prod.mk.injEq] at h
      exact Or.inl ⟨kind, t, t', hw, ticket_called hcall, h.2.symm⟩
    · cases h
  · next y hw =>
    rw [Option.map_eq_some_iff] at h
    obtain ⟨⟨b', y'⟩, -, heq⟩ := h
    rw [Prod.mk.injEq] at heq
    exact Or.inr ⟨y, y', hw, heq.2.symm⟩
  · cases h

theorem cores_balanceOf {account : ContractAddress} {w w' : World Y} {v : U256}
    (h : World.balanceOf code token account w = some (v, w')) : cores w' = cores w := by
  unfold World.balanceOf at h
  split at h
  · rw [Option.some.injEq, Prod.mk.injEq] at h
    rw [h.2]
  · next y hw =>
    rw [Option.map_eq_some_iff] at h
    obtain ⟨⟨b', y'⟩, -, heq⟩ := h
    rw [Prod.mk.injEq] at heq
    rw [← heq.2]
    exact cores_update_other (by unfold cores; rw [hw])
  · cases h

theorem cores_approve {caller spender : ContractAddress} {amount : U256} {w w' : World Y}
    (h : World.call code caller token (.approve spender amount) w = some (b, w')) :
    cores w' = cores w := by
  rcases world_called h with ⟨kind, t, t', hw, hcalled, rfl⟩ | ⟨y, y', hw, rfl⟩
  · cases hcalled
    exact cores_update_ticket hw rfl
  · exact cores_update_other (by unfold cores; rw [hw])

/-! ## The tickets of the escrow -/

variable {N : Network Y} {D : Deployment N}

/-- The contract at the address is the ticket of this deal or lock, with the given supply. -/
def OwnTicket (D : Deployment N) (w : World Y) (kind : TicketKind) (id : Felt)
    (address : ContractAddress) (minted : Bool) (supply : Nat) : Prop :=
  ∃ t, w address = some (.ticket kind t) ∧ t.escrow = N.escrow ∧ t.pool = D.pool ∧ t.id = id ∧
    t.minted = minted ∧ t.supply.val = supply

def DealStatus.minted : DealStatus → Bool
  | .empty => false
  | _ => true

/-- The units that the claim ticket of a deal has. -/
def DealStatus.supply : DealStatus → Nat
  | .funded => 1
  | .filled => 1
  | _ => 0

def LockStatus.minted : LockStatus → Bool
  | .empty => false
  | _ => true

/-- The units that the ticket of a lock has: one for each payout still due. -/
def Lock.supply (l : Lock) : Nat :=
  match l.status with
  | .empty => 0
  | _ => (if l.proceedsSettled then 0 else 1) + (if l.collateralReleased then 0 else 1)

structure TicketsSound (D : Deployment N) (s : Storage) (w : World Y) : Prop where
  pool_eq : s.pool = D.pool
  ticketClassHash_eq : s.ticketClassHash = D.ticketClassHash
  lockTicketClassHash_eq : s.lockTicketClassHash = D.lockTicketClassHash
  sound : ∀ a kind t, w a = some (.ticket kind t) → t.Sound kind
  claims : ∀ id, s.tickets id ≠ 0 → OwnTicket D w .claim id (s.tickets id)
    (s.deals id).status.minted (s.deals id).status.supply
  locks : ∀ id, s.lockTickets id ≠ 0 → OwnTicket D w .lock id (s.lockTickets id)
    (s.locks id).status.minted (s.locks id).supply
  deal_ticket : ∀ id, (s.deals id).status ≠ .empty →
    s.tickets id ≠ 0 ∧ (s.deals id).ticket = s.tickets id
  lock_ticket : ∀ id, (s.locks id).status ≠ .empty →
    s.lockTickets id ≠ 0 ∧ (s.locks id).ticket = s.lockTickets id

theorem TicketsSound.deal_own {s : Storage} {w : World Y} (h : TicketsSound D s w) (id : Felt)
    (hstatus : (s.deals id).status ≠ .empty) :
    OwnTicket D w .claim id (s.deals id).ticket (s.deals id).status.minted
      (s.deals id).status.supply := by
  obtain ⟨hid, hticket⟩ := h.deal_ticket id hstatus
  rw [hticket]
  exact h.claims id hid

theorem TicketsSound.lock_own {s : Storage} {w : World Y} (h : TicketsSound D s w) (id : Felt)
    (hstatus : (s.locks id).status ≠ .empty) :
    OwnTicket D w .lock id (s.locks id).ticket (s.locks id).status.minted (s.locks id).supply := by
  obtain ⟨hid, hticket⟩ := h.lock_ticket id hstatus
  rw [hticket]
  exact h.locks id hid

section OwnTickets

variable {w w' : World Y} {kind kind' : TicketKind} {id id' : Felt}
  {address address' : ContractAddress} {minted minted' : Bool} {supply supply' : Nat}

theorem OwnTicket.congr (h : OwnTicket D w kind id address minted supply)
    (hcores : cores w' = cores w) : OwnTicket D w' kind id address minted supply := by
  obtain ⟨t, hw, hescrow, hpool, hid, hminted, hsupply⟩ := h
  have hcore := congrFun hcores address
  rw [cores_ticket hw] at hcore
  obtain ⟨t', hw', hcore'⟩ := cores_eq_some hcore
  have hfields : t'.escrow = t.escrow ∧ t'.pool = t.pool ∧ t'.id = t.id ∧
      t'.minted = t.minted ∧ t'.supply = t.supply := by
    unfold Ticket.core at hcore'
    injection hcore' with h1 h2 h3 h4 h5
    exact ⟨h1, h2, h3, h4, h5⟩
  obtain ⟨h1, h2, h3, h4, h5⟩ := hfields
  exact ⟨t', hw', h1.trans hescrow, h2.trans hpool, h3.trans hid, h4.trans hminted,
    by rw [h5, hsupply]⟩

theorem sound_congr (h : ∀ a kind t, w a = some (.ticket kind t) → t.Sound kind)
    (hcores : cores w' = cores w) : ∀ a kind t, w' a = some (.ticket kind t) → t.Sound kind := by
  intro a kind t hw'
  have hcore := congrFun hcores a
  rw [cores_ticket hw'] at hcore
  obtain ⟨t', hw, hcore'⟩ := cores_eq_some hcore.symm
  have hsound := h a kind t' hw
  unfold Ticket.core at hcore'
  injection hcore' with h1 h2 h3 h4 h5 h6
  refine ⟨?_, ?_, ?_, ?_⟩
  · rw [← h1, ← h2, ← h6]
    exact hsound.support
  · rw [← h1, ← h2, ← h5, ← h6]
    exact hsound.total
  · rw [← h4, ← h5, ← h6]
    exact hsound.unminted
  · rw [← h5]
    exact hsound.capped

section

variable (h : OwnTicket D w kind id address minted supply)

include h

/-- A ticket belongs to one deal or lock only. -/
theorem OwnTicket.unique (h' : OwnTicket D w kind' id' address minted' supply') :
    kind' = kind ∧ id' = id := by
  obtain ⟨t, hw, -, -, hid, -⟩ := h
  obtain ⟨t', hw', -, -, hid', -⟩ := h'
  rw [hw, Option.some.injEq, Contract.ticket.injEq] at hw'
  obtain ⟨rfl, rfl⟩ := hw'
  exact ⟨rfl, hid'.symm.trans hid⟩

theorem OwnTicket.update_ne (hne : address ≠ address') (c : Option (Contract Y)) :
    OwnTicket D (update w address' c) kind id address minted supply := by
  obtain ⟨t, hw, hrest⟩ := h
  exact ⟨t, by rw [update_of_ne hne]; exact hw, hrest⟩

theorem OwnTicket.update_free (hfree : w address' = none) (c : Option (Contract Y)) :
    OwnTicket D (update w address' c) kind id address minted supply := by
  refine h.update_ne ?_ c
  rintro rfl
  obtain ⟨t, hw, -⟩ := h
  rw [hw] at hfree
  cases hfree

end

end OwnTickets

/-! ## Changes of the world -/

/-- Every ticket stays sound, and all tickets of the escrow but one keep their supply. -/
structure AffectsOnly (D : Deployment N) (w w' : World Y) (kind : TicketKind) (id : Felt) :
    Prop where
  sound : (∀ a k t, w a = some (.ticket k t) → t.Sound k) →
    ∀ a k t, w' a = some (.ticket k t) → t.Sound k
  own : ∀ kind' id' address minted supply, OwnTicket D w kind' id' address minted supply →
    (kind' = kind ∧ id' = id) ∨ OwnTicket D w' kind' id' address minted supply

section Changes

variable {w w1 w2 w' : World Y} {kind : TicketKind} {id : Felt} {address : ContractAddress}
  {minted : Bool} {supply : Nat} {c : TokenCall} {t t' : Ticket} {caller : ContractAddress}

theorem AffectsOnly.congr (h : AffectsOnly D w1 w2 kind id) (hbefore : cores w1 = cores w)
    (hafter : cores w' = cores w2) : AffectsOnly D w w' kind id where
  sound := fun hsound => sound_congr (h.sound (sound_congr hsound hbefore)) hafter
  own := fun _ _ _ _ _ hown => (h.own _ _ _ _ _ (hown.congr hbefore)).imp_right
    fun hown' => hown'.congr hafter

theorem sound_called (hsound : ∀ a k t, w a = some (.ticket k t) → t.Sound k)
    (hw : w address = some (.ticket kind t)) (hcalled : TicketCalled kind t caller c t') :
    ∀ a k u, update w address (some (.ticket kind t')) a = some (.ticket k u) → u.Sound k := by
  intro a k u hu
  by_cases ha : a = address
  · rw [ha, update_self, Option.some.injEq, Contract.ticket.injEq] at hu
    obtain ⟨rfl, rfl⟩ := hu
    exact (hsound address kind t hw).called hcalled
  · rw [update_of_ne ha] at hu
    exact hsound a k u hu

theorem OwnTicket.affectsOnly (h : OwnTicket D w kind id address minted supply)
    (hw : w address = some (.ticket kind t)) (hcalled : TicketCalled kind t caller c t') :
    AffectsOnly D w (update w address (some (.ticket kind t'))) kind id where
  sound := fun hsound => sound_called hsound hw hcalled
  own := by
    intro kind' id' address' minted' supply' hown
    by_cases ha : address' = address
    · subst ha
      exact Or.inl (h.unique hown)
    · exact Or.inr (hown.update_ne ha _)

theorem OwnTicket.called_other (h : OwnTicket D w kind id address minted supply)
    {kind' : TicketKind} {address' : ContractAddress} (hw : w address' = some (.ticket kind' t))
    (hcalled : TicketCalled kind' t caller c t') (hcaller : caller ≠ N.escrow) :
    OwnTicket D (update w address' (some (.ticket kind' t'))) kind id address minted supply := by
  by_cases ha : address = address'
  · subst ha
    obtain ⟨u, hu, hescrow, hpool, hid, hminted, hsupply⟩ := h
    rw [hw, Option.some.injEq, Contract.ticket.injEq] at hu
    obtain ⟨rfl, rfl⟩ := hu
    obtain ⟨h1, h2, h3⟩ := hcalled.identity
    obtain ⟨h4, h5⟩ := hcalled.supply_eq (by rw [hescrow]; exact hcaller)
    exact ⟨t', update_self _ _ _, h1.trans hescrow, h2.trans hpool, h3.trans hid,
      h4.trans hminted, by rw [h5, hsupply]⟩
  · exact h.update_ne ha _

theorem deployTicket_eq (h : N.deployTicket kind address owner pool id w = some w') :
    address ≠ 0 ∧ w address = none ∧ ∃ t, kind.constructor owner pool id = .ok t ∧
      w' = update w address (some (.ticket kind t)) := by
  unfold Network.deployTicket at h
  split at h
  · next t ht =>
    split at h
    · next hfree =>
      simp only [Network.isFree, decide_eq_true_eq, Option.isNone_iff_eq_none] at hfree
      rw [Option.some.injEq] at h
      exact ⟨hfree.1, hfree.2.2, t, ht, h.symm⟩
    · cases h
  · cases h

theorem sound_deployed (hsound : ∀ a k t, w a = some (.ticket k t) → t.Sound k)
    (ht : kind.constructor owner pool id = .ok t) :
    ∀ a k u, update w address (some (.ticket kind t)) a = some (.ticket k u) → u.Sound k := by
  intro a k u hu
  by_cases ha : a = address
  · rw [ha, update_self, Option.some.injEq, Contract.ticket.injEq] at hu
    obtain ⟨rfl, rfl⟩ := hu
    exact Ticket.Sound.constructor ht
  · rw [update_of_ne ha] at hu
    exact hsound a k u hu

theorem OwnTicket.mint {supply : Nat} (h : OwnTicket D w kind id address false supply)
    (hmint : N.platform.mint address w = some w') :
    OwnTicket D w' kind id address true kind.units.val ∧ AffectsOnly D w w' kind id := by
  obtain ⟨⟨b, w''⟩, hcall, rfl⟩ := Option.map_eq_some_iff.mp hmint
  have hown := h
  obtain ⟨t, hw, hescrow, hpool, hid, -, -⟩ := h
  rcases world_called hcall with ⟨kind', t0, t', hw', hcalled, rfl⟩ | ⟨y, y', hw', -⟩
  · rw [hw, Option.some.injEq, Contract.ticket.injEq] at hw'
    obtain ⟨rfl, rfl⟩ := hw'
    refine ⟨?_, hown.affectsOnly hw hcalled⟩
    cases hcalled
    exact ⟨_, update_self _ _ _, hescrow, hpool, hid, rfl, rfl⟩
  · rw [hw] at hw'
    cases hw'

theorem OwnTicket.burned (h : OwnTicket D w kind id address minted supply)
    (hburned : Burned N.platform accounted address w w') :
    ∃ left, OwnTicket D w' kind id address minted left ∧
      (kind = .claim → left = 0) ∧ (kind = .lock → supply = left + 1) ∧
      AffectsOnly D w w' kind id := by
  obtain ⟨balance, w1, w2, hbefore, -, hburn, hafter⟩ := hburned
  obtain ⟨⟨b, w2'⟩, hcall, rfl⟩ := Option.map_eq_some_iff.mp hburn
  have hcores1 := cores_balanceOf hbefore
  have hcores2 := cores_balanceOf hafter
  have hown := h.congr hcores1
  obtain ⟨t, hw, hescrow, hpool, hid, hminted, hsupply⟩ := hown
  rcases world_called hcall with ⟨kind', t0, t', hw', hcalled, rfl⟩ | ⟨y, y', hw', -⟩
  · rw [hw, Option.some.injEq, Contract.ticket.injEq] at hw'
    obtain ⟨rfl, rfl⟩ := hw'
    have haffects := (h.congr hcores1).affectsOnly hw hcalled
    cases hcalled with
    | @burn left supply' _ _ hsupply' =>
      have hnew : OwnTicket D (update w1 address (some (.ticket kind { t with
            balances := update t.balances t.escrow left, supply := supply' })))
          kind id address minted supply'.val :=
        ⟨_, update_self _ _ _, hescrow, hpool, hid, hminted, rfl⟩
      refine ⟨supply'.val, hnew.congr hcores2, ?_, ?_, haffects.congr hcores1 hcores2⟩
      · intro hkind
        rcases hsupply' with ⟨-, -, rfl⟩ | ⟨hlock, -⟩
        · rfl
        · rw [hkind] at hlock
          cases hlock
      · intro hkind
        rcases hsupply' with ⟨hclaim, -, -⟩ | ⟨-, hsupply'⟩
        · rw [hkind] at hclaim
          cases hclaim
        · rw [← hsupply, hsupply']
  · rw [hw] at hw'
    cases hw'

end Changes

/-! ## Steps of others -/

/-- The world may change as long as the tickets stay sound and those of the escrow keep their
supply. -/
theorem TicketsSound.world {s : Storage} {w w' : World Y} (h : TicketsSound D s w)
    (hsound : ∀ a k t, w' a = some (.ticket k t) → t.Sound k)
    (hown : ∀ kind id address minted supply, OwnTicket D w kind id address minted supply →
      OwnTicket D w' kind id address minted supply) : TicketsSound D s w' :=
  { h with
    sound := hsound
    claims := fun id hid => hown _ _ _ _ _ (h.claims id hid)
    locks := fun id hid => hown _ _ _ _ _ (h.locks id hid) }

theorem TicketsSound.congr {s : Storage} {w w' : World Y} (h : TicketsSound D s w)
    (hcores : cores w' = cores w) : TicketsSound D s w' :=
  h.world (sound_congr h.sound hcores) fun _ _ _ _ _ hown => hown.congr hcores

theorem TicketsSound.interference {s : Storage} {w : World Y} (h : TicketsSound D s w)
    (a : NetStep N) : TicketsSound D s (a.interference w) := by
  cases a with
  | advance time | escrow caller transactionHash c => exact h
  | issue address args =>
    unfold NetStep.interference
    dsimp only
    split
    · next hfree =>
      simp only [Network.isFree, decide_eq_true_eq, Option.isNone_iff_eq_none] at hfree
      exact h.congr (cores_update_other (by unfold cores; rw [hfree.2.2]))
    · exact h
  | issueTicket address kind owner pool id =>
    unfold NetStep.interference
    dsimp only
    cases hdeploy : N.deployTicket kind address owner pool id w with
    | none => exact h
    | some w' =>
      obtain ⟨-, hfree, t, ht, rfl⟩ := deployTicket_eq hdeploy
      exact h.world (sound_deployed h.sound ht) fun _ _ _ _ _ hown => hown.update_free hfree _
  | token caller address c =>
    unfold NetStep.interference
    dsimp only
    split
    · exact h
    · next hcaller =>
      cases hcall : World.call N.code caller address c w with
      | none => exact h
      | some p =>
        rcases world_called hcall with ⟨kind, t, t', hw, hcalled, heq⟩ | ⟨y, y', hw, heq⟩
        · simp only [Option.map_some, Option.getD_some, heq]
          exact h.world (sound_called h.sound hw hcalled)
            fun _ _ _ _ _ hown => hown.called_other hw hcalled hcaller
        · simp only [Option.map_some, Option.getD_some, heq]
          exact h.congr (cores_update_other (by unfold cores; rw [hw]))

/-! ## Steps of the escrow -/

/-- What the storage must keep when no ticket changes hands: the records, and of each deal and
lock what its ticket depends on. -/
structure SameTickets (s t : Storage) : Prop where
  pool_eq : t.pool = s.pool
  ticketClassHash_eq : t.ticketClassHash = s.ticketClassHash
  lockTicketClassHash_eq : t.lockTicketClassHash = s.lockTicketClassHash
  tickets_eq : t.tickets = s.tickets
  lockTickets_eq : t.lockTickets = s.lockTickets

theorem TicketsSound.setDeal {s t : Storage} {w w' : World Y} {id : Felt} {d : Deal}
    (h : TicketsSound D s w) (hsame : SameTickets s t)
    (hdeals : t.deals = update s.deals id d) (hlocks : t.locks = s.locks)
    (hticket : s.tickets id ≠ 0 ∧ d.ticket = s.tickets id)
    (hown : OwnTicket D w' .claim id (s.tickets id) d.status.minted d.status.supply)
    (haffects : AffectsOnly D w w' .claim id) : TicketsSound D t w' where
  pool_eq := hsame.pool_eq.trans h.pool_eq
  ticketClassHash_eq := hsame.ticketClassHash_eq.trans h.ticketClassHash_eq
  lockTicketClassHash_eq := hsame.lockTicketClassHash_eq.trans h.lockTicketClassHash_eq
  sound := haffects.sound h.sound
  claims := by
    intro id' hid'
    rw [hsame.tickets_eq] at hid' ⊢
    rw [hdeals]
    by_cases hid : id' = id
    · rw [hid, update_self]
      exact hown
    · rw [update_of_ne hid]
      rcases haffects.own _ _ _ _ _ (h.claims id' hid') with ⟨-, heq⟩ | hkept
      · exact absurd heq hid
      · exact hkept
  locks := by
    intro id' hid'
    rw [hsame.lockTickets_eq] at hid' ⊢
    rw [hlocks]
    rcases haffects.own _ _ _ _ _ (h.locks id' hid') with ⟨hkind, -⟩ | hkept
    · cases hkind
    · exact hkept
  deal_ticket := by
    intro id'
    rw [hdeals, hsame.tickets_eq]
    by_cases hid : id' = id
    · rw [hid, update_self]
      exact fun _ => hticket
    · rw [update_of_ne hid]
      exact h.deal_ticket id'
  lock_ticket := by
    rw [hlocks, hsame.lockTickets_eq]
    exact h.lock_ticket

theorem TicketsSound.setLock {s t : Storage} {w w' : World Y} {id : Felt} {l : Lock}
    (h : TicketsSound D s w) (hsame : SameTickets s t) (hdeals : t.deals = s.deals)
    (hlocks : t.locks = update s.locks id l)
    (hticket : s.lockTickets id ≠ 0 ∧ l.ticket = s.lockTickets id)
    (hown : OwnTicket D w' .lock id (s.lockTickets id) l.status.minted l.supply)
    (haffects : AffectsOnly D w w' .lock id) : TicketsSound D t w' where
  pool_eq := hsame.pool_eq.trans h.pool_eq
  ticketClassHash_eq := hsame.ticketClassHash_eq.trans h.ticketClassHash_eq
  lockTicketClassHash_eq := hsame.lockTicketClassHash_eq.trans h.lockTicketClassHash_eq
  sound := haffects.sound h.sound
  claims := by
    intro id' hid'
    rw [hsame.tickets_eq] at hid' ⊢
    rw [hdeals]
    rcases haffects.own _ _ _ _ _ (h.claims id' hid') with ⟨hkind, -⟩ | hkept
    · cases hkind
    · exact hkept
  locks := by
    intro id' hid'
    rw [hsame.lockTickets_eq] at hid' ⊢
    rw [hlocks]
    by_cases hid : id' = id
    · rw [hid, update_self]
      exact hown
    · rw [update_of_ne hid]
      rcases haffects.own _ _ _ _ _ (h.locks id' hid') with ⟨-, heq⟩ | hkept
      · exact absurd heq hid
      · exact hkept
  deal_ticket := by
    rw [hdeals, hsame.tickets_eq]
    exact h.deal_ticket
  lock_ticket := by
    intro id'
    rw [hlocks, hsame.lockTickets_eq]
    by_cases hid : id' = id
    · rw [hid, update_self]
      exact fun _ => hticket
    · rw [update_of_ne hid]
      exact h.lock_ticket id'

theorem deploy_eq {w w' : World Y} {classHash salt id : Felt} {address : ContractAddress}
    (h : N.deploy classHash salt [into owner, into pool, id] w = some (address, w')) :
    ∃ kind, N.classOf classHash = some kind ∧
      N.deployTicket kind address owner pool id w = some w' := by
  simp only [Network.deploy, Option.bind_eq_bind, Option.bind_eq_some_iff, tryInto_into,
    Option.some.injEq, exists_eq_left'] at h
  obtain ⟨kind, hclass, w1, hdeploy, heq⟩ := h
  obtain ⟨haddress, rfl⟩ := Prod.mk.inj (Option.some.inj heq)
  rw [haddress] at hdeploy
  exact ⟨kind, hclass, hdeploy⟩

section

variable {s : Storage} {w w' : World Y} (h : TicketsSound D s w)

include h

theorem TicketsSound.ensured (hensured : TicketEnsured N.platform s dealId ticket w w') :
    TicketsSound D (s.setTicket dealId ticket) w' ∧ ticket ≠ 0 := by
  obtain ⟨-, ⟨hne, rfl, rfl⟩ | ⟨hzero, hdeploy⟩⟩ := hensured
  · rw [Storage.setTicket, update_eq_self]
    exact ⟨h, hne⟩
  · obtain ⟨kind, hclass, hdeploy⟩ := deploy_eq hdeploy
    rw [h.ticketClassHash_eq, D.ticketClass, Option.some.injEq] at hclass
    subst hclass
    obtain ⟨hne, hfree, t, ht, rfl⟩ := deployTicket_eq hdeploy
    have hempty : (s.deals dealId).status = .empty := by
      by_contra hstatus
      exact (h.deal_ticket dealId hstatus).1 hzero
    refine ⟨⟨h.pool_eq, h.ticketClassHash_eq, h.lockTicketClassHash_eq,
      sound_deployed h.sound ht, ?_, ?_, ?_, h.lock_ticket⟩, hne⟩
    · intro id hid
      simp only [Storage.setTicket] at hid ⊢
      by_cases heq : id = dealId
      · rw [heq, update_self, hempty]
        exact ⟨t, update_self _ _ _, by rw [constructor_ok ht]; rfl,
          by rw [constructor_ok ht]; exact h.pool_eq, by rw [constructor_ok ht],
          by rw [constructor_ok ht]; rfl, by rw [constructor_ok ht]; rfl⟩
      · rw [update_of_ne heq] at hid ⊢
        exact (h.claims id hid).update_free hfree _
    · intro id hid
      exact (h.locks id hid).update_free hfree _
    · intro id hstatus
      have hid := h.deal_ticket id hstatus
      simp only [Storage.setTicket] at hstatus ⊢
      by_cases heq : id = dealId
      · rw [heq] at hid
        exact absurd hzero hid.1
      · rw [update_of_ne heq]
        exact hid

theorem TicketsSound.ensuredLock (hensured : LockTicketEnsured N.platform s lockId ticket w w') :
    TicketsSound D (s.setLockTicket lockId ticket) w' ∧ ticket ≠ 0 := by
  obtain ⟨-, ⟨hne, rfl, rfl⟩ | ⟨hzero, hdeploy⟩⟩ := hensured
  · rw [Storage.setLockTicket, update_eq_self]
    exact ⟨h, hne⟩
  · obtain ⟨kind, hclass, hdeploy⟩ := deploy_eq hdeploy
    rw [h.lockTicketClassHash_eq, D.lockTicketClass, Option.some.injEq] at hclass
    subst hclass
    obtain ⟨hne, hfree, t, ht, rfl⟩ := deployTicket_eq hdeploy
    have hempty : (s.locks lockId).status = .empty := by
      by_contra hstatus
      exact (h.lock_ticket lockId hstatus).1 hzero
    refine ⟨⟨h.pool_eq, h.ticketClassHash_eq, h.lockTicketClassHash_eq,
      sound_deployed h.sound ht, ?_, ?_, h.deal_ticket, ?_⟩, hne⟩
    · intro id hid
      exact (h.claims id hid).update_free hfree _
    · intro id hid
      simp only [Storage.setLockTicket] at hid ⊢
      by_cases heq : id = lockId
      · rw [heq, update_self, Lock.supply, hempty]
        exact ⟨t, update_self _ _ _, by rw [constructor_ok ht]; rfl,
          by rw [constructor_ok ht]; exact h.pool_eq, by rw [constructor_ok ht],
          by rw [constructor_ok ht]; rfl, by rw [constructor_ok ht]; rfl⟩
      · rw [update_of_ne heq] at hid ⊢
        exact (h.locks id hid).update_free hfree _
    · intro id hstatus
      have hid := h.lock_ticket id hstatus
      simp only [Storage.setLockTicket] at hstatus ⊢
      by_cases heq : id = lockId
      · rw [heq] at hid
        exact absurd hzero hid.1
      · rw [update_of_ne heq]
        exact hid

/-- The ticket of a new deal or lock is not minted yet. -/
theorem TicketsSound.ensured_own (hensured : TicketEnsured N.platform s dealId ticket w w')
    (hempty : (s.deals dealId).status = .empty) : OwnTicket D w' .claim dealId ticket false 0 := by
  obtain ⟨hsound, hne⟩ := h.ensured hensured
  have hticket : (s.setTicket dealId ticket).tickets dealId = ticket := update_self _ _ _
  have hown := hsound.claims dealId (by rw [hticket]; exact hne)
  rw [hticket] at hown
  simpa only [Storage.setTicket, hempty, DealStatus.minted, DealStatus.supply] using hown

theorem TicketsSound.ensuredLock_own (hensured : LockTicketEnsured N.platform s lockId ticket w w')
    (hempty : (s.locks lockId).status = .empty) : OwnTicket D w' .lock lockId ticket false 0 := by
  obtain ⟨hsound, hne⟩ := h.ensuredLock hensured
  have hticket : (s.setLockTicket lockId ticket).lockTickets lockId = ticket := update_self _ _ _
  have hown := hsound.locks lockId (by rw [hticket]; exact hne)
  rw [hticket] at hown
  simpa only [Storage.setLockTicket, hempty, LockStatus.minted, Lock.supply] using hown

end

theorem paid_cores {amount : U128} {w w' : World Y}
    (h : Paid N.platform accounted token amount after w w') : cores w' = cores w := by
  obtain ⟨balance, hread, -⟩ := h
  exact cores_balanceOf hread

theorem consumed_cores {s : Storage} {expected : U256} {w w' : World Y}
    (h : Consumed N.platform cx s token expected w w') : cores w' = cores w := by
  obtain ⟨balance, hread, -⟩ := h.received
  exact cores_balanceOf hread

theorem paidPositive_cores {amount : U128} {w w' : World Y}
    (h : PaidPositive N.platform accounted token pool amount after w w') : cores w' = cores w := by
  rcases h with ⟨-, w1, hpaid, happroved⟩ | ⟨-, -, rfl⟩
  · exact (cores_approve happroved).trans (paid_cores hpaid)
  · rfl

theorem ticketsSound_funds {params : FundParams} {t : State (World Y)} {next : U256}
    {w1 w2 w3 : World Y} (h : TicketsSound D s.storage s.world)
    (run : Funds N.platform cx dealId noteId params pool s t out ticket next w1 w2 w3) :
    TicketsSound D t.storage t.world := by
  obtain ⟨hensured, hne⟩ := h.ensured run.ensured
  have hticket : (s.storage.setTicket dealId ticket).tickets dealId = ticket := update_self _ _ _
  have hown := h.ensured_own run.ensured run.empty
  obtain ⟨hminted, haffects⟩ := (hown.congr (consumed_cores run.consumed)).mint run.minted
  have happroved := cores_approve run.approved
  rw [run.storage_eq]
  refine hensured.setDeal ⟨rfl, rfl, rfl, rfl, rfl⟩ rfl rfl ⟨by rw [hticket]; exact hne,
    hticket.symm⟩ ?_ (haffects.congr (consumed_cores run.consumed) happroved)
  rw [hticket]
  exact hminted.congr happroved

theorem ticketsSound_fills {params : FillParams} {t : State (World Y)} {afterA afterB : U256}
    {w1 w2 : World Y} (h : TicketsSound D s.storage s.world)
    (run : Fills N.platform cx dealId noteId params pool s t out afterA afterB w1 w2) :
    TicketsSound D t.storage t.world := by
  have hcores : cores t.world = cores s.world :=
    (cores_approve run.approved).trans ((consumed_cores run.consumed).trans (paid_cores run.paidA))
  have hticket := h.deal_ticket dealId (by rw [run.funded]; simp)
  have hown := h.claims dealId hticket.1
  rw [run.funded] at hown
  rw [run.storage_eq]
  exact (h.congr hcores).setDeal ⟨rfl, rfl, rfl, rfl, rfl⟩ rfl rfl hticket (hown.congr hcores)
    ⟨fun hsound => hsound, fun _ _ _ _ _ hkept => Or.inr hkept⟩

theorem ticketsSound_claims {t : State (World Y)} {w1 w2 : World Y}
    (h : TicketsSound D s.storage s.world)
    (run : Claims N.platform dealId noteId pool s t out after w1 w2) :
    TicketsSound D t.storage t.world := by
  have hcores : cores t.world = cores w1 := (cores_approve run.approved).trans (paid_cores run.paid)
  have hticket := h.deal_ticket dealId (by rw [run.filled]; simp)
  have hburned := run.burned
  rw [hticket.2] at hburned
  obtain ⟨left, hown, hleft, -, haffects⟩ := (h.claims dealId hticket.1).burned hburned
  rw [hleft rfl, run.filled] at hown
  rw [run.storage_eq]
  exact h.setDeal ⟨rfl, rfl, rfl, rfl, rfl⟩ rfl rfl hticket (hown.congr hcores)
    (haffects.congr rfl hcores)

theorem ticketsSound_timesOut {t : State (World Y)} {w1 w2 : World Y}
    (h : TicketsSound D s.storage s.world)
    (run : TimesOut N.platform cx dealId noteId pool s t out after w1 w2) :
    TicketsSound D t.storage t.world := by
  have hcores : cores t.world = cores w1 := (cores_approve run.approved).trans (paid_cores run.paid)
  have hticket := h.deal_ticket dealId (by rw [run.funded]; simp)
  have hburned := run.burned
  rw [hticket.2] at hburned
  obtain ⟨left, hown, hleft, -, haffects⟩ := (h.claims dealId hticket.1).burned hburned
  rw [hleft rfl, run.funded] at hown
  rw [run.storage_eq]
  exact h.setDeal ⟨rfl, rfl, rfl, rfl, rfl⟩ rfl rfl hticket (hown.congr hcores)
    (haffects.congr rfl hcores)

theorem ticketsSound_locks {params : LockParams} {t : State (World Y)} {next : U256}
    {w1 w2 w3 : World Y} (h : TicketsSound D s.storage s.world)
    (run : Locks N.platform cx lockId noteId params pool s t out ticket next w1 w2 w3) :
    TicketsSound D t.storage t.world := by
  obtain ⟨hensured, hne⟩ := h.ensuredLock run.ensured
  have hticket : (s.storage.setLockTicket lockId ticket).lockTickets lockId = ticket :=
    update_self _ _ _
  have hown := h.ensuredLock_own run.ensured run.empty
  obtain ⟨hminted, haffects⟩ := (hown.congr (consumed_cores run.consumed)).mint run.minted
  have happroved := cores_approve run.approved
  rw [run.storage_eq]
  refine hensured.setLock ⟨rfl, rfl, rfl, rfl, rfl⟩ rfl rfl ⟨by rw [hticket]; exact hne,
    hticket.symm⟩ ?_ (haffects.congr (consumed_cores run.consumed) happroved)
  rw [hticket]
  exact hminted.congr happroved

theorem ticketsSound_takes {params : TakeParams} {t : State (World Y)} {locks' : Felt → Lock}
    {events : List Event} {record : TakeRecord} {nextA nextB : U256} {w1 w2 : World Y}
    (h : TicketsSound D s.storage s.world)
    (run : Takes N.platform cx dealId noteId params pool s t out locks' events record nextA
      nextB w1 w2) : TicketsSound D t.storage t.world := by
  have hcores : cores t.world = cores s.world :=
    (cores_approve run.approved).trans ((paid_cores run.paidB).trans (consumed_cores run.consumed))
  have hworld := h.congr hcores
  rw [run.storage_eq]
  refine ⟨h.pool_eq, h.ticketClassHash_eq, h.lockTicketClassHash_eq, hworld.sound,
    hworld.claims, ?_, hworld.deal_ticket, ?_⟩
  · intro id hid
    have hown := hworld.locks id hid
    have hrest := run.applied.rest id
    change OwnTicket D t.world .lock id (s.storage.lockTickets id) (locks' id).status.minted
      (locks' id).supply
    rw [hrest]
    exact hown
  · intro id
    change (locks' id).status ≠ .empty →
      s.storage.lockTickets id ≠ 0 ∧ (locks' id).ticket = s.storage.lockTickets id
    rw [run.applied.rest id]
    exact h.lock_ticket id

theorem ticketsSound_settles {t : State (World Y)} {w1 : World Y}
    (h : TicketsSound D s.storage s.world)
    (run : Settles N.platform cx lockId noteId pool s t out after w1) :
    TicketsSound D t.storage t.world := by
  have hcores := paidPositive_cores run.paid
  have hticket := h.lock_ticket lockId (by rw [run.opened]; simp)
  have hburned := run.burned
  rw [hticket.2] at hburned
  obtain ⟨left, hown, -, hleft, haffects⟩ := (h.locks lockId hticket.1).burned hburned
  have hsupply := hleft rfl
  rw [Lock.supply, run.opened, run.unsettled] at hsupply
  rw [run.storage_eq]
  refine h.setLock ⟨rfl, rfl, rfl, rfl, rfl⟩ rfl rfl hticket ?_ (haffects.congr rfl hcores)
  rw [run.opened]
  rw [run.opened] at hown
  cases hreleased : (s.storage.locks lockId).collateralReleased <;>
    simp only [hreleased, LockStatus.minted, Lock.supply, if_true, if_false, Nat.zero_add,
      Bool.false_eq_true] at hsupply ⊢
  · rw [← Nat.succ.inj hsupply] at hown
    exact hown.congr hcores
  · rw [← Nat.succ.inj hsupply] at hown
    exact hown.congr hcores

theorem ticketsSound_releases {t : State (World Y)} {w1 : World Y}
    (h : TicketsSound D s.storage s.world)
    (run : Releases N.platform cx lockId noteId pool s t out after w1) :
    TicketsSound D t.storage t.world := by
  have hcores := paidPositive_cores run.paid
  have hticket := h.lock_ticket lockId (by rw [run.opened]; simp)
  have hburned := run.burned
  rw [hticket.2] at hburned
  obtain ⟨left, hown, -, hleft, haffects⟩ := (h.locks lockId hticket.1).burned hburned
  have hsupply := hleft rfl
  rw [Lock.supply, run.opened, run.unreleased] at hsupply
  rw [run.storage_eq]
  refine h.setLock ⟨rfl, rfl, rfl, rfl, rfl⟩ rfl rfl hticket ?_ (haffects.congr rfl hcores)
  rw [run.opened]
  rw [run.opened] at hown
  cases hsettled : (s.storage.locks lockId).proceedsSettled <;>
    simp only [hsettled, LockStatus.minted, Lock.supply, if_true, if_false, Nat.add_zero,
      Bool.false_eq_true] at hsupply ⊢
  · rw [← Nat.succ.inj hsupply] at hown
    exact hown.congr hcores
  · rw [← Nat.succ.inj ((Nat.zero_add 1).symm.trans hsupply)] at hown
    exact hown.congr hcores

theorem ticketsSound_call {t : State (World Y)} {c : Call}
    (hcall : Executes N.platform cx s t c out) (h : TicketsSound D s.storage s.world) :
    TicketsSound D t.storage t.world := by
  cases hcall with
  | prepares _ hread _ hstorage _ =>
    have hworld := h.congr (cores_balanceOf hread)
    rw [hstorage]
    exact ⟨h.pool_eq, h.ticketClassHash_eq, h.lockTicketClassHash_eq, hworld.sound,
      hworld.claims, hworld.locks, h.deal_ticket, h.lock_ticket⟩
  | ensures hensured hstorage _ =>
    rw [hstorage]
    exact (h.ensured hensured).1
  | ensuresLock hensured hstorage _ =>
    rw [hstorage]
    exact (h.ensuredLock hensured).1
  | funds _ run => exact ticketsSound_funds h run
  | fills _ run => exact ticketsSound_fills h run
  | claims _ run => exact ticketsSound_claims h run
  | timesOut _ run => exact ticketsSound_timesOut h run
  | locks _ run => exact ticketsSound_locks h run
  | takes _ run => exact ticketsSound_takes h run
  | settles _ run => exact ticketsSound_settles h run
  | releases _ run => exact ticketsSound_releases h run

/-! ## Runs -/

theorem ticketsSound_run (D : Deployment N) (now : U64) (steps : List (NetStep N)) :
    TicketsSound D (D.reached now steps).state.storage (D.reached now steps).state.world :=
  net_induction (I := fun s => TicketsSound D s.state.storage s.state.world)
    (fun _ _ _ h => h) (fun _ a h => h.interference a)
    (fun _ _ _ _ _ _ hcall h => ticketsSound_call hcall h) steps
    { pool_eq := rfl
      ticketClassHash_eq := rfl
      lockTicketClassHash_eq := rfl
      sound := fun _ _ _ hw => by cases hw
      claims := fun _ hid => absurd rfl hid
      locks := fun _ hid => absurd rfl hid
      deal_ticket := fun _ hstatus => absurd rfl hstatus
      lock_ticket := fun _ hstatus => absurd rfl hstatus }

def MintedWithin (w : World Y) (kind : TicketKind) (address : ContractAddress) (supply : Nat) :
    Prop := ∃ t, w address = some (.ticket kind t) ∧ t.minted = true ∧ t.supply.val ≤ supply

section Minted

variable {w w' : World Y} {kind : TicketKind} {address : ContractAddress} {supply : Nat}

theorem MintedWithin.update_ne {address' : ContractAddress} (h : MintedWithin w kind address supply)
    (hne : address ≠ address') (c : Option (Contract Y)) :
    MintedWithin (update w address' c) kind address supply := by
  obtain ⟨t, hw, hrest⟩ := h
  exact ⟨t, by rw [update_of_ne hne]; exact hw, hrest⟩

theorem MintedWithin.update_free {address' : ContractAddress}
    (h : MintedWithin w kind address supply) (hfree : w address' = none)
    (c : Option (Contract Y)) : MintedWithin (update w address' c) kind address supply := by
  refine h.update_ne ?_ c
  rintro rfl
  obtain ⟨t, hw, -⟩ := h
  rw [hw] at hfree
  cases hfree

theorem MintedWithin.call {caller : ContractAddress} {c : TokenCall}
    (h : MintedWithin w kind address supply)
    (hcall : World.call code caller token c w = some (b, w')) :
    MintedWithin w' kind address supply := by
  by_cases ha : address = token
  · subst ha
    obtain ⟨t, hw, hminted, hsupply⟩ := h
    rcases world_called hcall with ⟨kind', t0, t', hw', hcalled, rfl⟩ | ⟨y, y', hw', -⟩
    · rw [hw, Option.some.injEq, Contract.ticket.injEq] at hw'
      obtain ⟨rfl, rfl⟩ := hw'
      obtain ⟨hminted', hle⟩ := hcalled.supply_le hminted
      exact ⟨t', update_self _ _ _, hminted', le_trans hle hsupply⟩
    · rw [hw] at hw'
      cases hw'
  · rcases world_called hcall with ⟨_, _, _, _, _, rfl⟩ | ⟨_, _, _, rfl⟩
    · exact h.update_ne ha _
    · exact h.update_ne ha _

theorem MintedWithin.balanceOf {account : ContractAddress} {v : U256}
    (h : MintedWithin w kind address supply)
    (hread : World.balanceOf code token account w = some (v, w')) :
    MintedWithin w' kind address supply := by
  obtain ⟨t, hw, hminted, hsupply⟩ := h
  have hcore := congrFun (cores_balanceOf hread) address
  rw [cores_ticket hw] at hcore
  obtain ⟨t', hw', hcore'⟩ := cores_eq_some hcore
  unfold Ticket.core at hcore'
  injection hcore' with _ _ _ h4 h5
  exact ⟨t', hw', h4.trans hminted, by rw [h5]; exact hsupply⟩

theorem MintedWithin.deployTicket {kind' : TicketKind} {address' : ContractAddress} {id : Felt}
    (h : MintedWithin w kind address supply)
    (hdeploy : N.deployTicket kind' address' owner pool id w = some w') :
    MintedWithin w' kind address supply := by
  obtain ⟨-, hfree, t, -, rfl⟩ := deployTicket_eq hdeploy
  exact h.update_free hfree _

theorem mintedWithin_keeps : Keeps N.platform (fun w => MintedWithin w kind address supply) where
  balanceOf hread h := h.balanceOf hread
  approve hcall h := h.call hcall
  mint hmint h := by
    obtain ⟨⟨b, w''⟩, hcall, rfl⟩ := Option.map_eq_some_iff.mp hmint
    exact h.call hcall
  burn hburn h := by
    obtain ⟨⟨b, w''⟩, hcall, rfl⟩ := Option.map_eq_some_iff.mp hburn
    exact h.call hcall
  deploy hdeploy h := by
    change N.deploy _ _ _ _ = _ at hdeploy
    simp only [Network.deploy, Option.bind_eq_bind, Option.bind_eq_some_iff] at hdeploy
    obtain ⟨kind', -, hdeploy⟩ := hdeploy
    split at hdeploy
    · simp only [Option.bind_eq_some_iff] at hdeploy
      obtain ⟨_, -, _, -, w1, hticket, heq⟩ := hdeploy
      obtain ⟨-, rfl⟩ := Prod.mk.inj (Option.some.inj heq)
      exact h.deployTicket hticket
    · cases hdeploy

theorem MintedWithin.interference (h : MintedWithin w kind address supply) (a : NetStep N) :
    MintedWithin (a.interference w) kind address supply := by
  cases a with
  | advance time | escrow caller transactionHash c => exact h
  | issue address' args =>
    unfold NetStep.interference
    dsimp only
    split
    · next hfree =>
      simp only [Network.isFree, decide_eq_true_eq, Option.isNone_iff_eq_none] at hfree
      exact h.update_free hfree.2.2 _
    · exact h
  | issueTicket address' kind' owner pool id =>
    unfold NetStep.interference
    dsimp only
    cases hdeploy : N.deployTicket kind' address' owner pool id w with
    | none => exact h
    | some w' => exact h.deployTicket hdeploy
  | token caller address' c =>
    unfold NetStep.interference
    dsimp only
    split
    · exact h
    · cases hcall : World.call N.code caller address' c w with
      | none => exact h
      | some p => exact h.call hcall

end Minted

/-- In every joint state a deal's ticket has one unit while the deal is funded or filled and
none afterwards, a lock's ticket has one unit for each payout still due, pool and escrow hold
all units, and whatever happens next a minted ticket is never minted again. -/
theorem ticket_supply (D : Deployment N) (now : U64) (steps : List (NetStep N)) :
    let s := (D.reached now steps).state
    (∀ id, (s.storage.deals id).status ≠ .empty →
      ∃ t, s.world (s.storage.deals id).ticket = some (.ticket .claim t) ∧ t.id = id ∧
        t.supply.val = (s.storage.deals id).status.supply ∧
        (t.balances D.pool).val + (t.balances N.escrow).val = t.supply.val) ∧
    (∀ id, (s.storage.locks id).status ≠ .empty →
      ∃ t, s.world (s.storage.locks id).ticket = some (.ticket .lock t) ∧ t.id = id ∧
        t.supply.val = 2 - (if (s.storage.locks id).proceedsSettled then 1 else 0) -
          (if (s.storage.locks id).collateralReleased then 1 else 0) ∧
        (t.balances D.pool).val + (t.balances N.escrow).val = t.supply.val) ∧
    (∀ address kind t, s.world address = some (.ticket kind t) → t.minted = true →
      ∀ more, ∃ t', (D.reached now (steps ++ more)).state.world address = some (.ticket kind t') ∧
        t'.minted = true ∧ t'.supply.val ≤ t.supply.val) := by
  intro s
  have h : TicketsSound D s.storage s.world := ticketsSound_run D now steps
  refine ⟨?_, ?_, ?_⟩
  · intro id hstatus
    obtain ⟨hid, hticket⟩ := h.deal_ticket id hstatus
    obtain ⟨t, hw, hescrow, hpool, hid', -, hsupply⟩ := h.claims id hid
    have htotal := (h.sound _ _ _ hw).total (by rw [hescrow, hpool]; exact D.pool_ne.symm)
    rw [hescrow, hpool, Nat.add_comm] at htotal
    exact ⟨t, by rw [hticket]; exact hw, hid', hsupply, htotal⟩
  · intro id hstatus
    obtain ⟨hid, hticket⟩ := h.lock_ticket id hstatus
    obtain ⟨t, hw, hescrow, hpool, hid', -, hsupply⟩ := h.locks id hid
    have htotal := (h.sound _ _ _ hw).total (by rw [hescrow, hpool]; exact D.pool_ne.symm)
    rw [hescrow, hpool, Nat.add_comm] at htotal
    refine ⟨t, by rw [hticket]; exact hw, hid', ?_, htotal⟩
    rw [hsupply, Lock.supply]
    split
    · next heq => exact absurd heq hstatus
    · split <;> split <;> rfl
  · intro address kind t hw hminted more
    have hrun := net_induction (N := N)
      (I := fun s => MintedWithin s.state.world kind address t.supply.val)
      (fun _ _ _ h => h) (fun _ a h => h.interference a)
      (fun _ _ _ _ _ _ hcall h => hcall.keeps mintedWithin_keeps h) more
      (s := D.reached now steps) ⟨t, hw, hminted, le_refl _⟩
    unfold Deployment.reached at hrun ⊢
    rw [run_append]
    exact hrun

end App20.Escrow
