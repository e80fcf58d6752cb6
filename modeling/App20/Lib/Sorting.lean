import App20.Lib.Exec
import Mathlib.Data.List.Perm.Basic
import Mathlib.Data.List.Sort

/-!
# Sorting by a comparator

`sort` orders a list by a comparator and keeps the order of what the comparator makes equal. The
lists of this module are put together in any order: what is computed of them is the same when the
comparator has no ties.

* `sort_perm`: sorting forgets the order of a list without ties.
* `mapM_perm`: a computation over each element fails or not in any order.
-/

namespace App20.Lib

variable {α β ε : Type}

/-! ## Comparators -/

/-- The greater value first. -/
def descending (f : α → Int) (left right : α) : Ordering := compare (f right) (f left)

instance (f : α → Int) : Std.TransCmp (descending f) :=
  inferInstanceAs (Std.TransCmp fun left right => compareOn f right left)

theorem descending_le {f : α → Int} {second : α → α → Ordering} {left right : α}
    (h : (compareLex (descending f) second left right).isLE = true) : f right ≤ f left := by
  have hfirst : (descending f left right).isLE = true := by
    unfold compareLex at h
    cases hcompare : descending f left right with
    | lt | eq => rfl
    | gt =>
      rw [hcompare] at h
      cases h
  exact compare_le_iff_le.mp (Ordering.isLE_iff_ne_gt.mp hfirst)

theorem compareLex_eq {first second : α → α → Ordering} {left right : α}
    (h : compareLex first second left right = .eq) :
    first left right = .eq ∧ second left right = .eq := Ordering.then_eq_eq.mp h

/-! ## Sorting -/

/-- `Array.prototype.sort` -/
def sort (order : α → α → Ordering) (l : List α) : List α :=
  l.insertionSort fun a b => (order a b).isLE = true

theorem perm_sort (order : α → α → Ordering) (l : List α) : (sort order l).Perm l :=
  List.perm_insertionSort _ l

theorem mem_sort {order : α → α → Ordering} {l : List α} {a : α} : a ∈ sort order l ↔ a ∈ l :=
  (perm_sort order l).mem_iff

def OrdersAlike (order order' : α → α → Ordering) (l : List α) : Prop :=
  ∀ a ∈ l, ∀ b ∈ l, a ≠ b → order a b ≠ .eq ∧ order a b = order' a b

theorem OrdersAlike.left {order order' : α → α → Ordering} {l : List α}
    (h : OrdersAlike order order' l) :
    OrdersAlike order order l := fun a ha b hb hne => ⟨(h a ha b hb hne).1, rfl⟩

section

variable {order : α → α → Ordering} [Std.TransCmp order]

theorem pairwise_sort (l : List α) :
    (sort order l).Pairwise fun a b => (order a b).isLE = true := by
  have htotal : Std.Total fun a b => (order a b).isLE = true := by
    refine ⟨fun a b => ?_⟩
    rw [@Std.OrientedCmp.eq_swap _ order _ b]
    cases order a b <;> simp
  have htrans : IsTrans α fun a b => (order a b).isLE = true :=
    ⟨fun _ _ _ hab hbc => Std.TransCmp.isLE_trans hab hbc⟩
  exact List.pairwise_insertionSort _ l

/-- Lists of the same elements are sorted to the same list when no two elements are tied. -/
theorem sort_perm {l l' : List α} (h : l.Perm l')
    (hties : ∀ a ∈ l, ∀ b ∈ l, order a b = .eq → a = b) : sort order l = sort order l' := by
  have hperm : (sort order l).Perm (sort order l') :=
    (perm_sort order l).trans (h.trans (perm_sort order l').symm)
  refine List.Perm.eq_of_pairwise (fun a b ha hb hab hba => ?_) (pairwise_sort l)
    (pairwise_sort l') hperm
  have hb' : b ∈ l := h.mem_iff.mpr (mem_sort.mp hb)
  exact hties a (mem_sort.mp ha) b hb' (Std.OrientedCmp.isLE_antisymm hab hba)

variable {order' : α → α → Ordering} [Std.TransCmp order']

/-- Elements of distinct keys are sorted alike by keys that are ordered alike. -/
theorem sort_alike {f : β → α} {l l' : List β} (hperm : l.Perm l') (hnodup : (l.map f).Nodup)
    (h : OrdersAlike order order' (l.map f)) :
    sort (fun a b => order (f a) (f b)) l = sort (fun a b => order' (f a) (f b)) l' := by
  have : Std.TransCmp fun a b => order (f a) (f b) :=
    { eq_swap := Std.OrientedCmp.eq_swap, isLE_trans := Std.TransCmp.isLE_trans }
  have : Std.TransCmp fun a b => order' (f a) (f b) :=
    { eq_swap := Std.OrientedCmp.eq_swap, isLE_trans := Std.TransCmp.isLE_trans }
  have hinj : ∀ a ∈ l, ∀ b ∈ l, f a = f b → a = b := fun a ha b hb =>
    List.inj_on_of_nodup_map hnodup ha hb
  have hpairs : ∀ a ∈ l, ∀ b ∈ l, (order (f a) (f b)).isLE = (order' (f a) (f b)).isLE := by
    intro a ha b hb
    by_cases hab : f a = f b
    · have hself : order (f b) (f b) = .eq := Std.ReflCmp.compare_self
      have hself' : order' (f b) (f b) = .eq := Std.ReflCmp.compare_self
      rw [hab, hself, hself']
    · rw [(h _ (List.mem_map_of_mem ha) _ (List.mem_map_of_mem hb) hab).2]
  have hmem {a : β} (ha : a ∈ sort (fun a b => order' (f a) (f b)) l') : a ∈ l :=
    hperm.mem_iff.mpr (mem_sort.mp ha)
  refine List.Perm.eq_of_pairwise (fun a b ha hb hab hba => ?_) (pairwise_sort l) ?_
    ((perm_sort _ l).trans (hperm.trans (perm_sort _ l').symm))
  · refine hinj a (mem_sort.mp ha) b (hmem hb) ?_
    by_contra hne
    exact (h _ (List.mem_map_of_mem (mem_sort.mp ha)) _ (List.mem_map_of_mem (hmem hb)) hne).1
      (Std.OrientedCmp.isLE_antisymm hab hba)
  · refine (pairwise_sort l').imp_of_mem fun ha hb hab => ?_
    rw [hpairs _ (hmem ha) _ (hmem hb)]
    exact hab

theorem not_pair_of_nodup {a b : α} {l : List α} (hnodup : l.Nodup) (hab : [a, b].Sublist l)
    (hba : [b, a].Sublist l) : False := by
  induction l with
  | nil => cases hab
  | cons c l ih =>
    obtain ⟨hc, hnodup⟩ := List.nodup_cons.mp hnodup
    cases hab with
    | cons _ hab =>
      cases hba with
      | cons _ hba => exact ih hnodup hab hba
      | cons_cons _ hba => exact hc (hab.subset (by simp))
    | cons_cons _ hab =>
      cases hba with
      | cons _ hba => exact hc (hba.subset (by simp))
      | cons_cons _ hba => exact hc (hab.subset (by simp))

/-- Orders that sort distinct elements to one list, however they are given, order them alike. -/
theorem ordersAlike_of_sort [DecidableEq α] {l s : List α} (hnodup : l.Nodup)
    (h : ∀ l', l.Perm l' → sort order l' = s ∧ sort order' l' = s) : OrdersAlike order order' l := by
  have hs : s.Nodup := by
    rw [← (h l (List.Perm.refl l)).1]
    exact (perm_sort order l).nodup_iff.mpr hnodup
  have hfront : ∀ {a b : α}, a ∈ l → b ∈ l → a ≠ b → l.Perm (a :: b :: (l.erase a).erase b) :=
    fun {a b} ha hb hne => (List.perm_cons_erase ha).trans
      ((List.perm_cons_erase ((List.mem_erase_of_ne hne.symm).mpr hb)).cons a)
  have hpair {a b : α} {rest : List α} : [a, b].Sublist (a :: b :: rest) :=
    ((List.nil_sublist rest).cons_cons b).cons_cons a
  -- An element that may stand before another does, when it is given first.
  have hfirst : ∀ {a b : α}, a ∈ l → b ∈ l → a ≠ b → (order a b).isLE = true ∨
      (order' a b).isLE = true → [a, b].Sublist s := by
    rintro a b ha hb hne (hle | hle)
    · rw [← (h _ (hfront ha hb hne)).1]
      exact List.pair_sublist_insertionSort hle hpair
    · rw [← (h _ (hfront ha hb hne)).2]
      exact List.pair_sublist_insertionSort hle hpair
  intro a ha b hb hne
  have hone := fun hab hba => not_pair_of_nodup hs (hfirst ha hb hne hab) (hfirst hb ha hne.symm hba)
  rw [@Std.OrientedCmp.eq_swap _ order _ b, @Std.OrientedCmp.eq_swap _ order' _ b] at hone
  cases horder : order a b <;> cases horder' : order' a b <;> simp_all

end

/-! ## Computations over lists -/

section

variable {f : α → Except ε β}

theorem mapM_ok_iff {l : List α} :
    ∀ {r : List β}, l.mapM f = .ok r ↔ List.Forall₂ (fun a b => f a = .ok b) l r := by
  induction l with
  | nil =>
    intro r
    rw [List.forall₂_nil_left_iff, List.mapM_nil, pure_ok]
  | cons x l ih =>
    intro r
    simp only [List.mapM_cons, bind_ok, pure_ok, List.forall₂_cons_left_iff, ih]
    exact ⟨fun ⟨y, hy, ys, hys, heq⟩ => ⟨y, ys, hy, hys, heq⟩,
      fun ⟨y, ys, hy, hys, heq⟩ => ⟨y, hy, ys, hys, heq⟩⟩

theorem mapM_perm {l l' : List α} (h : l.Perm l') {r : List β} (hr : l.mapM f = .ok r) :
    ∃ r', l'.mapM f = .ok r' ∧ r.Perm r' := by
  obtain ⟨r', hr', hperm⟩ := List.perm_comp_forall₂ h.symm (mapM_ok_iff.mp hr)
  exact ⟨r', mapM_ok_iff.mpr hr', hperm.symm⟩

/-- The results of a computation whose result is always that of a function. -/
theorem mapM_eq_map {g : α → β} (hfg : ∀ {a b}, f a = .ok b → b = g a) {l : List α} :
    ∀ {r : List β}, l.mapM f = .ok r → r = l.map g := by
  induction l with
  | nil =>
    intro r hr
    cases hr
    rfl
  | cons x l ih =>
    intro r hr
    simp only [List.mapM_cons, bind_ok, pure_ok] at hr
    obtain ⟨y, hy, ys, hys, rfl⟩ := hr
    rw [hfg hy, ih hys, List.map_cons]

/-- The elements, read off the results. -/
theorem map_of_mapM {g : β → α} (hfg : ∀ {a b}, f a = .ok b → g b = a) {l : List α} :
    ∀ {r : List β}, l.mapM f = .ok r → r.map g = l := by
  induction l with
  | nil =>
    intro r hr
    cases hr
    rfl
  | cons x l ih =>
    intro r hr
    simp only [List.mapM_cons, bind_ok, pure_ok] at hr
    obtain ⟨y, hy, ys, hys, rfl⟩ := hr
    rw [List.map_cons, hfg hy, ih hys]

/-- Each result comes of an element. -/
theorem mem_of_mapM {l : List α} :
    ∀ {r : List β}, l.mapM f = .ok r → ∀ b ∈ r, ∃ a ∈ l, f a = .ok b := by
  induction l with
  | nil =>
    intro r hr b hb
    cases hr
    cases hb
  | cons x l ih =>
    intro r hr b hb
    simp only [List.mapM_cons, bind_ok, pure_ok] at hr
    obtain ⟨y, hy, ys, hys, rfl⟩ := hr
    rcases List.mem_cons.mp hb with rfl | hb
    · exact ⟨x, List.mem_cons_self, hy⟩
    · obtain ⟨a, ha, hab⟩ := ih hys b hb
      exact ⟨a, List.mem_cons_of_mem _ ha, hab⟩

/-- Each element gives a result. -/
theorem exists_of_mapM {l : List α} :
    ∀ {r : List β}, l.mapM f = .ok r → ∀ a ∈ l, ∃ b ∈ r, f a = .ok b := by
  induction l with
  | nil => exact fun _ a ha => (List.not_mem_nil ha).elim
  | cons x l ih =>
    intro r hr a ha
    simp only [List.mapM_cons, bind_ok, pure_ok] at hr
    obtain ⟨y, hy, ys, hys, rfl⟩ := hr
    rcases List.mem_cons.mp ha with rfl | ha
    · exact ⟨y, List.mem_cons_self, hy⟩
    · obtain ⟨b, hb, hab⟩ := ih hys a ha
      exact ⟨b, List.mem_cons_of_mem _ hb, hab⟩

end

end App20.Lib
