import Mathlib.Data.List.Sort
import MipDispatch.SortedMap

namespace MipDispatch.SortedMap

variable {κ α : Type} [Ord κ]

theorem keys_pairwise (m : SortedMap κ α) : m.keys.Pairwise fun a b => compare a b = .lt :=
  List.pairwise_map.2 m.ascending

section Lookup

variable [Std.LawfulEqOrd κ]

theorem lookup_eq_some_iff {k : κ} {a : α} {es : List (κ × α)}
    (h : es.Pairwise fun a b => compare a.1 b.1 = .lt) :
    lookup k es = some a ↔ (k, a) ∈ es := by
  induction es with
  | nil => simp [lookup]
  | cons x rest ih =>
    obtain ⟨k', a'⟩ := x
    have hx := List.pairwise_cons.1 h
    by_cases hk : compare k k' = .eq
    · have heq := Std.LawfulEqOrd.eq_of_compare hk
      subst heq
      have hrest : (k, a) ∉ rest := by
        intro hmem
        have := hx.1 _ hmem
        simp at this
      simp [lookup, hrest, eq_comm]
    · have hne : k ≠ k' := by
        rintro rfl
        exact hk Std.ReflCmp.compare_self
      simp [lookup, hk, ih hx.2, hne]

theorem get?_eq_some_iff {m : SortedMap κ α} {k : κ} {a : α} :
    m.get? k = some a ↔ (k, a) ∈ m.entries :=
  lookup_eq_some_iff m.ascending

theorem mem_keys_iff {m : SortedMap κ α} {k : κ} : k ∈ m.keys ↔ ∃ a, m.get? k = some a := by
  simp [keys, get?_eq_some_iff]

theorem keys_nodup (m : SortedMap κ α) : m.keys.Nodup := by
  refine m.keys_pairwise.imp ?_
  rintro k _ hlt rfl
  have : compare k k = .eq := Std.ReflCmp.compare_self
  cases hlt.symm.trans this

variable [Std.TransOrd κ]

theorem ext_get? {m n : SortedMap κ α} (h : ∀ k, m.get? k = n.get? k) : m = n := by
  let before (a b : κ × α) : Prop := compare a.1 b.1 = .lt
  have hirrefl : Std.Irrefl before := ⟨fun a hlt => by
    have : compare a.1 a.1 = .eq := Std.ReflCmp.compare_self
    cases hlt.symm.trans this⟩
  have hantisymm : Std.Antisymm before := ⟨fun a b hlt hgt => by
    cases hgt.symm.trans (Std.OrientedCmp.gt_of_lt hlt)⟩
  refine ext_entries (m.ascending.eq_of_mem_iff n.ascending fun e => ?_)
  rw [← get?_eq_some_iff, ← get?_eq_some_iff, h]

end Lookup

/-- The keys of a map from ids, in the order of the ids. -/
theorem keys_pairwise_lt (m : SortedMap Nat α) : m.keys.Pairwise (· < ·) :=
  m.keys_pairwise.imp fun h => Nat.compare_eq_lt.1 h

/-- The first key that is not below `n` is the least such key. -/
theorem keys_find?_least {m : SortedMap Nat α} {n v : Nat} (hfind : m.keys.find? (n ≤ ·) = some v) :
    v ∈ m.keys ∧ n ≤ v ∧ ∀ w ∈ m.keys, n ≤ w → v ≤ w := by
  obtain ⟨hv, before, rest, hsplit, hbefore⟩ := List.find?_eq_some_iff_append.1 hfind
  have hsorted := m.keys_pairwise_lt
  refine ⟨List.mem_of_find?_eq_some hfind, by simpa using hv, fun w hw hnw => ?_⟩
  rw [hsplit] at hsorted hw
  rcases List.mem_append.1 hw with hw | hw
  · simpa [hnw] using hbefore w hw
  · rcases List.mem_cons.1 hw with rfl | hw
    · exact Nat.le_refl _
    · exact Nat.le_of_lt ((List.pairwise_cons.1 (List.pairwise_append.1 hsorted).2.1).1 w hw)

theorem keys_getLast?_eq_max? (m : SortedMap Nat α) : m.keys.getLast? = m.keys.max? := by
  have hsorted := m.keys_pairwise_lt
  generalize m.keys = ks at hsorted
  cases hlast : ks.getLast? with
  | none =>
    rw [List.getLast?_eq_none_iff] at hlast
    simp [hlast]
  | some k =>
    obtain ⟨init, rfl⟩ := List.getLast?_eq_some_iff.1 hlast
    have hbelow := (List.pairwise_append.1 hsorted).2.2
    refine (List.max?_eq_some_iff.2 ⟨by simp, ?_⟩).symm
    intro b hb
    rcases List.mem_append.1 hb with hb | hb
    · exact Nat.le_of_lt (hbelow b hb k (List.mem_singleton.2 rfl))
    · exact Nat.le_of_eq (List.mem_singleton.1 hb)

end MipDispatch.SortedMap
