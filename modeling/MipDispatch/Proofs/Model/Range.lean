import MipDispatch.Model.Constraint
import MipDispatch.Model.Objective
import MipDispatch.Proofs.SortedMap

namespace MipDispatch

theorem max_max? (xs ys : List Nat) : max xs.max? ys.max? = (xs ++ ys).max? := by
  cases xs with
  | nil => exact Option.max_none_left
  | cons x xs =>
    cases ys with
    | nil =>
      rw [List.append_nil]
      rfl
    | cons y ys =>
      rw [List.cons_append, List.max?_cons', List.max?_cons', List.max?_cons', List.foldl_append,
        List.foldl_cons, List.foldl_assoc]
      rfl

namespace Constraint

def Within (c : Constraint) (n : Nat) : Prop :=
  (∀ v ∈ c.linear.keys, v < n) ∧ ∀ q ∈ c.quadratic.keys, q.low < n ∧ q.high < n

/-- The larger ids of the products speak for the smaller ones. -/
theorem within_iff_high {c : Constraint} {n : Nat} :
    c.Within n ↔ (∀ v ∈ c.linear.keys, v < n) ∧ ∀ q ∈ c.quadratic.keys, q.high < n := by
  refine and_congr_right fun _ => ⟨fun h q hq => (h q hq).2, fun h q hq => ⟨?_, h q hq⟩⟩
  exact Nat.lt_of_le_of_lt q.low_le_high (h q hq)

theorem maxVariable_eq_max? (c : Constraint) :
    c.maxVariable = (c.linear.keys ++ c.quadratic.keys.map (·.high)).max? := by
  rw [maxVariable, SortedMap.keys_getLast?_eq_max?, max_max?]

theorem maxVariable_lt_iff {c : Constraint} {n : Nat} :
    (∀ v, c.maxVariable = some v → v < n) ↔ c.Within n := by
  have hmax {ks : List Nat} : (∀ v, ks.max? = some v → v < n) ↔ ∀ v ∈ ks, v < n := by
    cases hks : ks.max? with
    | none => simp [List.max?_eq_none_iff.1 hks]
    | some m =>
      obtain ⟨hm, hle⟩ := List.max?_eq_some_iff.1 hks
      constructor
      · intro h v hv
        exact Nat.lt_of_le_of_lt (hle v hv) (h m rfl)
      · rintro h v ⟨⟩
        exact h m hm
  rw [maxVariable_eq_max?, hmax, List.forall_mem_append, List.forall_mem_map, within_iff_high]

end Constraint

namespace Objective

/-- Only the first `n` variables have a coefficient other than zero or occur in a product. -/
def Within (o : Objective) (n : Nat) : Prop :=
  (∀ v, n ≤ v → (o.coefficient v == 0) = true) ∧
    ∀ q ∈ o.quadratic.keys, q.low < n ∧ q.high < n

theorem coefficient_of_size_le {o : Objective} {v : Nat} (h : o.size ≤ v) :
    o.coefficient v = 0 := by
  rw [coefficient, List.getD_eq_getElem?_getD, List.getElem?_eq_none h]
  rfl

/-- Zeros past the end of the dense part count as stored zeros. -/
theorem tail_zero_iff {o : Objective} {n : Nat} :
    (∀ v, n ≤ v → (o.coefficient v == 0) = true) ↔
      ∀ t ∈ o.linear.zipIdx.drop n, (t.1 == 0) = true := by
  constructor
  · intro h t ht
    obtain ⟨i, hi, rfl⟩ := List.mem_drop_iff_getElem.1 ht
    have hlen : n + i < o.linear.length := by simpa [Nat.add_comm] using hi
    have := h (n + i) (Nat.le_add_right n i)
    simpa [coefficient, hlen] using this
  · intro h v hv
    rcases Nat.lt_or_ge v o.linear.length with hlen | hlen
    · have hi : v - n + n < o.linear.zipIdx.length := by
        rw [List.length_zipIdx]
        omega
      have := h _ (List.mem_drop_iff_getElem.2 ⟨v - n, hi, rfl⟩)
      simpa [coefficient, hlen, Nat.add_sub_cancel' hv] using this
    · rw [coefficient_of_size_le hlen]
      rfl

theorem Within.grow {o : Objective} {n : Nat} (h : o.Within n) (m : Nat) : (o.grow m).Within n :=
  ⟨fun v hv => by rw [coefficient_grow]; exact h.1 v hv, h.2⟩

theorem within_zero (n : Nat) : (zero n).Within n := by
  refine ⟨fun v hv => ?_, fun q hq => nomatch hq⟩
  rw [coefficient_of_size_le (by simpa using hv)]
  rfl

end Objective

end MipDispatch
