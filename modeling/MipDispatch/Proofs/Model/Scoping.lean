import Mathlib.Data.Finset.Sort
import MipDispatch.Model.Constraint
import MipDispatch.Proofs.Number.SignedZero
import MipDispatch.Proofs.SortedMap

namespace MipDispatch

/-- Two points with the same value for every variable that is not among the ids. Past the end of
either one the value is zero. -/
def AgreeOutside (ids : List Nat) (point point' : List Float) : Prop :=
  ∀ v, v ∉ ids → SameValue (valueAt point v) (valueAt point' v)

namespace Constraint

variable {c : Constraint}

theorem contains_iff_mem_linearVars {v : Nat} :
    c.linear.contains v = true ↔ v ∈ c.linearVars := by
  rw [SortedMap.contains, Option.isSome_iff_exists]
  exact SortedMap.mem_keys_iff.symm

theorem unsigned_activity_congr {point point' : List Float}
    (h : ∀ v ∈ c.linearVars, SameValue (valueAt point v) (valueAt point' v)) :
    unsigned (c.activity point) = unsigned (c.activity point') := by
  refine unsigned_sum_congr fun t ht => unsigned_mul_congr t.2 ?_
  exact (h t.1 (List.mem_map_of_mem ht)).unsigned_eq

/-- Whether a row is broken depends on the variables with a linear coefficient. -/
theorem isViolated_congr {s s' : Solution}
    (h : ∀ v ∈ c.linearVars, SameValue (valueAt s.values v) (valueAt s'.values v)) :
    c.isViolated s = c.isViolated s' :=
  c.relation.brokenBy_congr c.value (unsigned_activity_congr h)

end Constraint

namespace ConstraintList

variable {cs : ConstraintList} {ids ids' : List Nat} {k : Nat}

theorem mem_mentioning_iff :
    k ∈ cs.mentioning ids ↔ ∃ c, cs[k]? = some c ∧ ∃ v ∈ ids, v ∈ c.linearVars := by
  have hany (c : Constraint) :
      ids.any c.linear.contains = true ↔ ∃ v ∈ ids, v ∈ c.linearVars := by
    simp only [List.any_eq_true, Constraint.contains_iff_mem_linearVars]
  simp only [mentioning, List.mem_map, List.mem_filter, hany]
  constructor
  · rintro ⟨⟨c, i⟩, ⟨hc, hv⟩, rfl⟩
    exact ⟨c, List.mem_zipIdx_iff_getElem?.1 hc, hv⟩
  · rintro ⟨c, hc, hv⟩
    exact ⟨(c, k), ⟨List.mem_zipIdx_iff_getElem?.2 hc, hv⟩, rfl⟩

theorem mentioning_pairwise (cs : ConstraintList) (ids : List Nat) :
    (cs.mentioning ids).Pairwise (· < ·) := by
  have hpositions : (cs.zipIdx.map (·.2)).Pairwise (· < ·) := by
    rw [List.zipIdx_map_snd]
    exact List.pairwise_lt_range'
  exact hpositions.sublist (List.filter_sublist.map _)

/-- Ascending lists of the same positions are one list. -/
theorem eq_mentioning_of_mem_iff {ks : List Nat} (hks : ks.Pairwise (· < ·))
    (h : ∀ k, k ∈ ks ↔ k ∈ cs.mentioning ids) : ks = cs.mentioning ids :=
  hks.eq_of_mem_iff (mentioning_pairwise cs ids) h

theorem mentioning_congr (h : ∀ v, v ∈ ids ↔ v ∈ ids') :
    cs.mentioning ids = cs.mentioning ids' := by
  refine eq_mentioning_of_mem_iff (mentioning_pairwise cs ids) fun k => ?_
  simp only [mem_mentioning_iff, h]

theorem mentioning_append (cs : ConstraintList) (ids ids' : List Nat) :
    cs.mentioning (ids ++ ids') =
      ((cs.mentioning ids).toFinset ∪ (cs.mentioning ids').toFinset).sort (· ≤ ·) := by
  refine (eq_mentioning_of_mem_iff (Finset.sortedLT_sort _).pairwise fun k => ?_).symm
  simp only [Finset.mem_sort, Finset.mem_union, List.mem_toFinset, mem_mentioning_iff,
    List.mem_append]
  constructor
  · rintro (⟨c, hc, v, hv, hcoef⟩ | ⟨c, hc, v, hv, hcoef⟩)
    · exact ⟨c, hc, v, .inl hv, hcoef⟩
    · exact ⟨c, hc, v, .inr hv, hcoef⟩
  · rintro ⟨c, hc, v, hv | hv, hcoef⟩
    · exact .inl ⟨c, hc, v, hv, hcoef⟩
    · exact .inr ⟨c, hc, v, hv, hcoef⟩

/-- The other rows have no coefficient for any of the ids. -/
theorem not_mem_ids_of_not_mem_mentioning {c : Constraint} (hc : cs[k]? = some c)
    (hk : k ∉ cs.mentioning ids) {v : Nat} (hv : v ∈ c.linearVars) : v ∉ ids :=
  fun hids => hk (mem_mentioning_iff.2 ⟨c, hc, v, hids, hv⟩)

/-- The rows that some variables occur in are listed once each and in order, whatever the order in
which the variables are named and however often. A row that is not listed is broken by both or by
neither of two solutions that differ only in those variables. -/
theorem mentioning_exact_and_sound (cs : ConstraintList) (ids : List Nat) :
    (cs.mentioning ids).Pairwise (· < ·) ∧
      (∀ k, k ∈ cs.mentioning ids ↔ ∃ c, cs[k]? = some c ∧ ∃ v ∈ ids, v ∈ c.linearVars) ∧
      (∀ ids', (∀ v, v ∈ ids ↔ v ∈ ids') → cs.mentioning ids = cs.mentioning ids') ∧
      (∀ ids', cs.mentioning (ids ++ ids') =
        ((cs.mentioning ids).toFinset ∪ (cs.mentioning ids').toFinset).sort (· ≤ ·)) ∧
      ∀ s s' : Solution, AgreeOutside ids s.values s'.values →
        ∀ k c, cs[k]? = some c → k ∉ cs.mentioning ids → c.isViolated s = c.isViolated s' := by
  refine ⟨mentioning_pairwise cs ids, fun k => mem_mentioning_iff,
    fun ids' h => mentioning_congr h, mentioning_append cs ids, ?_⟩
  intro s s' hagree k c hc hk
  refine Constraint.isViolated_congr fun v hv => ?_
  exact hagree v (not_mem_ids_of_not_mem_mentioning hc hk hv)

/-- The second row has a product of the two variables that are changed. Its linear coefficient for
one of them was taken out, and the last variable is a negative zero in one solution and past the end
of the other. -/
theorem mentioning_exact_and_sound_product :
    let c := ((Constraint.ofLinear [0, 3, 4, 2] .equal 3).setQuadratic 0 2 5).setLinear 2 0
    let cs : ConstraintList := [Constraint.ofLinear [1, 0, 2] .atMost 4, c]
    let s : Solution := ⟨[5, 1, 7], 0, 0⟩
    let s' : Solution := ⟨[0, 1, 0, -0.0, 0], 0, 0⟩
    AgreeOutside [2, 0, 2] s.values s'.values ∧ cs[1]? = some c ∧ 1 ∉ cs.mentioning [2, 0, 2] ∧
      c.isViolated s = c.isViolated s' ∧ cs.mentioning [2, 0, 2] = cs.mentioning [0, 2] := by
  intro c cs s s'
  have hagree : AgreeOutside [2, 0, 2] s.values s'.values := by
    intro v hv
    rcases v with _ | _ | _ | _ | _ | v
    · simp at hv
    · exact .inl rfl
    · simp at hv
    · exact .inr (by decide +kernel)
    · exact .inl rfl
    · exact .inl rfl
  have hrow : 1 ∉ cs.mentioning [2, 0, 2] := by decide +kernel
  obtain ⟨_, _, hset, _, hsound⟩ := mentioning_exact_and_sound cs [2, 0, 2]
  exact ⟨hagree, rfl, hrow, hsound s s' hagree 1 c rfl hrow, hset [0, 2] (by simp)⟩

end ConstraintList

end MipDispatch
