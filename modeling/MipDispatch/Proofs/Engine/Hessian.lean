import MipDispatch.Engine.Encoding
import MipDispatch.Proofs.Engine.Slices
import MipDispatch.Proofs.SortedMap

namespace MipDispatch

/-- A lower triangle as a statement of quadratic terms over `n` variables, read off its arrays. -/
structure ColumnMatrix.LowerTriangle (m : ColumnMatrix) (n : Nat) (terms : QuadraticTerms) :
    Prop where
  tiles : m.Tiles n
  entry : ∀ (i j : Nat) (x : Float), (j, x) ∈ m.slice i ↔ ∃ q ∈ terms.keys,
    q.low = i ∧ q.high = j ∧
      x = if i = j then 2 * terms.coefficient q else terms.coefficient q
  ascending : ∀ i, (m.slice i).Pairwise fun a b => a.1 < b.1
  below : ∀ i, ∀ e ∈ m.slice i, i ≤ e.1
  entryCount : m.entryCount = terms.size

namespace QuadraticTerms

/-- The terms left to deal out when column `c` is next: none of them belongs to an earlier one. -/
structure Remaining (c : Nat) (terms : List (VarPair × Float)) : Prop where
  ascending : terms.Pairwise fun a b => a.1.low ≤ b.1.low
  due : ∀ t ∈ terms, c ≤ t.1.low

section Deal

variable {c : Nat} {terms : List (VarPair × Float)}

theorem Remaining.takeWhile_eq (h : Remaining c terms) :
    terms.takeWhile (·.1.low = c) = terms.filter (·.1.low = c) := by
  induction terms with
  | nil => rfl
  | cons t rest ih =>
    have hasc := List.pairwise_cons.1 h.ascending
    by_cases ht : t.1.low = c
    · have hrest : Remaining c rest := ⟨hasc.2, fun u hu => h.due u (List.mem_cons_of_mem _ hu)⟩
      simp [ht, ih hrest]
    · -- once a later column has begun, this one gets nothing more
      have hlater : ∀ u ∈ rest, ¬ u.1.low = c := by
        intro u hu
        have := hasc.1 u hu
        have := h.due t (List.mem_cons_self ..)
        omega
      simpa [ht] using hlater

theorem Remaining.next (h : Remaining c terms) :
    Remaining (c + 1) (terms.dropWhile (·.1.low = c)) := by
  induction terms with
  | nil => exact ⟨.nil, fun t ht => by cases ht⟩
  | cons t rest ih =>
    have hasc := List.pairwise_cons.1 h.ascending
    by_cases ht : t.1.low = c
    · have hrest : Remaining c rest := ⟨hasc.2, fun u hu => h.due u (List.mem_cons_of_mem _ hu)⟩
      simpa [ht] using ih hrest
    · have hdrop : (t :: rest).dropWhile (·.1.low = c) = t :: rest := by simp [ht]
      have hfirst := h.due t (List.mem_cons_self ..)
      rw [hdrop]
      refine ⟨h.ascending, fun u hu => ?_⟩
      rcases List.mem_cons.1 hu with rfl | hu
      · omega
      · have := hasc.1 u hu
        omega

/-- What this column takes is none of a later one's. -/
theorem filter_dropWhile {i : Nat} (hi : c < i) :
    (terms.dropWhile (·.1.low = c)).filter (·.1.low = i) = terms.filter (·.1.low = i) := by
  have htaken : (terms.takeWhile (·.1.low = c)).filter (·.1.low = i) = [] := by
    rw [List.filter_eq_nil_iff]
    intro t ht
    have hlow : t.1.low = c := by simpa using List.all_eq_true.1 List.all_takeWhile t ht
    simp only [hlow, decide_eq_true_eq]
    omega
  have hsplit := congrArg (List.filter (·.1.low = i))
    (List.takeWhile_append_dropWhile (p := fun t : VarPair × Float => t.1.low = c) (l := terms))
  rw [List.filter_append, htaken, List.nil_append] at hsplit
  exact hsplit

/-- Dealing in one pass gives each column all terms of its own. -/
theorem deal_eq (h : Remaining c terms) (n : Nat) :
    deal (List.range' c n) terms =
      (List.range' c n).map fun i => (terms.filter (·.1.low = i)).map hessianEntry := by
  induction n generalizing c terms with
  | zero => rfl
  | succ n ih =>
    rw [List.range'_succ, deal, ih h.next, List.map_cons, h.takeWhile_eq]
    congr 1
    apply List.map_congr_left
    intro i hi
    rw [filter_dropWhile (List.mem_range'_1.1 hi).1]

/-- No term is left over when every smaller id has a column. -/
theorem deal_flatten (h : Remaining c terms) {n : Nat} (hin : ∀ t ∈ terms, t.1.low < c + n) :
    (deal (List.range' c n) terms).flatten = terms.map hessianEntry := by
  induction n generalizing c terms with
  | zero =>
    -- a term would have to be due now or later and yet before now
    cases terms with
    | nil => rfl
    | cons t rest =>
      have := hin t (List.mem_cons_self ..)
      have := h.due t (List.mem_cons_self ..)
      omega
  | succ n ih =>
    have hrest : ∀ t ∈ terms.dropWhile (·.1.low = c), t.1.low < c + 1 + n := by
      intro t ht
      have := hin t ((List.dropWhile_sublist _).mem ht)
      omega
    rw [List.range'_succ, deal, List.flatten_cons, ih h.next hrest, ← List.map_append,
      List.takeWhile_append_dropWhile]

end Deal

variable {terms : QuadraticTerms}

theorem remaining (terms : QuadraticTerms) : Remaining 0 terms.entries where
  ascending := terms.ascending.imp fun h => by
    rcases VarPair.compare_eq_lt.1 h with h | h <;> omega
  due := fun _ _ => Nat.zero_le _

def columnOf (terms : QuadraticTerms) (i : Nat) : Column :=
  (terms.entries.filter (·.1.low = i)).map hessianEntry

theorem hessianColumns_eq (n : Nat) (terms : QuadraticTerms) :
    hessianColumns n terms = (List.range n).map terms.columnOf := by
  rw [hessianColumns, List.range_eq_range', deal_eq terms.remaining]
  rfl

theorem hessianColumns_flatten {n : Nat} (hin : ∀ q ∈ terms.keys, q.low < n) :
    (hessianColumns n terms).flatten = terms.entries.map hessianEntry := by
  rw [hessianColumns, List.range_eq_range', deal_flatten terms.remaining]
  intro t ht
  rw [Nat.zero_add]
  exact hin t.1 (List.mem_map_of_mem ht)

theorem coefficient_of_mem {t : VarPair × Float} (h : t ∈ terms.entries) :
    terms.coefficient t.1 = t.2 := by
  rw [SparseTerms.coefficient, SortedMap.get?_eq_some_iff.2 h]
  rfl

theorem mem_columnOf {i j : Nat} {x : Float} :
    (j, x) ∈ terms.columnOf i ↔ ∃ q ∈ terms.keys, q.low = i ∧ q.high = j ∧
      x = if i = j then 2 * terms.coefficient q else terms.coefficient q := by
  rw [columnOf, List.mem_map]
  constructor
  · rintro ⟨⟨q, c⟩, hmem, heq⟩
    obtain ⟨hmem, hlow⟩ := List.mem_filter.1 hmem
    have hlow : q.low = i := by simpa using hlow
    obtain ⟨hj, hx⟩ := Prod.mk.inj heq
    refine ⟨q, List.mem_map_of_mem hmem, hlow, hj, ?_⟩
    rw [← hx, coefficient_of_mem hmem, ← hlow, ← hj]
  · rintro ⟨q, hq, rfl, rfl, rfl⟩
    obtain ⟨⟨q, c⟩, hmem, rfl⟩ := List.mem_map.1 hq
    refine ⟨(q, c), List.mem_filter.2 ⟨hmem, by simp⟩, ?_⟩
    rw [coefficient_of_mem hmem]
    rfl

theorem columnOf_ascending (terms : QuadraticTerms) (i : Nat) :
    (terms.columnOf i).Pairwise fun a b => a.1 < b.1 := by
  rw [columnOf, List.pairwise_map, List.pairwise_filter]
  refine terms.ascending.imp fun hab ha hb => ?_
  have ha := of_decide_eq_true ha
  have hb := of_decide_eq_true hb
  rcases VarPair.compare_eq_lt.1 hab with h | h
  · omega
  · exact h.2

theorem slice_hessian (n : Nat) (terms : QuadraticTerms) (i : Nat) :
    (ColumnMatrix.ofColumns (hessianColumns n terms)).slice i =
      if i < n then terms.columnOf i else [] := by
  rw [hessianColumns_eq, ColumnMatrix.slice_range]

theorem lowerTriangle {n : Nat} (hin : ∀ q ∈ terms.keys, q.low < n) :
    (ColumnMatrix.ofColumns (hessianColumns n terms)).LowerTriangle n terms := by
  have hentry (i j : Nat) (x : Float) :
      (j, x) ∈ (ColumnMatrix.ofColumns (hessianColumns n terms)).slice i ↔
        ∃ q ∈ terms.keys, q.low = i ∧ q.high = j ∧
          x = if i = j then 2 * terms.coefficient q else terms.coefficient q := by
    rw [slice_hessian]
    split
    · exact mem_columnOf
    next hi =>
      constructor
      · intro h
        cases h
      · rintro ⟨q, hq, rfl, _⟩
        exact absurd (hin q hq) hi
  refine ⟨?_, hentry, ?_, ?_, ?_⟩
  · rw [hessianColumns_eq]
    exact ColumnMatrix.range_tiles terms.columnOf n
  · intro i
    rw [slice_hessian]
    split
    · exact terms.columnOf_ascending i
    · exact .nil
  · rintro i ⟨j, x⟩ he
    obtain ⟨q, _, rfl, rfl, _⟩ := (hentry i j x).1 he
    exact q.low_le_high
  · rw [ColumnMatrix.entryCount_ofColumns, hessianColumns_flatten hin, List.length_map]
    rfl

/-- Ids, starts and counts are all bounded by the number of variables or that of terms. -/
theorem hessianNumbers_le {n : Nat} (hin : ∀ q ∈ terms.keys, q.low < n ∧ q.high < n) :
    ∀ k ∈ hessianNumbers n (hessianColumns n terms), k ≤ n ∨ k ≤ terms.size := by
  intro k hk
  have hflat := hessianColumns_flatten fun q hq => (hin q hq).1
  have hcount : (hessianColumns n terms).flatten.length = terms.size := by
    rw [hflat, List.length_map]
    rfl
  rcases List.mem_append.1 hk with hk | hk
  · obtain ⟨⟨column, start⟩, hmem, hk⟩ := List.mem_flatMap.1 hk
    obtain ⟨hcolumn, hstart⟩ := List.of_mem_zip hmem
    -- a start, or the larger id of a term
    rcases List.mem_cons.1 hk with rfl | hk
    · have := (ColumnMatrix.offsets_bounds (hessianColumns n terms) hstart).2
      omega
    · obtain ⟨e, he, rfl⟩ := List.mem_map.1 hk
      have hentry : e ∈ (hessianColumns n terms).flatten := List.mem_flatten.2 ⟨column, hcolumn, he⟩
      rw [hflat] at hentry
      obtain ⟨t, ht, rfl⟩ := List.mem_map.1 hentry
      exact .inl (Nat.le_of_lt (hin t.1 (List.mem_map_of_mem ht)).2)
  · rw [hcount] at hk
    rcases List.mem_cons.1 hk with rfl | hk
    · exact .inl (Nat.le_refl _)
    · rw [List.mem_singleton.1 hk]
      exact .inr (Nat.le_refl _)

theorem hessian_eq_ok {n : Nat} (hin : ∀ q ∈ terms.keys, q.low < n ∧ q.high < n)
    (hsize : n ≤ Engine.indexLimit) (hcount : terms.size ≤ Engine.indexLimit) :
    hessian n terms = .ok (.ofColumns (hessianColumns n terms)) := by
  have hnone : (hessianNumbers n (hessianColumns n terms)).find? (Engine.indexLimit < ·) =
      none := by
    rw [List.find?_eq_none]
    intro k hk
    have := hessianNumbers_le hin k hk
    rw [decide_eq_true_eq]
    omega
  unfold hessian
  dsimp only
  rw [hnone]

end QuadraticTerms

end MipDispatch
