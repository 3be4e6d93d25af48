import MipDispatch.Proofs.Engine.Hessian
import MipDispatch.Proofs.Model.Terms
import MipDispatch.Proofs.Number.Exact

namespace MipDispatch

open Matrix

def ColumnMatrix.symmetric (m : ColumnMatrix) (n : Nat) : Matrix (Fin n) (Fin n) ℚ :=
  Matrix.of fun a b =>
    ((SortedMap.lookup (max a.val b.val) (m.slice (min a.val b.val))).map exactValue).getD 0

def QuadraticTerms.exactSum (terms : QuadraticTerms) (x : Nat → ℚ) : ℚ :=
  (terms.entries.map fun t => exactValue t.2 * x t.1.low * x t.1.high).sum

theorem sum_map_eq_lookup {es : List (VarPair × Float)}
    (h : es.Pairwise fun a b => compare a.1 b.1 = .lt) (q : VarPair) (f : Float → ℚ) :
    (es.map fun t => if t.1 = q then f t.2 else 0).sum =
      ((SortedMap.lookup q es).map f).getD 0 := by
  induction es with
  | nil => rfl
  | cons t rest ih =>
    obtain ⟨k, c⟩ := t
    have hx := List.pairwise_cons.1 h
    rw [List.map_cons, List.sum_cons, ih hx.2]
    by_cases hk : k = q
    · subst hk
      have hnone : SortedMap.lookup k rest = none := SortedMap.lookup_eq_none_of_below hx.1
      simp [SortedMap.lookup, hnone]
    · have hne : compare q k ≠ .eq := fun h => hk (Std.LawfulEqOrd.eq_of_compare h).symm
      simp [SortedMap.lookup, hk, hne]

section Form

variable {n : Nat} (x : Nat → ℚ)

theorem sum_entry {l h : Nat} (hl : l < n) (hh : h < n) (c : ℚ) :
    ∑ a : Fin n, x a * ∑ b : Fin n, (if a.val = l ∧ b.val = h then c else 0) * x b =
      c * x l * x h := by
  have hinner (a : Fin n) : ∑ b : Fin n, (if a.val = l ∧ b.val = h then c else 0) * x b =
      if a.val = l then c * x h else 0 := by
    rw [Finset.sum_eq_single (⟨h, hh⟩ : Fin n)]
    · simp
    · intro b _ hb
      have : ¬ b.val = h := fun heq => hb (Fin.ext heq)
      simp [this]
    · intro hno
      exact absurd (Finset.mem_univ _) hno
  rw [Finset.sum_eq_single (⟨l, hl⟩ : Fin n)]
  · rw [hinner, if_pos rfl]
    ring
  · intro a _ ha
    rw [hinner, if_neg fun heq => ha (Fin.ext heq), mul_zero]
  · intro hno
    exact absurd (Finset.mem_univ _) hno

def termEntry (t : VarPair × Float) (a b : Nat) : ℚ :=
  (if a = t.1.low ∧ b = t.1.high then exactValue t.2 else 0) +
    if a = t.1.high ∧ b = t.1.low then exactValue t.2 else 0

theorem form_of_terms {es : List (VarPair × Float)} (h : ∀ t ∈ es, t.1.low < n ∧ t.1.high < n) :
    ∑ a : Fin n, x a * ∑ b : Fin n, (es.map fun t => termEntry t a b).sum * x b =
      2 * (es.map fun t => exactValue t.2 * x t.1.low * x t.1.high).sum := by
  induction es with
  | nil => simp
  | cons t rest ih =>
    obtain ⟨hlow, hhigh⟩ := h t (List.mem_cons_self ..)
    have hrest := ih fun u hu => h u (List.mem_cons_of_mem _ hu)
    simp only [List.map_cons, List.sum_cons, termEntry, add_mul, Finset.sum_add_distrib, mul_add]
    rw [sum_entry x hlow hhigh, sum_entry x hhigh hlow]
    simp only [termEntry] at hrest
    rw [hrest]
    ring

end Form

variable {m : ColumnMatrix} {n : Nat} {terms : QuadraticTerms}

theorem ColumnMatrix.LowerTriangle.lookup_eq (h : m.LowerTriangle n terms) {i j : Nat}
    (hij : i ≤ j) : SortedMap.lookup j (m.slice i) =
      (terms.get? (.of i j)).map fun c => if i = j then 2 * c else c := by
  have hsorted : (m.slice i).Pairwise fun a b => compare a.1 b.1 = .lt :=
    (h.ascending i).imp Nat.compare_eq_lt.2
  apply Option.ext
  intro y
  rw [SortedMap.lookup_eq_some_iff hsorted, h.entry, Option.map_eq_some_iff]
  constructor
  · rintro ⟨q, hq, rfl, rfl, rfl⟩
    obtain ⟨c, hc⟩ := SortedMap.mem_keys_iff.1 hq
    refine ⟨c, by rw [q.of_low_high, hc], ?_⟩
    rw [SparseTerms.coefficient, hc]
    rfl
  · rintro ⟨c, hc, rfl⟩
    refine ⟨.of i j, SortedMap.mem_keys_iff.2 ⟨c, hc⟩, ?_⟩
    rw [SparseTerms.coefficient, hc]
    unfold VarPair.of
    rw [dif_pos hij]
    exact ⟨rfl, rfl, rfl⟩

theorem ColumnMatrix.LowerTriangle.symmetric_apply (h : m.LowerTriangle n terms)
    (hdouble : ∀ t ∈ terms.entries, t.1.low = t.1.high →
      exactValue (2 * t.2) = 2 * exactValue t.2) (a b : Fin n) :
    m.symmetric n a b = (terms.entries.map fun t => termEntry t a b).sum := by
  have hentry : ∀ t ∈ terms.entries, termEntry t a b =
      if t.1 = .of a b then exactValue (if a.val = b.val then 2 * t.2 else t.2) else 0 := by
    intro t ht
    have hd := hdouble t ht
    have hq := @VarPair.eq_of_iff t.1 a b
    unfold termEntry
    by_cases hlow : a.val = t.1.low ∧ b.val = t.1.high
    · rw [if_pos hlow, if_pos (hq.2 (.inl hlow)), hlow.1, hlow.2]
      -- on the diagonal an entry is its own mirror image
      by_cases hsquare : t.1.low = t.1.high
      · rw [if_pos ⟨hsquare, hsquare.symm⟩, if_pos hsquare, hd hsquare]
        ring
      · rw [if_neg (fun h => hsquare h.1), if_neg hsquare, add_zero]
    · rw [if_neg hlow, zero_add]
      by_cases hhigh : a.val = t.1.high ∧ b.val = t.1.low
      · have hne : ¬ t.1.high = t.1.low := by
          intro heq
          exact hlow ⟨hhigh.1.trans heq, hhigh.2.trans heq.symm⟩
        rw [if_pos hhigh, if_pos (hq.2 (.inr hhigh)), hhigh.1, hhigh.2, if_neg hne]
      · rw [if_neg hhigh, if_neg fun h => (hq.1 h).elim hlow hhigh]
  have hsum := sum_map_eq_lookup terms.ascending (.of a b)
    fun c => exactValue (if a.val = b.val then 2 * c else c)
  have hdiag : min a.val b.val = max a.val b.val ↔ a.val = b.val := by omega
  rw [List.map_congr_left hentry, hsum, symmetric, Matrix.of_apply, h.lookup_eq (by omega),
    VarPair.of_min_max, Option.map_map]
  simp only [hdiag]
  rfl

/-- Half the quadratic form of the lower triangle is the sum of the products, provided that no
doubled coefficient is too large to be finite. -/
theorem ColumnMatrix.LowerTriangle.form (h : m.LowerTriangle n terms)
    (hin : ∀ q ∈ terms.keys, q.low < n ∧ q.high < n)
    (hfinite : ∀ y ∈ m.value, y.isFinite = true) (x : Nat → ℚ) :
    1 / 2 * ((fun a : Fin n => x a) ⬝ᵥ m.symmetric n *ᵥ fun a : Fin n => x a) =
      terms.exactSum x := by
  have hdouble : ∀ t ∈ terms.entries, t.1.low = t.1.high →
      exactValue (2 * t.2) = 2 * exactValue t.2 := by
    intro t ht hsquare
    have hslice : (t.1.high, 2 * t.2) ∈ m.slice t.1.low := by
      refine (h.entry ..).2 ⟨t.1, List.mem_map_of_mem ht, rfl, rfl, ?_⟩
      rw [if_pos hsquare, QuadraticTerms.coefficient_of_mem ht]
    exact exactValue_double (hfinite _ (ColumnMatrix.mem_value_of_mem_slice hslice))
  have hform := form_of_terms x fun t ht => hin t.1 (List.mem_map_of_mem ht)
  simp only [dotProduct, mulVec, h.symmetric_apply hdouble]
  rw [hform, QuadraticTerms.exactSum]
  ring

end MipDispatch
