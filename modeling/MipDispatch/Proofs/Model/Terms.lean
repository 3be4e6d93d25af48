import MipDispatch.Model.Terms
import MipDispatch.Proofs.LastWrite
import MipDispatch.Proofs.SortedMap

namespace MipDispatch

namespace VarPair

theorem of_low_high (q : VarPair) : of q.low q.high = q := dif_pos q.low_le_high

theorem of_min_max (i j : Nat) : of (min i j) (max i j) = of i j := by
  rcases Nat.le_total i j with h | h
  · rw [Nat.min_eq_left h, Nat.max_eq_right h]
  · rw [Nat.min_eq_right h, Nat.max_eq_left h, of_comm]

theorem eq_of_iff {q : VarPair} {i j : Nat} :
    q = of i j ↔ (i = q.low ∧ j = q.high) ∨ (i = q.high ∧ j = q.low) := by
  constructor
  · rintro rfl
    unfold of
    split
    · exact .inl ⟨rfl, rfl⟩
    · exact .inr ⟨rfl, rfl⟩
  · rintro (⟨rfl, rfl⟩ | ⟨rfl, rfl⟩)
    · exact q.of_low_high.symm
    · rw [of_comm]
      exact q.of_low_high.symm

/-- Two ids are the same pair in either order. -/
theorem of_eq_of_iff {i j : Nat} {p : Nat × Nat} :
    of p.1 p.2 = of i j ↔ p = (i, j) ∨ p = (j, i) := by
  constructor
  · intro h
    obtain ⟨a, b⟩ := p
    have hfirst : (a = (of a b).low ∧ b = (of a b).high) ∨ a = (of a b).high ∧ b = (of a b).low :=
      eq_of_iff.1 rfl
    have hsecond := eq_of_iff.1 h
    simp only [Prod.mk.injEq] at hsecond ⊢
    omega
  · rintro (rfl | rfl)
    · rfl
    · exact of_comm j i

end VarPair

def kept? (c : Float) : Option Float := if c == 0 then none else some c

def readOf (written : Option Float) : Float := (written.bind kept?).getD 0

def lastLinear? (writes : List (Nat × Float)) (v : Nat) : Option Float :=
  lastWrite? (writtenUnder (· = v)) writes

/-- The last coefficient written for the product of two variables, named in either order. -/
def lastProduct? (writes : List ((Nat × Nat) × Float)) (i j : Nat) : Option Float :=
  lastWrite? (writtenUnder fun p => p = (i, j) ∨ p = (j, i)) writes

theorem kept?_eq_some_iff {c x : Float} : kept? c = some x ↔ c = x ∧ (x == 0) = false := by
  unfold kept?
  cases hc : c == 0 with
  | true =>
    refine iff_of_false nofun ?_
    rintro ⟨rfl, hx⟩
    cases hc.symm.trans hx
  | false =>
    constructor
    · intro h
      obtain rfl : c = x := Option.some.inj h
      exact ⟨rfl, hc⟩
    · rintro ⟨rfl, _⟩
      rfl

theorem bind_kept?_eq_some_iff {written : Option Float} {x : Float} :
    written.bind kept? = some x ↔ written = some x ∧ (x == 0) = false := by
  cases written with
  | none => exact iff_of_false nofun fun h => nomatch h.1
  | some c => rw [Option.bind_some, kept?_eq_some_iff, Option.some_inj]

def productTerm (w : (Nat × Nat) × Float) : VarPair × Float := (.of w.1.1 w.1.2, w.2)

theorem lastProduct?_eq (writes : List ((Nat × Nat) × Float)) (i j : Nat) :
    lastWrite? (writtenUnder (· = VarPair.of i j)) (writes.map productTerm) =
      lastProduct? writes i j := by
  rw [lastWrite?_map, lastProduct?, ← writtenUnder_congr fun _ => VarPair.of_eq_of_iff]
  rfl

namespace SparseTerms

variable {κ : Type} [Ord κ] [Std.TransOrd κ] [Std.LawfulEqOrd κ]

theorem writeAll_append (m : SparseTerms κ) (writes more : List (κ × Float)) :
    m.writeAll (writes ++ more) = (m.writeAll writes).writeAll more := List.foldl_append

/-- Where every step writes some terms, the steps write them one after the other. -/
theorem foldl_writeAll {σ ε : Type} {step : σ → ε → σ} (part : σ → SparseTerms κ)
    {writes : ε → List (κ × Float)} (hstep : ∀ s e, part (step s e) = (part s).writeAll (writes e))
    (steps : List ε) (s : σ) :
    part (steps.foldl step s) = (part s).writeAll (steps.flatMap writes) := by
  induction steps generalizing s with
  | nil => rfl
  | cons e steps ih => rw [List.foldl_cons, ih, hstep, List.flatMap_cons, writeAll_append]

theorem ext_get? {m n : SparseTerms κ} (h : ∀ k, m.get? k = n.get? k) : m = n := by
  have heq : m.toSortedMap = n.toSortedMap := SortedMap.ext_get? h
  cases m
  cases n
  cases heq
  rfl

variable [DecidableEq κ]

theorem get?_writeAll (m : SparseTerms κ) (writes : List (κ × Float)) (k : κ) :
    (m.writeAll writes).get? k =
      (lastWrite? (writtenUnder (· = k)) writes).elim (m.get? k) kept? := by
  refine foldl_lastWrite (fun n : SparseTerms κ => n.get? k) (fun n w => ?_) writes m
  rw [get?_write]
  simp only [Std.compare_eq_iff_eq, writtenUnder, eq_comm (a := k)]
  split <;> rfl

theorem get?_written (writes : List (κ × Float)) (k : κ) :
    ((∅ : SparseTerms κ).writeAll writes).get? k =
      (lastWrite? (writtenUnder (· = k)) writes).bind kept? := by
  rw [get?_writeAll]
  cases lastWrite? (writtenUnder (· = k)) writes <;> rfl

theorem coefficient_written (writes : List (κ × Float)) (k : κ) :
    ((∅ : SparseTerms κ).writeAll writes).coefficient k =
      readOf (lastWrite? (writtenUnder (· = k)) writes) := by
  rw [coefficient, get?_written]
  rfl

/-- Nothing is stored but what was written last, and no zero. -/
theorem mem_entries_written {writes : List (κ × Float)} {k : κ} {x : Float} :
    (k, x) ∈ ((∅ : SparseTerms κ).writeAll writes).entries ↔
      lastWrite? (writtenUnder (· = k)) writes = some x ∧ (x == 0) = false := by
  rw [← SortedMap.get?_eq_some_iff, get?_written, bind_kept?_eq_some_iff]

end SparseTerms

end MipDispatch
