import MipDispatch.Decimal.Layout
import MipDispatch.SortedMap

namespace MipDispatch

/-- Two variables that are multiplied, the smaller id first. -/
structure VarPair where
  low : Nat
  high : Nat
  low_le_high : low ≤ high
  deriving DecidableEq

namespace VarPair

def of (i j : Nat) : VarPair :=
  if h : i ≤ j then ⟨i, j, h⟩ else ⟨j, i, Nat.le_of_not_le h⟩

theorem of_comm (i j : Nat) : of i j = of j i := by
  unfold of; split <;> split <;> first | rfl | (congr 1 <;> omega)

def order : VarPair → VarPair → Ordering := compareLex (compareOn low) (compareOn high)

instance : Ord VarPair := ⟨order⟩

instance : Std.TransOrd VarPair :=
  inferInstanceAs (Std.TransCmp (compareLex (compareOn low) (compareOn high)))

theorem compare_eq_lt {a b : VarPair} :
    compare a b = .lt ↔ a.low < b.low ∨ a.low = b.low ∧ a.high < b.high := by
  change (compare a.low b.low).then (compare a.high b.high) = .lt ↔ _
  simp [Ordering.then_eq_lt, Nat.compare_eq_lt]

instance : Std.LawfulEqOrd VarPair where
  eq_of_compare {a b} h := by
    change (compare a.low b.low).then (compare a.high b.high) = .eq at h
    simp only [Ordering.then_eq_eq, Nat.compare_eq_eq] at h
    cases a; cases b; simp_all

end VarPair

/-- Coefficients by keys, none of them zero. -/
structure SparseTerms (κ : Type) [Ord κ] extends SortedMap κ Float where
  nonzero : ∀ e ∈ entries, (e.2 == 0) = false

abbrev LinearTerms := SparseTerms Nat

abbrev QuadraticTerms := SparseTerms VarPair

namespace SparseTerms

variable {κ : Type} [Ord κ]

instance : EmptyCollection (SparseTerms κ) := ⟨∅, fun _ h => nomatch h⟩

instance : Inhabited (SparseTerms κ) := ⟨∅⟩

instance [BEq κ] : BEq (SparseTerms κ) := ⟨fun a b => a.toSortedMap == b.toSortedMap⟩

def coefficient (m : SparseTerms κ) (k : κ) : Float := (m.get? k).getD 0

@[simp] theorem get?_empty (k : κ) : (∅ : SparseTerms κ).get? k = none := rfl

@[simp] theorem coefficient_empty (k : κ) : (∅ : SparseTerms κ).coefficient k = 0 := rfl

theorem nonzero_erase (m : SparseTerms κ) (k : κ) :
    ∀ e ∈ (m.erase k).entries, (e.2 == 0) = false :=
  fun e he => m.nonzero e (List.mem_filter.1 he).1

variable [Std.TransOrd κ] [Std.LawfulEqOrd κ]

theorem nonzero_insert (m : SparseTerms κ) (k : κ) {c : Float} (hc : (c == 0) = false) :
    ∀ e ∈ (m.insert k c).entries, (e.2 == 0) = false := by
  intro e he
  rcases SortedMap.mem_insertEntry he with rfl | he
  · exact hc
  · exact m.nonzero e he

/-- Store a coefficient, or take the term out when the coefficient is a zero of either sign. -/
def write (m : SparseTerms κ) (k : κ) (c : Float) : SparseTerms κ :=
  if h : (c == 0) = true then ⟨m.erase k, m.nonzero_erase k⟩
  else ⟨m.insert k c, m.nonzero_insert k (eq_false_of_ne_true h)⟩

def writeAll (m : SparseTerms κ) (terms : List (κ × Float)) : SparseTerms κ :=
  terms.foldl (fun m t => m.write t.1 t.2) m

theorem get?_write (m : SparseTerms κ) (k q : κ) (c : Float) :
    (m.write k c).get? q =
      if compare q k = .eq then if c == 0 then none else some c else m.get? q := by
  unfold write
  by_cases hc : (c == 0) = true <;> simp [hc]

end SparseTerms

/-- Left to right, starting from minus zero so that an empty sum is minus zero. -/
def sum (xs : List Float) : Float := xs.foldl (· + ·) (-0.0)

/-- The value of a variable at a point. Variables past its end are zero. -/
def valueAt (point : List Float) (v : Nat) : Float := point.getD v 0

def LinearTerms.valuedAt (terms : LinearTerms) (point : List Float) : Float :=
  sum (terms.entries.map fun t => t.2 * valueAt point t.1)

def QuadraticTerms.valuedAt (terms : QuadraticTerms) (point : List Float) : Float :=
  sum (terms.entries.map fun t => t.2 * valueAt point t.1.low * valueAt point t.1.high)

def linearTermText (c : Float) (v : Nat) : String :=
  Decimal.bareText c ++ "*" ++ Decimal.natText v ++ " "

def quadraticTermText (t : VarPair × Float) : String :=
  Decimal.bareText t.2 ++ "*" ++ Decimal.natText t.1.low ++ "*" ++ Decimal.natText t.1.high ++ " "

def LinearTerms.text (terms : LinearTerms) : String :=
  String.join (terms.entries.map fun t => linearTermText t.2 t.1)

def QuadraticTerms.text (terms : QuadraticTerms) : String :=
  String.join (terms.entries.map quadraticTermText)

end MipDispatch
