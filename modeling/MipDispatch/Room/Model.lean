import MipDispatch.Error
import MipDispatch.Model.Constraint
import MipDispatch.Model.Objective

namespace MipDispatch.Room

def maxBytes : Nat := 9223372036854775807

def maxIndex : Nat := 18446744073709551615

def floatBytes : Nat := 8

/-- The bytes of a row: two maps, a right-hand side and a relation. -/
def rowBytes : Nat := 64

/-- A computation that takes up memory at once. -/
def taking {α : Type} (bytes : Nat) (x : Unit → α) : Except Crash α :=
  if bytes ≤ maxBytes then .ok (x ()) else .error .capacityOverflow

def after (v : Nat) : Except Crash Nat :=
  if v < maxIndex then .ok (v + 1) else .error .additionOverflow

theorem after_eq_ok {v : Nat} (h : v < maxIndex) : after v = .ok (v + 1) := if_pos h

def zeroObjective (n : Nat) : Except Crash Objective :=
  taking (n * floatBytes) fun _ => .zero n

def grow (o : Objective) (n : Nat) : Except Crash Objective :=
  taking (n * floatBytes) fun _ => o.grow n

def setLinear (o : Objective) (v : Nat) (c : Float) : Except Crash Objective :=
  (after v).bind fun n => taking (n * floatBytes) fun _ => o.setLinear v c

/-- The terms are written one after the other. -/
def withQuadratic (o : Objective) (terms : List ((Nat × Nat) × Float)) : Except Crash Objective :=
  terms.foldlM (fun o t => do
    let grown ← grow o (← after (max t.1.1 t.1.2))
    return grown.setQuadratic t.1.1 t.1.2 t.2) o

def zeroSolution (n : Nat) : Except Crash Solution := taking (n * floatBytes) fun _ => .zero n

def resize (s : Solution) (n : Nat) : Except Crash Solution :=
  taking (n * floatBytes) fun _ => s.resize n

/-- No rows yet, but room for `n` of them. -/
def rows (n : Nat) : Except Crash ConstraintList := taking (n * rowBytes) fun _ => []

end MipDispatch.Room
