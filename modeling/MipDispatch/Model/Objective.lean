import MipDispatch.Model.Terms

namespace MipDispatch

inductive Sense where
  | minimize
  | maximize
  deriving DecidableEq, Inhabited

namespace Sense

def name : Sense → String
  | minimize => "Minimize"
  | maximize => "Maximize"

def key : Sense → String
  | minimize => "minimize"
  | maximize => "maximize"

def ofKey? : String → Option Sense
  | "minimize" => some minimize
  | "maximize" => some maximize
  | _ => none

@[simp] theorem ofKey?_key (s : Sense) : ofKey? s.key = some s := by cases s <;> rfl

end Sense

/-- One linear coefficient per variable covered, in order of ids. -/
structure Objective where
  sense : Sense
  constant : Float
  linear : List Float
  quadratic : QuadraticTerms
  deriving BEq, Inhabited

namespace Objective

def zero (n : Nat) : Objective := ⟨.minimize, 0, List.replicate n 0, ∅⟩

def ofLinear (coefficients : List Float) (sense : Sense) : Objective :=
  ⟨sense, 0, coefficients, ∅⟩

def size (o : Objective) : Nat := o.linear.length

def isEmpty (o : Objective) : Bool := o.linear.isEmpty

def isQuadratic (o : Objective) : Bool := !o.quadratic.isEmpty

def withSense (o : Objective) (sense : Sense) : Objective := { o with sense }

def withConstant (o : Objective) (constant : Float) : Objective := { o with constant }

/-- Cover at least `n` variables, the new ones with coefficient zero. -/
def grow (o : Objective) (n : Nat) : Objective :=
  { o with linear := o.linear ++ List.replicate (n - o.size) 0 }

def setLinear (o : Objective) (v : Nat) (c : Float) : Objective :=
  let grown := o.grow (v + 1)
  { grown with linear := grown.linear.set v c }

def coefficient (o : Objective) (v : Nat) : Float := o.linear.getD v 0

/-- The dense part stays as it is, even when it does not reach the variables. -/
def setQuadratic (o : Objective) (i j : Nat) (c : Float) : Objective :=
  { o with quadratic := o.quadratic.write (.of i j) c }

def quadraticCoefficient (o : Objective) (i j : Nat) : Float := o.quadratic.coefficient (.of i j)

/-- Write quadratic terms and cover every variable they name. -/
def withQuadratic (o : Objective) (terms : List ((Nat × Nat) × Float)) : Objective :=
  terms.foldl (fun o t => (o.grow (max t.1.1 t.1.2 + 1)).setQuadratic t.1.1 t.1.2 t.2) o

def linearValue (o : Objective) (point : List Float) : Float :=
  sum (o.linear.zipIdx.map fun t => t.1 * valueAt point t.2)

/-- Constant, then the linear sum, then the quadratic sum. -/
def evaluate (o : Objective) (point : List Float) : Float :=
  o.constant + o.linearValue point + o.quadratic.valuedAt point

def text (o : Objective) : String :=
  o.sense.name ++ " " ++ String.join (o.linear.zipIdx.map fun t => linearTermText t.1 t.2) ++
    QuadraticTerms.text o.quadratic ++ "+ " ++ Decimal.bareText o.constant

@[simp] theorem size_zero (n : Nat) : (zero n).size = n := by simp [zero, size]

@[simp] theorem size_grow (o : Objective) (n : Nat) : (o.grow n).size = max o.size n := by
  simp [grow, size]; omega

@[simp] theorem size_setLinear (o : Objective) (v : Nat) (c : Float) :
    (o.setLinear v c).size = max o.size (v + 1) := by
  have := size_grow o (v + 1)
  simpa [setLinear, size] using this

@[simp] theorem coefficient_grow (o : Objective) (n v : Nat) :
    (o.grow n).coefficient v = o.coefficient v := by
  simp only [grow, coefficient, List.getD_eq_getElem?_getD, List.getElem?_append]
  split
  · rfl
  next h =>
    rw [List.getElem?_replicate, List.getElem?_eq_none (Nat.le_of_not_lt h)]
    split <;> rfl

theorem coefficient_setLinear (o : Objective) (v w : Nat) (c : Float) :
    (o.setLinear v c).coefficient w = if w = v then c else o.coefficient w := by
  have hsize := size_grow o (v + 1)
  have hgrow := coefficient_grow o (v + 1) w
  simp only [setLinear, coefficient, List.getD_eq_getElem?_getD, List.getElem?_set] at hgrow ⊢
  by_cases h : v = w
  · subst h
    rw [if_pos rfl, if_pos rfl, if_pos (by simp only [size] at hsize; omega)]
    rfl
  · rw [if_neg h, if_neg (Ne.symm h), hgrow]

@[simp] theorem coefficient_setQuadratic (o : Objective) (i j v : Nat) (c : Float) :
    (o.setQuadratic i j c).coefficient v = o.coefficient v := rfl

@[simp] theorem size_setQuadratic (o : Objective) (i j : Nat) (c : Float) :
    (o.setQuadratic i j c).size = o.size := rfl

end Objective

end MipDispatch
