import MipDispatch.Backend.Contract
import MipDispatch.Model.Variable
import MipDispatch.Room.Model

namespace MipDispatch

structure Problem where
  kinds : List VarKind
  objective : Objective
  rows : ConstraintList
  declared : Bool

namespace Problem

def empty : Problem := ⟨[], .zero 0, [], false⟩

instance : Inhabited Problem := ⟨empty⟩

def size (p : Problem) : Nat := p.kinds.length

def integralCount (p : Problem) : Nat := (p.kinds.filter VarKind.isIntegral).length

def kindsOf (n : Nat) (kind : VarKind) (overrides : KindOverrides) : List VarKind :=
  (List.range n).map fun v => (overrides.get? v).getD kind

def declare (p : Problem) (n : Nat) (kind : VarKind) (overrides : KindOverrides) : Step Problem :=
  match overrides.keys.find? (n ≤ ·) with
  | some v => .refuse (.invalidProblem (.overrideOutOfRange v n)) p
  | none => .done ⟨kindsOf n kind overrides, .zero n, [], true⟩

/-- The objective is the longest sequence of a declaration, unless that is refused. -/
def demand (n : Nat) (overrides : KindOverrides) : Nat :=
  if overrides.keys.any (n ≤ ·) then 0 else n * Room.floatBytes

def requireDeclared (p : Problem) (operation : String) : Except SolveError Unit :=
  if p.declared then .ok () else .error (.invalidProblem (.undeclared operation))

/-- The first variable of the objective that is not declared: one with a nonzero linear
coefficient, else the larger one of a product. -/
def strayInObjective? (p : Problem) (o : Objective) : Option Nat :=
  let linear := (o.linear.zipIdx.drop p.size).find? fun t => t.1 != 0
  (linear.map (·.2)).or ((o.quadratic.keys.find? (p.size ≤ ·.high)).map (·.high))

def checkObjective (p : Problem) (o : Objective) : Except SolveError Unit :=
  match p.strayInObjective? o with
  | some v => .error (.invalidProblem (.outOfRange .objective v p.size))
  | none => .ok ()

/-- The objective is taken over as it is, but covers at least the declared variables. -/
def setObjective (p : Problem) (o : Objective) : Step Problem :=
  match p.requireDeclared "set_objective" *> p.checkObjective o with
  | .error e => .refuse e p
  | .ok () => .done { p with objective := o.grow p.size }

def checkRow (p : Problem) (c : Constraint) : Except SolveError Unit :=
  match c.maxVariable with
  | some v =>
    if p.size ≤ v then .error (.invalidProblem (.outOfRange .constraint v p.size)) else .ok ()
  | none => .ok ()

def replaceRows (p : Problem) (cs : ConstraintList) : Step Problem :=
  match p.requireDeclared "set_constraints" *> cs.forM p.checkRow with
  | .error e => .refuse e p
  | .ok () => .done { p with rows := cs }

def addRow (p : Problem) (c : Constraint) : Step Problem :=
  match p.requireDeclared "add_constraint" *> p.checkRow c with
  | .error e => .refuse e p
  | .ok () => .done { p with rows := p.rows ++ [c] }

/-- The dual bound to report beside `primal`. The engine's bound lacks the objective's constant; it
counts only for problems with integral variables, when it is finite and on its side of `primal`. -/
def dualBound (p : Problem) (engineBound : Option Float) (primal : Float) : Float :=
  match engineBound with
  | none => primal
  | some b =>
    let bound := b + p.objective.constant
    let onItsSide : Bool := match p.objective.sense with
      | .minimize => bound ≤ primal
      | .maximize => primal ≤ bound
    if 0 < p.integralCount ∧ bound.isFinite ∧ onItsSide then bound else primal

def tolerance : Float := 1e-6

def admitsValue (k : VarKind) (x : Float) : Bool :=
  k.bounds.admits tolerance x && (!k.isIntegral || (x - nearestWhole x).abs ≤ tolerance)

/-- Whether a point meets bounds, integrality and the linear part of every row, up to the
tolerance. -/
def isFeasible (p : Problem) (point : List Float) : Bool :=
  point.length == p.size && point.all Float.isFinite &&
    (p.kinds.zip point).all (fun t => admitsValue t.1 t.2) &&
    p.rows.all fun c => c.bounds.admits tolerance (c.activity point)

end Problem

structure Tuning where
  timeLimit : Option Float
  relativeGap : Option Float
  absoluteGap : Option Float
  threads : Option Nat
  verbose : Bool
  deriving BEq

namespace Tuning

def default : Tuning := ⟨none, none, none, none, false⟩

instance : Inhabited Tuning := ⟨default⟩

def setGap (t : Tuning) (gap : Float) (absolute : Bool) : Tuning :=
  if absolute then { t with absoluteGap := some gap } else { t with relativeGap := some gap }

/-- Zero takes the setting away. -/
def setThreads (t : Tuning) (n : Nat) : Tuning :=
  { t with threads := if 0 < n then some n else none }

def apply (t : Tuning) : TuningCall → Tuning
  | .timeLimit seconds => { t with timeLimit := some seconds }
  | .gap gap absolute => t.setGap gap absolute
  | .threads n => t.setThreads n
  | .verbose on => { t with verbose := on }

end Tuning

end MipDispatch
