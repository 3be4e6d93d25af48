import MipDispatch.Model.Relation
import MipDispatch.Model.Solution
import MipDispatch.Model.Terms

namespace MipDispatch

structure Constraint where
  linear : LinearTerms
  quadratic : QuadraticTerms
  relation : Relation
  value : Float
  deriving BEq, Inhabited

namespace Constraint

def empty : Constraint := ⟨∅, ∅, .atMost, 0⟩

def setLinear (c : Constraint) (v : Nat) (a : Float) : Constraint :=
  { c with linear := c.linear.write v a }

def setQuadratic (c : Constraint) (i j : Nat) (a : Float) : Constraint :=
  { c with quadratic := c.quadratic.write (.of i j) a }

def withRelation (c : Constraint) (relation : Relation) (value : Float) : Constraint :=
  { c with relation, value }

def withLinear (c : Constraint) (terms : List (Nat × Float)) : Constraint :=
  { c with linear := c.linear.writeAll terms }

def withQuadratic (c : Constraint) (terms : List ((Nat × Nat) × Float)) : Constraint :=
  terms.foldl (fun c t => c.setQuadratic t.1.1 t.1.2 t.2) c

/-- A row from dense coefficients, where the position is the variable id. -/
def ofLinear (coefficients : List Float) (relation : Relation) (value : Float) : Constraint :=
  coefficients.zipIdx.foldl (fun c t => c.setLinear t.2 t.1) (empty.withRelation relation value)

def coefficient (c : Constraint) (v : Nat) : Float := c.linear.coefficient v

def quadraticCoefficient (c : Constraint) (i j : Nat) : Float := c.quadratic.coefficient (.of i j)

def linearVars (c : Constraint) : List Nat := c.linear.keys

def isQuadratic (c : Constraint) : Bool := !c.quadratic.isEmpty

/-- The largest id of a linear or quadratic term. -/
def maxVariable (c : Constraint) : Option Nat :=
  max c.linear.keys.getLast? (c.quadratic.keys.map (·.high)).max?

def bounds (c : Constraint) : Bounds := c.relation.bounds c.value

def activity (c : Constraint) (point : List Float) : Float := LinearTerms.valuedAt c.linear point

/-- Exact, and for the linear part only. -/
def isViolated (c : Constraint) (s : Solution) : Bool :=
  c.relation.brokenBy (c.activity s.values) c.value

def text (c : Constraint) : String :=
  LinearTerms.text c.linear ++ QuadraticTerms.text c.quadratic ++ c.relation.symbol ++ " " ++
    Decimal.bareText c.value

end Constraint

structure LinearConstraint where
  row : Constraint
  quadratic_eq : row.quadratic = ∅

namespace LinearConstraint

def empty : LinearConstraint := ⟨.empty, rfl⟩

def setLinear (c : LinearConstraint) (v : Nat) (a : Float) : LinearConstraint :=
  ⟨c.row.setLinear v a, c.quadratic_eq⟩

def withLinear (c : LinearConstraint) (terms : List (Nat × Float)) : LinearConstraint :=
  ⟨c.row.withLinear terms, c.quadratic_eq⟩

def setRelation (c : LinearConstraint) (relation : Relation) : LinearConstraint :=
  ⟨{ c.row with relation }, c.quadratic_eq⟩

def setValue (c : LinearConstraint) (value : Float) : LinearConstraint :=
  ⟨{ c.row with value }, c.quadratic_eq⟩

def withRelation (c : LinearConstraint) (relation : Relation) (value : Float) : LinearConstraint :=
  ⟨c.row.withRelation relation value, c.quadratic_eq⟩

end LinearConstraint

abbrev ConstraintList := List Constraint

/-- The positions of the rows with a linear coefficient for one of the ids, ascending. -/
def ConstraintList.mentioning (cs : ConstraintList) (ids : List Nat) : List Nat :=
  (cs.zipIdx.filter fun t => ids.any t.1.linear.contains).map (·.2)

end MipDispatch
