import MipDispatch.Engine.Matrix
import MipDispatch.Model.Objective
import MipDispatch.Model.Variable

namespace MipDispatch.Engine

/-- A column of the engine's model. -/
structure Variable where
  cost : Float
  bounds : Bounds
  integral : Bool

/-- Columns and rows, with the row entries by columns. -/
structure Model where
  columns : List Variable
  rows : List Bounds
  matrix : ColumnMatrix

def Model.isMixed (m : Model) : Bool := m.columns.any (·.integral)

inductive OptionValue where
  | flag (b : Bool)
  | real (x : Float)
  | whole (n : Nat)

/-- One call of the engine's interface. -/
inductive Call where
  | option (name : String) (value : OptionValue)
  | passModel (m : Model)
  | setSense (s : Sense)
  /-- The lower triangle of the quadratic part, by columns. -/
  | passHessian (size : Nat) (lower : ColumnMatrix)
  /-- Stop the worker threads of the whole process, waiting for them. -/
  | resetScheduler
  | run

inductive ModelStatus where
  | notSet
  | loadError
  | modelError
  | presolveError
  | solveError
  | postsolveError
  | modelEmpty
  | optimal
  | infeasible
  | unboundedOrInfeasible
  | unbounded
  | objectiveBound
  | objectiveTarget
  | reachedTimeLimit
  | reachedIterationLimit
  | unknown
  deriving DecidableEq, Inhabited

def ModelStatus.name : ModelStatus → String
  | notSet => "NotSet"
  | loadError => "LoadError"
  | modelError => "ModelError"
  | presolveError => "PresolveError"
  | solveError => "SolveError"
  | postsolveError => "PostsolveError"
  | modelEmpty => "ModelEmpty"
  | optimal => "Optimal"
  | infeasible => "Infeasible"
  | unboundedOrInfeasible => "UnboundedOrInfeasible"
  | unbounded => "Unbounded"
  | objectiveBound => "ObjectiveBound"
  | objectiveTarget => "ObjectiveTarget"
  | reachedTimeLimit => "ReachedTimeLimit"
  | reachedIterationLimit => "ReachedIterationLimit"
  | unknown => "Unknown"

def ModelStatus.all : List ModelStatus :=
  [notSet, loadError, modelError, presolveError, solveError, postsolveError, modelEmpty, optimal,
    infeasible, unboundedOrInfeasible, unbounded, objectiveBound, objectiveTarget, reachedTimeLimit,
    reachedIterationLimit, unknown]

def ModelStatus.ofName? (s : String) : Option ModelStatus := all.find? fun m => m.name = s

@[simp] theorem ModelStatus.ofName?_name (m : ModelStatus) : ofName? m.name = some m := by
  cases m <;> decide

/-- How the engine behaves towards one model. -/
structure Reply where
  /-- The calls, other than the Hessian and the run, that it fails. -/
  refuses : Call → Bool
  /-- Negative when the Hessian is refused. -/
  hessianStatus : Int
  /-- Zero or one when the run came to an end. -/
  runStatus : Int
  status : ModelStatus
  column : Nat → Float
  /-- The dual bound without the objective's constant, if the engine has one. -/
  dualBound : Option Float
  /-- The seconds from the beginning of the solve to the end of the run. -/
  elapsed : Float

instance : Inhabited Reply := ⟨⟨fun _ => false, 0, 0, .optimal, fun _ => 0, none, 0⟩⟩

end MipDispatch.Engine
