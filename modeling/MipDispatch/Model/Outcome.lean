namespace MipDispatch

inductive Status where
  | optimal
  | suboptimal
  | timeLimitFeasible
  | timeLimitInfeasible
  | infeasible
  | unbounded
  | error
  deriving DecidableEq

namespace Status

def hasSolution : Status → Bool
  | optimal | suboptimal | timeLimitFeasible => true
  | timeLimitInfeasible | infeasible | unbounded | error => false

def text : Status → String
  | optimal => "Optimal"
  | suboptimal => "Suboptimal"
  | timeLimitFeasible => "Time Limit Reached (feasible)"
  | timeLimitInfeasible => "Time Limit Reached (no solution)"
  | infeasible => "Infeasible"
  | unbounded => "Unbounded"
  | error => "Error"

def name : Status → String
  | optimal => "Optimal"
  | suboptimal => "Suboptimal"
  | timeLimitFeasible => "TimeLimitFeasible"
  | timeLimitInfeasible => "TimeLimitInfeasible"
  | infeasible => "Infeasible"
  | unbounded => "Unbounded"
  | error => "Error"

def all : List Status :=
  [optimal, suboptimal, timeLimitFeasible, timeLimitInfeasible, infeasible, unbounded, error]

def ofName? (s : String) : Option Status := all.find? fun x => x.name = s

@[simp] theorem ofName?_name (x : Status) : ofName? x.name = some x := by cases x <;> decide

end Status

structure Outcome where
  status : Status
  message : String
  deriving DecidableEq

namespace Outcome

def hasSolution (o : Outcome) : Bool := o.status.hasSolution

def text (o : Outcome) : String := o.status.text ++ ": " ++ o.message

end Outcome

end MipDispatch
