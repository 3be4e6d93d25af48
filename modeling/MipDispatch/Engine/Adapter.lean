import MipDispatch.Engine.Encoding
import MipDispatch.Engine.Scheduler

namespace MipDispatch

namespace Solution

def fill (s : Solution) (n : Nat) (values : List Float) : Solution :=
  { s with values := values.take n ++ (s.resize n).values.drop values.length }

end Solution

namespace Engine

/-- Whether the run came to an end, be it with a warning. -/
def Reply.ranThrough (r : Reply) : Bool := r.runStatus = 0 || r.runStatus = 1

def Reply.values (r : Reply) (n : Nat) : List Float := (List.range n).map r.column

/-- Make calls one after the other. A refused call is not answered with an error: the solve breaks
off there. -/
def perform (r : Reply) : List Call → Trace × Option Crash
  | [] => ([], none)
  | c :: cs =>
    if r.refuses c then ([.called c], some (.text "An error was encountered in HiGHS.: Error"))
    else
      let (t, crash) := perform r cs
      (.called c :: t, crash)

structure Adapter where
  problem : Problem
  tuning : Tuning
  channel : Channel
  deriving Inhabited

namespace Adapter

def fresh : Adapter := default

def name : String := "HiGHS"

def capabilities : Capabilities where
  quadraticObjective := true
  quadraticConstraints := false
  events := true

/-- Where a call stands whose failure is returned. -/
def callSite (call : String) : CallSite where
  file := "MipDispatch/Engine/Adapter.lean"
  line := if call = "Highs_passHessian" then 121 else 184

def declaredRecord (p : Problem) : Log.Record where
  source := .engine
  level := .debug
  message := "Declared variables"
  fields := [("component", .text "solver"), ("backend", .text word),
    ("operation", .text "initialize"), ("num_variables", .number p.size),
    ("num_integer", .number p.integralCount)]

def declare (a : Adapter) (n : Nat) (kind : VarKind) (overrides : KindOverrides) : Step Adapter :=
  let step := a.problem.declare n kind overrides
  let trace := match step.result with
    | .ok () => [.logged (declaredRecord step.state)]
    | .error _ => []
  ⟨step.result, { a with problem := step.state }, trace⟩

def checkKinds (a : Adapter) (o : Objective) : Except SolveError Unit :=
  if o.isQuadratic && 0 < a.problem.integralCount then
    .error (.unsupported name .quadraticOverIntegers)
  else .ok ()

def setObjective (a : Adapter) (o : Objective) : Step Adapter :=
  match capabilities.checkObjective name o *> a.checkKinds o with
  | .error e => .refuse e a
  | .ok () => (a.problem.setObjective o).within fun problem => { a with problem }

def setConstraints (a : Adapter) (cs : ConstraintList) : Step Adapter :=
  match cs.forM (capabilities.checkConstraint name) with
  | .error e => .refuse e a
  | .ok () => (a.problem.replaceRows cs).within fun problem => { a with problem }

def addConstraint (a : Adapter) (c : Constraint) : Step Adapter :=
  match capabilities.checkConstraint name c with
  | .error e => .refuse e a
  | .ok () => (a.problem.addRow c).within fun problem => { a with problem }

def tune (a : Adapter) (call : TuningCall) : Adapter := { a with tuning := a.tuning.apply call }

def listen (a : Adapter) (listener : Option Listener) : Step Adapter :=
  .done { a with channel := a.channel.listen listener }

def modelBuilt (p : Problem) : Event :=
  ((Event.of "MODEL_BUILT" word).field "num_cols" (.count p.size)).field "num_rows"
    (.count p.rows.length)

def statusReached (status : ModelStatus) (elapsed : Float) : Event :=
  ((Event.of "STATUS" word).field "status" (.text status.name)).field "runtime" (.real elapsed)

def solved (primal dual elapsed : Float) : Event :=
  ((Event.of "SOLVED" word).withBounds primal dual).field "runtime" (.real elapsed)

def finishedRecord (p : Problem) (r : Reply) : Log.Record where
  source := .engine
  level := .debug
  message := "HiGHS finished"
  fields := [("component", .text "solver"), ("backend", .text word), ("operation", .text "solve"),
    ("status", .text r.status.name), ("runtime", .seconds r.elapsed),
    ("num_variables", .number p.size), ("num_constraints", .number p.rows.length)]

def setupCalls (a : Adapter) : List Call :=
  quiet ++ [.passModel a.problem.toModel, .setSense a.problem.objective.sense] ++ a.tuning.options

def passHessian (a : Adapter) (r : Reply) : Trace × Except SolveError Unit :=
  let terms := a.problem.objective.quadratic
  if terms.isEmpty then ([], .ok ())
  else match QuadraticTerms.hessian a.problem.size terms with
    | .error e => ([], .error e)
    | .ok lower =>
      ([.called (.passHessian a.problem.size lower)],
        if r.hessianStatus < 0 then
          .error (.engineFailed "Highs_passHessian" (callSite "Highs_passHessian")
            ("status " ++ Decimal.intText r.hessianStatus))
        else .ok ())

/-- Everything up to the run. -/
def prepare (a : Adapter) (r : Reply) : Trace × Except Failure Unit :=
  let opening := a.channel.publish (modelBuilt a.problem)
  let (setup, crash) := perform r a.setupCalls
  match crash with
  | some crash => (opening ++ setup, .error (.crash crash))
  | none =>
    let (hessian, result) := a.passHessian r
    (opening ++ setup ++ hessian, result.mapError .error)

/-- What the engine's verdict means. A point that it holds when it stops early counts only if it is
feasible. -/
def classify (p : Problem) (status : ModelStatus) (values : List Float) : Outcome :=
  let without : Outcome :=
    ⟨.error, "HiGHS returned status " ++ status.name ++ " without a solution"⟩
  match status with
  | .optimal => ⟨.optimal, "Optimal solution found"⟩
  | .modelEmpty => ⟨.optimal, "Model is empty, objective reduces to its constant"⟩
  | .reachedTimeLimit =>
    if p.isFeasible values then
      ⟨.timeLimitFeasible, "Time limit reached, returning best feasible solution"⟩
    else ⟨.timeLimitInfeasible, "Time limit reached before a feasible solution was found"⟩
  | .reachedIterationLimit | .objectiveBound | .objectiveTarget =>
    if p.isFeasible values then
      ⟨.suboptimal, "Stopped early (" ++ status.name ++ ") with a feasible solution"⟩
    else without
  | .infeasible => ⟨.infeasible, "Problem is infeasible: no solution satisfies all constraints"⟩
  | .unbounded => ⟨.unbounded, "Problem is unbounded: objective can be improved infinitely"⟩
  | .unboundedOrInfeasible => ⟨.unbounded, "Problem is unbounded or infeasible"⟩
  | .notSet | .loadError | .modelError | .presolveError | .solveError | .postsolveError
  | .unknown => without

def conclude (a : Adapter) (r : Reply) (s : Solution) : Trace × Outcome × Solution :=
  let p := a.problem
  let values := r.values p.size
  let outcome := classify p r.status values
  let report := .logged (finishedRecord p r) :: a.channel.publish (statusReached r.status r.elapsed)
  if outcome.hasSolution then
    let primal := p.objective.evaluate values
    let filled := { s.fill p.size values with value := primal, time := r.elapsed }
    let closing := a.channel.publish (solved primal (p.dualBound r.dualBound primal) r.elapsed)
    (report ++ closing, outcome, filled)
  else (report, outcome, s)

def solve (a : Adapter) (h : Host) (s : Solution) : SolveRun Adapter :=
  match a.problem.requireDeclared "solve" with
  | .error e => ⟨.error (.error e), a, s, h, []⟩
  | .ok () =>
    let r := h.reply
    let (before, ready) := a.prepare r
    match ready with
    | .error failure => ⟨.error failure, a, s, h.afterReply, before⟩
    | .ok () =>
      let (held, host) := h.afterReply.holdScheduler a.tuning.threads
      let run := before ++ held ++ [.called .run]
      if r.ranThrough then
        let (after, outcome, filled) := a.conclude r s
        ⟨.ok outcome, a, filled, host, run ++ after⟩
      else
        let failed := SolveError.engineFailed "Highs_run" (callSite "Highs_run") "Error"
        ⟨.error (.error failed), a, s, host, run⟩

instance : Backend Adapter where
  name _ := name
  capabilities _ := capabilities
  declare := declare
  demand _ n overrides := Problem.demand n overrides
  setObjective := setObjective
  setConstraints := setConstraints
  addConstraint := addConstraint
  tune := tune
  listen := listen
  hasListener a := a.channel.hasListener
  solve := solve

end Adapter

end Engine

end MipDispatch
