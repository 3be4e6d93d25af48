import MipDispatch.Config.Basic
import MipDispatch.Engine.Adapter
import MipDispatch.Module.Source
import MipDispatch.Module.Resolver

namespace MipDispatch

/-- A solve's outcome with the solution, which is empty when there is none. -/
structure Report where
  solution : Solution
  outcome : Outcome

def Report.hasSolution (r : Report) : Bool := r.outcome.hasSolution

structure Declaration where
  size : Nat
  kind : VarKind
  overrides : KindOverrides

structure Session (β : Type) where
  resolved : ResolvedBackend β
  size : Nat

/-- What a session's solve returns and leaves behind. -/
structure SessionRun (β : Type) where
  result : Except Failure Report
  session : Session β
  host : Host
  trace : Trace

namespace Session

variable {β : Type} [Backend β]

def backendName (s : Session β) : String := Backend.name s.resolved.backend

def release (s : Session β) : Trace := s.resolved.release

def step (s : Session β) (f : β → Step β) : Step (Session β) :=
  (f s.resolved.backend).within fun backend => { s with resolved := { s.resolved with backend } }

def record (message : String) (fields : List (String × Log.Field)) : Log.Record where
  source := .session
  level := .info
  message := message
  fields := ("component", .text "solver") :: fields

def readyRecord (name : String) (n : Nat) : Log.Record :=
  record "Solver ready"
    [("operation", .text "initialize"), ("backend", .text name), ("num_variables", .number n)]

def solvedRecord (name : String) (o : Outcome) : Log.Record :=
  record o.message
    [("operation", .text "solve"), ("backend", .text name), ("status", .text o.status.text)]

/-- Declare the variables on a resolved backend. If that fails the backend is released. -/
def start (r : ResolvedBackend β) (d : Declaration) (h : Host) : Hosted SolveError (Session β) :=
  let declared := Backend.declare r.backend d.size d.kind d.overrides
  let r := { r with backend := declared.state }
  match declared.result with
  | .error e => ⟨.error e, h, declared.trace ++ r.release⟩
  | .ok () =>
    ⟨.ok ⟨r, d.size⟩, h,
      declared.trace ++ [.logged (readyRecord (Backend.name r.backend) d.size)]⟩

def create (resolver : Resolver β) (d : Declaration) (choice : EngineChoice) (h : Host) :
    Hosted SolveError (Session β) :=
  let resolving := resolver.resolve choice h
  match resolving.result with
  | .error e => ⟨.error e, resolving.host, resolving.trace⟩
  | .ok r =>
    let started := start r d resolving.host
    { started with trace := resolving.trace ++ started.trace }

def redeclare (s : Session β) (d : Declaration) : Step (Session β) :=
  let declared := s.step fun b => Backend.declare b d.size d.kind d.overrides
  match declared.result with
  | .error _ => declared
  | .ok () => { declared with state := { declared.state with size := d.size } }

def tune (s : Session β) (call : TuningCall) : Session β :=
  { s with resolved := { s.resolved with backend := Backend.tune s.resolved.backend call } }

def configure (s : Session β) (c : Config) : Session β :=
  { s with resolved := { s.resolved with backend := c.apply s.resolved.backend } }

/-- Resolve and tune as configured. An unusable configuration is refused before anything is
resolved. -/
def ofConfig (resolver : Path → Resolver β) (e : Environment) (d : Declaration) (c : Config)
    (h : Host) : Hosted SolveError (Session β) :=
  match c.validate with
  | .error fault => ⟨.error (.invalidConfig fault.message), h, []⟩
  | .ok () =>
    let created := create (resolver (c.resolvedSearchDir e)) d c.engine h
    { created with result := created.result.map (·.configure c) }

def setObjective (s : Session β) (o : Objective) : Step (Session β) :=
  s.step (Backend.setObjective · o)

def setConstraints (s : Session β) (cs : ConstraintList) : Step (Session β) :=
  s.step (Backend.setConstraints · cs)

def addConstraint (s : Session β) (c : Constraint) : Step (Session β) :=
  s.step (Backend.addConstraint · c)

/-- A backend that does not report events is not asked to. -/
def listen (s : Session β) (l : Option Listener) : Step (Session β) :=
  if (Backend.capabilities s.resolved.backend).events then s.step (Backend.listen · l)
  else .refuse (.unsupported s.backendName .events) s

def solve (s : Session β) (h : Host) : SessionRun β :=
  let run := Backend.solve s.resolved.backend h (.zero 0)
  let s := { s with resolved := { s.resolved with backend := run.backend } }
  match run.result with
  | .error failure => ⟨.error failure, s, run.host, run.trace⟩
  | .ok outcome =>
    ⟨.ok ⟨run.solution, outcome⟩, s, run.host,
      run.trace ++ [.logged (solvedRecord s.backendName outcome)]⟩

def trial (resolver : Resolver β) (d : Declaration) (choice : EngineChoice) (h : Host) : Trace :=
  let created := create resolver d choice h
  match created.result with
  | .error _ => created.trace
  | .ok s => created.trace ++ (s.solve created.host).trace

end Session

def Resolver.builtin {β : Type} (embed : Engine.Adapter → β) (searchDir : Path) : Resolver β :=
  ⟨(Catalog.builtin embed).source, searchDir⟩

end MipDispatch
