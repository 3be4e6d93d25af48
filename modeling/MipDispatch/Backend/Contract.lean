import MipDispatch.Error
import MipDispatch.Event.Channel
import MipDispatch.Model.Constraint
import MipDispatch.Model.Objective
import MipDispatch.Model.Outcome

namespace MipDispatch

abbrev KindOverrides := SortedMap Nat VarKind

structure Host where
  /-- The thread setting that the engine's worker threads were started with, if they were. -/
  scheduler : Option (Option Nat)
  /-- How the engine will behave towards the models to come. Past the end it succeeds with zeros. -/
  replies : List Engine.Reply
  modulesOpened : Nat

namespace Host

def reply (h : Host) : Engine.Reply := h.replies.headD default

def afterReply (h : Host) : Host := { h with replies := h.replies.tail }

end Host

/-- A call that either succeeds or says why not. The state after it is part of the answer in both
cases. -/
structure Step (σ : Type) where
  result : Except SolveError Unit
  state : σ
  trace : Trace

namespace Step

def done {σ : Type} (s : σ) : Step σ := ⟨.ok (), s, []⟩

def refuse {σ : Type} (e : SolveError) (s : σ) : Step σ := ⟨.error e, s, []⟩

def within {σ τ : Type} (f : σ → τ) (s : Step σ) : Step τ := ⟨s.result, f s.state, s.trace⟩

variable {σ τ : Type}

@[simp] theorem within_done (f : σ → τ) (s : σ) : (done s).within f = done (f s) := rfl

@[simp] theorem within_refuse (f : σ → τ) (e : SolveError) (s : σ) :
    (refuse e s).within f = refuse e (f s) := rfl

@[simp] theorem within_result (f : σ → τ) (s : Step σ) : (s.within f).result = s.result := rfl

@[simp] theorem within_state (f : σ → τ) (s : Step σ) : (s.within f).state = f s.state := rfl

@[simp] theorem within_trace (f : σ → τ) (s : Step σ) : (s.within f).trace = s.trace := rfl

end Step

/-- What a solve returns and leaves behind. -/
structure SolveRun (β : Type) where
  result : Except Failure Outcome
  backend : β
  solution : Solution
  host : Host
  trace : Trace

/-- The optional abilities of a backend. -/
structure Capabilities where
  quadraticObjective : Bool
  quadraticConstraints : Bool
  events : Bool
  deriving DecidableEq

namespace Capabilities

def checkObjective (c : Capabilities) (name : String) (o : Objective) : Except SolveError Unit :=
  if o.isQuadratic && !c.quadraticObjective then .error (.unsupported name .quadraticObjective)
  else .ok ()

def checkConstraint (c : Capabilities) (name : String) (row : Constraint) :
    Except SolveError Unit :=
  if row.isQuadratic && !c.quadraticConstraints then
    .error (.unsupported name .quadraticConstraint)
  else .ok ()

end Capabilities

inductive TuningCall where
  | timeLimit (seconds : Float)
  /-- Relative to the primal bound unless `absolute`. -/
  | gap (gap : Float) (absolute : Bool)
  /-- Zero leaves the choice to the engine. -/
  | threads (n : Nat)
  | verbose (on : Bool)

class Backend (β : Type) where
  name : β → String
  capabilities : β → Capabilities
  /-- Declare variables, discarding those of an earlier problem with everything about them. -/
  declare : β → Nat → VarKind → KindOverrides → Step β
  /-- The bytes of the longest sequence that declaring variables makes. -/
  demand : β → Nat → KindOverrides → Nat := fun _ _ _ => 0
  setObjective : β → Objective → Step β
  setConstraints : β → ConstraintList → Step β
  addConstraint : β → Constraint → Step β
  tune : β → TuningCall → β
  listen : β → Option Listener → Step β :=
    fun b _ => .refuse (.unsupported (name b) .events) b
  hasListener : β → Bool := fun _ => false
  /-- The solution is written to only if the outcome has one. -/
  solve : β → Host → Solution → SolveRun β

namespace Backend

variable {β : Type} [Backend β]

def checkObjective (b : β) (o : Objective) : Except SolveError Unit :=
  (capabilities b).checkObjective (name b) o

def checkConstraint (b : β) (c : Constraint) : Except SolveError Unit :=
  (capabilities b).checkConstraint (name b) c

end Backend

end MipDispatch
