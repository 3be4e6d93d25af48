import MipDispatch.Session

namespace MipDispatch.OneShot

structure Options where
  kind : VarKind
  verbose : Bool
  engine : EngineChoice
  listener : Option Listener

namespace Options

def fields (o : Options) : List (String × String) :=
  [("variable_type", o.kind.name), ("verbose", Text.boolText o.verbose),
    ("preference", o.engine.name), ("on_event", Text.boolText o.listener.isSome)]

def text (o : Options) : String := Text.record "SolveOptions" o.fields

def textBlock (o : Options) : String := Text.recordBlock "SolveOptions" o.fields

end Options

variable {β : Type} [Backend β]

/-- Append rows until one is refused. -/
def addAll (s : Session β) : List Constraint → Step (Session β)
  | [] => .done s
  | c :: cs =>
    let added := s.addConstraint c
    match added.result with
    | .error _ => added
    | .ok () =>
      let rest := addAll added.state cs
      { rest with trace := added.trace ++ rest.trace }

def andThen (first : Step (Session β)) (second : Session β → Step (Session β)) :
    Step (Session β) :=
  match first.result with
  | .error _ => first
  | .ok () =>
    let rest := second first.state
    { rest with trace := first.trace ++ rest.trace }

/-- Verbosity, objective, rows, and then the listener. -/
def load (s : Session β) (o : Objective) (cs : List Constraint) (options : Options) :
    Step (Session β) :=
  let s := s.tune (.verbose options.verbose)
  andThen (andThen (s.setObjective o) (addAll · cs)) fun s =>
    match options.listener with
    | none => .done s
    | some l => s.listen (some l)

def declaration (o : Objective) (options : Options) : Declaration := ⟨o.size, options.kind, ∅⟩

def solve (resolver : Resolver β) (o : Objective) (cs : List Constraint) (options : Options)
    (h : Host) : Hosted Failure Report :=
  let created := Session.create resolver (declaration o options) options.engine h
  match created.result with
  | .error e => ⟨.error (.error e), created.host, created.trace⟩
  | .ok s =>
    let loaded := load s o cs options
    let before := created.trace ++ loaded.trace
    match loaded.result with
    | .error e => ⟨.error (.error e), created.host, before ++ loaded.state.release⟩
    | .ok () =>
      let run := loaded.state.solve created.host
      ⟨run.result, run.host, before ++ run.trace ++ run.session.release⟩

end MipDispatch.OneShot
