import MipDispatch.Backend.Contract
import MipDispatch.Module.Source
import MipDispatch.Text.Basic

namespace MipDispatch

structure ResolvedBackend (β : Type) where
  backend : β
  moduleId : Nat
  moduleName : String
  path : Path

namespace ResolvedBackend

variable {β : Type} [Backend β]

/-- The backend goes first, then its module. -/
def release (r : ResolvedBackend β) : Trace :=
  [.lived (.backendReleased r.moduleId (Backend.name r.backend)),
    .lived (.moduleReleased r.moduleId r.moduleName)]

def text (r : ResolvedBackend β) : String :=
  Text.record "ResolvedBackend" [("backend", Text.quoted (Backend.name r.backend)),
    ("module", Text.quoted r.moduleName), ("path", r.path.quoted)]

end ResolvedBackend

/-- A result, with the process as it is afterwards and what happened on the way. -/
structure Hosted (ε α : Type) where
  result : Except ε α
  host : Host
  trace : Trace

/-- Where modules come from and in which directory they are looked for. -/
structure Resolver (β : Type) where
  source : ModuleSource β
  searchDir : Path

namespace Resolver

variable {β : Type} [Backend β]

def withSearchDir (r : Resolver β) (searchDir : Path) : Resolver β := { r with searchDir }

/-- The module paths tried for a choice, in order. -/
def candidates (r : Resolver β) (choice : EngineChoice) : List Path :=
  choice.engines.map fun engine => r.searchDir.join engine.moduleFile

def crashText (c : Crash) : String := c.text?.getD "unknown panic payload"

/-- Make a backend with an opened module, which is released again if that fails. -/
def construct (path : Path) (id : Nat) (m : BackendModule β) :
    Except LoadError (ResolvedBackend β) × Trace :=
  let released : Effect := .lived (.moduleReleased id m.name)
  match m.entry? entrySymbol with
  | none => (.error (.missingEntry path entrySymbol), [released])
  | some (.crashed c) => (.error (.constructionCrashed path (crashText c)), [released])
  | some (.failed e) => (.error (.constructionFailed path e), [released])
  | some (.made b) => (.ok ⟨b, id, m.name, path⟩, [.lived (.backendMade id (Backend.name b))])

def load (r : Resolver β) (path : Path) (h : Host) : Hosted LoadError (ResolvedBackend β) :=
  match r.source.openModule path with
  | .error e => ⟨.error e, h, [.asked path]⟩
  | .ok m =>
    let id := h.modulesOpened
    let (result, trace) := construct path id m
    ⟨result, { h with modulesOpened := id + 1 },
      .asked path :: .lived (.moduleOpened id m.name) :: trace⟩

def record (level : Log.Level) (message : String) (fields : List (String × Log.Field)) :
    Log.Record where
  source := .resolver
  level := level
  message := message
  fields := ("component", .text "factory") :: ("operation", .text "load_backend") :: fields

def tryingRecord (path : Path) : Log.Record :=
  record .info "Trying to load backend" [("module", .text path.display)]

def loadedRecord (path : Path) (name : String) : Log.Record :=
  record .info "Backend loaded"
    [("status", .text "success"), ("backend", .text name), ("module", .text path.display)]

def failedRecord (path : Path) (e : LoadError) : Log.Record :=
  record .warn "Failed to load backend"
    [("status", .text "error"), ("module", .text path.display), ("error", .text e.message)]

/-- Try paths in order. The attempts that failed before are those of `attempts`. -/
def tryPaths (r : Resolver β) (choice : EngineChoice) :
    List Path → List LoadAttempt → Host → Hosted SolveError (ResolvedBackend β)
  | [], attempts, h => ⟨.error (.unresolved choice attempts), h, []⟩
  | path :: paths, attempts, h =>
    let loaded := r.load path h
    let trying : Trace := .logged (tryingRecord path) :: loaded.trace
    match loaded.result with
    | .ok resolved =>
      ⟨.ok resolved, loaded.host,
        trying ++ [.logged (loadedRecord path (Backend.name resolved.backend))]⟩
    | .error e =>
      let rest := r.tryPaths choice paths (attempts ++ [⟨path, e.message⟩]) loaded.host
      { rest with trace := trying ++ .logged (failedRecord path e) :: rest.trace }

/-- The backend of the first candidate that makes one, or an error with all attempts. -/
def resolve (r : Resolver β) (choice : EngineChoice) (h : Host) :
    Hosted SolveError (ResolvedBackend β) :=
  r.tryPaths choice (r.candidates choice) [] h

end Resolver

structure Environment where
  backendDir : Option Path
  programDir : Option Path

/-- The directory that is set, else the program's, else the working directory. -/
def Environment.searchDir (e : Environment) : Path :=
  e.backendDir.getD (e.programDir.getD (.ofString "."))

end MipDispatch
