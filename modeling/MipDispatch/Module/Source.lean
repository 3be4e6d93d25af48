import MipDispatch.Engine.Adapter
import MipDispatch.Error
import MipDispatch.SortedMap

namespace MipDispatch

/-- What comes of making a backend. -/
inductive Construction (β : Type) where
  | made (b : β)
  | failed (e : SolveError)
  | crashed (c : Crash)

def entrySymbol : String := "create_solver_backend"

/-- An opened module. Each entry point makes a backend anew whenever it is used. -/
structure BackendModule (β : Type) where
  name : String
  entry? : String → Option (Construction β)

namespace BackendModule

variable {β : Type}

def offering (name : String) (construction : Option (Construction β)) : BackendModule β :=
  ⟨name, fun symbol => if symbol = entrySymbol then construction else none⟩

end BackendModule

/-- A way to turn paths into modules. -/
structure ModuleSource (β : Type) where
  openModule : Path → Except LoadError (BackendModule β)

namespace ModuleSource

variable {β : Type}

/-- Modules by their file names alone, whatever the directory. A name may lead to a module without
an entry point. -/
def ofFileNames (find : String → Option (Option (Construction β))) : ModuleSource β where
  openModule path :=
    match path.fileText? with
    | none => .error (.notFound path)
    | some file =>
      match find file with
      | none => .error (.notFound path)
      | some construction => .ok (.offering file construction)

end ModuleSource

structure Catalog (β : Type) where
  modules : SortedMap String (Construction β)

namespace Catalog

variable {β : Type}

def empty : Catalog β := ⟨∅⟩

/-- A later registration for the same engine takes the place of an earlier one. -/
def register (c : Catalog β) (engine : EngineChoice) (construction : Construction β) : Catalog β :=
  ⟨c.modules.insert engine.moduleFile construction⟩

def isRegistered (c : Catalog β) (engine : EngineChoice) : Bool :=
  c.modules.contains engine.moduleFile

def source (c : Catalog β) : ModuleSource β :=
  .ofFileNames fun file => (c.modules.get? file).map some

/-- The engines of a program that is built with HiGHS alone. COIN-OR CBC is an optional part too, and
this build leaves it out. -/
def builtin (embed : Engine.Adapter → β) : Catalog β :=
  empty.register .highs (.made (embed .fresh))

end Catalog

end MipDispatch
