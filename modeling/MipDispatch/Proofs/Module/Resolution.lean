import MipDispatch.Backend.ZeroPoint
import MipDispatch.Module.Resolver

namespace MipDispatch

namespace LoadAttempt

def parts (attempts : List LoadAttempt) : List String :=
  attempts.flatMap fun a => [a.module.display, a.reason]

end LoadAttempt

namespace Resolver

variable {β : Type}

end Resolver

namespace Hosted

variable {ε α : Type}

def preceded (run : Hosted ε α) (before : Trace) : Hosted ε α :=
  { run with trace := before ++ run.trace }

theorem preceded_preceded (run : Hosted ε α) (s t : Trace) :
    (run.preceded t).preceded s = run.preceded (s ++ t) := by
  unfold preceded
  rw [List.append_assoc]

end Hosted

namespace Resolver

variable {β : Type}

variable [Backend β] {r : Resolver β}

def madeTrace (path : Path) (m : BackendModule β) (b : β) (id : Nat) : Trace :=
  [.logged (tryingRecord path), .asked path, .lived (.moduleOpened id m.name),
    .lived (.backendMade id (Backend.name b)), .logged (loadedRecord path (Backend.name b))]

end Resolver

end MipDispatch
