import MipDispatch.Room.Model
import MipDispatch.Session

namespace MipDispatch.Room

variable {β : Type} [Backend β]

def declareProblem (p : Problem) (d : Declaration) : Except Crash (Step Problem) :=
  taking (Problem.demand d.size d.overrides) fun _ => p.declare d.size d.kind d.overrides

def declare (b : β) (d : Declaration) : Except Crash (Step β) :=
  taking (Backend.demand b d.size d.overrides) fun _ =>
    Backend.declare b d.size d.kind d.overrides

def redeclare (s : Session β) (d : Declaration) : Except Crash (Step (Session β)) :=
  taking (Backend.demand s.resolved.backend d.size d.overrides) fun _ => s.redeclare d

def sessionDemand (resolver : Resolver β) (d : Declaration) (choice : EngineChoice) (h : Host) :
    Nat :=
  match (resolver.resolve choice h).result with
  | .ok r => Backend.demand r.backend d.size d.overrides
  | .error _ => 0

def createSession (resolver : Resolver β) (d : Declaration) (choice : EngineChoice) (h : Host) :
    Except Crash (Hosted SolveError (Session β)) :=
  taking (sessionDemand resolver d choice h) fun _ => Session.create resolver d choice h

/-- An unusable configuration is refused before memory is needed. -/
def sessionOfConfig (resolver : Path → Resolver β) (e : Environment) (d : Declaration)
    (c : Config) (h : Host) : Except Crash (Hosted SolveError (Session β)) :=
  let bytes := match c.validate with
    | .ok () => sessionDemand (resolver (c.resolvedSearchDir e)) d c.engine h
    | .error _ => 0
  taking bytes fun _ => Session.ofConfig resolver e d c h

end MipDispatch.Room
