import MipDispatch.Engine.Call
import MipDispatch.Event.Basic
import MipDispatch.Log.Record
import MipDispatch.Module.Path

namespace MipDispatch

/-- An event handed to a listener, which may fail on it. -/
structure Delivery where
  listener : String
  event : Event
  failed : Bool

/-- Birth and end of the modules and backends of a process, each module with a number of its own. A
backend bears the number of the module that made it. -/
inductive Lifetime where
  | moduleOpened (id : Nat) (name : String)
  | backendMade (id : Nat) (name : String)
  | backendReleased (id : Nat) (name : String)
  | moduleReleased (id : Nat) (name : String)
  deriving DecidableEq

inductive Effect where
  | logged (r : Log.Record)
  | delivered (d : Delivery)
  | called (c : Engine.Call)
  | asked (module : Path)
  | lived (l : Lifetime)

abbrev Trace := List Effect

namespace Trace

def log (t : Trace) : List Log.Record :=
  t.filterMap fun | .logged r => some r | _ => none

def deliveries (t : Trace) : List Delivery :=
  t.filterMap fun | .delivered d => some d | _ => none

def calls (t : Trace) : List Engine.Call :=
  t.filterMap fun | .called c => some c | _ => none

def asked (t : Trace) : List Path :=
  t.filterMap fun | .asked p => some p | _ => none

def lifetimes (t : Trace) : List Lifetime :=
  t.filterMap fun | .lived l => some l | _ => none

def received (t : Trace) : List (String × Event) :=
  (t.deliveries.filter (!·.failed)).map fun d => (d.listener, d.event)

@[simp] theorem deliveries_append (s t : Trace) :
    deliveries (s ++ t) = s.deliveries ++ t.deliveries := by simp [deliveries]

@[simp] theorem calls_append (s t : Trace) : calls (s ++ t) = s.calls ++ t.calls := by simp [calls]

@[simp] theorem asked_append (s t : Trace) : asked (s ++ t) = s.asked ++ t.asked := by simp [asked]

@[simp] theorem lifetimes_append (s t : Trace) :
    lifetimes (s ++ t) = s.lifetimes ++ t.lifetimes := by simp [lifetimes]

end Trace

end MipDispatch
