import MipDispatch.Error
import MipDispatch.Effect

namespace MipDispatch

/-- A receiver of events. It breaks off on the events that it `fails` on; one that fails on others
later on is another listener of the same name. -/
structure Listener where
  name : String
  fails : Event → Bool

def Listener.recorder (name : String) : Listener := ⟨name, fun _ => false⟩

/-- The `present` flag answers without looking at the listener; it is written together with it. -/
structure Channel where
  listener : Option Listener
  present : Bool

/-- The effects of a publication, whether the event was built, and the crash of the builder that
reaches the publisher. -/
structure Publication where
  trace : Trace
  built : Bool
  crash : Option Crash

namespace Channel

def idle : Channel := ⟨none, false⟩

instance : Inhabited Channel := ⟨idle⟩

def listen (_ : Channel) (listener : Option Listener) : Channel := ⟨listener, listener.isSome⟩

def hasListener (c : Channel) : Bool := c.present

def lostRecord (e : Event) : Log.Record where
  source := .events
  level := .warn
  message := "Event listener panicked; event dropped"
  fields := [("component", .text "events"), ("operation", .text "emit"), ("status", .text "error"),
    ("event_type", .text e.kind), ("backend", .text e.backend)]

def deliver (l : Listener) (e : Event) : Trace :=
  if l.fails e then [.delivered ⟨l.name, e, true⟩, .logged (lostRecord e)]
  else [.delivered ⟨l.name, e, false⟩]

def publishWith (c : Channel) (build : Unit → Except Crash Event) : Publication :=
  if c.present then
    match c.listener with
    | none => ⟨[], false, none⟩
    | some l =>
      match build () with
      | .error crash => ⟨[], true, some crash⟩
      | .ok e => ⟨deliver l e, true, none⟩
  else ⟨[], false, none⟩

def publish (c : Channel) (e : Event) : Trace := (c.publishWith fun _ => .ok e).trace

def Consistent (c : Channel) : Prop := c.present = c.listener.isSome

@[simp] theorem idle_consistent : idle.Consistent := rfl

@[simp] theorem listen_consistent (c : Channel) (l : Option Listener) :
    (c.listen l).Consistent := rfl

theorem publish_eq {c : Channel} (h : c.Consistent) (e : Event) :
    c.publish e = match c.listener with
      | none => []
      | some l => deliver l e := by
  unfold publish publishWith
  rcases hl : c.listener with _ | l <;> simp_all [Consistent]

end Channel

end MipDispatch
