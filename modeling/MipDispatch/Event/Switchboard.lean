import MipDispatch.Event.Channel
import MipDispatch.Text.Basic

namespace MipDispatch

/-- The channels in use, and for each handle the position of its channel. -/
structure Switchboard where
  channels : List Channel
  handles : List Nat

namespace Switchboard

def empty : Switchboard := ⟨[], []⟩

def connect (s : Switchboard) : Nat × Switchboard :=
  (s.handles.length, ⟨s.channels ++ [.idle], s.handles ++ [s.channels.length]⟩)

/-- A second handle on the channel of `h`. -/
def share (s : Switchboard) (h : Nat) : Nat × Switchboard :=
  (s.handles.length, { s with handles := s.handles ++ [s.handles.getD h 0] })

def channel (s : Switchboard) (h : Nat) : Channel := s.channels.getD (s.handles.getD h 0) .idle

def listen (s : Switchboard) (h : Nat) (listener : Option Listener) : Switchboard :=
  { s with channels := s.channels.modify (s.handles.getD h 0) (·.listen listener) }

def hasListener (s : Switchboard) (h : Nat) : Bool := (s.channel h).hasListener

def publishWith (s : Switchboard) (h : Nat) (build : Unit → Except Crash Event) : Publication :=
  (s.channel h).publishWith build

def text (s : Switchboard) (h : Nat) : String :=
  Text.record "EventEmitter" [("has_listener", Text.boolText (s.hasListener h))]

end Switchboard

end MipDispatch
