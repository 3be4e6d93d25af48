import MipDispatch.Event.Channel

namespace MipDispatch

/-- What a thread asks of the channel. -/
inductive ChannelOp where
  | listen (l : Option Listener)
  | ask
  /-- The event comes from a builder, which may break off. -/
  | publish (build : Except Crash Event)

/-- How far a thread has come with its current operation. -/
inductive Stage where
  | idle
  | asking
  | lockingToListen (l : Option Listener)
  | flagging (l : Option Listener)
  | replacing (l : Option Listener)
  | checking (build : Except Crash Event)
  | lockingToPublish (build : Except Crash Event)
  | looking (build : Except Crash Event)
  | building (l : Listener) (build : Except Crash Event)
  | delivering (l : Listener) (e : Event)
  | unlocking

/-- Something that can be told from outside, with the thread it happens on. -/
inductive Moment where
  | began (thread : Nat) (op : ChannelOp)
  | answered (thread : Nat) (present : Bool)
  | built (thread : Nat) (build : Except Crash Event)
  | deliveryBegan (thread : Nat) (l : Listener) (e : Event)
  | deliveryEnded (thread : Nat) (l : Listener) (e : Event)
  | ended (thread : Nat)

structure Worker where
  stage : Stage
  todo : List ChannelOp

/-- The channel with its lock, the threads, and what happened so far, the latest first. -/
structure SharedChannel where
  channel : Channel
  owner : Option Nat
  workers : List Worker
  history : List Moment

namespace SharedChannel

/-- Threads with their operations to come, on a channel that nobody holds. -/
def start (c : Channel) (programs : List (List ChannelOp)) : SharedChannel :=
  ⟨c, none, programs.map fun todo => ⟨.idle, todo⟩, []⟩

def setStage (m : SharedChannel) (t : Nat) (stage : Stage) : SharedChannel :=
  { m with workers := m.workers.modify t fun w => { w with stage } }

def note (m : SharedChannel) (x : Moment) : SharedChannel := { m with history := x :: m.history }

def firstStage : ChannelOp → Stage
  | .listen l => .lockingToListen l
  | .ask => .asking
  | .publish build => .checking build

def lock? (m : SharedChannel) (t : Nat) (next : Stage) : Option SharedChannel :=
  match m.owner with
  | none => some ({ m with owner := some t }.setStage t next)
  | some _ => none

/-- One step of a thread, unless it has nothing left to do or waits for the lock. Setting the listener
and publishing hold the lock; asking for the listener, and the first look of a publication, read the
flag without it. A builder that breaks off lets go of the lock too. -/
def step? (m : SharedChannel) (t : Nat) : Option SharedChannel :=
  match m.workers[t]? with
  | none => none
  | some w =>
    match w.stage with
    | .idle =>
      match w.todo with
      | [] => none
      | op :: todo =>
        some ({ m with workers := m.workers.set t ⟨firstStage op, todo⟩ }.note (.began t op))
    | .asking => some ((m.setStage t .idle).note (.answered t m.channel.present))
    | .lockingToListen l => m.lock? t (.flagging l)
    | .flagging l =>
      some ({ m with channel := { m.channel with present := l.isSome } }.setStage t (.replacing l))
    | .replacing l =>
      some ({ m with channel := { m.channel with listener := l } }.setStage t .unlocking)
    | .checking build =>
      if m.channel.present then some (m.setStage t (.lockingToPublish build))
      else some ((m.setStage t .idle).note (.ended t))
    | .lockingToPublish build => m.lock? t (.looking build)
    | .looking build =>
      match m.channel.listener with
      | none => some (m.setStage t .unlocking)
      | some l => some (m.setStage t (.building l build))
    | .building l build =>
      match build with
      | .error _ => some ((m.setStage t .unlocking).note (.built t build))
      | .ok e =>
        some (((m.setStage t (.delivering l e)).note (.built t build)).note (.deliveryBegan t l e))
    | .delivering l e => some ((m.setStage t .unlocking).note (.deliveryEnded t l e))
    | .unlocking => some (({ m with owner := none }.setStage t .idle).note (.ended t))

/-- Threads as they get their turns; a turn of a thread that cannot go on is lost. -/
def run (m : SharedChannel) (turns : List Nat) : SharedChannel :=
  turns.foldl (fun m t => (m.step? t).getD m) m

/-- Enough turns, dealt out in rounds, for every thread to finish. -/
def fairTurns (m : SharedChannel) : List Nat :=
  let work := m.workers.foldl (fun n w => n + w.todo.length + 1) 0
  (List.replicate (7 * work) (List.range m.workers.length)).flatten

def deliveryCount (m : SharedChannel) : Nat :=
  (m.history.filter fun | .deliveryEnded .. => true | _ => false).length

/-- Deliveries under way, and the most there ever were, after one more moment. -/
def overlap (counts : Nat × Nat) : Moment → Nat × Nat
  | .deliveryBegan .. => (counts.1 + 1, max counts.2 (counts.1 + 1))
  | .deliveryEnded .. => (counts.1 - 1, counts.2)
  | _ => counts

def mostAtOnce (m : SharedChannel) : Nat := (m.history.reverse.foldl overlap (0, 0)).2

@[simp] theorem run_append (m : SharedChannel) (xs ys : List Nat) :
    m.run (xs ++ ys) = (m.run xs).run ys := List.foldl_append ..

end SharedChannel

end MipDispatch
