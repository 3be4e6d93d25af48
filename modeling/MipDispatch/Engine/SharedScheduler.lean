import MipDispatch.Engine.Scheduler

namespace MipDispatch.Engine

/-- A solve to come: its thread setting, and whether the engine's run will succeed. -/
structure Job where
  threads : Option Nat
  succeeds : Bool
  deriving DecidableEq

/-- How far a solver has come with its current solve. -/
inductive Progress where
  | idle
  | lockingToRead (job : Job)
  | comparing (job : Job)
  | releasing (job : Job)
  | lockingToWrite (job : Job)
  | rechecking (job : Job)
  | restarting (job : Job)
  | storing (job : Job)
  | downgrading (job : Job)
  | ready (job : Job)
  | running (job : Job)
  | unlocking (job : Job)
  deriving DecidableEq

inductive SolveMoment where
  | restarted (solver : Nat)
  | runBegan (solver : Nat) (threads : Option Nat)
  | runEnded (solver : Nat) (succeeded : Bool)
  | returned (solver : Nat) (succeeded : Bool)
  deriving DecidableEq

structure Solver where
  progress : Progress
  todo : List Job

/-- The setting that the worker threads were started with, who holds it, the solvers, and what
happened so far, the latest first. -/
structure SharedScheduler where
  setting : Option (Option Nat)
  readers : List Nat
  writer : Option Nat
  solvers : List Solver
  history : List SolveMoment

namespace SharedScheduler

def start (setting : Option (Option Nat)) (programs : List (List Job)) : SharedScheduler :=
  ⟨setting, [], none, programs.map fun todo => ⟨.idle, todo⟩, []⟩

def advance (m : SharedScheduler) (t : Nat) (progress : Progress) : SharedScheduler :=
  { m with solvers := m.solvers.modify t fun s => { s with progress } }

def note (m : SharedScheduler) (x : SolveMoment) : SharedScheduler :=
  { m with history := x :: m.history }

def lockToRead? (m : SharedScheduler) (t : Nat) : Option SharedScheduler :=
  if m.writer.isNone then some { m with readers := t :: m.readers } else none

def lockToWrite? (m : SharedScheduler) (t : Nat) : Option SharedScheduler :=
  if m.writer.isNone && m.readers.isEmpty then some { m with writer := some t } else none

def unlockRead (m : SharedScheduler) (t : Nat) : SharedScheduler :=
  { m with readers := m.readers.erase t }

/-- From writing to reading, with nobody in between. -/
def downgrade (m : SharedScheduler) (t : Nat) : SharedScheduler :=
  { m with writer := none, readers := t :: m.readers }

def needsRestart (m : SharedScheduler) (job : Job) : Bool :=
  match m.setting with
  | none => false
  | some previous => previous ≠ job.threads

/-- One step of a solver, unless it has nothing left to do or waits for the setting. A solve has the
setting for reading while the engine runs. One with another setting waits until it has the setting
for itself alone, changes it, and then reads on without letting go. -/
def step? (m : SharedScheduler) (t : Nat) : Option SharedScheduler :=
  match m.solvers[t]? with
  | none => none
  | some s =>
    match s.progress with
    | .idle =>
      match s.todo with
      | [] => none
      | job :: todo => some { m with solvers := m.solvers.set t ⟨.lockingToRead job, todo⟩ }
    | .lockingToRead job => (m.lockToRead? t).map (·.advance t (.comparing job))
    | .comparing job =>
      some (m.advance t (if m.setting = some job.threads then .ready job else .releasing job))
    | .releasing job => some ((m.unlockRead t).advance t (.lockingToWrite job))
    | .lockingToWrite job => (m.lockToWrite? t).map (·.advance t (.rechecking job))
    | .rechecking job =>
      some (m.advance t (if m.needsRestart job then .restarting job else .storing job))
    | .restarting job => some ((m.advance t (.storing job)).note (.restarted t))
    | .storing job => some ({ m with setting := some job.threads }.advance t (.downgrading job))
    | .downgrading job => some ((m.downgrade t).advance t (.ready job))
    | .ready job => some ((m.advance t (.running job)).note (.runBegan t job.threads))
    | .running job => some ((m.advance t (.unlocking job)).note (.runEnded t job.succeeds))
    | .unlocking job => some (((m.unlockRead t).advance t .idle).note (.returned t job.succeeds))

/-- Solvers as they get their turns; a turn of a solver that cannot go on is lost. -/
def run (m : SharedScheduler) (turns : List Nat) : SharedScheduler :=
  turns.foldl (fun m t => (m.step? t).getD m) m

def runningJobs (m : SharedScheduler) : List Job :=
  m.solvers.filterMap fun s => match s.progress with
    | .running job => some job
    | _ => none

def restartCount (m : SharedScheduler) : Nat :=
  (m.history.filter fun | .restarted _ => true | _ => false).length

@[simp] theorem run_append (m : SharedScheduler) (xs ys : List Nat) :
    m.run (xs ++ ys) = (m.run xs).run ys := List.foldl_append ..

end SharedScheduler

end MipDispatch.Engine
