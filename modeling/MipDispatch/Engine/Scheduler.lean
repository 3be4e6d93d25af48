import MipDispatch.Backend.Contract
import MipDispatch.Text.Basic

namespace MipDispatch

namespace Engine

def word : String := "highs"

def threadsText (threads : Option Nat) : String :=
  Text.optionText (threads.map Decimal.natText)

def restartRecord (previous threads : Option Nat) : Log.Record where
  source := .engine
  level := .debug
  message := "Restarting HiGHS scheduler"
  fields := [("component", .text "solver"), ("backend", .text word),
    ("operation", .text "reset_scheduler"), ("previous", .text (threadsText previous)),
    ("threads", .text (threadsText threads))]

end Engine

namespace Host

/-- Hold the pool of worker threads, which the whole process shares, at a thread setting. The engine
refuses to run with another setting than the pool was started with, so a change restarts it. -/
def holdScheduler (h : Host) (threads : Option Nat) : Trace × Host :=
  let held := { h with scheduler := some threads }
  match h.scheduler with
  | none => ([], held)
  | some previous =>
    if previous = threads then ([], held)
    else ([.logged (Engine.restartRecord previous threads), .called .resetScheduler], held)

@[simp] theorem holdScheduler_scheduler (h : Host) (threads : Option Nat) :
    (h.holdScheduler threads).2.scheduler = some threads := by
  unfold holdScheduler; split <;> (try split) <;> rfl

end Host

end MipDispatch
