import MipDispatch.Proofs.Dialogue
import MipDispatch.Session

namespace MipDispatch.Session

inductive Request where
  | redeclare (d : Declaration)
  | configure (c : Config)
  | setObjective (o : Objective)
  | setConstraints (cs : ConstraintList)
  | addConstraint (c : Constraint)
  | tune (call : TuningCall)
  | listen (listener : Option Listener)
  | solve

inductive Answer where
  | step (result : Except SolveError Unit)
  | tuned
  | solved (result : Except Failure Report)

structure Exchange where
  request : Request
  answer : Answer
  trace : Trace

variable {β : Type}

def answerStep (request : Request) (h : Host) (s : Step (Session β)) :
    Exchange × Session β × Host :=
  (⟨request, .step s.result, s.trace⟩, s.state, h)

variable [Backend β]

def serve (t : Session β × Host) (request : Request) : Exchange × Session β × Host :=
  match request with
  | .redeclare d => answerStep request t.2 (t.1.redeclare d)
  | .configure c => (⟨request, .tuned, []⟩, t.1.configure c, t.2)
  | .setObjective o => answerStep request t.2 (t.1.setObjective o)
  | .setConstraints cs => answerStep request t.2 (t.1.setConstraints cs)
  | .addConstraint c => answerStep request t.2 (t.1.addConstraint c)
  | .tune call => (⟨request, .tuned, []⟩, t.1.tune call, t.2)
  | .listen listener => answerStep request t.2 (t.1.listen listener)
  | .solve =>
    let run := t.1.solve t.2
    (⟨request, .solved run.result, run.trace⟩, run.session, run.host)

theorem serve_request (t : Session β × Host) (r : Request) : (serve t r).1.request = r := by
  cases r <;> rfl

end MipDispatch.Session
