import MipDispatch.Backend.Contract

namespace MipDispatch

/-- One call of a backend. A declaration of one kind for all is one without overrides. -/
inductive Request where
  | declare (n : Nat) (kind : VarKind) (overrides : KindOverrides)
  | setObjective (o : Objective)
  | setConstraints (cs : ConstraintList)
  | addConstraint (c : Constraint)
  | tune (call : TuningCall)
  | listen (listener : Option Listener)
  | solve (s : Solution)

def Request.listener? : Request → Option (Option Listener)
  | .listen listener => some listener
  | _ => none

inductive Answer where
  | step (result : Except SolveError Unit)
  | tuned
  | solved (result : Except Failure Outcome) (solution : Solution)

structure Exchange where
  request : Request
  answer : Answer
  trace : Trace

def Exchange.Declares (x : Exchange) : Prop :=
  (∃ n kind overrides, x.request = .declare n kind overrides) ∧ x.answer = .step (.ok ())

structure Served (β : Type) where
  exchange : Exchange
  backend : β
  host : Host

structure Conversation (β : Type) where
  exchanges : List Exchange
  backend : β
  host : Host

def Conversation.calls {β : Type} (talk : Conversation β) : List Engine.Call :=
  talk.exchanges.flatMap (·.trace.calls)

namespace Backend

variable {β : Type} [Backend β]

def answerStep (request : Request) (h : Host) (s : Step β) : Served β :=
  ⟨⟨request, .step s.result, s.trace⟩, s.state, h⟩

def serve (b : β) (h : Host) (request : Request) : Served β :=
  match request with
  | .declare n kind overrides => answerStep request h (declare b n kind overrides)
  | .setObjective o => answerStep request h (setObjective b o)
  | .setConstraints cs => answerStep request h (setConstraints b cs)
  | .addConstraint c => answerStep request h (addConstraint b c)
  | .tune call => ⟨⟨request, .tuned, []⟩, tune b call, h⟩
  | .listen listener => answerStep request h (listen b listener)
  | .solve s =>
    let run := solve b h s
    ⟨⟨request, .solved run.result run.solution, run.trace⟩, run.backend, run.host⟩

def converse (b : β) (h : Host) : List Request → Conversation β
  | [] => ⟨[], b, h⟩
  | r :: rs =>
    let served := serve b h r
    let rest := converse served.backend served.host rs
    ⟨served.exchange :: rest.exchanges, rest.backend, rest.host⟩

theorem length_exchanges (b : β) (h : Host) (rs : List Request) :
    (converse b h rs).exchanges.length = rs.length := by
  induction rs generalizing b h with
  | nil => rfl
  | cons r rs ih => exact congrArg (· + 1) (ih ..)

/-- What every request keeps, every conversation keeps. -/
theorem converse_keeps {P : β → Prop} (hstep : ∀ b h r, P b → P (serve b h r).backend) {b : β}
    (hb : P b) (h : Host) (rs : List Request) : P (converse b h rs).backend := by
  induction rs generalizing b h with
  | nil => exact hb
  | cons r rs ih => exact ih (hstep b h r hb) (serve b h r).host

theorem converse_append (b : β) (h : Host) (rs rs' : List Request) :
    let first := converse b h rs
    let rest := converse first.backend first.host rs'
    converse b h (rs ++ rs') = ⟨first.exchanges ++ rest.exchanges, rest.backend, rest.host⟩ := by
  induction rs generalizing b h with
  | nil => rfl
  | cons r rs ih =>
    dsimp only at ih ⊢
    rw [List.cons_append, converse, converse, ih]
    rfl

/-- A part of a backend that only some requests change, each by itself, is in the end as these
requests make it one after the other. -/
theorem converse_foldl {γ δ : Type} {part : β → γ} {select : Request → Option δ}
    {change : γ → δ → γ}
    (hserve : ∀ b h r, part (serve b h r).backend = (select r).elim (part b) (change (part b)))
    (b : β) (h : Host) (rs : List Request) :
    part (converse b h rs).backend = (rs.filterMap select).foldl change (part b) := by
  induction rs generalizing b h with
  | nil => rfl
  | cons r rs ih =>
    change part (converse (serve b h r).backend (serve b h r).host rs).backend = _
    rw [ih, hserve]
    cases hselect : select r with
    | none => rw [List.filterMap_cons_none hselect, Option.elim_none]
    | some d => rw [List.filterMap_cons_some hselect, Option.elim_some, List.foldl_cons]

end Backend

end MipDispatch
