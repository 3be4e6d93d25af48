import MipDispatch.Proofs.Adapter.Handover

namespace MipDispatch

namespace Exchange

/-- The rows that an exchange put in place of those before. A new problem has none. -/
def replaced? (x : Exchange) : Option ConstraintList :=
  match x.request, x.answer with
  | .setConstraints cs, .step (.ok ()) => some cs
  | .declare .., .step (.ok ()) => some []
  | _, _ => none

def added? (x : Exchange) : Option Constraint :=
  match x.request, x.answer with
  | .addConstraint c, .step (.ok ()) => some c
  | _, _ => none

def writeRows (rows : ConstraintList) (x : Exchange) : ConstraintList :=
  x.replaced?.getD (rows ++ x.added?.toList)

theorem foldl_writeRows_added (rows : ConstraintList) {xs : List Exchange}
    (hxs : ∀ x ∈ xs, x.replaced? = none) :
    xs.foldl writeRows rows = rows ++ xs.filterMap added? := by
  induction xs generalizing rows with
  | nil => exact (List.append_nil rows).symm
  | cons x xs ih =>
    obtain ⟨hx, hrest⟩ := List.forall_mem_cons.1 hxs
    rw [List.foldl_cons, ih _ hrest, writeRows, hx, Option.getD_none]
    cases hadded : x.added? with
    | none => rw [List.filterMap_cons_none hadded, Option.toList_none, List.append_nil]
    | some c =>
      rw [List.filterMap_cons_some hadded, Option.toList_some]
      exact (List.append_cons ..).symm

/-- Of what came before the last replacement nothing is left. -/
theorem foldl_writeRows_replaced {x : Exchange} {cs : ConstraintList} (hx : x.replaced? = some cs)
    (rows : ConstraintList) (before : List Exchange) {since : List Exchange}
    (hsince : ∀ y ∈ since, y.replaced? = none) :
    (before ++ x :: since).foldl writeRows rows = cs ++ since.filterMap added? := by
  rw [List.foldl_append, List.foldl_cons, writeRows, hx, Option.getD_some,
    foldl_writeRows_added cs hsince]

end Exchange

namespace Engine

structure Model.Lists (m : Model) (cs : ConstraintList) : Prop where
  rows_length : m.rows.length = cs.length
  bounds : ∀ (r : Nat) (c : Constraint), cs[r]? = some c →
    m.rows[r]? = some (c.relation.bounds c.value)
  entry : ∀ (r : Nat) (c : Constraint), cs[r]? = some c → ∀ (v : Nat) (x : Float),
    (r, x) ∈ m.matrix.slice v ↔ c.linear.contains v = true ∧ x = c.coefficient v

theorem Model.Encodes.lists {m : Model} {p : Problem} (hm : m.Encodes p) : m.Lists p.rows where
  rows_length := hm.rows_length
  bounds := hm.row
  entry := fun r c hc v x => by
    rw [hm.entry]
    constructor
    · rintro ⟨c', hc', hx⟩
      cases hc.symm.trans hc'
      exact hx
    · exact fun hx => ⟨c, hc, hx⟩

namespace Adapter

variable {a : Adapter}

def withRows (a : Adapter) (rows : ConstraintList) : Adapter :=
  { a with problem := { a.problem with rows } }

@[simp] theorem withRows_append_nil (a : Adapter) : a.withRows (a.problem.rows ++ []) = a := by
  rw [List.append_nil]
  rfl

theorem acceptsRows_iff (hdecl : a.problem.declared = true) {cs : ConstraintList} :
    a.AcceptsRows cs ↔ ∀ c ∈ cs, c.isQuadratic = false ∧ c.Within a.problem.size :=
  ⟨fun h c hc => ⟨h.linear c hc, h.within c hc⟩,
    fun h => ⟨hdecl, fun c hc => (h c hc).2, fun c hc => (h c hc).1⟩⟩

theorem acceptsRows_nil (hdecl : a.problem.declared = true) : a.AcceptsRows [] :=
  (acceptsRows_iff hdecl).2 fun _ hc => nomatch hc

theorem acceptsRows_cons {c : Constraint} {cs : ConstraintList} :
    a.AcceptsRows (c :: cs) ↔ a.AcceptsRows [c] ∧ a.AcceptsRows cs := by
  constructor
  · intro h
    obtain ⟨hin, hins⟩ := List.forall_mem_cons.1 h.within
    obtain ⟨hlin, hlins⟩ := List.forall_mem_cons.1 h.linear
    exact ⟨⟨h.declared, by simpa using hin, by simpa using hlin⟩, h.declared, hins, hlins⟩
  · rintro ⟨hc, hcs⟩
    refine ⟨hcs.declared, List.forall_mem_cons.2 ⟨?_, hcs.within⟩,
      List.forall_mem_cons.2 ⟨?_, hcs.linear⟩⟩
    · exact hc.within c (List.mem_singleton.2 rfl)
    · exact hc.linear c (List.mem_singleton.2 rfl)

/-- The rows that are there have no part in whether others are accepted. -/
theorem acceptsRows_withRows {rows cs : ConstraintList} :
    (a.withRows rows).AcceptsRows cs ↔ a.AcceptsRows cs :=
  ⟨fun h => ⟨h.declared, h.within, h.linear⟩, fun h => ⟨h.declared, h.within, h.linear⟩⟩

theorem setConstraints_accepted {cs : ConstraintList} (h : a.AcceptsRows cs) :
    a.setConstraints cs = .done (a.withRows cs) := by
  rcases a.setConstraints_cases cs with ⟨_, heq⟩ | ⟨hno, _⟩
  · exact heq
  · exact absurd h hno

theorem addConstraint_accepted {c : Constraint} (h : a.AcceptsRows [c]) :
    a.addConstraint c = .done (a.withRows (a.problem.rows ++ [c])) := by
  rcases a.addConstraint_cases c with ⟨_, heq⟩ | ⟨hno, _⟩
  · exact heq
  · exact absurd h hno

theorem setConstraints_ok_iff {cs : ConstraintList} :
    (a.setConstraints cs).result = .ok () ↔ a.AcceptsRows cs := by
  refine ⟨fun hok => ?_, fun h => by rw [setConstraints_accepted h]; rfl⟩
  rcases a.setConstraints_cases cs with ⟨h, _⟩ | ⟨_, e, heq⟩
  · exact h
  · rw [heq] at hok
    cases hok

theorem addConstraint_ok_iff {c : Constraint} :
    (a.addConstraint c).result = .ok () ↔ a.AcceptsRows [c] := by
  refine ⟨fun hok => ?_, fun h => by rw [addConstraint_accepted h]; rfl⟩
  rcases a.addConstraint_cases c with ⟨h, _⟩ | ⟨_, e, heq⟩
  · exact h
  · rw [heq] at hok
    cases hok

/-- Rows that are accepted together are accepted one by one. -/
theorem converse_adding {cs : ConstraintList} (hcs : a.AcceptsRows cs) (h : Host) :
    Backend.converse a h (cs.map .addConstraint) =
      ⟨cs.map fun c => ⟨.addConstraint c, .step (.ok ()), []⟩,
        a.withRows (a.problem.rows ++ cs), h⟩ := by
  induction cs generalizing a with
  | nil =>
    rw [withRows_append_nil]
    rfl
  | cons c cs ih =>
    obtain ⟨hc, hrest⟩ := acceptsRows_cons.1 hcs
    have hadd : Backend.addConstraint a c = .done (a.withRows (a.problem.rows ++ [c])) :=
      addConstraint_accepted hc
    -- the rest is accepted as before, although there is one row more
    have hadded := ih (a := a.withRows (a.problem.rows ++ [c])) (acceptsRows_withRows.2 hrest)
    rw [List.map_cons, Backend.converse, Backend.serve, hadd]
    dsimp only [Backend.answerStep, Step.done]
    rw [hadded, List.append_cons a.problem.rows c cs]
    rfl

/-- Rows that are accepted one by one are accepted together. -/
theorem acceptsRows_of_adding (hdecl : a.problem.declared = true) {cs : ConstraintList} {h : Host}
    (hall : ∀ x ∈ (Backend.converse a h (cs.map .addConstraint)).exchanges,
      x.answer = .step (.ok ())) : a.AcceptsRows cs := by
  induction cs generalizing a with
  | nil => exact acceptsRows_nil hdecl
  | cons c cs ih =>
    obtain ⟨hfirst, hrest⟩ := List.forall_mem_cons.1 hall
    have hc : a.AcceptsRows [c] := addConstraint_ok_iff.1 (Answer.step.inj hfirst)
    have hadd : (Backend.serve a h (.addConstraint c)).backend =
        a.withRows (a.problem.rows ++ [c]) :=
      congrArg Step.state (addConstraint_accepted hc)
    rw [hadd] at hrest
    have hcs := ih (a := a.withRows (a.problem.rows ++ [c])) hdecl hrest
    exact acceptsRows_cons.2 ⟨hc, acceptsRows_withRows.1 hcs⟩

theorem serve_rows (a : Adapter) (h : Host) (r : Request) :
    (Backend.serve a h r).backend.problem.rows =
      (Backend.serve a h r).exchange.writeRows a.problem.rows := by
  -- A refused request, and one that has nothing to do with rows, leaves the rows alone.
  have hkept {x : Exchange} (hreplaced : x.replaced? = none) (hadded : x.added? = none) :
      x.writeRows a.problem.rows = a.problem.rows := by
    rw [Exchange.writeRows, hreplaced, hadded]
    exact List.append_nil _
  cases r with
  | declare n kind overrides =>
    dsimp only [Backend.serve, Backend.answerStep, Backend.declare, declare]
    rcases a.problem.declare_cases n kind overrides with ⟨_, heq⟩ | ⟨_, _, _, heq⟩
    · rw [heq]
      rfl
    · rw [heq]
      exact (hkept rfl rfl).symm
  | setObjective o =>
    have hobjective : (a.setObjective o).state.problem.rows = a.problem.rows := by
      rcases a.setObjective_cases o with ⟨_, heq⟩ | ⟨_, _, heq⟩ <;> rw [heq] <;> rfl
    exact hobjective.trans (hkept rfl rfl).symm
  | setConstraints cs =>
    dsimp only [Backend.serve, Backend.answerStep, Backend.setConstraints]
    rcases a.setConstraints_cases cs with ⟨_, heq⟩ | ⟨_, _, heq⟩
    · rw [heq]
      rfl
    · rw [heq]
      exact (hkept rfl rfl).symm
  | addConstraint c =>
    dsimp only [Backend.serve, Backend.answerStep, Backend.addConstraint]
    rcases a.addConstraint_cases c with ⟨_, heq⟩ | ⟨_, _, heq⟩
    · rw [heq]
      rfl
    · rw [heq]
      exact (hkept rfl rfl).symm
  | tune call => exact (hkept rfl rfl).symm
  | listen listener => exact (hkept rfl rfl).symm
  | solve s =>
    have hsolve : (a.solve h s).backend.problem.rows = a.problem.rows := by rw [solve_backend]
    exact hsolve.trans (hkept rfl rfl).symm

theorem converse_rows (a : Adapter) (h : Host) (rs : List Request) :
    let talk := Backend.converse a h rs
    talk.backend.problem.rows = talk.exchanges.foldl Exchange.writeRows a.problem.rows := by
  induction rs generalizing a h with
  | nil => rfl
  | cons r rs ih =>
    dsimp only at ih ⊢
    rw [Backend.converse]
    dsimp only
    rw [ih, serve_rows]
    rfl

/-- A solve hands over the rows as they are staged, if it gets to hand over a model. -/
theorem models_list_rows (hp : a.problem.Staged) (hdecl : a.problem.declared = true) (h : Host)
    (s : Solution) :
    let models := (a.solve h s).trace.calls.filterMap Call.model?
    (∀ m ∈ models, m.Lists a.problem.rows) ∧
      (quiet.any h.reply.refuses = false → models.length = 1) := by
  dsimp only
  rw [models_solve hdecl]
  constructor
  · intro m hm
    split at hm
    · cases hm
    · rw [List.mem_singleton.1 hm]
      exact (Problem.toModel_encodes hp).lists
  · intro hquiet
    rw [hquiet]
    rfl

/-- Once a problem is declared, rows are accepted together just if each of them is linear and
mentions declared variables only, which is when they are accepted one by one. Together they take the
place of the rows before, as if these had been cleared first, and one by one they are put after
them. So after any calls the rows, and those of a model that is handed to the engine, are the rows
of the last call that replaced them with the rows that were added since, whatever was refused. -/
theorem rows_together_or_one_by_one (h₀ : Host) (past : List Request)
    (hdecl : (after h₀ past).problem.declared = true) :
    let a := after h₀ past
    (∀ (cs : ConstraintList) (h : Host),
      ((a.setConstraints cs).result = .ok () ↔
        ∀ c ∈ cs, c.isQuadratic = false ∧ c.Within a.problem.size) ∧
      ((a.setConstraints cs).result = .ok () ↔
        ∀ x ∈ (Backend.converse a h (cs.map .addConstraint)).exchanges,
          x.answer = .step (.ok ())) ∧
      ((a.setConstraints cs).result = .ok () →
        (a.setConstraints cs).state = a.withRows cs ∧
        (∀ rows, (a.withRows rows).setConstraints cs = a.setConstraints cs) ∧
        (a.setConstraints cs).state =
          (Backend.converse a h (.setConstraints [] :: cs.map .addConstraint)).backend)) ∧
    (∀ c : Constraint, (a.addConstraint c).result = .ok () →
      (a.addConstraint c).state = a.withRows (a.problem.rows ++ [c])) ∧
    ∀ (h : Host) (rs : List Request),
      let talk := Backend.converse a h rs
      let rows := talk.backend.problem.rows
      (∀ (before : List Exchange) (x : Exchange) (since : List Exchange) (cs : ConstraintList),
        talk.exchanges = before ++ x :: since → x.replaced? = some cs →
        (∀ y ∈ since, y.replaced? = none) → rows = cs ++ since.filterMap Exchange.added?) ∧
      ((∀ y ∈ talk.exchanges, y.replaced? = none) →
        rows = a.problem.rows ++ talk.exchanges.filterMap Exchange.added?) ∧
      ∀ (h' : Host) (s : Solution),
        let models := (talk.backend.solve h' s).trace.calls.filterMap Call.model?
        (∀ m ∈ models, m.Lists rows) ∧
          (quiet.any h'.reply.refuses = false → models.length = 1) := by
  intro a
  refine ⟨fun cs h => ⟨?_, ?_, fun hok => ?_⟩, fun c hok => ?_, ?_⟩
  · rw [setConstraints_ok_iff, acceptsRows_iff hdecl]
  · rw [setConstraints_ok_iff]
    refine ⟨fun hcs => ?_, acceptsRows_of_adding hdecl⟩
    rw [converse_adding hcs]
    exact List.forall_mem_map.2 fun _ _ => rfl
  · have hcs := setConstraints_ok_iff.1 hok
    -- Clearing the rows first makes the single additions start where the batch does.
    have hclear : Backend.setConstraints a [] = .done (a.withRows []) :=
      setConstraints_accepted (acceptsRows_nil hdecl)
    rw [setConstraints_accepted hcs]
    refine ⟨rfl, fun rows => ?_, ?_⟩
    · rw [setConstraints_accepted (acceptsRows_withRows.2 hcs)]
      rfl
    · rw [Backend.converse, Backend.serve, hclear]
      dsimp only [Backend.answerStep, Step.done]
      rw [converse_adding (acceptsRows_withRows.2 hcs)]
      rfl
  · rw [addConstraint_accepted (addConstraint_ok_iff.1 hok)]
    rfl
  · intro h rs talk rows
    have hrows : rows = talk.exchanges.foldl Exchange.writeRows a.problem.rows :=
      converse_rows a h rs
    have hstaged : talk.backend.problem.Staged :=
      Backend.converse_keeps serve_staged (after_staged h₀ past) h rs
    have hdecl' : talk.backend.problem.declared = true := (converse_declared a h rs).2 (.inl hdecl)
    refine ⟨fun before x since cs hsplit hx hsince => ?_, fun hnone => ?_,
      models_list_rows hstaged hdecl'⟩
    · rw [hrows, hsplit, Exchange.foldl_writeRows_replaced hx _ _ hsince]
    · rw [hrows, Exchange.foldl_writeRows_added _ hnone]

/-- A row and a list of rows are refused among others that are put in, so the model has two rows. -/
theorem rows_together_or_one_by_one_refused :
    let h : Host := ⟨none, [], 0⟩
    let row (v : Nat) : Constraint := Constraint.empty.setLinear v 1
    let past : List Request := [.declare 2 .integer ∅, .addConstraint (row 1)]
    let a := after h past
    let rs : List Request := [.setConstraints [row 0], .addConstraint (row 2),
      .addConstraint (row 1), .setConstraints [row 1, row 5]]
    let talk := Backend.converse a h rs
    let since := talk.exchanges.tail
    let models := (talk.backend.solve h default).trace.calls.filterMap Call.model?
    a.problem.declared = true ∧ (a.setConstraints [row 0]).state = a.withRows [row 0] ∧
      (a.addConstraint (row 1)).state = a.withRows (a.problem.rows ++ [row 1]) ∧
      talk.backend.problem.rows = row 0 :: since.filterMap Exchange.added? ∧
      since.map (·.added?.isSome) = [false, true, false] ∧ models.length = 1 ∧
      ∀ m ∈ models, m.rows.length = talk.backend.problem.rows.length := by
  intro h row past a rs
  have hdecl : a.problem.declared = true := by decide +kernel
  have hset : (a.setConstraints [row 0]).result = .ok () := by decide +kernel
  have hadd : (a.addConstraint (row 1)).result = .ok () := by decide +kernel
  have hsince : ((Backend.converse a h rs).exchanges.tail.all (·.replaced?.isNone)) = true := by
    decide +kernel
  have hadds : (Backend.converse a h rs).exchanges.tail.map (·.added?.isSome) =
      [false, true, false] := by decide +kernel
  have hfirst :
      (Backend.serve a h (.setConstraints [row 0])).exchange.replaced? = some [row 0] := by
    dsimp only [Backend.serve, Backend.answerStep, Backend.setConstraints]
    rw [hset]
    rfl
  have hsplit : (Backend.converse a h rs).exchanges =
      [] ++ (Backend.serve a h (.setConstraints [row 0])).exchange ::
        (Backend.converse a h rs).exchanges.tail := rfl
  obtain ⟨htogether, hadded, hhistory⟩ := rows_together_or_one_by_one h past hdecl
  have hrun := hhistory h rs
  -- what the conversation comes to is known by now and need not be computed again
  generalize Backend.converse a h rs = talk at hrun hsince hadds hsplit ⊢
  obtain ⟨hreplaced, -, hmodels⟩ := hrun
  obtain ⟨hlists, hone⟩ := hmodels h default
  refine ⟨hdecl, ((htogether [row 0] h).2.2 hset).1, hadded (row 1) hadd, ?_, hadds, hone rfl,
    fun m hm => (hlists m hm).rows_length⟩
  refine hreplaced [] _ talk.exchanges.tail [row 0] hsplit hfirst fun y hy => ?_
  exact Option.isNone_iff_eq_none.1 (List.all_eq_true.1 hsince y hy)

end Adapter

end Engine

end MipDispatch
