import MipDispatch.Proofs.Adapter.Steps
import MipDispatch.Proofs.Backend.Requests
import MipDispatch.Proofs.Engine.Encoding
import MipDispatch.Proofs.Engine.Hessian

namespace MipDispatch.Engine.Adapter

/-- The backend after requests made of a new one. -/
def after (h : Host) (rs : List Request) : Adapter := (Backend.converse fresh h rs).backend

variable {a : Adapter}

/-- A request declares a new problem, or it leaves the problem as it was, or it puts a new objective
or new rows into a problem that was declared before. -/
theorem serve_cases (a : Adapter) (h : Host) (r : Request) :
    let served := Backend.serve a h r
    (served.exchange.Declares ∧ ∃ n kind overrides,
      served.backend.problem = ⟨Problem.kindsOf n kind overrides, .zero n, [], true⟩) ∨
    ¬ served.exchange.Declares ∧ (served.backend.problem = a.problem ∨
      (∃ o, a.AcceptsObjective o ∧
        served.backend.problem = { a.problem with objective := o.grow a.problem.size }) ∨
      ∃ added cs, a.AcceptsRows added ∧ (∀ c ∈ cs, c ∈ a.problem.rows ∨ c ∈ added) ∧
        served.backend.problem = { a.problem with rows := cs }) := by
  have hother {x : Exchange} (hx : ∀ n kind overrides, x.request ≠ .declare n kind overrides) :
      ¬ x.Declares := fun hd => by
    obtain ⟨⟨n, kind, overrides, heq⟩, _⟩ := hd
    exact hx n kind overrides heq
  -- Each change has two cases, carried out and refused; what is refused leaves the problem as it
  -- was.
  cases r with
  | declare n kind overrides =>
    dsimp only [Backend.serve, Backend.answerStep, Backend.declare, declare]
    rcases a.problem.declare_cases n kind overrides with ⟨_, heq⟩ | ⟨_, _, _, heq⟩
    · rw [heq]
      exact .inl ⟨⟨⟨n, kind, overrides, rfl⟩, rfl⟩, n, kind, overrides, rfl⟩
    · rw [heq]
      refine .inr ⟨fun hd => ?_, .inl rfl⟩
      cases hd.2
  | setObjective o =>
    refine .inr ⟨hother (by intro _ _ _ heq; cases heq), ?_⟩
    change (a.setObjective o).state.problem = _ ∨ _ ∨ _
    rcases a.setObjective_cases o with ⟨hok, heq⟩ | ⟨_, _, heq⟩
    · exact .inr (.inl ⟨o, hok, congrArg (·.state.problem) heq⟩)
    · exact .inl (congrArg (·.state.problem) heq)
  | setConstraints cs =>
    refine .inr ⟨hother (by intro _ _ _ heq; cases heq), ?_⟩
    change (a.setConstraints cs).state.problem = _ ∨ _ ∨ _
    rcases a.setConstraints_cases cs with ⟨hok, heq⟩ | ⟨_, _, heq⟩
    · exact .inr (.inr ⟨cs, cs, hok, fun c hc => .inr hc, congrArg (·.state.problem) heq⟩)
    · exact .inl (congrArg (·.state.problem) heq)
  | addConstraint c =>
    refine .inr ⟨hother (by intro _ _ _ heq; cases heq), ?_⟩
    change (a.addConstraint c).state.problem = _ ∨ _ ∨ _
    rcases a.addConstraint_cases c with ⟨hok, heq⟩ | ⟨_, _, heq⟩
    · refine .inr (.inr ⟨[c], a.problem.rows ++ [c], hok, ?_, congrArg (·.state.problem) heq⟩)
      exact fun c' hc' => List.mem_append.1 hc'
    · exact .inl (congrArg (·.state.problem) heq)
  | tune call => exact .inr ⟨hother (by intro _ _ _ heq; cases heq), .inl rfl⟩
  | listen listener => exact .inr ⟨hother (by intro _ _ _ heq; cases heq), .inl rfl⟩
  | solve s =>
    refine .inr ⟨hother (by intro _ _ _ heq; cases heq), .inl ?_⟩
    exact congrArg Adapter.problem (a.solve_backend h s)

theorem serve_staged (a : Adapter) (h : Host) (r : Request) (ha : a.problem.Staged) :
    (Backend.serve a h r).backend.problem.Staged := by
  rcases serve_cases a h r with ⟨_, n, kind, overrides, heq⟩ | ⟨_, hkept⟩
  · rw [heq]
    exact Problem.declared_staged n kind overrides
  rcases hkept with heq | ⟨o, hok, heq⟩ | ⟨added, cs, hok, hrows, heq⟩
  · rw [heq]
    exact ha
  · rw [heq]
    exact ha.withObjective hok.declared hok.within hok.continuous
  · rw [heq]
    apply ha.withRows hok.declared
    · intro c hc
      exact (hrows c hc).elim (ha.rows_within c) (hok.within c)
    · intro c hc
      exact (hrows c hc).elim (ha.rows_linear c) (hok.linear c)

theorem after_staged (h : Host) (rs : List Request) : (after h rs).problem.Staged :=
  Backend.converse_keeps serve_staged Problem.empty_staged h rs

/-- Only a declaration that is carried out begins a problem, and nothing ends one. -/
theorem serve_declared (a : Adapter) (h : Host) (r : Request) :
    (Backend.serve a h r).backend.problem.declared = true ↔
      a.problem.declared = true ∨ (Backend.serve a h r).exchange.Declares := by
  rcases serve_cases a h r with ⟨hd, n, kind, overrides, heq⟩ | ⟨hd, hkept⟩
  · rw [heq]
    exact iff_of_true rfl (.inr hd)
  · rw [or_iff_left hd]
    rcases hkept with heq | ⟨o, _, heq⟩ | ⟨added, cs, _, _, heq⟩ <;> rw [heq]

theorem converse_declared (a : Adapter) (h : Host) (rs : List Request) :
    (Backend.converse a h rs).backend.problem.declared = true ↔
      a.problem.declared = true ∨ ∃ x ∈ (Backend.converse a h rs).exchanges, x.Declares := by
  induction rs generalizing a h with
  | nil => simp [Backend.converse]
  | cons r rs ih =>
    change (Backend.converse (Backend.serve a h r).backend (Backend.serve a h r).host
      rs).backend.problem.declared = true ↔ _
    rw [ih, serve_declared, or_assoc]
    simp [Backend.converse]

/-- Whatever was requested: only declared variables are referred to, no row has products, products
in the objective and integral variables exclude each other, no zero is stored, and before the first
declaration there is nothing. So every row entry has a column and every product a place in the
lower triangle. -/
theorem converse_invariant (h : Host) (rs : List Request) :
    let talk := Backend.converse fresh h rs
    let p := talk.backend.problem
    let begun := ∃ x ∈ talk.exchanges, x.Declares
    ((∀ c ∈ p.rows, c.Within p.size) ∧ p.objective.Within p.size ∧
      (begun → p.size ≤ p.objective.size)) ∧
    (∀ c ∈ p.rows, c.isQuadratic = false) ∧
    (p.objective.isQuadratic = true → ∀ k ∈ p.kinds, k ≠ .integer ∧ k ≠ .binary) ∧
    ((∀ c ∈ p.rows, c.Canonical) ∧ p.objective.Canonical) ∧
    (¬ begun → p.kinds = [] ∧ p.rows = [] ∧ p.objective = .zero 0) ∧
    (∀ c ∈ p.rows, ∀ v ∈ c.linear.keys, v < p.toModel.columns.length) ∧
    (QuadraticTerms.hessianColumns p.size p.objective.quadratic).flatten.length =
      p.objective.quadratic.size := by
  intro talk p begun
  have hp : p.Staged := after_staged h rs
  -- a new backend has nothing declared, so what is declared was declared by a request
  have hbegun : p.declared = true ↔ begun := by
    rw [converse_declared fresh h rs]
    exact or_iff_right fun hd => by cases hd
  refine ⟨⟨hp.rows_within, hp.objective_within, fun hb => hp.covered (hbegun.2 hb)⟩,
    hp.rows_linear, ?_, ⟨hp.rows_canonical, hp.objective_canonical⟩, ?_, ?_, ?_⟩
  · intro hq k hk
    rw [hp.continuous_of_quadratic hq k hk]
    exact ⟨by decide, by decide⟩
  · intro hb
    have hno : p.declared = false := Bool.eq_false_iff.2 fun hd => hb (hbegun.1 hd)
    rw [hp.empty_of_undeclared hno]
    exact ⟨rfl, rfl, rfl⟩
  · intro c hc v hv
    rw [(Problem.toModel_encodes hp).columns_length]
    exact (hp.rows_within c hc).1 v hv
  · rw [QuadraticTerms.hessianColumns_flatten fun q hq => (hp.objective_within.2 q hq).1,
      List.length_map]
    rfl

end MipDispatch.Engine.Adapter
