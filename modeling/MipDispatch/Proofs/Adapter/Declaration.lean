import MipDispatch.Proofs.Adapter.Parts

namespace MipDispatch

/-- A request that a new solver can be given before anything is declared. -/
def Request.isSetting (r : Request) : Bool := r.tuning?.isSome || r.listener?.isSome

structure Problem.Blank (p : Problem) (n : Nat) (kind : VarKind) (overrides : KindOverrides) :
    Prop where
  declared : p.declared = true
  size : p.size = n
  kinds : ∀ v < n, p.kinds[v]? = some ((overrides.get? v).getD kind)
  sense : p.objective.sense = .minimize
  constant : p.objective.constant = 0
  covered : p.objective.size = n
  coefficients : ∀ v, p.objective.coefficient v = 0
  linear : p.objective.quadratic = ∅
  rows : p.rows = []

namespace Problem

theorem declared_blank (n : Nat) (kind : VarKind) (overrides : KindOverrides) :
    Blank ⟨kindsOf n kind overrides, .zero n, [], true⟩ n kind overrides where
  declared := rfl
  size := by simp [size, kindsOf]
  kinds := fun v hv => by simp [kindsOf, hv]
  sense := rfl
  constant := rfl
  covered := Objective.size_zero n
  coefficients := fun v => by
    rcases Nat.lt_or_ge v n with hv | hv <;> simp [Objective.coefficient, Objective.zero, hv]
  linear := rfl
  rows := rfl

end Problem

namespace Engine.Adapter

variable {a b : Adapter} {n : Nat} {kind : VarKind} {overrides : KindOverrides}

def renewed (a : Adapter) (n : Nat) (kind : VarKind) (overrides : KindOverrides) : Adapter :=
  { a with problem := ⟨Problem.kindsOf n kind overrides, .zero n, [], true⟩ }

theorem declare_accepted (hkeys : ∀ v ∈ overrides.keys, v < n) (a : Adapter) :
    a.declare n kind overrides = ⟨.ok (), a.renewed n kind overrides,
      [.logged (declaredRecord (a.renewed n kind overrides).problem)]⟩ := by
  have hnone : overrides.keys.find? (n ≤ ·) = none := by
    rw [List.find?_eq_none]
    exact fun v hv => by simpa using hkeys v hv
  unfold declare Problem.declare
  rw [hnone]
  rfl

theorem declare_refused {v : Nat} (hfind : overrides.keys.find? (n ≤ ·) = some v) (a : Adapter)
    (kind : VarKind) :
    a.declare n kind overrides = .refuse (.invalidProblem (.overrideOutOfRange v n)) a := by
  unfold declare Problem.declare
  rw [hfind]
  rfl

theorem declare_result_iff :
    (a.declare n kind overrides).result = .ok () ↔ ∀ v ∈ overrides.keys, v < n := by
  refine ⟨fun hok v hv => ?_, fun hkeys => by rw [declare_accepted hkeys]⟩
  cases hfind : overrides.keys.find? (n ≤ ·) with
  | none => simpa using List.find?_eq_none.1 hfind v hv
  | some w =>
    rw [declare_refused hfind] at hok
    cases hok

/-- Backends that differ in their problems only do not differ once they have declared one. -/
theorem declare_forgets (hkeys : ∀ v ∈ overrides.keys, v < n) (htuning : a.tuning = b.tuning)
    (hchannel : a.channel = b.channel) :
    a.declare n kind overrides = b.declare n kind overrides := by
  have hsame : a.renewed n kind overrides = b.renewed n kind overrides := by
    rw [renewed, htuning, hchannel]
    rfl
  rw [declare_accepted hkeys, declare_accepted hkeys, hsame]

theorem channel_eq_of_listener (ha : a.channel.Consistent) (hb : b.channel.Consistent)
    (h : a.channel.listener = b.channel.listener) : a.channel = b.channel := by
  have hpresent : a.channel.present = b.channel.present := ha.trans ((congrArg _ h).trans hb.symm)
  cases hac : a.channel
  cases hbc : b.channel
  simp_all

/-- A new backend that is given the settings and listeners of another one has them in the end. -/
theorem after_settings (h h₁ : Host) (past : List Request) :
    let a := after h past
    let b := after h₁ (past.filter Request.isSetting)
    b.problem = .empty ∧ b.tuning = a.tuning ∧ b.channel.listener = a.channel.listener := by
  have hstaging : (past.filter Request.isSetting).filterMap Request.staging? = [] := by
    rw [List.filterMap_eq_nil_iff]
    intro r hr
    have hsetting := List.of_mem_filter hr
    cases r <;> first | rfl | cases hsetting
  have hselect {α : Type} {select : Request → Option α}
      (hs : ∀ r, (select r).isSome → r.isSetting) :
      (past.filter Request.isSetting).filterMap select = past.filterMap select := by
    rw [List.filterMap_filter]
    refine List.filterMap_congr fun r _ => ?_
    cases hr : select r with
    | none => simp
    | some x => simp [hs r (by simp [hr])]
  refine ⟨?_, ?_, ?_⟩
  · rw [after, converse_problem, hstaging]
    rfl
  · rw [after_tuning, after_tuning, hselect fun r hr => by simp [Request.isSetting, hr]]
  · rw [after, after, converse_listening, converse_listening,
      hselect fun r hr => by simp [Request.isSetting, hr]]

/-- A declaration is carried out if it has no overrides for variables that it does not declare, and
else it names the least of these. The problem is then that of a new solver: so all that is requested
from then on is answered, and told to listener and engine, as on any solver of the same settings and
listener, be it a new one that was only given these. A refused declaration leaves everything as it
was. -/
theorem declare_starts_over (h₀ : Host) (past : List Request) (n : Nat) (kind : VarKind)
    (overrides : KindOverrides) :
    let a := after h₀ past
    let step := a.declare n kind overrides
    (step.result = .ok () ↔ ∀ v ∈ overrides.keys, v < n) ∧
    (step.result = .ok () →
      (step.state.problem = (fresh.declare n kind overrides).state.problem ∧
        step.state.problem.Blank n kind overrides) ∧
      (step.state.tuning = a.tuning ∧ step.state.channel = a.channel) ∧
      ∀ (h₁ : Host) (other : List Request),
        let b := after h₁ other
        b.tuning = a.tuning → b.channel.listener = a.channel.listener →
        ∀ (h : Host) (later : List Request),
          Backend.converse a h (.declare n kind overrides :: later) =
            Backend.converse b h (.declare n kind overrides :: later)) ∧
    (∀ h₁ : Host,
      let b := after h₁ (past.filter Request.isSetting)
      b.problem = .empty ∧ b.tuning = a.tuning ∧ b.channel.listener = a.channel.listener) ∧
    ∀ e, step.result = .error e → ∃ v ∈ overrides.keys, n ≤ v ∧
      (∀ w ∈ overrides.keys, n ≤ w → v ≤ w) ∧
      e = .invalidProblem (.overrideOutOfRange v n) ∧ step = .refuse e a := by
  intro a step
  refine ⟨declare_result_iff, fun hok => ?_, fun h₁ => after_settings h₀ h₁ past, fun e he => ?_⟩
  · have hkeys := declare_result_iff.1 hok
    have hstep : step.state = a.renewed n kind overrides :=
      congrArg Step.state (declare_accepted hkeys a)
    rw [hstep, declare_accepted hkeys fresh]
    refine ⟨⟨rfl, Problem.declared_blank n kind overrides⟩, ⟨rfl, rfl⟩, ?_⟩
    intro h₁ other b htuning hlistener h later
    -- whether there is a listener is kept apart from the listener, but never disagrees with it
    have hchannel : b.channel = a.channel :=
      channel_eq_of_listener (after_consistent h₁ other) (after_consistent h₀ past) hlistener
    have hsame : Backend.declare a n kind overrides = Backend.declare b n kind overrides :=
      (declare_forgets hkeys htuning hchannel).symm
    rw [Backend.converse, Backend.converse, Backend.serve, Backend.serve, hsame]
  · cases hfind : overrides.keys.find? (n ≤ ·) with
    | none =>
      have hkeys : ∀ v ∈ overrides.keys, v < n := fun v hv => by
        simpa using List.find?_eq_none.1 hfind v hv
      rw [declare_result_iff.2 hkeys] at he
      cases he
    | some v =>
      obtain ⟨hmem, hv, hleast⟩ := SortedMap.keys_find?_least hfind
      have hrefused := declare_refused hfind a kind
      have herror : e = .invalidProblem (.overrideOutOfRange v n) :=
        Except.error.inj (he.symm.trans (congrArg Step.result hrefused))
      exact ⟨v, hmem, hv, hleast, herror, herror ▸ hrefused⟩

/-- Nothing of the row and the product of a problem of three variables is left in one of two. Of two
kinds for variables that are not declared, the one for the lesser variable is complained of. -/
theorem declare_starts_over_shrinking :
    let h : Host := ⟨none, [], 0⟩
    let past : List Request := [.tune (.threads 2), .listen (some (.recorder "log")),
      .declare 3 .continuous ∅, .setObjective ((Objective.zero 3).setQuadratic 0 2 1),
      .addConstraint (Constraint.empty.setLinear 2 1)]
    let a := after h past
    let one : KindOverrides := .ofList [(1, .binary)]
    let many : KindOverrides := .ofList [(5, .binary), (1, .binary), (2, .integer)]
    (a.problem.objective.isQuadratic = true ∧ a.problem.rows.length = 1) ∧
      (a.declare 2 .integer one).state.problem.Blank 2 .integer one ∧
      Backend.converse a h [.declare 2 .integer one, .solve default] =
        Backend.converse (after h (past.take 2)) h [.declare 2 .integer one, .solve default] ∧
      a.declare 2 .integer many = .refuse (.invalidProblem (.overrideOutOfRange 2 2)) a := by
  intro h past a one many
  obtain ⟨hiff, hdone, hnew, -⟩ := declare_starts_over h past 2 .integer one
  obtain ⟨hiff', -, -, hrefused⟩ := declare_starts_over h past 2 .integer many
  obtain ⟨⟨-, hblank⟩, -, hlike⟩ := hdone (hiff.2 (by decide))
  obtain ⟨-, htuning, hlistener⟩ := hnew h
  refine ⟨by decide +kernel, hblank, hlike h (past.take 2) htuning hlistener h [.solve default], ?_⟩
  cases hresult : (a.declare 2 .integer many).result with
  | ok u => exact absurd (hiff'.1 hresult) (by decide)
  | error e =>
    obtain ⟨v, -, hv, hleast, rfl, hsame⟩ := hrefused e hresult
    have hle := hleast 2 (by decide) (Nat.le_refl 2)
    rw [Nat.le_antisymm hle hv] at hsame
    exact hsame

end Engine.Adapter

end MipDispatch
