import MipDispatch.Proofs.Problem.Steps

namespace MipDispatch

/-- No coefficient is stored as a zero, and each product is stored under its smaller id first. -/
structure Constraint.Canonical (c : Constraint) : Prop where
  linear_nonzero : ∀ t ∈ c.linear.entries, (t.2 == 0) = false
  quadratic_nonzero : ∀ t ∈ c.quadratic.entries, (t.2 == 0) = false
  quadratic_ordered : ∀ t ∈ c.quadratic.entries, t.1.low ≤ t.1.high

structure Objective.Canonical (o : Objective) : Prop where
  quadratic_nonzero : ∀ t ∈ o.quadratic.entries, (t.2 == 0) = false
  quadratic_ordered : ∀ t ∈ o.quadratic.entries, t.1.low ≤ t.1.high

theorem Constraint.canonical (c : Constraint) : c.Canonical :=
  ⟨c.linear.nonzero, c.quadratic.nonzero, fun t _ => t.1.low_le_high⟩

theorem Objective.canonical (o : Objective) : o.Canonical :=
  ⟨o.quadratic.nonzero, fun t _ => t.1.low_le_high⟩

namespace Problem

structure Staged (p : Problem) : Prop where
  rows_within : ∀ c ∈ p.rows, c.Within p.size
  rows_linear : ∀ c ∈ p.rows, c.isQuadratic = false
  rows_canonical : ∀ c ∈ p.rows, c.Canonical
  objective_within : p.objective.Within p.size
  objective_canonical : p.objective.Canonical
  /-- Products in the objective and integral variables exclude each other. -/
  continuous_of_quadratic : p.objective.isQuadratic = true → ∀ k ∈ p.kinds, k = .continuous
  covered : p.declared = true → p.size ≤ p.objective.size
  empty_of_undeclared : p.declared = false → p = .empty

theorem integralCount_eq_zero_iff {p : Problem} :
    p.integralCount = 0 ↔ ∀ k ∈ p.kinds, k = .continuous := by
  rw [integralCount, List.length_eq_zero_iff, List.filter_eq_nil_iff]
  refine forall_congr' fun k => imp_congr_right fun _ => ?_
  cases k <;> simp [VarKind.isIntegral]

theorem empty_staged : Staged .empty where
  rows_within := fun c hc => by cases hc
  rows_linear := fun c hc => by cases hc
  rows_canonical := fun c hc => by cases hc
  objective_within := Objective.within_zero 0
  objective_canonical := Objective.canonical _
  continuous_of_quadratic := fun _ k hk => by cases hk
  covered := fun h => by cases h
  empty_of_undeclared := fun _ => rfl

variable {p : Problem}

theorem declared_staged (n : Nat) (kind : VarKind) (overrides : KindOverrides) :
    Staged ⟨kindsOf n kind overrides, .zero n, [], true⟩ where
  rows_within := fun c hc => by cases hc
  rows_linear := fun c hc => by cases hc
  rows_canonical := fun c hc => by cases hc
  objective_within := by
    have hsize : (kindsOf n kind overrides).length = n := by simp [kindsOf]
    rw [size, hsize]
    exact Objective.within_zero n
  objective_canonical := Objective.canonical _
  continuous_of_quadratic := fun h => by cases h
  covered := fun _ => by simp [size, kindsOf]
  empty_of_undeclared := fun h => by cases h

theorem Staged.withObjective (h : p.Staged) (hdecl : p.declared = true) {o : Objective}
    (hin : o.Within p.size) (hkinds : o.isQuadratic = true → p.integralCount = 0) :
    Staged { p with objective := o.grow p.size } where
  rows_within := h.rows_within
  rows_linear := h.rows_linear
  rows_canonical := h.rows_canonical
  objective_within := hin.grow p.size
  objective_canonical := Objective.canonical _
  continuous_of_quadratic := fun hq => integralCount_eq_zero_iff.1 (hkinds hq)
  covered := fun _ => by
    rw [Objective.size_grow]
    exact Nat.le_max_right o.size p.size
  empty_of_undeclared := fun hno => by
    rw [hdecl] at hno
    cases hno

theorem Staged.withRows (h : p.Staged) (hdecl : p.declared = true) {cs : ConstraintList}
    (hin : ∀ c ∈ cs, c.Within p.size) (hlin : ∀ c ∈ cs, c.isQuadratic = false) :
    Staged { p with rows := cs } where
  rows_within := hin
  rows_linear := hlin
  rows_canonical := fun c _ => c.canonical
  objective_within := h.objective_within
  objective_canonical := h.objective_canonical
  continuous_of_quadratic := h.continuous_of_quadratic
  covered := h.covered
  empty_of_undeclared := fun hno => by
    rw [hdecl] at hno
    cases hno

end Problem

end MipDispatch
