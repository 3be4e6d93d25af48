import MipDispatch.Proofs.Adapter.Steps
import MipDispatch.Proofs.Engine.QuadraticForm

namespace MipDispatch

namespace Objective

def exactEvaluate (o : Objective) (x : Nat → ℚ) : ℚ :=
  exactValue o.constant + (o.linear.zipIdx.map fun t => exactValue t.1 * x t.2).sum +
    o.quadratic.exactSum x

theorem exactValue_zero : exactValue 0 = 0 := rfl

theorem exactEvaluate_grow (o : Objective) (n : Nat) (x : Nat → ℚ) :
    (o.grow n).exactEvaluate x = o.exactEvaluate x := by
  have hzeros (k start : Nat) :
      (((List.replicate k (0 : Float)).zipIdx start).map fun t => exactValue t.1 * x t.2).sum =
        0 := by
    apply List.sum_eq_zero
    intro y hy
    obtain ⟨t, ht, rfl⟩ := List.mem_map.1 hy
    rw [(List.mem_replicate.1 (List.fst_mem_of_mem_zipIdx ht)).2, exactValue_zero, zero_mul]
  unfold exactEvaluate grow
  rw [List.zipIdx_append, List.map_append, List.sum_append, hzeros, add_zero]

def Mentions (o : Objective) (v : Nat) : Prop :=
  (o.coefficient v == 0) = false ∨ ∃ q ∈ o.quadratic.keys, q.low = v ∨ q.high = v

end Objective

theorem Problem.mentions_of_stray {p : Problem} {o : Objective} {v : Nat}
    (h : p.strayInObjective? o = some v) : p.size ≤ v ∧ o.Mentions v := by
  rw [strayInObjective?, Option.or_eq_some_iff] at h
  rcases h with h | ⟨_, h⟩
  · obtain ⟨t, ht, rfl⟩ := Option.map_eq_some_iff.1 h
    have hnonzero : (t.1 == 0) = false := by simpa [bne] using List.find?_some ht
    obtain ⟨i, hi, rfl⟩ := List.mem_drop_iff_getElem.1 (List.mem_of_find?_eq_some ht)
    rw [List.getElem_zipIdx] at hnonzero ⊢
    refine ⟨by simp, .inl ?_⟩
    have hlen : i + p.size < o.linear.length := by simpa using hi
    simpa [Objective.coefficient, Nat.add_comm, hlen] using hnonzero
  · obtain ⟨q, hq, rfl⟩ := Option.map_eq_some_iff.1 h
    have hle : p.size ≤ q.high := by simpa using List.find?_some hq
    exact ⟨hle, .inr ⟨q, List.mem_of_find?_eq_some hq, .inr rfl⟩⟩

namespace Engine.Adapter

variable {a : Adapter} {o : Objective}

theorem acceptsObjective_iff (hdecl : a.problem.declared = true) :
    a.AcceptsObjective o ↔ o.Within a.problem.size ∧
      (o.isQuadratic = true → ∀ k ∈ a.problem.kinds, k = .continuous) := by
  rw [← Problem.integralCount_eq_zero_iff]
  exact ⟨fun h => ⟨h.within, h.continuous⟩, fun h => ⟨hdecl, h.1, h.2⟩⟩

theorem setObjective_accepted (h : a.AcceptsObjective o) : a.setObjective o =
    .done { a with problem := { a.problem with objective := o.grow a.problem.size } } := by
  rcases a.setObjective_cases o with ⟨_, heq⟩ | ⟨hno, _⟩
  · exact heq
  · exact absurd h hno

theorem setObjective_ok_iff : (a.setObjective o).result = .ok () ↔ a.AcceptsObjective o := by
  rcases a.setObjective_cases o with ⟨h, heq⟩ | ⟨h, e, heq⟩ <;> rw [heq]
  · exact iff_of_true rfl h
  · exact iff_of_false (fun hok => by cases hok) h

/-- Products over integral variables are refused as such, whatever else may be wrong. -/
theorem setObjective_mixed (hquad : o.isQuadratic = true) (hint : 0 < a.problem.integralCount) :
    a.setObjective o = .refuse (.unsupported name .quadraticOverIntegers) a := by
  have hkinds : a.checkKinds o = .error (.unsupported name .quadraticOverIntegers) := by
    simp [checkKinds, hquad, hint]
  rw [setObjective, checkObjective_eq_ok, hkinds]
  rfl

theorem setObjective_unmixed (hdecl : a.problem.declared = true)
    (hkinds : o.isQuadratic = true → a.problem.integralCount = 0) (hno : ¬ a.AcceptsObjective o) :
    ∃ v, a.problem.size ≤ v ∧ o.Mentions v ∧
      a.setObjective o = .refuse (.invalidProblem (.outOfRange .objective v a.problem.size)) a := by
  cases hstray : a.problem.strayInObjective? o with
  | none =>
    have hwithin : a.problem.checkObjective o = .ok () := by rw [Problem.checkObjective, hstray]
    exact absurd ⟨hdecl, Problem.checkObjective_eq_ok_iff.1 hwithin, hkinds⟩ hno
  | some v =>
    obtain ⟨hle, hmentions⟩ := Problem.mentions_of_stray hstray
    refine ⟨v, hle, hmentions, ?_⟩
    rw [setObjective, checkObjective_eq_ok, checkKinds_eq_ok_iff.2 hkinds, Problem.setObjective,
      Problem.requireDeclared_eq_ok_iff.2 hdecl, Problem.checkObjective, hstray]
    rfl

/-- What was staged before has no bearing on the answer, nor on what is staged then. -/
theorem setObjective_forgets (a : Adapter) (o before : Objective) :
    let other := { a with problem := { a.problem with objective := before } }
    (other.setObjective o).result = (a.setObjective o).result ∧
      ((a.setObjective o).result = .ok () →
        (other.setObjective o).state = (a.setObjective o).state) := by
  intro other
  have hkinds : other.checkKinds o = a.checkKinds o := rfl
  have hchecks : other.problem.requireDeclared "set_objective" *> other.problem.checkObjective o =
      a.problem.requireDeclared "set_objective" *> a.problem.checkObjective o := rfl
  unfold setObjective Problem.setObjective
  rw [hkinds, hchecks]
  split
  · exact ⟨rfl, fun hok => by cases hok⟩
  · split
    · exact ⟨rfl, fun hok => by cases hok⟩
    · exact ⟨rfl, fun _ => rfl⟩

/-- The objectives that are staged are those of the declared variables, without products unless all
variables are continuous. What is staged has the same coefficients, and the same value at every
point, whatever was staged before; what is refused changes nothing, and the error says why. -/
theorem objective_taken_over (a : Adapter) (hdecl : a.problem.declared = true) (o : Objective) :
    let n := a.problem.size
    let continuous := ∀ k ∈ a.problem.kinds, k = .continuous
    let step := a.setObjective o
    let staged := step.state.problem.objective
    (step.result = .ok () ↔
      (∀ v, n ≤ v → (o.coefficient v == 0) = true) ∧
      (∀ q ∈ o.quadratic.keys, q.low < n ∧ q.high < n) ∧ (o.isQuadratic = true → continuous)) ∧
    (step.result = .ok () →
      staged.sense = o.sense ∧ staged.constant = o.constant ∧
      (∀ v, staged.coefficient v = o.coefficient v) ∧
      (∀ i j, staged.quadraticCoefficient i j = o.quadraticCoefficient i j) ∧
      staged.size = max o.size n ∧ ∀ x, staged.exactEvaluate x = o.exactEvaluate x) ∧
    (∀ e, step.result = .error e → step.state = a ∧
      (o.isQuadratic = true ∧ ¬ continuous → e = .unsupported name .quadraticOverIntegers) ∧
      (¬ (o.isQuadratic = true ∧ ¬ continuous) → ∃ v, n ≤ v ∧ o.Mentions v ∧
        e = .invalidProblem (.outOfRange .objective v n))) ∧
    ∀ before : Objective,
      let other := { a with problem := { a.problem with objective := before } }
      (other.setObjective o).result = step.result ∧
        (step.result = .ok () → (other.setObjective o).state = step.state) := by
  intro n continuous step staged
  have hcontinuous : a.problem.integralCount = 0 ↔ continuous := Problem.integralCount_eq_zero_iff
  refine ⟨?_, fun hok => ?_, fun e he => ?_, a.setObjective_forgets o⟩
  · rw [setObjective_ok_iff, acceptsObjective_iff hdecl, Objective.Within, and_assoc]
  · have hstaged : staged = o.grow n := by
      have heq := setObjective_accepted (setObjective_ok_iff.1 hok)
      exact congrArg (·.state.problem.objective) heq
    rw [hstaged]
    exact ⟨rfl, rfl, o.coefficient_grow n, fun _ _ => rfl, o.size_grow n, o.exactEvaluate_grow n⟩
  · have hno : ¬ a.AcceptsObjective o := fun h => by
      cases he.symm.trans (setObjective_ok_iff.2 h)
    by_cases hmixed : o.isQuadratic = true ∧ ¬ continuous
    · have heq := setObjective_mixed hmixed.1 (Nat.pos_of_ne_zero (mt hcontinuous.1 hmixed.2))
      have herror : e = .unsupported name .quadraticOverIntegers :=
        Except.error.inj (he.symm.trans (congrArg (·.result) heq))
      exact ⟨congrArg (·.state) heq, fun _ => herror, fun hc => absurd hmixed hc⟩
    · have hkinds (hquad : o.isQuadratic = true) : a.problem.integralCount = 0 :=
        hcontinuous.2 (not_not.1 fun hc => hmixed ⟨hquad, hc⟩)
      obtain ⟨v, hle, hmentions, heq⟩ := setObjective_unmixed hdecl hkinds hno
      have herror : e = .invalidProblem (.outOfRange .objective v n) :=
        Except.error.inj (he.symm.trans (congrArg (·.result) heq))
      exact ⟨congrArg (·.state) heq, fun hc => absurd hc hmixed,
        fun _ => ⟨v, hle, hmentions, herror⟩⟩

/-- A zero past the last variable does not stand in the way, be it a negative one, and the product
is staged under its smaller id. -/
theorem objective_taken_over_signed_zero :
    let o : Objective := (Objective.ofLinear [1, 2, -0.0] .maximize).setQuadratic 1 0 3
    let a : Adapter := (fresh.declare 2 .continuous ∅).state
    let step := a.setObjective o
    let staged := step.state.problem.objective
    a.problem.declared = true ∧ step.result = .ok () ∧ staged.sense = .maximize ∧
      staged.size = 3 ∧ staged.quadraticCoefficient 0 1 = 3 := by
  intro o a step staged
  have hdecl : a.problem.declared = true := rfl
  have htaken := objective_taken_over a hdecl o
  have hok : step.result = .ok () := by
    refine htaken.1.2 ⟨fun v hv => ?_, by decide +kernel, fun _ => by decide⟩
    rcases Nat.eq_or_lt_of_le hv with rfl | hv
    · decide +kernel
    · have hzero : o.coefficient v = 0 := Objective.coefficient_of_size_le hv
      rw [hzero]
      decide +kernel
  obtain ⟨hsense, _, _, hproducts, hsize, _⟩ := htaken.2.1 hok
  refine ⟨hdecl, hok, hsense, hsize, (hproducts 0 1).trans ?_⟩
  decide +kernel

end Engine.Adapter

end MipDispatch
