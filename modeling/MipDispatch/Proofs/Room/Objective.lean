import MipDispatch.Proofs.Model.Objective
import MipDispatch.Room.Model

namespace MipDispatch.Room

section Guarded

variable {σ ε κ : Type} {apply : σ → ε → σ} {step : σ → ε → Except κ σ} {fits : σ → Prop}
  [DecidablePred fits] {fault : κ}

/-- Where every step is refused just if its outcome does not fit, and what does not fit never fits
again, all of them are refused just if the outcome in the end does not fit. -/
theorem foldlM_guarded {es : List ε} (hback : ∀ s e, fits (apply s e) → fits s)
    (hstep : ∀ s, fits s → ∀ e ∈ es,
      step s e = if fits (apply s e) then .ok (apply s e) else .error fault) {s : σ} (hs : fits s) :
    es.foldlM step s =
      if fits (es.foldl apply s) then .ok (es.foldl apply s) else .error fault := by
  have hlost (es : List ε) (s : σ) (h : fits (es.foldl apply s)) : fits s := by
    induction es generalizing s with
    | nil => exact h
    | cons e es ih => exact hback s e (ih (apply s e) h)
  induction es generalizing s with
  | nil =>
    rw [List.foldl_nil, if_pos hs]
    rfl
  | cons e es ih =>
    have he := hstep s hs e List.mem_cons_self
    have hrest := fun s hs e he => hstep s hs e (List.mem_cons_of_mem _ he)
    rw [List.foldlM_cons, he, List.foldl_cons]
    by_cases hfits : fits (apply s e)
    · rw [if_pos hfits, ← ih hrest hfits]
      rfl
    · rw [if_neg hfits, if_neg fun h => hfits (hlost es _ h)]
      rfl

end Guarded

def Fits (o : Objective) : Prop := o.size * floatBytes ≤ maxBytes

instance : DecidablePred Fits := fun _ => inferInstanceAs (Decidable (_ ≤ _))

def start : Objective.Origin → Except Crash Objective
  | .zero n => zeroObjective n
  | .linear coefficients sense =>
    taking (coefficients.length * floatBytes) fun _ => .ofLinear coefficients sense

def edit (o : Objective) : Objective.Edit → Except Crash Objective
  | .linear v c => setLinear o v c
  | .grow n => grow o n
  | .quadratics terms => withQuadratic o terms
  | .quadratic i j c => .ok (o.setQuadratic i j c)
  | .sense sense => .ok (o.withSense sense)
  | .constant constant => .ok (o.withConstant constant)

def objective (r : Objective.Recipe) : Except Crash Objective := do
  r.edits.foldlM edit (← start r.origin)

section Growth

variable {o o' : Objective} {n : Nat}

theorem taking_fits (hsize : o'.size = max o.size n) (ho : Fits o) :
    taking (n * floatBytes) (fun _ => o') =
      if Fits o' then .ok o' else .error .capacityOverflow := by
  unfold Fits at ho
  have hfits : n * floatBytes ≤ maxBytes ↔ Fits o' := by
    rw [Fits, hsize, ← Nat.mul_max_mul_right, Nat.max_le, and_iff_right ho]
  simp only [taking, hfits]

theorem setLinear_eq (ho : Fits o) {v : Nat} (hv : v < maxIndex) (c : Float) :
    setLinear o v c =
      if Fits (o.setLinear v c) then .ok (o.setLinear v c) else .error .capacityOverflow := by
  rw [setLinear, after_eq_ok hv]
  exact taking_fits (o.size_setLinear v c) ho

theorem withQuadratic_eq (ho : Fits o) {terms : List ((Nat × Nat) × Float)}
    (hterms : ∀ t ∈ terms, max t.1.1 t.1.2 < maxIndex) : withQuadratic o terms =
      if Fits (o.withQuadratic terms) then .ok (o.withQuadratic terms)
      else .error .capacityOverflow := by
  refine foldlM_guarded (fun o t h => ?_) (fun o ho t ht => ?_) ho
  · unfold Fits at h ⊢
    rw [Objective.size_setQuadratic, Objective.size_grow] at h
    exact (Nat.mul_le_mul_right _ (Nat.le_max_left ..)).trans h
  · rw [after_eq_ok (hterms t ht)]
    change (grow o _).map _ = _
    rw [grow, taking_fits (o.size_grow _) ho]
    -- the product itself takes no room
    by_cases hfits : Fits (o.grow (max t.1.1 t.1.2 + 1))
    · rw [if_pos hfits]
      exact (if_pos hfits).symm
    · rw [if_neg hfits]
      exact (if_neg hfits).symm

theorem edit_eq (ho : Fits o) {e : Objective.Edit} (hids : ∀ v ∈ e.ids, v < maxIndex) :
    edit o e = if Fits (o.edit e) then .ok (o.edit e) else .error .capacityOverflow := by
  cases e with
  | linear v c => exact setLinear_eq ho (hids v (List.mem_singleton.2 rfl)) c
  | grow n => exact taking_fits (o.size_grow n) ho
  | quadratics terms =>
    refine withQuadratic_eq ho fun t ht => Nat.max_lt.2 ⟨?_, ?_⟩
    all_goals exact hids _ (List.mem_flatMap.2 ⟨t, ht, by simp⟩)
  | quadratic i j c | sense s | constant c => exact (if_pos ho).symm

end Growth

/-- An objective comes about as it would without any limits, unless its dense part is too long. -/
theorem objective_eq {r : Objective.Recipe} (hids : ∀ e ∈ r.edits, ∀ v ∈ e.ids, v < maxIndex) :
    objective r = if Fits r.objective then .ok r.objective else .error .capacityOverflow := by
  have hback (o : Objective) (e : Objective.Edit) (h : Fits (o.edit e)) : Fits o :=
    (Nat.mul_le_mul_right _ (o.size_le_edit e)).trans h
  have hstart : start r.origin = if Fits r.origin.objective then .ok r.origin.objective
      else .error .capacityOverflow := by
    cases r.origin with
    | zero n =>
      have hsize : (Objective.zero n).size = max (Objective.zero 0).size n := by simp
      exact taking_fits hsize (Nat.zero_le _)
    | linear coefficients sense => rfl
  have hstep (o : Objective) (ho : Fits o) (e : Objective.Edit) (he : e ∈ r.edits) :=
    edit_eq ho (hids e he)
  have hlost : ¬ Fits r.origin.objective → ¬ Fits r.objective := fun hno h =>
    hno ((Nat.mul_le_mul_right _ (Objective.size_le_foldl_edit ..)).trans h)
  unfold objective
  rw [hstart]
  by_cases hfits : Fits r.origin.objective
  · rw [if_pos hfits]
    exact foldlM_guarded hback hstep hfits
  · rw [if_neg hfits, if_neg (hlost hfits)]
    rfl

end MipDispatch.Room
