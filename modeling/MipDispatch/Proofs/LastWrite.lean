namespace MipDispatch

section LastWrite

variable {σ ε κ α β : Type}

/-- What the last of the steps that write anything writes. -/
def lastWrite? (writes : ε → Option α) (steps : List ε) : Option α :=
  (steps.filterMap writes).getLast?

def writtenUnder (asked : κ → Prop) [DecidablePred asked] (w : κ × α) : Option α :=
  if asked w.1 then some w.2 else none

theorem writtenUnder_congr {asked asked' : κ → Prop} [DecidablePred asked] [DecidablePred asked']
    (h : ∀ k, asked k ↔ asked' k) :
    (writtenUnder asked : κ × α → Option α) = writtenUnder asked' := by
  funext w
  simp only [writtenUnder, h]

theorem lastWrite?_append (writes : ε → Option α) (steps more : List ε) :
    lastWrite? writes (steps ++ more) = (lastWrite? writes more).or (lastWrite? writes steps) := by
  rw [lastWrite?, List.filterMap_append, List.getLast?_append]
  rfl

theorem lastWrite?_cons (writes : ε → Option α) (e : ε) (steps : List ε) :
    lastWrite? writes (e :: steps) = (lastWrite? writes steps).or (writes e) := by
  rw [← List.singleton_append, lastWrite?_append]
  cases hwrites : writes e <;> simp [lastWrite?, hwrites]

/-- Where it makes no difference under which names the writes are known. -/
theorem lastWrite?_map {δ : Type} (writes : ε → Option α) (f : δ → ε) (steps : List δ) :
    lastWrite? writes (steps.map f) = lastWrite? (fun d => writes (f d)) steps := by
  rw [lastWrite?, List.filterMap_map]
  rfl

/-- Where what is written is made of what others write. -/
theorem lastWrite?_map_value (writes : ε → Option α) (f : α → β) (steps : List ε) :
    lastWrite? (fun e => (writes e).map f) steps = (lastWrite? writes steps).map f := by
  rw [lastWrite?, lastWrite?, ← List.getLast?_map, List.map_filterMap]

theorem exists_of_lastWrite? {writes : ε → Option α} {steps : List ε} {x : α}
    (h : lastWrite? writes steps = some x) : ∃ e ∈ steps, writes e = some x :=
  List.mem_filterMap.1 (List.mem_of_getLast? h)

theorem exists_of_lastWritten {asked : κ → Prop} [DecidablePred asked] {writes : List (κ × α)}
    {x : α} (h : lastWrite? (writtenUnder asked) writes = some x) :
    ∃ w ∈ writes, asked w.1 ∧ w.2 = x := by
  obtain ⟨w, hw, hx⟩ := exists_of_lastWrite? h
  unfold writtenUnder at hx
  split at hx
  next hasked => exact ⟨w, hw, hasked, Option.some.inj hx⟩
  · cases hx

theorem lastWrite?_eq_none_iff {writes : ε → Option α} {steps : List ε} :
    lastWrite? writes steps = none ↔ ∀ e ∈ steps, writes e = none := by
  rw [lastWrite?, List.getLast?_eq_none_iff, List.filterMap_eq_nil_iff]

/-- A part of the state that some steps put in place of what it was, and that the others leave as it
is, comes of the last write. -/
theorem foldl_lastWrite {step : σ → ε → σ} (part : σ → β) {writes : ε → Option α} {put : α → β}
    (hstep : ∀ s e, part (step s e) = (writes e).elim (part s) put) (steps : List ε) (s : σ) :
    part (steps.foldl step s) = (lastWrite? writes steps).elim (part s) put := by
  induction steps generalizing s with
  | nil => rfl
  | cons e steps ih =>
    rw [List.foldl_cons, ih, hstep, lastWrite?_cons]
    cases lastWrite? writes steps <;> rfl

end LastWrite

end MipDispatch
