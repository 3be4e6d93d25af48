import Mathlib.Data.List.Forall2

namespace MipDispatch

/-- The answers to requests made one after the other, and the state in the end. -/
def dialogue {σ ρ ξ : Type} (serve : σ → ρ → ξ × σ) (s : σ) : List ρ → List ξ × σ
  | [] => ([], s)
  | r :: rs =>
    let served := serve s r
    let rest := dialogue serve served.2 rs
    (served.1 :: rest.1, rest.2)

theorem dialogue_append {σ ρ ξ : Type} (serve : σ → ρ → ξ × σ) (s : σ) (rs rs' : List ρ) :
    let first := dialogue serve s rs
    let rest := dialogue serve first.2 rs'
    dialogue serve s (rs ++ rs') = (first.1 ++ rest.1, rest.2) := by
  induction rs generalizing s with
  | nil => rfl
  | cons r rs ih =>
    dsimp only at ih ⊢
    rw [List.cons_append, dialogue, dialogue, ih]
    rfl

theorem dialogue_keeps {σ ρ ξ : Type} {serve : σ → ρ → ξ × σ} {P : σ → Prop}
    (hserve : ∀ s r, P s → P (serve s r).2) {s : σ} (hs : P s) (rs : List ρ) :
    P (dialogue serve s rs).2 := by
  induction rs generalizing s with
  | nil => exact hs
  | cons r rs ih => exact ih (hserve s r hs)

/-- What holds of every request with its answer, in states that keep to `P`, holds throughout. -/
theorem dialogue_forall₂ {σ ρ ξ : Type} {serve : σ → ρ → ξ × σ} {P : σ → Prop} {Q : ρ → ξ → Prop}
    (hserve : ∀ s r, P s → Q r (serve s r).1 ∧ P (serve s r).2) {s : σ} (hs : P s) (rs : List ρ) :
    List.Forall₂ Q rs (dialogue serve s rs).1 := by
  induction rs generalizing s with
  | nil => exact .nil
  | cons r rs ih =>
    obtain ⟨hr, hnext⟩ := hserve s r hs
    exact .cons hr (ih hnext)

section Omission

variable {σ ρ ξ : Type} {serve : σ → ρ → ξ × σ} {request : ξ → ρ} {idle : ξ → Bool}

/-- Requests that left the state as it was may be left out: the others are answered as before. -/
theorem dialogue_omit (hrequest : ∀ s r, request (serve s r).1 = r)
    (hidle : ∀ s r, idle (serve s r).1 = true → (serve s r).2 = s) (s : σ) (rs : List ρ) :
    let talk := dialogue serve s rs
    let kept := talk.1.filter (!idle ·)
    dialogue serve s (kept.map request) = (kept, talk.2) := by
  induction rs generalizing s with
  | nil => rfl
  | cons r rs ih =>
    have hrest := ih (serve s r).2
    dsimp only at hrest ⊢
    rw [dialogue, List.filter_cons]
    cases hr : idle (serve s r).1 with
    | true =>
      -- the rest is a dialogue that starts from the same state
      rw [hidle s r hr] at hrest ⊢
      exact hrest
    | false =>
      simp only [Bool.not_false, if_true, List.map_cons, dialogue, hrequest]
      rw [hrest]

end Omission

section Projection

variable {σ ρ ξ σ' ρ' ξ' : Type} {serve : σ → ρ → ξ × σ} {serve' : σ' → ρ' → ξ' × σ'}
  {view : σ → σ'} {ask : ρ → Option ρ'} {tell : ξ → Option ξ'}

/-- Where requests that are not seen leave what is seen as it was, and all others are answered by
what is seen, a dialogue is seen as a dialogue. -/
theorem dialogue_project
    (hunseen : ∀ s r, ask r = none → tell (serve s r).1 = none ∧ view (serve s r).2 = view s)
    (hseen : ∀ s r r', ask r = some r' →
      tell (serve s r).1 = some (serve' (view s) r').1 ∧
        view (serve s r).2 = (serve' (view s) r').2) (s : σ) (rs : List ρ) :
    let talk := dialogue serve s rs
    dialogue serve' (view s) (rs.filterMap ask) = (talk.1.filterMap tell, view talk.2) := by
  induction rs generalizing s with
  | nil => rfl
  | cons r rs ih =>
    have hrest := ih (serve s r).2
    dsimp only at hrest ⊢
    rw [dialogue, List.filterMap_cons, List.filterMap_cons]
    cases hr : ask r with
    | none =>
      obtain ⟨htell, hview⟩ := hunseen s r hr
      rw [hview] at hrest
      rw [htell]
      exact hrest
    | some r' =>
      obtain ⟨htell, hview⟩ := hseen s r r' hr
      rw [hview] at hrest
      rw [htell]
      dsimp only [dialogue]
      rw [hrest]

end Projection

section Stopping

variable {σ ρ ξ : Type}

def dialogueUntil (serve : σ → ρ → ξ × σ) (refused : ξ → Bool) (s : σ) : List ρ → List ξ × σ
  | [] => ([], s)
  | r :: rs =>
    let served := serve s r
    if refused served.1 then ([served.1], served.2)
    else
      let rest := dialogueUntil serve refused served.2 rs
      (served.1 :: rest.1, rest.2)

variable {serve : σ → ρ → ξ × σ} {refused : ξ → Bool} {request : ξ → ρ}

/-- Where nothing is refused, nothing stops it. -/
theorem dialogueUntil_eq {s : σ} {rs : List ρ}
    (h : ∀ x ∈ (dialogueUntil serve refused s rs).1, refused x = false) :
    dialogueUntil serve refused s rs = dialogue serve s rs := by
  induction rs generalizing s with
  | nil => rfl
  | cons r rs ih =>
    unfold dialogueUntil at h ⊢
    dsimp only at h ⊢
    cases hr : refused (serve s r).1 with
    | true =>
      rw [hr, if_pos rfl] at h
      cases hr.symm.trans (h _ (List.mem_singleton.2 rfl))
    | false =>
      rw [hr, if_neg Bool.false_ne_true] at h
      rw [if_neg Bool.false_ne_true, ih (List.forall_mem_cons.1 h).2]
      rfl

theorem dialogueUntil_accepted {s : σ} {rs : List ρ}
    (h : ∀ x ∈ (dialogue serve s rs).1, refused x = false) :
    dialogueUntil serve refused s rs = dialogue serve s rs := by
  induction rs generalizing s with
  | nil => rfl
  | cons r rs ih =>
    obtain ⟨hr, hrest⟩ := List.forall_mem_cons.1 h
    unfold dialogueUntil
    dsimp only
    rw [hr, if_neg Bool.false_ne_true, ih hrest]
    rfl

/-- The rest is requested only where nothing was refused before. -/
theorem dialogueUntil_append (s : σ) (rs rs' : List ρ) :
    let first := dialogueUntil serve refused s rs
    let rest := dialogueUntil serve refused first.2 rs'
    dialogueUntil serve refused s (rs ++ rs') =
      if first.1.any refused then first else (first.1 ++ rest.1, rest.2) := by
  induction rs generalizing s with
  | nil => rfl
  | cons r rs ih =>
    have hrest := ih (serve s r).2
    dsimp only at hrest ⊢
    rw [List.cons_append, dialogueUntil, dialogueUntil]
    dsimp only
    cases hr : refused (serve s r).1 with
    | true => simp [hr]
    | false =>
      simp only [Bool.false_eq_true, if_false, List.any_cons, hr, Bool.false_or, hrest]
      split <;> rfl

theorem requests_dialogueUntil (hrequest : ∀ s r, request (serve s r).1 = r) (s : σ)
    (rs : List ρ) : (dialogueUntil serve refused s rs).1.map request <+: rs := by
  induction rs generalizing s with
  | nil => exact List.prefix_rfl
  | cons r rs ih =>
    unfold dialogueUntil
    dsimp only
    split
    · rw [List.map_singleton, hrequest]
      exact List.prefix_append [r] rs
    · rw [List.map_cons, hrequest]
      exact List.cons_prefix_cons.2 ⟨rfl, ih (serve s r).2⟩

end Stopping

section View

variable {σ σ' ρ ξ : Type} {serve : σ → ρ → ξ × σ} {serve' : σ' → ρ → ξ × σ'} {view : σ → σ'}

/-- Where every request is answered the same in two views of a state, so are all of them. -/
theorem dialogueUntil_view
    (hview : ∀ s r, serve' (view s) r = ((serve s r).1, view (serve s r).2)) (refused : ξ → Bool)
    (s : σ) (rs : List ρ) :
    let talk := dialogueUntil serve refused s rs
    dialogueUntil serve' refused (view s) rs = (talk.1, view talk.2) := by
  induction rs generalizing s with
  | nil => rfl
  | cons r rs ih =>
    have hrest := ih (serve s r).2
    dsimp only at hrest ⊢
    rw [dialogueUntil, dialogueUntil, hview]
    dsimp only
    rw [hrest]
    split <;> rfl

theorem dialogue_view (hview : ∀ s r, serve' (view s) r = ((serve s r).1, view (serve s r).2))
    (s : σ) (rs : List ρ) :
    let talk := dialogue serve s rs
    dialogue serve' (view s) rs = (talk.1, view talk.2) := by
  have hrest := dialogueUntil_view hview (fun _ => false) s rs
  rwa [dialogueUntil_accepted fun _ _ => rfl, dialogueUntil_accepted fun _ _ => rfl] at hrest

end View

end MipDispatch
