import MipDispatch.Proofs.Adapter.Declaration
import MipDispatch.Proofs.Adapter.Objective
import MipDispatch.Proofs.Room.Objective

namespace MipDispatch

theorem VarPair.high_of (i j : Nat) : (VarPair.of i j).high = max i j := by
  unfold VarPair.of
  split
  next h => exact (Nat.max_eq_right h).symm
  next h => exact (Nat.max_eq_left (Nat.le_of_not_le h)).symm

namespace Objective

theorem grow_of_le {o : Objective} {n : Nat} (h : n ≤ o.size) : o.grow n = o := by
  rw [grow, Nat.sub_eq_zero_of_le h, List.replicate_zero, List.append_nil]

namespace Recipe

variable {r : Recipe}

/-- Products are covered when they are written by the builder only. -/
theorem within_size (hbuilt : ∀ i j c, .quadratic i j c ∉ r.edits) :
    r.objective.Within r.objective.size := by
  refine ⟨fun v hv => ?_, fun q hq => ?_⟩
  · rw [coefficient_of_size_le hv]
    rfl
  · obtain ⟨c, hc⟩ := SortedMap.mem_keys_iff.1 hq
    rw [r.quadratic_objective, SparseTerms.get?_written, bind_kept?_eq_some_iff] at hc
    obtain ⟨t, ht, hkey, _⟩ := exists_of_lastWritten hc.1
    obtain ⟨w, hw, rfl⟩ := List.mem_map.1 ht
    obtain ⟨e, he, hwritten⟩ := List.mem_flatMap.1 hw
    -- A product in store was written by some edit, which asked for both its variables to be
    -- covered.
    have hasked : max w.1.1 w.1.2 + 1 ∈ e.sizes := by
      cases e with
      | quadratics terms => exact List.mem_map_of_mem hwritten
      | quadratic i j c => exact absurd he (hbuilt i j c)
      | linear v c | grow n | sense s | constant c => cases hwritten
    have hmem : max w.1.1 w.1.2 + 1 ∈ r.sizes :=
      List.mem_cons_of_mem _ (List.mem_flatMap.2 ⟨e, he, hasked⟩)
    have hhigh : q.high = max w.1.1 w.1.2 := by
      rw [← hkey]
      exact VarPair.high_of ..
    have hle := (List.max?_eq_some_iff.1 r.sizes_max).2 _ hmem
    have hlow := q.low_le_high
    omega

end Recipe

end Objective

namespace Engine.Adapter

open Objective (Recipe Edit)

theorem setObjective_covered {a : Adapter} {o : Objective} (hdecl : a.problem.declared = true)
    (hcontinuous : ∀ k ∈ a.problem.kinds, k = .continuous) (hsize : a.problem.size = o.size)
    (hwithin : o.Within o.size) :
    a.setObjective o = .done { a with problem := { a.problem with objective := o } } := by
  have haccepts : a.AcceptsObjective o :=
    (acceptsObjective_iff hdecl).2 ⟨hsize ▸ hwithin, fun _ => hcontinuous⟩
  rw [setObjective_accepted haccepts, Objective.grow_of_le hsize.le]

/-- A continuous problem that is declared with the size of an objective takes it, whatever was
there before. -/
theorem declare_covered {o : Objective} (hwithin : o.Within o.size) (a : Adapter) :
    (a.declare o.size .continuous ∅).result = .ok () ∧
      ((a.declare o.size .continuous ∅).state.setObjective o).result = .ok () := by
  have hkeys : ∀ v ∈ (∅ : KindOverrides).keys, v < o.size :=
    fun _ hv => absurd hv List.not_mem_nil
  have hkinds : ∀ k ∈ Problem.kindsOf o.size .continuous ∅, k = .continuous := by
    intro k hk
    obtain ⟨_, _, rfl⟩ := List.mem_map.1 hk
    rfl
  have hsize : (Problem.kindsOf o.size .continuous ∅).length = o.size := by
    rw [Problem.kindsOf, List.length_map, List.length_range]
  rw [declare_accepted hkeys a]
  refine ⟨rfl, ?_⟩
  rw [setObjective_covered (a := a.renewed o.size .continuous ∅) rfl hkinds hsize hwithin]
  rfl

/-- The dense part of an objective is as long as the largest size that it ever had or was asked for,
and no shorter later. Each linear coefficient is the last one written, to the bit, or zero, and
products leave them alone. Unless the last id of all is used, making it fails only for want of room.
If its products were all written by the builder, a continuous problem of its size takes it over as
it is. -/
theorem objective_covers_variables (r : Recipe) :
    let o := r.objective
    r.sizes.max? = some o.size ∧
    (∀ more : List Edit, o.size ≤ { r with edits := r.edits ++ more }.objective.size) ∧
    (∀ v, o.coefficient v = (lastLinear? r.linearWrites v).getD 0) ∧
    (∀ (o' : Objective) (i j v : Nat) (c : Float) (terms : List ((Nat × Nat) × Float)),
      (o'.setQuadratic i j c).coefficient v = o'.coefficient v ∧
        (o'.withQuadratic terms).coefficient v = o'.coefficient v) ∧
    ((∀ e ∈ r.edits, ∀ v ∈ e.ids, v < Room.maxIndex) →
      Room.objective r = if o.size * Room.floatBytes ≤ Room.maxBytes then .ok o
        else .error .capacityOverflow) ∧
    ((∀ i j c, .quadratic i j c ∉ r.edits) →
      (∀ a : Adapter, a.problem.declared = true → (∀ k ∈ a.problem.kinds, k = .continuous) →
        a.problem.size = o.size → (a.setObjective o).result = .ok () ∧
          (a.setObjective o).state.problem.objective = o) ∧
      ∀ a : Adapter,
        let declared := a.declare o.size .continuous ∅
        declared.result = .ok () ∧ (declared.state.setObjective o).result = .ok ()) := by
  intro o
  refine ⟨r.sizes_max, fun more => ?_, r.coefficient_objective, ?_, Room.objective_eq, ?_⟩
  · have hmore := Objective.size_le_foldl_edit r.objective more
    rwa [Recipe.objective, ← List.foldl_append] at hmore
  · exact fun o' i j v c terms => ⟨rfl, o'.coefficient_withQuadratic terms v⟩
  · intro hbuilt
    have hwithin := Recipe.within_size hbuilt
    refine ⟨fun a hdecl hcontinuous hsize => ?_, fun a => ?_⟩
    · rw [setObjective_covered hdecl hcontinuous hsize hwithin]
      exact ⟨rfl, rfl⟩
    · exact declare_covered hwithin a

/-- A product is written with a zero, which does not store it but covers its variables. The first
coefficient is a negative zero. -/
theorem objective_covers_variables_zero_product :
    let r : Recipe := ⟨.zero 1, [.linear 0 3, .quadratics [((3, 1), 0), ((2, 2), 5)],
      .linear 0 (-0.0), .constant 7]⟩
    let a : Adapter := (fresh.declare 4 .continuous ∅).state
    r.objective.size = 4 ∧ r.objective.coefficient 0 = -0.0 ∧
      Room.objective r = .ok r.objective ∧
      (fresh.declare r.objective.size .continuous ∅).result = .ok () ∧
      (a.setObjective r.objective).result = .ok () ∧
      (a.setObjective r.objective).state.problem.objective = r.objective := by
  intro r a
  obtain ⟨hmax, _, hlast, _, hroom, htaken⟩ := objective_covers_variables r
  have hsize : r.objective.size = 4 := Option.some.inj (hmax.symm.trans (by decide))
  have hids : ∀ e ∈ r.edits, ∀ v ∈ e.ids, v < Room.maxIndex := by simp [r, Edit.ids, Room.maxIndex]
  have hbuilt : ∀ i j c, .quadratic i j c ∉ r.edits := by simp [r]
  obtain ⟨hdeclared, hnew⟩ := htaken hbuilt
  obtain ⟨hok, hstaged⟩ := hdeclared a rfl (by decide) hsize.symm
  refine ⟨hsize, hlast 0, ?_, (hnew fresh).1, hok, hstaged⟩
  rw [hroom hids, if_pos]
  rw [hsize]
  decide

end Engine.Adapter

end MipDispatch
