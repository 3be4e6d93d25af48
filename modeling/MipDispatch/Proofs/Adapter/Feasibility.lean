import MipDispatch.Proofs.Adapter.Reached
import MipDispatch.Proofs.Number.Sum
import MipDispatch.Proofs.Number.Whole

namespace MipDispatch

/-- The problems that come of changes, each carried out or refused. -/
inductive Problem.Reached : Problem → Prop
  | empty : Reached .empty
  | declare {p : Problem} (earlier : Reached p) (n : Nat) (kind : VarKind)
      (overrides : KindOverrides) : Reached (p.declare n kind overrides).state
  | setObjective {p : Problem} (earlier : Reached p) (o : Objective) :
      Reached (p.setObjective o).state
  | replaceRows {p : Problem} (earlier : Reached p) (cs : ConstraintList) :
      Reached (p.replaceRows cs).state
  | addRow {p : Problem} (earlier : Reached p) (c : Constraint) : Reached (p.addRow c).state

def Constraint.indexedActivity (c : Constraint) (point : List Float) : Except Crash Float :=
  (c.linear.entries.mapM fun t => (elementAt point t.1).map (t.2 * ·)).map sum

def Problem.checkByPosition (p : Problem) (point : List Float) : Except Crash Bool :=
  if point.length == p.size && point.all Float.isFinite &&
      (p.kinds.zip point).all (fun t => admitsValue t.1 t.2) then
    p.rows.allM fun c => (c.indexedActivity point).map (c.bounds.admits tolerance)
  else .ok false

section Positions

variable {ε α β : Type}

theorem mapM_ok {f : α → Except ε β} {g : α → β} {xs : List α} (h : ∀ x ∈ xs, f x = .ok (g x)) :
    xs.mapM f = .ok (xs.map g) := by
  induction xs with
  | nil => rfl
  | cons x xs ih =>
    rw [List.mapM_cons, h x List.mem_cons_self, ih fun y hy => h y (List.mem_cons_of_mem x hy)]
    rfl

theorem allM_ok {f : α → Except ε Bool} {g : α → Bool} {xs : List α}
    (h : ∀ x ∈ xs, f x = .ok (g x)) : xs.allM f = .ok (xs.all g) := by
  induction xs with
  | nil => rfl
  | cons x xs ih =>
    have ih := ih fun y hy => h y (List.mem_cons_of_mem x hy)
    rw [List.allM, h x List.mem_cons_self, List.all_cons]
    cases g x with
    | false => rfl
    | true => exact ih

theorem Constraint.indexedActivity_eq {c : Constraint} {point : List Float}
    (h : c.Within point.length) : c.indexedActivity point = .ok (c.activity point) := by
  have hterm : ∀ t ∈ c.linear.entries,
      (elementAt point t.1).map (t.2 * ·) = .ok (t.2 * valueAt point t.1) := by
    intro t ht
    have hlt : t.1 < point.length := h.1 t.1 (List.mem_map_of_mem ht)
    rw [elementAt, valueAt, List.getElem?_eq_getElem hlt, List.getD_eq_getElem _ _ hlt]
    rfl
  rw [indexedActivity, mapM_ok hterm]
  rfl

end Positions

/-- An interval that holds a value also admits it with some slack. -/
theorem Bounds.admits_of_within {b : Bounds} {slack x : Float} (hslack : slack.isFinite = true)
    (hpos : 0 ≤ exactValue slack) (hlower : b.lower ≤ x) (hupper : x ≤ b.upper) :
    b.admits slack x = true := by
  have hbelow : b.lower - slack ≤ b.lower := sub_le_of_nonneg (isNaN_of_le hlower).1 hslack hpos
  have habove : b.upper ≤ b.upper + slack := le_add_of_nonneg (isNaN_of_le hupper).2 hslack hpos
  rw [admits, Bool.and_eq_true]
  exact ⟨decide_eq_true (le_chain hbelow hlower), decide_eq_true (le_chain hupper habove)⟩

/-- A comparison between numbers that is not broken puts the sum in its interval. -/
theorem Relation.within_of_not_broken {r : Relation} {sum value : Float} (hsum : sum.isNaN = false)
    (hvalue : value.isNaN = false) (h : r.brokenBy sum value = false) :
    (r.bounds value).lower ≤ sum ∧ sum ≤ (r.bounds value).upper := by
  cases r with
  | atMost =>
    have hlt : ¬ value < sum := of_decide_eq_false h
    exact ⟨(between_ends hsum).1, le_of_not_gt_number hsum hvalue hlt⟩
  | atLeast =>
    have hlt : ¬ sum < value := of_decide_eq_false h
    exact ⟨le_of_not_gt_number hvalue hsum hlt, (between_ends hsum).2⟩
  | equal =>
    have heq : (sum == value) = true := by
      have : (!(sum == value)) = false := h
      simpa using this
    rw [beq_iff_extendedValue hsum hvalue] at heq
    change value ≤ sum ∧ sum ≤ value
    rw [le_iff_extendedValue hvalue hsum, le_iff_extendedValue hsum hvalue]
    exact ⟨heq.ge, heq.le⟩

theorem Relation.sides_of_within {r : Relation} {sum value slack : Float}
    (hlower : (r.bounds value).lower - slack ≤ sum) (hupper : sum ≤ (r.bounds value).upper + slack) :
    (r ≠ .atMost → value - slack ≤ sum) ∧ (r ≠ .atLeast → sum ≤ value + slack) := by
  cases r with
  | atMost => exact ⟨fun hne => absurd rfl hne, fun _ => hupper⟩
  | atLeast => exact ⟨fun _ => hlower, fun hne => absurd rfl hne⟩
  | equal => exact ⟨fun _ => hlower, fun _ => hupper⟩

namespace Problem

variable {p : Problem} {point : List Float}

theorem Reached.rows_within (h : Reached p) : ∀ c ∈ p.rows, c.Within p.size := by
  induction h with
  | empty => exact fun _ hc => nomatch hc
  | @declare p _ n kind overrides ih =>
    rcases p.declare_cases n kind overrides with ⟨_, heq⟩ | ⟨_, _, _, heq⟩ <;> rw [heq]
    · exact fun _ hc => nomatch hc
    · exact ih
  | @setObjective p _ o ih =>
    rcases p.setObjective_cases o with ⟨_, _, heq⟩ | ⟨_, _, heq⟩ <;> rw [heq] <;> exact ih
  | @replaceRows p _ cs ih =>
    rcases p.replaceRows_cases cs with ⟨_, hcs, heq⟩ | ⟨_, _, heq⟩ <;> rw [heq]
    · exact hcs
    · exact ih
  | @addRow p _ c ih =>
    rcases p.addRow_cases c with ⟨_, hc, heq⟩ | ⟨_, _, heq⟩ <;> rw [heq]
    · intro c' hc'
      rcases List.mem_append.1 hc' with hc' | hc'
      · exact ih c' hc'
      · exact List.mem_singleton.1 hc' ▸ hc
    · exact ih

theorem isFeasible_iff : p.isFeasible point = true ↔
    point.length = p.size ∧ (∀ x ∈ point, x.isFinite = true) ∧
      (∀ t ∈ p.kinds.zip point, admitsValue t.1 t.2 = true) ∧
      ∀ c ∈ p.rows, c.bounds.admits tolerance (c.activity point) = true := by
  simp only [isFeasible, Bool.and_eq_true, beq_iff_eq, List.all_eq_true, and_assoc]

theorem checkByPosition_eq (h : Reached p) (point : List Float) :
    p.checkByPosition point = .ok (p.isFeasible point) := by
  unfold checkByPosition isFeasible
  by_cases hlength : point.length = p.size
  · have hrow : ∀ c ∈ p.rows, (c.indexedActivity point).map (c.bounds.admits tolerance) =
        .ok (c.bounds.admits tolerance (c.activity point)) := by
      intro c hc
      rw [Constraint.indexedActivity_eq (hlength ▸ h.rows_within c hc)]
      rfl
    rw [allM_ok hrow]
    cases (point.length == p.size && point.all Float.isFinite &&
      (p.kinds.zip point).all fun t => admitsValue t.1 t.2) <;> rfl
  · rw [beq_eq_false_iff_ne.2 hlength]
    rfl

theorem tolerance_isFinite : tolerance.isFinite = true := by decide +kernel

theorem exactValue_tolerance : 0 ≤ exactValue tolerance := by
  have hle : (0 : Float) ≤ tolerance := by decide +kernel
  exact (le_iff_exactValue rfl tolerance_isFinite).1 hle

theorem admitsValue_of_fits {k : VarKind} {x : Float} (hx : x.isFinite = true)
    (hwhole : k.isIntegral = true → IsWhole x) (hunit : k = .binary → 0 ≤ x ∧ x ≤ 1) :
    admitsValue k x = true := by
  have hwithin : k.bounds.lower ≤ x ∧ x ≤ k.bounds.upper := by
    cases k with
    | binary => exact hunit rfl
    | continuous | integer => exact between_ends (isNaN_of_isFinite hx)
  have hbounds :=
    Bounds.admits_of_within tolerance_isFinite exactValue_tolerance hwithin.1 hwithin.2
  rw [admitsValue, hbounds, Bool.true_and]
  cases hintegral : k.isIntegral with
  | false => rfl
  | true =>
    obtain ⟨hfinite, _, hsame⟩ := nearestWhole_spec hx
    have hzero := abs_sub_of_exactValue_eq hx hfinite (hsame (hwhole hintegral)).symm
    rw [hzero]
    decide +kernel

theorem of_admitsValue {k : VarKind} {x : Float} (hx : x.isFinite = true)
    (h : admitsValue k x = true) :
    k.bounds.lower - tolerance ≤ x ∧ x ≤ k.bounds.upper + tolerance ∧
      (k = .binary → 0 - tolerance ≤ x ∧ x ≤ 1 + tolerance) ∧
      (k.isIntegral = true → ∃ w : Float, IsWhole w ∧ w.isFinite = true ∧
        (x - w).abs ≤ tolerance) := by
  obtain ⟨hbounds, hintegral⟩ := (Bool.and_eq_true ..).mp h
  obtain ⟨hlower, hupper⟩ := (Bool.and_eq_true ..).mp hbounds
  refine ⟨of_decide_eq_true hlower, of_decide_eq_true hupper, ?_, fun hk => ?_⟩
  · rintro rfl
    exact ⟨of_decide_eq_true hlower, of_decide_eq_true hupper⟩
  obtain ⟨hfinite, hwhole, _⟩ := nearestWhole_spec hx
  rw [hk] at hintegral
  exact ⟨nearestWhole x, hwhole, hfinite, of_decide_eq_true hintegral⟩

/-- The check and the violation weigh a row by the same sum, which can be taken by positions. Points
of another length and points with an infinite or undefined value fail the check. Between numbers,
what has whole values where they are asked for, binary values between zero and one, and no violated
row passes it. What passes it is within the tolerance of every interval, on the sides that the
relation of a row closes and between zero and one for binary values, and of whole values. -/
theorem point_check_agrees {p : Problem} (hp : p.Reached) (point : List Float) :
    p.checkByPosition point = .ok (p.isFeasible point) ∧
    (point.length = p.size → ∀ c ∈ p.rows, c.indexedActivity point = .ok (c.activity point) ∧
      ∀ s : Solution, s.values = point →
        c.isViolated s = c.relation.brokenBy (c.activity point) c.value) ∧
    (point.length ≠ p.size ∨ (∃ x ∈ point, x.isFinite = false) → p.isFeasible point = false) ∧
    (∀ s : Solution, s.values = point → point.length = p.size → (∀ x ∈ point, x.isFinite = true) →
      (∀ c ∈ p.rows, (c.activity point).isNaN = false ∧ c.value.isNaN = false) →
      (∀ (v : Nat) (k : VarKind) x, p.kinds[v]? = some k → point[v]? = some x →
        (k.isIntegral = true → IsWhole x) ∧ (k = .binary → 0 ≤ x ∧ x ≤ 1)) →
      (∀ c ∈ p.rows, c.isViolated s = false) → p.isFeasible point = true) ∧
    (p.isFeasible point = true →
      (∀ c ∈ p.rows, c.bounds.lower - tolerance ≤ c.activity point ∧
        c.activity point ≤ c.bounds.upper + tolerance ∧
        (c.relation ≠ .atMost → c.value - tolerance ≤ c.activity point) ∧
        (c.relation ≠ .atLeast → c.activity point ≤ c.value + tolerance)) ∧
      ∀ (v : Nat) (k : VarKind) x, p.kinds[v]? = some k → point[v]? = some x →
        k.bounds.lower - tolerance ≤ x ∧ x ≤ k.bounds.upper + tolerance ∧
          (k = .binary → 0 - tolerance ≤ x ∧ x ≤ 1 + tolerance) ∧
          (k.isIntegral = true → ∃ w : Float, IsWhole w ∧ w.isFinite = true ∧
            (x - w).abs ≤ tolerance)) := by
  refine ⟨checkByPosition_eq hp point, fun hlength c hc => ?_, fun hbad => ?_, ?_, fun h => ?_⟩
  · refine ⟨Constraint.indexedActivity_eq (hlength ▸ hp.rows_within c hc), ?_⟩
    rintro s rfl
    rfl
  · refine eq_false_of_ne_true fun h => ?_
    obtain ⟨hlength, hfinite, _⟩ := isFeasible_iff.1 h
    rcases hbad with hbad | ⟨x, hx, hinfinite⟩
    · exact hbad hlength
    · exact absurd (hfinite x hx) (ne_true_of_eq_false hinfinite)
  · rintro s rfl hlength hfinite hnumbers hfits hkept
    -- The exact conditions put every value and every sum in its interval, which the tolerance
    -- widens.
    refine isFeasible_iff.2 ⟨hlength, hfinite, fun t ht => ?_, fun c hc => ?_⟩
    · obtain ⟨v, hv⟩ := List.mem_iff_getElem?.1 ht
      obtain ⟨hk, hx⟩ := List.getElem?_zip_eq_some.1 hv
      obtain ⟨hwhole, hunit⟩ := hfits v t.1 t.2 hk hx
      exact admitsValue_of_fits (hfinite t.2 (List.mem_of_getElem? hx)) hwhole hunit
    · obtain ⟨hactivity, hvalue⟩ := hnumbers c hc
      obtain ⟨hlower, hupper⟩ := Relation.within_of_not_broken hactivity hvalue (hkept c hc)
      exact Bounds.admits_of_within tolerance_isFinite exactValue_tolerance hlower hupper
  · obtain ⟨_, hfinite, hvalues, hrows⟩ := isFeasible_iff.1 h
    refine ⟨fun c hc => ?_, fun v k x hk hx => ?_⟩
    · obtain ⟨hlower, hupper⟩ := (Bool.and_eq_true ..).mp (hrows c hc)
      have hlower := of_decide_eq_true hlower
      have hupper := of_decide_eq_true hupper
      exact ⟨hlower, hupper, Relation.sides_of_within hlower hupper⟩
    · have ht : (k, x) ∈ p.kinds.zip point :=
        List.mem_of_getElem? (List.getElem?_zip_eq_some.2 ⟨hk, hx⟩)
      exact of_admitsValue (hfinite x (List.mem_of_getElem? hx)) (hvalues (k, x) ht)

end Problem

namespace Engine.Adapter

open Backend Problem

theorem serve_reached (a : Adapter) (h : Host) (r : Request) (ha : a.problem.Reached) :
    (Backend.serve a h r).backend.problem.Reached := by
  cases r with
  | declare n kind overrides => exact ha.declare n kind overrides
  | setObjective o =>
    change (a.setObjective o).state.problem.Reached
    unfold setObjective
    cases capabilities.checkObjective name o *> a.checkKinds o with
    | error e => exact ha
    | ok u => exact ha.setObjective o
  | setConstraints cs =>
    change (a.setConstraints cs).state.problem.Reached
    unfold setConstraints
    cases cs.forM (capabilities.checkConstraint name) with
    | error e => exact ha
    | ok u => exact ha.replaceRows cs
  | addConstraint c =>
    change (a.addConstraint c).state.problem.Reached
    unfold addConstraint
    cases capabilities.checkConstraint name c with
    | error e => exact ha
    | ok u => exact ha.addRow c
  | tune call | listen listener => exact ha
  | solve s =>
    rw [show (Backend.serve a h (.solve s)).backend = a from a.solve_backend h s]
    exact ha

/-- What the backend of the engine has staged is put together by changes. -/
theorem after_reached (h : Host) (rs : List Request) : (after h rs).problem.Reached :=
  Backend.converse_keeps serve_reached .empty h rs

/-- A point on the edge of the only row passes, and one value alone does not. -/
theorem point_check_agrees_edge :
    let c := (Constraint.empty.withLinear [(0, 1), (1, 1)]).withRelation .atMost 3
    let p := (after ⟨none, [], 0⟩
      [.declare 2 .integer ((∅ : KindOverrides).insert 1 .binary), .addConstraint c]).problem
    p.Reached ∧ p.rows = [c] ∧ p.isFeasible [2, 1] = true ∧ p.isFeasible [2] = false := by
  intro c p
  have hp : p.Reached := after_reached ⟨none, [], 0⟩ _
  have hkinds : p.kinds = [.integer, .binary] := rfl
  have hrows : p.rows = [c] := rfl
  clear_value p
  obtain ⟨_, _, _, hpass, _⟩ := point_check_agrees hp [2, 1]
  obtain ⟨_, _, hfail, _⟩ := point_check_agrees hp [2]
  have htwo : IsWhole 2 := ⟨2, by
    change ((2 ^ 52 : Int) : ℚ) * 2 ^ (-51 : Int) = (2 : Int)
    norm_num⟩
  have hone : IsWhole 1 := ⟨1, by
    change ((2 ^ 52 : Int) : ℚ) * 2 ^ (-52 : Int) = (1 : Int)
    norm_num⟩
  have hsize : p.size = 2 := congrArg List.length hkinds
  refine ⟨hp, hrows, hpass ⟨[2, 1], 0, 0⟩ rfl hsize.symm (by decide +kernel) ?_
    (fun v k x hk hx => ?_) ?_, hfail (.inl (by rw [hsize]; decide))⟩
  · rw [hrows]
    decide +kernel
  · rw [hkinds] at hk
    rcases v with _ | _ | v
    · have hk : .integer = k := Option.some.inj hk
      have hx : 2 = x := Option.some.inj hx
      rw [← hk, ← hx]
      exact ⟨fun _ => htwo, nofun⟩
    · have hk : .binary = k := Option.some.inj hk
      have hx : 1 = x := Option.some.inj hx
      rw [← hk, ← hx]
      exact ⟨fun _ => hone, fun _ => by decide +kernel⟩
    · cases hk
  · rw [hrows]
    decide +kernel

end Engine.Adapter

end MipDispatch
