import MipDispatch.Proofs.Adapter.Events

namespace MipDispatch

/-- Minimising, nothing is below a dual bound; maximising, nothing is above it. -/
def Sense.Limits (sense : Sense) (dual primal : Float) : Prop :=
  match sense with
  | .minimize => dual ≤ primal
  | .maximize => primal ≤ dual

namespace Problem

/-- What a bound of the engine has to meet to be reported beside `primal`. -/
structure Reports (p : Problem) (bound primal : Float) : Prop where
  integral : ∃ k ∈ p.kinds, k = .integer ∨ k = .binary
  finite : (bound + p.objective.constant).isFinite = true
  limits : p.objective.sense.Limits (bound + p.objective.constant) primal

variable {p : Problem} {bound primal : Float}

theorem integralCount_pos_iff :
    0 < p.integralCount ↔ ∃ k ∈ p.kinds, k = .integer ∨ k = .binary := by
  rw [integralCount, List.length_pos_iff_exists_mem]
  refine exists_congr fun k => ?_
  rw [List.mem_filter]
  cases k <;> simp [VarKind.isIntegral]

theorem dualBound_of_reports (h : p.Reports bound primal) :
    p.dualBound (some bound) primal = bound + p.objective.constant := by
  obtain ⟨integral, finite, limits⟩ := h
  rw [← integralCount_pos_iff] at integral
  unfold Sense.Limits at limits
  unfold dualBound
  cases hsense : p.objective.sense <;> simp_all

theorem dualBound_of_not_reports (h : ¬ p.Reports bound primal) :
    p.dualBound (some bound) primal = primal := by
  refine if_neg fun hreports => h ⟨integralCount_pos_iff.1 hreports.1, hreports.2.1, ?_⟩
  have hside := hreports.2.2
  unfold Sense.Limits
  cases hsense : p.objective.sense <;> simpa [hsense] using hside

theorem dualBound_cases (p : Problem) (engineBound : Option Float) (primal : Float) :
    (∃ b, engineBound = some b ∧ p.Reports b primal ∧
      p.dualBound engineBound primal = b + p.objective.constant) ∨
    (∀ b, engineBound = some b → ¬ p.Reports b primal) ∧
      p.dualBound engineBound primal = primal := by
  cases engineBound with
  | none => exact .inr ⟨fun b hb => (by cases hb), rfl⟩
  | some b =>
    by_cases h : p.Reports b primal
    · exact .inl ⟨b, rfl, h, dualBound_of_reports h⟩
    · refine .inr ⟨fun b' hb' => ?_, dualBound_of_not_reports h⟩
      rwa [← Option.some.inj hb']

end Problem

theorem Channel.event_of_delivery {c : Channel} {e : Event} {d : Delivery}
    (hd : d ∈ (c.publish e).deliveries) : d.event = e := by
  unfold publish publishWith at hd
  split at hd
  · split at hd
    · cases hd
    · next l _ =>
      cases hfails : l.fails e <;> simp [deliver, hfails, Trace.deliveries] at hd <;> simp [hd]
  · cases hd

namespace Engine.Adapter

variable {a : Adapter}

/-- Whatever is delivered in the course of a solve is one of the events of that solve. -/
theorem mem_told_of_delivery {h : Host} {s : Solution} {d : Delivery}
    (hd : d ∈ (a.solve h s).trace.deliveries) :
    d.event ∈ a.told h.reply (a.solve h s).result := by
  cases hdecl : a.problem.declared with
  | false =>
    rw [trace_undeclared hdecl h s] at hd
    cases hd
  | true =>
    rw [deliveries_solve hdecl] at hd
    obtain ⟨e, he, hd⟩ := List.mem_flatMap.1 hd
    rwa [Channel.event_of_delivery hd]

/-- Only the event that closes a solve with a solution is of the kind that carries bounds. -/
theorem eq_closing_of_kind {r : Reply} {result : Except Failure Outcome} {e : Event}
    (he : e ∈ a.told r result) (hkind : e.kind = "SOLVED") : e = a.closing r := by
  have hbuilt : e ≠ modelBuilt a.problem := by
    rintro rfl
    exact absurd hkind (by decide : "MODEL_BUILT" ≠ "SOLVED")
  have hstatus : e ≠ statusReached r.status r.elapsed := by
    rintro rfl
    exact absurd hkind (by decide : "STATUS" ≠ "SOLVED")
  cases result with
  | error f => exact absurd (List.mem_singleton.1 he) hbuilt
  | ok outcome =>
    cases hhas : outcome.hasSolution with
    | true => simpa [told, hhas, hbuilt, hstatus] using he
    | false => simp [told, hhas, hbuilt, hstatus] at he

/-- The bounds that are reported with a solution, whatever the engine answers: the dual bound is the
engine's one, shifted by the constant, just where that is finite and on its side of the primal bound
in a problem with integral variables, and it is the primal bound everywhere else. -/
theorem dual_bound_on_its_side (a : Adapter) (h : Host) (s : Solution) :
    let p := a.problem
    ∀ d ∈ (a.solve h s).trace.deliveries, d.event.kind = "SOLVED" →
      ∃ primal dual : Float,
        primal = p.objective.evaluate (h.reply.values p.size) ∧
        d.event.get? Event.primalKey = some (.real primal) ∧
        d.event.get? Event.dualKey = some (.real dual) ∧
        d.event.get? Event.gapKey = some (.real (progressGap primal dual)) ∧
        ((∃ b, h.reply.dualBound = some b ∧ p.Reports b primal ∧
            dual = b + p.objective.constant) ∨
          (∀ b, h.reply.dualBound = some b → ¬ p.Reports b primal) ∧ dual = primal) ∧
        (primal.isFinite = true → dual.isFinite = true) ∧
        ((∀ k ∈ p.kinds, k = .continuous) → dual = primal) := by
  intro p d hd hkind
  have hclosing : d.event = a.closing h.reply := eq_closing_of_kind (mem_told_of_delivery hd) hkind
  let primal := p.objective.evaluate (h.reply.values p.size)
  have hcases := p.dualBound_cases h.reply.dualBound primal
  rw [hclosing]
  refine ⟨primal, p.dualBound h.reply.dualBound primal, rfl, rfl, rfl, rfl, hcases, ?_, ?_⟩
  · intro hfinite
    rcases hcases with ⟨b, _, hreports, hdual⟩ | ⟨_, hdual⟩ <;> rw [hdual]
    · exact hreports.finite
    · exact hfinite
  · intro hcontinuous
    rcases hcases with ⟨b, _, hreports, _⟩ | ⟨_, hdual⟩
    · obtain ⟨k, hk, hintegral⟩ := hreports.integral
      rw [hcontinuous k hk] at hintegral
      rcases hintegral with hintegral | hintegral <;> cases hintegral
    · exact hdual

/-- Maximising over one integer variable, the engine's bound of five is reported with the constant
of ten that the engine does not know of. -/
theorem dual_bound_on_its_side_shifted :
    let p : Problem := ⟨[.integer], ⟨.maximize, 10, [1], ∅⟩, [], true⟩
    let r : Reply := { (default : Reply) with column := fun _ => 2, dualBound := some 5 }
    let a : Adapter := ⟨p, default, Channel.idle.listen (some (.recorder "l"))⟩
    ∃ d ∈ (a.solve ⟨none, [r], 0⟩ default).trace.deliveries, d.event.kind = "SOLVED" ∧
      d.event.get? Event.primalKey = some (.real 12) ∧
      d.event.get? Event.dualKey = some (.real 15) := by
  intro p r a
  let d : Delivery := ⟨"l", a.closing r, false⟩
  have hd : d ∈ (a.solve ⟨none, [r], 0⟩ default).trace.deliveries :=
    List.mem_of_getElem? (i := 2) rfl
  obtain ⟨primal, dual, hprimal, hprimalKey, hdualKey, _, hcases, _⟩ :=
    dual_bound_on_its_side a ⟨none, [r], 0⟩ default d hd rfl
  have htwelve : primal = 12 := hprimal.trans (by decide +kernel)
  have hreports : p.Reports 5 primal := by
    rw [htwelve]
    exact ⟨⟨.integer, by decide, .inl rfl⟩, by decide +kernel, by
      change (12 : Float) ≤ 5 + 10
      decide +kernel⟩
  rcases hcases with ⟨b, hb, _, hdual⟩ | ⟨hno, _⟩
  · obtain rfl := Option.some.inj hb
    have hfifteen : dual = 15 := hdual.trans (by decide +kernel)
    rw [htwelve] at hprimalKey
    rw [hfifteen] at hdualKey
    exact ⟨d, hd, rfl, hprimalKey, hdualKey⟩
  · exact absurd hreports (hno 5 rfl)

end Engine.Adapter

end MipDispatch
