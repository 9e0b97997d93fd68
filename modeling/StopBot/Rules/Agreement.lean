import StopBot.Rules.Evaluator

/-!
# The two evaluations agree

The ladder and the candidates for the nearest stop are written out twice. Each
rule of the ladder gives the stage of its candidate, a candidate that stops
has reached its threshold, and one that does not never outranks one that does:
the only candidates that stand at their threshold without stopping are the
spend range, which is rounded, and the frequency, which is compared strictly,
and they come last.
-/

namespace StopBot.Rules

open Lib Observer

@[simp] theorem ofDecimal_eq_ok {α : Type} {x : Except DecimalError α} {a : α} :
    ofDecimal x = .ok a ↔ x = .ok a := by
  cases x <;> simp [ofDecimal]

def stageOf (hit : Option RuleHit) : Option AlertStage := hit.bind (·.stage)

-- ------------------------------------------------------------
-- Ladder and candidates, rule by rule
-- ------------------------------------------------------------

section
variable {A : Arithmetic} {code : RuleCode} {exponent : Int} {enabled : Bool} {th : Thresholds}
variable {row : ScannedAdRow} {ctx : RuleContext} {hit cand : Option RuleHit}

theorem reached_stage {current stop warning : Decimal}
    (h : reached code current stop warning = .ok hit) :
    stageFrom current stop warning = .ok (stageOf hit) := by
  simp only [reached, bind_eq_ok, ofDecimal_eq_ok] at h
  obtain ⟨stops, hstops, h⟩ := h
  simp only [stageFrom, hstops, ofDecimal]
  cases stops with
  | true =>
    obtain rfl := Except.ok.inj h
    rfl
  | false =>
    simp only [Bool.false_eq_true, if_false, bind_eq_ok, ofDecimal_eq_ok] at h
    obtain ⟨warns, hwarns, h⟩ := h
    simp only [hwarns]
    cases warns <;> obtain rfl := Except.ok.inj h <;> rfl

theorem stopProgressHit_ok {value stop : Decimal} {stage : Option AlertStage}
    {progressHit : RuleHit} (h : stopProgressHit code value stop stage = .ok progressHit) :
    ∃ v t, value = .finite v ∧ stop = .finite t ∧ 0 ≤ v ∧ 0 < t ∧
      progressHit = ruleHit code stage (.finite v) (.finite t) := by
  unfold stopProgressHit at h
  split at h
  · rename_i v t
    split_ifs at h with hv ht
    exact ⟨v, t, rfl, rfl, not_lt.mp hv, not_le.mp ht, (Except.ok.inj h).symm⟩
  · split_ifs at h
  · cases h

theorem decimalStopCandidate_ok {value stop warning : Decimal}
    (h : decimalStopCandidate value true stop warning code = .ok cand) :
    ∃ v t stage, value = .finite v ∧ stop = .finite t ∧ 0 ≤ v ∧ 0 < t ∧
      stageFrom value stop warning = .ok stage ∧
      cand = some (ruleHit code stage (.finite v) (.finite t)) := by
  simp only [decimalStopCandidate, if_true, bind_eq_ok] at h
  obtain ⟨stage, hstage, progressHit, hprogress, h⟩ := h
  obtain ⟨v, t, hv, ht, hv0, ht0, rfl⟩ := stopProgressHit_ok hprogress
  exact ⟨v, t, stage, hv, ht, hv0, ht0, hstage, (Except.ok.inj h).symm⟩

theorem guardrail_stage {spend : Decimal}
    (hhit : evaluateGuardrailOnly A spend enabled th code exponent = .ok hit)
    (hcand : decimalStopCandidate spend enabled th.stop th.warning code = .ok cand) :
    stageOf hit = stageOf cand := by
  cases enabled with
  | false =>
    obtain rfl := Except.ok.inj hhit
    obtain rfl := Except.ok.inj hcand
    rfl
  | true =>
    simp only [evaluateGuardrailOnly, if_true, bind_eq_ok] at hhit
    obtain ⟨-, -, -, -, hreached⟩ := hhit
    obtain ⟨v, t, stage, -, -, -, -, hstage, rfl⟩ := decimalStopCandidate_ok hcand
    rw [reached_stage hreached] at hstage
    exact Except.ok.inj hstage

theorem metric_stage {metric : Option Decimal}
    (hhit : evaluateMetricOnly A metric enabled th code exponent = .ok hit)
    (hcand : moneyStopCandidate metric enabled th code = .ok cand) :
    stageOf hit = stageOf cand := by
  cases metric with
  | none =>
    obtain rfl := Except.ok.inj hcand
    cases enabled <;> obtain rfl := Except.ok.inj hhit <;> rfl
  | some metric =>
    simp only [moneyStopCandidate, bind_eq_ok] at hcand
    obtain ⟨current, hcurrent, hcand⟩ := hcand
    cases enabled with
    | false =>
      obtain rfl := Except.ok.inj hhit
      obtain rfl := Except.ok.inj hcand
      rfl
    | true =>
      simp only [evaluateMetricOnly, bind_eq_ok] at hhit
      obtain ⟨current', hcurrent', -, -, -, -, hreached⟩ := hhit
      rw [hcurrent] at hcurrent'
      obtain rfl := Except.ok.inj hcurrent'
      obtain ⟨v, t, stage, -, -, -, -, hstage, rfl⟩ := decimalStopCandidate_ok hcand
      rw [reached_stage hreached] at hstage
      exact Except.ok.inj hstage

theorem regs_stage (hcand : registrationsWithoutDepositStopCandidate row ctx = .ok cand) :
    stageOf (evaluateRegsWithoutDeposits row ctx) = stageOf cand := by
  unfold registrationsWithoutDepositStopCandidate at hcand
  unfold evaluateRegsWithoutDeposits
  split at hcand
  · rename_i hoff
    obtain rfl := Except.ok.inj hcand
    rw [if_pos hoff]
  · rename_i hon
    rw [if_neg hon]
    obtain ⟨v, t, stage, -, -, -, -, hstage, rfl⟩ := decimalStopCandidate_ok hcand
    simp only [stageFrom, Decimal.le_finite, Int.cast_le, ofDecimal] at hstage
    by_cases hstop : ctx.regsNoDepStopCount ≤ row.registrations
    · simp only [hstop, decide_true] at hstage
      rw [if_pos hstop]
      exact Except.ok.inj hstage
    · rw [if_neg hstop]
      simp only [hstop, decide_false] at hstage
      by_cases hone : ctx.regsNoDepStopCount ≤ 1
      · simp only [warningCount, hone, if_true, Option.getD_none, Decimal.le_finite, Int.cast_le,
          hstop, decide_false] at hstage ⊢
        exact Except.ok.inj hstage
      · simp only [warningCount, hone, if_false, Option.getD_some, Decimal.le_finite,
          Int.cast_le] at hstage ⊢
        by_cases hwarn : ctx.regsNoDepStopCount - 1 ≤ row.registrations
        · simp only [hwarn, decide_true] at hstage
          rw [if_pos hwarn]
          exact Except.ok.inj hstage
        · simp only [hwarn, decide_false] at hstage
          rw [if_neg hwarn]
          exact Except.ok.inj hstage

/-- What a spend candidate is: its value and its threshold are rounded to the
same step, and the comparison is with the threshold before rounding. -/
theorem spendRangeStopCandidate_ok {currentValue stopFrom warningPercent stopPercent : Decimal}
    (h : spendRangeStopCandidate A true currentValue stopFrom warningPercent stopPercent code =
      .ok cand) :
    ∃ current effective warning stage v t, roundPercent A currentValue = .ok current ∧
      shareOf A stopFrom stopPercent = .ok effective ∧
      shareOf A effective warningPercent = .ok warning ∧
      stageFrom current effective warning = .ok stage ∧
      roundPercent A effective = .ok (.finite t) ∧ current = .finite v ∧ 0 ≤ v ∧ 0 < t ∧
      cand = some (ruleHit code stage (.finite v) (.finite t)) := by
  simp only [spendRangeStopCandidate, if_true, bind_eq_ok] at h
  obtain ⟨current, hcurrent, effective, heffective, warning, hwarning, stage, hstage, rounded,
    hrounded, progressHit, hprogress, h⟩ := h
  obtain ⟨v, t, hv, rfl, hv0, ht0, rfl⟩ := stopProgressHit_ok hprogress
  exact ⟨current, effective, warning, stage, v, t, hcurrent, heffective, hwarning, hstage,
    hrounded, hv, hv0, ht0, (Except.ok.inj h).symm⟩

/-- The stage of a spend rule is that of its rounded percentage; below the
threshold, the second comparison of the chain is true. -/
theorem evaluateSpendRange_ok {currentValue cpa stopFrom warningPercent stopPercent : Decimal}
    (h : evaluateSpendRange A true currentValue cpa exponent stopFrom warningPercent
      stopPercent code =
      .ok hit) :
    ∃ current effective warning, roundPercent A currentValue = .ok current ∧
      shareOf A stopFrom stopPercent = .ok effective ∧
      shareOf A effective warningPercent = .ok warning ∧
      stageFrom current effective warning = .ok (stageOf hit) := by
  simp only [evaluateSpendRange, if_true, bind_eq_ok, ofDecimal_eq_ok] at h
  obtain ⟨effective, heffective, warning, hwarning, -, -, current, hcurrent,
      stopThreshold, -, stops,
    hstops, h⟩ := h
  refine ⟨current, effective, warning, hcurrent, heffective, hwarning, ?_⟩
  simp only [stageFrom, hstops, ofDecimal]
  cases stops with
  | true =>
    obtain rfl := Except.ok.inj h
    rfl
  | false =>
    simp only [Bool.false_eq_true, if_false, bind_eq_ok, ofDecimal_eq_ok] at h
    obtain ⟨warns, hwarns, h⟩ := h
    simp only [hwarns]
    have hbelow : current.lt effective = .ok true := by
      unfold Decimal.le at hstops
      cases hlt : current.lt effective with
      | error error => simp [hlt, Except.map] at hstops
      | ok below => simpa [hlt, Except.map] using hstops
    cases warns with
    | true =>
      simp only [if_true, hbelow, ofDecimal, ok_bind, bind_eq_ok] at h
      obtain ⟨rounded, -, h⟩ := h
      obtain rfl := Except.ok.inj h
      rfl
    | false =>
      obtain rfl := Except.ok.inj h
      rfl

theorem spendRange_stage {currentValue cpa stopFrom warningPercent stopPercent : Decimal}
    (hhit : evaluateSpendRange A enabled currentValue cpa exponent stopFrom warningPercent
      stopPercent code = .ok hit)
    (hcand : spendRangeStopCandidate A enabled currentValue stopFrom warningPercent
      stopPercent code =
      .ok cand) :
    stageOf hit = stageOf cand := by
  cases enabled with
  | false =>
    obtain rfl := Except.ok.inj hhit
    obtain rfl := Except.ok.inj hcand
    rfl
  | true =>
    obtain ⟨current, effective, warning, stage, v, t, hcurrent, heffective, hwarning, hstage,
      -, -, -, -, rfl⟩ := spendRangeStopCandidate_ok hcand
    obtain ⟨current', effective', warning', hcurrent', heffective', hwarning', hstage'⟩ :=
      evaluateSpendRange_ok hhit
    rw [hcurrent] at hcurrent'
    rw [heffective] at heffective'
    obtain rfl := Except.ok.inj hcurrent'
    obtain rfl := Except.ok.inj heffective'
    rw [hwarning] at hwarning'
    obtain rfl := Except.ok.inj hwarning'
    rw [hstage] at hstage'
    exact (Except.ok.inj hstage').symm

theorem frequencyStopCandidate_ok (h : frequencyStopCandidate A ctx = .ok cand) :
    (confirmedFrequency A ctx = .ok none ∧ cand = none) ∨
    ∃ v t stage, confirmedFrequency A ctx = .ok (some (.finite v)) ∧
      ctx.frequencyStopThreshold = .finite t ∧ 0 ≤ v ∧ 0 < t ∧
      (stage = some .stop ↔ t < v) ∧
      cand = some (ruleHit .frequencyAnomaly stage (.finite v) (.finite t)) := by
  simp only [frequencyStopCandidate, bind_eq_ok] at h
  obtain ⟨confirmed, hconfirmed, h⟩ := h
  cases confirmed with
  | none => exact .inl ⟨hconfirmed, (Except.ok.inj h).symm⟩
  | some current =>
    simp only [bind_eq_ok] at h
    obtain ⟨stage, hstage, progressHit, hprogress, h⟩ := h
    obtain ⟨v, t, rfl, ht, hv0, ht0, rfl⟩ := stopProgressHit_ok hprogress
    refine .inr ⟨v, t, stage, hconfirmed, ht, hv0, ht0, ?_, (Except.ok.inj h).symm⟩
    simp only [strictStageFrom, ht, Decimal.lt_finite, ofDecimal, ok_bind] at hstage
    by_cases hlt : t < v
    · simp only [hlt, decide_true, if_true] at hstage
      obtain rfl := Except.ok.inj hstage
      simp [hlt]
    · simp only [hlt, decide_false, Bool.false_eq_true, if_false, bind_eq_ok] at hstage
      obtain ⟨warns, -, hstage⟩ := hstage
      cases warns <;> obtain rfl := Except.ok.inj hstage <;> simp [hlt]

theorem frequency_stage (hhit : evaluateFrequencyAnomaly A ctx = .ok hit)
    (hcand : frequencyStopCandidate A ctx = .ok cand) :
    stageOf hit = some .stop ↔ stageOf cand = some .stop := by
  simp only [evaluateFrequencyAnomaly, bind_eq_ok] at hhit
  obtain ⟨confirmed, hconfirmed, hhit⟩ := hhit
  rcases frequencyStopCandidate_ok hcand with
    ⟨hnone, rfl⟩ | ⟨v, t, stage, hsome, ht, -, -, hstop, rfl⟩
  · rw [hconfirmed] at hnone
    obtain rfl := Except.ok.inj hnone
    obtain rfl := Except.ok.inj hhit
    rfl
  · rw [hconfirmed] at hsome
    obtain rfl := Except.ok.inj hsome
    simp only [ht, Decimal.lt_finite, ofDecimal, ok_bind] at hhit
    have hcand' : stageOf (some (ruleHit .frequencyAnomaly stage (.finite v) (.finite t))) =
        some .stop ↔ t < v := hstop
    rw [hcand']
    by_cases hlt : t < v
    · simp only [hlt, decide_true, if_true] at hhit
      obtain rfl := Except.ok.inj hhit
      simp [stageOf, ruleHit, hlt]
    · simp only [hlt, decide_false, Bool.false_eq_true, if_false, bind_eq_ok] at hhit
      obtain ⟨warns, -, hhit⟩ := hhit
      cases warns <;> obtain rfl := Except.ok.inj hhit <;> simp [stageOf, ruleHit, hlt]

end

-- ------------------------------------------------------------
-- The ladder and the list of candidates
-- ------------------------------------------------------------

theorem pickHighestPriorityHit_stop {hits : List (Option RuleHit)} :
    stageOf (pickHighestPriorityHit hits) = some .stop ↔
      ∃ hit ∈ hits, stageOf hit = some .stop := by
  simp only [pickHighestPriorityHit]
  split
  · rename_i hit hfind
    have hstop := List.find?_some hfind
    have hmem := List.mem_of_find?_eq_some hfind
    obtain ⟨own, hown, heq⟩ := List.mem_filterMap.mp hmem
    simp only [id] at heq
    subst heq
    have hstage : stageOf (some hit) = some .stop := by simpa [stageOf] using hstop
    exact ⟨fun _ => ⟨some hit, hown, hstage⟩, fun _ => hstage⟩
  · rename_i hfind
    constructor
    · intro h
      -- the second search finds warnings only
      obtain ⟨hit, hwarn, hstage⟩ := Option.bind_eq_some_iff.mp h
      have := List.find?_some hwarn
      simp [hstage] at this
    · rintro ⟨own, hown, hstage⟩
      obtain ⟨hit, rfl, hstop⟩ := Option.bind_eq_some_iff.mp hstage
      have := List.find?_eq_none.mp hfind hit (List.mem_filterMap.mpr ⟨some hit, hown, rfl⟩)
      simp [hstop] at this

theorem evaluationOf_stop {final nearest : Option RuleHit} :
    (evaluationOf final nearest).stage = some .stop ↔ stageOf final = some .stop := by
  cases final with
  | none => simp [evaluationOf, stageOf]
  | some hit => by_cases h : hit.stage = some .stop <;> simp [evaluationOf, stageOf, h]

@[simp] theorem evaluationOf_nearestStop {final nearest : Option RuleHit} :
    (evaluationOf final nearest).nearestStop = nearest := by
  cases final with
  | none => rfl
  | some hit => by_cases h : hit.stage = some .stop <;> simp [evaluationOf, h]

theorem ladder_stop {A : Arithmetic} {row : ScannedAdRow} {ctx : RuleContext} {hit : Option RuleHit}
    {candidates : List (Option RuleHit)} (hclicks : 0 ≤ row.clicks)
    (hhit : evaluateFunnelLadder A row ctx = .ok hit)
    (hcand : funnelStopCandidates A row ctx = .ok candidates) :
    stageOf hit = some .stop ↔ ∃ cand ∈ candidates, stageOf cand = some .stop := by
  unfold evaluateFunnelLadder at hhit
  unfold funnelStopCandidates at hcand
  split at hhit
  · rename_i hdeposit
    simp only [hdeposit, if_true, bind_eq_ok] at hcand
    obtain ⟨spend, hspend, hcand⟩ := hcand
    obtain rfl := Except.ok.inj hcand
    simp only [evaluateDepositStage, spendWithDepositStopCandidate, bind_eq_ok] at hhit hspend
    obtain ⟨percent, hpercent, hhit⟩ := hhit
    obtain ⟨percent', hpercent', hspend⟩ := hspend
    rw [hpercent] at hpercent'
    obtain rfl := Except.ok.inj hpercent'
    simp [spendRange_stage hhit hspend]
  · rename_i hdeposit
    simp only [hdeposit, Bool.false_eq_true, if_false] at hcand
    split at hhit
    · rename_i hregs
      simp only [hregs, if_true, bind_eq_ok] at hcand
      obtain ⟨spend, hspend, cpr, hcpr, regs, hregsCand, hcand⟩ := hcand
      obtain rfl := Except.ok.inj hcand
      simp only [evaluateRegistrationStage, bind_eq_ok] at hhit
      obtain ⟨cprHit, hcprHit, spendHit, hspendHit, hhit⟩ := hhit
      obtain rfl := Except.ok.inj hhit
      have hspendStage : stageOf spendHit = stageOf spend := by
        simp only [registrationSpendHit, registrationSpendCandidate, bind_eq_ok] at hspendHit hspend
        obtain ⟨applies, happlies, hspendHit⟩ := hspendHit
        obtain ⟨applies', happlies', hspend⟩ := hspend
        rw [happlies] at happlies'
        obtain rfl := Except.ok.inj happlies'
        cases applies with
        | false =>
          obtain rfl := Except.ok.inj hspendHit
          obtain rfl := Except.ok.inj hspend
          rfl
        | true =>
          simp only [if_true, spendWithoutDepositStopCandidate, bind_eq_ok] at hspendHit hspend
          obtain ⟨percent, hpercent, hspendHit⟩ := hspendHit
          obtain ⟨percent', hpercent', hspend⟩ := hspend
          rw [hpercent] at hpercent'
          obtain rfl := Except.ok.inj hpercent'
          exact spendRange_stage hspendHit hspend
      rw [pickHighestPriorityHit_stop]
      simp [metric_stage hcprHit hcpr, regs_stage hregsCand, hspendStage]
    · rename_i hregs
      simp only [hregs, if_false] at hcand
      split at hhit
      · rename_i hleads
        simp only [hleads, if_true, bind_eq_ok] at hcand
        obtain ⟨cpl, hcpl, cpr, hcpr, hcand⟩ := hcand
        obtain rfl := Except.ok.inj hcand
        simp only [evaluateLeadStage, bind_eq_ok] at hhit
        obtain ⟨cplHit, hcplHit, cprHit, hcprHit, hhit⟩ := hhit
        obtain rfl := Except.ok.inj hhit
        rw [pickHighestPriorityHit_stop]
        simp [metric_stage hcplHit hcpl, guardrail_stage hcprHit hcpr]
      · rename_i hleads
        simp only [hleads, if_false] at hcand
        unfold evaluateClickStage at hhit
        by_cases hzero : row.clicks = 0
        · have hnone : ¬(1 ≤ row.clicks) := by omega
          simp only [hnone, if_false, bind_eq_ok] at hcand
          obtain ⟨cpc, hcpc, hcand⟩ := hcand
          obtain rfl := Except.ok.inj hcand
          simp only [hzero, if_true] at hhit
          simp [guardrail_stage hhit hcpc]
        · have hsome : 1 ≤ row.clicks := by omega
          simp only [hsome, if_true, bind_eq_ok] at hcand
          obtain ⟨cpc, hcpc, cpl, hcpl, hcand⟩ := hcand
          obtain rfl := Except.ok.inj hcand
          simp only [hzero, if_false, bind_eq_ok] at hhit
          obtain ⟨cpcHit, hcpcHit, cplHit, hcplHit, hhit⟩ := hhit
          obtain rfl := Except.ok.inj hhit
          rw [pickHighestPriorityHit_stop]
          simp [metric_stage hcpcHit hcpc, guardrail_stage hcplHit hcpl]

-- ------------------------------------------------------------
-- The nearest stop
-- ------------------------------------------------------------

def RuleHit.ratio (hit : RuleHit) : ℚ :=
  match hit.value, hit.threshold with
  | .finite v, .finite t => v / t
  | _, _ => 0

/-- A hit with a finite value and a positive threshold, on the right side of it. -/
structure Fair (hit : RuleHit) : Prop where
  measured : ∃ v t, hit.value = .finite v ∧ hit.threshold = .finite t ∧ 0 ≤ v ∧ 0 < t
  stop : hit.stage = some .stop → 1 ≤ hit.ratio
  below : hit.stage ≠ some .stop → hit.ratio ≤ 1

def Sharp (hit : RuleHit) : Prop := hit.stage ≠ some .stop → hit.ratio < 1

def Over (hit : RuleHit) : Prop := hit.stage = some .stop → 1 < hit.ratio

def Ordered (first second : RuleHit) : Prop :=
  (first.stage ≠ some .stop → second.stage = some .stop → first.ratio < second.ratio) ∧
  (first.stage = some .stop → second.stage ≠ some .stop → second.ratio ≤ first.ratio)

theorem Fair.ordered_sharp {first second : RuleHit} (hfirst : Fair first) (hsharp : Sharp first)
    (hsecond : Fair second) : Ordered first second :=
  ⟨fun hbelow hstop => lt_of_lt_of_le (hsharp hbelow) (hsecond.stop hstop),
    fun hstop hbelow => le_trans (hsecond.below hbelow) (hfirst.stop hstop)⟩

theorem Fair.ordered_over {first second : RuleHit} (hfirst : Fair first)
    (hsecond : Fair second) (hover : Over second) : Ordered first second :=
  ⟨fun hbelow hstop => lt_of_le_of_lt (hfirst.below hbelow) (hover hstop),
    fun hstop hbelow => le_trans (hsecond.below hbelow) (hfirst.stop hstop)⟩

theorem Fair.progress {hit : RuleHit} (h : Fair hit) :
    progress .exact hit = .ok (.finite hit.ratio) := by
  obtain ⟨v, t, hv, ht, -, hpos⟩ := h.measured
  simp [Rules.progress, RuleHit.ratio, hv, ht, Arithmetic.div, Arithmetic.finish,
    hpos.ne', ofDecimal]

theorem furthest_exact {best result : RuleHit} {rest : List RuleHit}
    (hfair : ∀ hit ∈ best :: rest, Fair hit) (hordered : (best :: rest).Pairwise Ordered)
    (h : furthest .exact best (.finite best.ratio) rest = .ok result) :
    result ∈ best :: rest ∧
      ((∃ hit ∈ best :: rest, hit.stage = some .stop) → result.stage = some .stop) := by
  induction rest generalizing best with
  | nil =>
    obtain rfl := Except.ok.inj h
    refine ⟨by simp, ?_⟩
    rintro ⟨hit, hmem, hstop⟩
    rw [List.mem_singleton] at hmem
    rwa [← hmem]
  | cons hit rest ih =>
    obtain ⟨⟨hfirst, hbest⟩, hhit, hrest⟩ : ((Ordered best hit) ∧ ∀ c ∈ rest, Ordered best c) ∧
        (∀ c ∈ rest, Ordered hit c) ∧ rest.Pairwise Ordered := by
      simpa [List.pairwise_cons, and_assoc] using hordered
    simp only [furthest, (hfair hit (by simp)).progress, Decimal.lt_finite, ofDecimal, ok_bind] at h
    by_cases hlt : best.ratio < hit.ratio
    · simp only [hlt, decide_true, if_true] at h
      obtain ⟨hmem, hstop⟩ := ih (fun c hc => hfair c (List.mem_cons_of_mem _ hc))
        (List.pairwise_cons.mpr ⟨hhit, hrest⟩) h
      refine ⟨List.mem_cons_of_mem _ hmem, ?_⟩
      rintro ⟨c, hc, hcstop⟩
      apply hstop
      rcases List.mem_cons.mp hc with rfl | hc
      · -- a stop is not overtaken by a hit that is none
        refine ⟨hit, by simp, ?_⟩
        by_contra hno
        exact absurd (hfirst.2 hcstop hno) (not_le.mpr hlt)
      · exact ⟨c, hc, hcstop⟩
    · simp only [hlt, decide_false, Bool.false_eq_true, if_false] at h
      obtain ⟨hmem, hstop⟩ := ih
        (fun c hc => hfair c (by rcases List.mem_cons.mp hc with rfl | hc <;> simp [*]))
        (List.pairwise_cons.mpr ⟨hbest, hrest⟩) h
      refine ⟨by rcases List.mem_cons.mp hmem with rfl | hmem <;> simp [*], ?_⟩
      rintro ⟨c, hc, hcstop⟩
      apply hstop
      rcases List.mem_cons.mp hc with rfl | hc
      · exact ⟨c, by simp, hcstop⟩
      rcases List.mem_cons.mp hc with rfl | hc
      · refine ⟨best, by simp, ?_⟩
        by_contra hno
        exact absurd (hfirst.1 hno hcstop) hlt
      · exact ⟨c, List.mem_cons_of_mem _ hc, hcstop⟩

-- ------------------------------------------------------------
-- What the candidates are
-- ------------------------------------------------------------

section
variable {A : Arithmetic} {code : RuleCode} {enabled : Bool} {cand : Option RuleHit}
variable {row : ScannedAdRow} {ctx : RuleContext}

theorem stageFrom_stop {v t : ℚ} {warning : Decimal} {stage : Option AlertStage}
    (h : stageFrom (.finite v) (.finite t) warning = .ok stage) : stage = some .stop ↔ t ≤ v := by
  simp only [stageFrom, Decimal.le_finite, ofDecimal, ok_bind] at h
  by_cases hle : t ≤ v
  · simp only [hle, decide_true, if_true] at h
    obtain rfl := Except.ok.inj h
    simp [hle]
  · simp only [hle, decide_false, Bool.false_eq_true, if_false, bind_eq_ok] at h
    obtain ⟨warns, -, h⟩ := h
    cases warns <;> obtain rfl := Except.ok.inj h <;> simp [hle]

theorem Fair.ruleHit {stage : Option AlertStage} {v t : ℚ} (hv : 0 ≤ v) (ht : 0 < t)
    (hstop : stage = some .stop → t ≤ v) (hbelow : stage ≠ some .stop → v ≤ t) :
    Fair (ruleHit code stage (.finite v) (.finite t)) where
  measured := ⟨v, t, rfl, rfl, hv, ht⟩
  stop hstage := (one_le_div ht).mpr (hstop hstage)
  below hstage := (div_le_one ht).mpr (hbelow hstage)

theorem decimalStopCandidate_fair {value stop warning : Decimal}
    (h : decimalStopCandidate value enabled stop warning code = .ok cand) :
    ∀ hit, cand = some hit → Fair hit ∧ Sharp hit := by
  rintro hit rfl
  cases enabled with
  | false => cases h
  | true =>
    obtain ⟨v, t, stage, rfl, rfl, hv, ht, hstage, hcand⟩ := decimalStopCandidate_ok h
    obtain rfl := Option.some.inj hcand
    have hiff := stageFrom_stop hstage
    refine ⟨.ruleHit hv ht hiff.mp fun hno => (not_le.mp (mt hiff.mpr hno)).le, fun hno => ?_⟩
    exact (div_lt_one ht).mpr (not_le.mp (mt hiff.mpr hno))

theorem moneyStopCandidate_fair {value : Option Decimal} {th : Thresholds}
    (h : moneyStopCandidate value enabled th code = .ok cand) :
    ∀ hit, cand = some hit → Fair hit ∧ Sharp hit := by
  cases value with
  | none =>
    obtain rfl := Except.ok.inj h
    intro hit hhit
    cases hhit
  | some value =>
    simp only [moneyStopCandidate, bind_eq_ok] at h
    obtain ⟨current, -, h⟩ := h
    exact decimalStopCandidate_fair h

theorem registrationsCandidate_fair
    (h : registrationsWithoutDepositStopCandidate row ctx = .ok cand) :
    ∀ hit, cand = some hit → Fair hit ∧ Sharp hit := by
  unfold registrationsWithoutDepositStopCandidate at h
  split at h
  · obtain rfl := Except.ok.inj h
    intro hit hhit
    cases hhit
  · exact decimalStopCandidate_fair h

/-- Rounding to the step of the percentages keeps a value on its side of a threshold. -/
theorem spendRangeStopCandidate_fair
    {currentValue stopFrom warningPercent stopPercent : Decimal}
    (h : spendRangeStopCandidate A enabled currentValue stopFrom warningPercent stopPercent code =
      .ok cand) : ∀ hit, cand = some hit → Fair hit := by
  rintro hit rfl
  cases enabled with
  | false => cases h
  | true =>
    obtain ⟨current, effective, warning, stage, v, t, hcurrent, -, -, hstage, hrounded, rfl, hv, ht,
      hcand⟩ := spendRangeStopCandidate_ok h
    obtain rfl := Option.some.inj hcand
    simp only [roundPercent, ofDecimal_eq_ok] at hcurrent hrounded
    obtain ⟨x, -, -, hx⟩ := Arithmetic.quantize_eq_finite hcurrent
    obtain ⟨e, rfl, -, he⟩ := Arithmetic.quantize_eq_finite hrounded
    have hiff := stageFrom_stop hstage
    refine .ruleHit hv ht (fun hstop => ?_) fun hno => ?_
    · have hle := halfUp_le (q := e / (1 / 100)) (n := halfUp (x / (1 / 100)))
        (by linarith [hiff.mp hstop])
      have : (halfUp (e / (1 / 100)) : ℚ) ≤ halfUp (x / (1 / 100)) := by exact_mod_cast hle
      linarith
    · have hle := le_halfUp (q := e / (1 / 100)) (n := halfUp (x / (1 / 100)))
        (by linarith [not_le.mp (mt hiff.mpr hno)])
      have : (halfUp (x / (1 / 100)) : ℚ) ≤ halfUp (e / (1 / 100)) := by exact_mod_cast hle
      linarith

theorem frequencyStopCandidate_fair (h : frequencyStopCandidate A ctx = .ok cand) :
    ∀ hit, cand = some hit → Fair hit ∧ Over hit := by
  rintro hit rfl
  rcases frequencyStopCandidate_ok h with ⟨-, hnone⟩ | ⟨v, t, stage, -, -, hv, ht, hiff, hcand⟩
  · cases hnone
  · obtain rfl := Option.some.inj hcand
    refine ⟨.ruleHit hv ht (fun hstop => (hiff.mp hstop).le) fun hno =>
      not_lt.mp (mt hiff.mpr hno), ?_⟩
    exact fun hstop => (one_lt_div ht).mpr (hiff.mp hstop)

theorem registrationSpendCandidate_fair (h : registrationSpendCandidate A row ctx = .ok cand) :
    ∀ hit, cand = some hit → Fair hit := by
  simp only [registrationSpendCandidate, bind_eq_ok] at h
  obtain ⟨applies, -, h⟩ := h
  cases applies with
  | false =>
    obtain rfl := Except.ok.inj h
    intro hit hhit
    cases hhit
  | true =>
    simp only [if_true, spendWithoutDepositStopCandidate, bind_eq_ok] at h
    obtain ⟨percent, -, h⟩ := h
    exact spendRangeStopCandidate_fair h

theorem funnelStopCandidates_fair {candidates : List (Option RuleHit)}
    (h : funnelStopCandidates A row ctx = .ok candidates) :
    ∃ (sharp : List RuleHit) (last : Option RuleHit),
      candidates.filterMap id = sharp ++ last.toList ∧
      (∀ hit ∈ sharp, Fair hit ∧ Sharp hit) ∧ ∀ hit, last = some hit → Fair hit := by
  have htwo (a b : Option RuleHit) : [a, b].filterMap id = (a.toList ++ b.toList) ++
      none.toList := by
    cases a <;> cases b <;> rfl
  have hpair {a b : Option RuleHit} (ha : ∀ hit, a = some hit → Fair hit ∧ Sharp hit)
      (hb : ∀ hit, b = some hit → Fair hit ∧ Sharp hit) :
      ∀ hit ∈ a.toList ++ b.toList, Fair hit ∧ Sharp hit := by
    intro hit hmem
    rcases List.mem_append.mp hmem with hmem | hmem
    · exact ha hit (Option.mem_toList.mp hmem)
    · exact hb hit (Option.mem_toList.mp hmem)
  unfold funnelStopCandidates at h
  split at h
  · obtain ⟨spend, hspend, h⟩ := bind_eq_ok.mp h
    obtain rfl := Except.ok.inj h
    simp only [spendWithDepositStopCandidate, bind_eq_ok] at hspend
    obtain ⟨percent, -, hspend⟩ := hspend
    exact ⟨[], spend, by cases spend <;> rfl, by simp, spendRangeStopCandidate_fair hspend⟩
  split at h
  · simp only [bind_eq_ok] at h
    obtain ⟨spend, hspend, cpr, hcpr, regs, hregs, h⟩ := h
    obtain rfl := Except.ok.inj h
    exact ⟨cpr.toList ++ regs.toList, spend, by cases cpr <;> cases regs <;> cases spend <;> rfl,
      hpair (moneyStopCandidate_fair hcpr) (registrationsCandidate_fair hregs),
      registrationSpendCandidate_fair hspend⟩
  split at h
  · simp only [bind_eq_ok] at h
    obtain ⟨cpl, hcpl, cpr, hcpr, h⟩ := h
    obtain rfl := Except.ok.inj h
    exact ⟨_, none, htwo cpl cpr,
      hpair (moneyStopCandidate_fair hcpl) (decimalStopCandidate_fair hcpr), by simp⟩
  split at h
  · simp only [bind_eq_ok] at h
    obtain ⟨cpc, hcpc, cpl, hcpl, h⟩ := h
    obtain rfl := Except.ok.inj h
    exact ⟨_, none, htwo cpc cpl,
      hpair (moneyStopCandidate_fair hcpc) (decimalStopCandidate_fair hcpl), by simp⟩
  · obtain ⟨cpc, hcpc, h⟩ := bind_eq_ok.mp h
    obtain rfl := Except.ok.inj h
    refine ⟨cpc.toList, none, by cases cpc <;> rfl, fun hit hmem => ?_, by simp⟩
    exact decimalStopCandidate_fair hcpc hit (Option.mem_toList.mp hmem)

end

theorem pairwise_toList {α : Type} {R : α → α → Prop} (o : Option α) : o.toList.Pairwise R := by
  cases o <;> simp

theorem candidates_ordered {A : Arithmetic} {row : ScannedAdRow} {ctx : RuleContext}
    {candidates : List (Option RuleHit)} {frequency : Option RuleHit}
    (hfunnel : funnelStopCandidates A row ctx = .ok candidates)
    (hfrequency : frequencyStopCandidate A ctx = .ok frequency) :
    (∀ hit ∈ (candidates ++ [frequency]).filterMap id, Fair hit) ∧
      ((candidates ++ [frequency]).filterMap id).Pairwise Ordered := by
  obtain ⟨sharp, last, heq, hsharp, hlast⟩ := funnelStopCandidates_fair hfunnel
  have hover := frequencyStopCandidate_fair hfrequency
  have hlist : (candidates ++ [frequency]).filterMap id = (sharp ++ last.toList) ++
      frequency.toList := by
    rw [List.filterMap_append, heq]
    cases frequency <;> rfl
  rw [hlist]
  constructor
  · intro hit hmem
    simp only [List.mem_append, Option.mem_toList, or_assoc] at hmem
    rcases hmem with hmem | hmem | hmem
    · exact (hsharp hit hmem).1
    · exact hlast hit hmem
    · exact (hover hit hmem).1
  · refine List.pairwise_append.mpr ⟨List.pairwise_append.mpr ⟨?_, pairwise_toList last, ?_⟩,
      pairwise_toList frequency, ?_⟩
    · refine List.pairwise_of_forall_mem_list ?_
      intro first hfirst second hsecond
      exact (hsharp first hfirst).1.ordered_sharp (hsharp first hfirst).2 (hsharp second hsecond).1
    · intro first hfirst second hsecond
      exact (hsharp first hfirst).1.ordered_sharp (hsharp first hfirst).2
        (hlast second (Option.mem_toList.mp hsecond))
    · intro first hfirst second hsecond
      obtain ⟨hfair, hstrict⟩ := hover second (Option.mem_toList.mp hsecond)
      have hfirst' : Fair first := by
        rcases List.mem_append.mp hfirst with hmem | hmem
        · exact (hsharp first hmem).1
        · exact hlast first (Option.mem_toList.mp hmem)
      exact hfirst'.ordered_over hfair hstrict

/-- With exact arithmetic, the nearest stop is a stop if any candidate is. -/
theorem nearestStopHit_stop {row : ScannedAdRow} {ctx : RuleContext} {nearest : Option RuleHit}
    (h : nearestStopHit .exact row ctx = .ok nearest) :
    ∃ candidates frequency, funnelStopCandidates .exact row ctx = .ok candidates ∧
      frequencyStopCandidate .exact ctx = .ok frequency ∧
      (stageOf nearest = some .stop ↔
        ∃ cand ∈ candidates ++ [frequency], stageOf cand = some .stop) ∧
      ∀ hit, nearest = some hit → Fair hit := by
  simp only [nearestStopHit, bind_eq_ok] at h
  obtain ⟨candidates, hfunnel, frequency, hfrequency, h⟩ := h
  obtain ⟨hfair, hordered⟩ := candidates_ordered hfunnel hfrequency
  refine ⟨candidates, frequency, hfunnel, hfrequency, ?_⟩
  have hany : (∃ cand ∈ candidates ++ [frequency], stageOf cand = some .stop) ↔
      ∃ hit ∈ (candidates ++ [frequency]).filterMap id, hit.stage = some .stop := by
    constructor
    · rintro ⟨cand, hmem, hstage⟩
      obtain ⟨hit, rfl, hstop⟩ := Option.bind_eq_some_iff.mp hstage
      exact ⟨hit, List.mem_filterMap.mpr ⟨_, hmem, rfl⟩, hstop⟩
    · rintro ⟨hit, hmem, hstop⟩
      obtain ⟨cand, hcand, heq⟩ := List.mem_filterMap.mp hmem
      simp only [id] at heq
      exact ⟨cand, hcand, by rw [heq]; exact hstop⟩
  rw [hany]
  split at h
  · rename_i hnil
    obtain rfl := Except.ok.inj h
    rw [hnil]
    simp [stageOf]
  · rename_i hit rest hcons
    rw [hcons] at hfair hordered
    rw [hcons, (hfair hit (by simp)).progress] at *
    simp only [ok_bind, bind_eq_ok] at h
    obtain ⟨best, hbest, h⟩ := h
    obtain rfl := Except.ok.inj h
    obtain ⟨hmem, hstop⟩ := furthest_exact hfair hordered hbest
    refine ⟨⟨fun hstage => ⟨best, hmem, hstage⟩, hstop⟩, ?_⟩
    rintro hit' heq
    obtain rfl := Option.some.inj heq
    exact hfair _ hmem

theorem evaluateStopRules_stop {row : ScannedAdRow} {ctx : RuleContext}
    {evaluation : RuleEvaluation}
    (hclicks : 0 ≤ row.clicks) (h : evaluateStopRules .exact row ctx = .ok evaluation) :
    (evaluation.stage = some .stop ↔ stageOf evaluation.nearestStop = some .stop) ∧
      ∀ hit, evaluation.nearestStop = some hit → Fair hit := by
  simp only [evaluateStopRules, bind_eq_ok] at h
  obtain ⟨-, -, funnelHit, hfunnelHit, freqHit, hfreqHit, nearest, hnearest, h⟩ := h
  obtain rfl := Except.ok.inj h
  obtain ⟨candidates, frequency, hfunnel, hfrequency, hiff, hfair⟩ := nearestStopHit_stop hnearest
  rw [evaluationOf_nearestStop, evaluationOf_stop, pickHighestPriorityHit_stop, hiff]
  refine ⟨?_, hfair⟩
  simp [ladder_stop hclicks hfunnelHit hfunnel, frequency_stage hfreqHit hfrequency, or_and_right,
    exists_or]

/-- The evaluation stops a row exactly when its nearest stop has been reached,
and then the value is at or past the threshold. -/
theorem stop_iff_nearest_stop (row : ScannedAdRow) (ctx : RuleContext) (evaluation : RuleEvaluation)
    (hclicks : 0 ≤ row.clicks) (h : evaluateStopRules .exact row ctx = .ok evaluation) :
    (evaluation.stage = some .stop ↔
      ∃ hit, evaluation.nearestStop = some hit ∧ hit.stage = some .stop) ∧
    ∀ hit, evaluation.nearestStop = some hit → hit.stage = some .stop →
      ∃ v t, hit.value = .finite v ∧ hit.threshold = .finite t ∧ t ≤ v := by
  obtain ⟨hiff, hfair⟩ := evaluateStopRules_stop hclicks h
  refine ⟨hiff.trans Option.bind_eq_some_iff, fun hit hhit hstop => ?_⟩
  obtain ⟨v, t, hv, ht, -, hpos⟩ := (hfair hit hhit).measured
  refine ⟨v, t, hv, ht, ?_⟩
  have hratio := (hfair hit hhit).stop hstop
  simp only [RuleHit.ratio, hv, ht] at hratio
  exact (one_le_div hpos).mp hratio

def dollarContext : RuleContext :=
  { currency := "USD", currencyExponent := 2, cpaAmount := .finite 25
    warningPercentOfStop := .finite 80, stopPercentOfBase := .finite 80
    frequencyCurrent := some (.finite 2), frequencyStopThreshold := .finite (7 / 2)
    frequencyWarningThreshold := .finite (14 / 5), reach := some 500
    cpc := ⟨.finite (1 / 2), .finite (2 / 5), .finite (8 / 25)⟩
    cpl := ⟨.finite (5 / 2), .finite 2, .finite (8 / 5)⟩
    cpr := ⟨.finite 5, .finite 4, .finite (16 / 5)⟩ }

def dollarRow : ScannedAdRow :=
  { spend := .finite (9 / 2), clicks := 10, cpc := some (.finite (9 / 20)) }

def dollarEvaluation : RuleEvaluation :=
  { stage := some .stop, warningHits := []
    stopHits := [ruleHit .cpcStop (some .stop) (.finite (9 / 20)) (.finite (2 / 5))]
    nearestStop := some (ruleHit .cplStop (some .stop) (.finite (9 / 2)) (.finite 2)) }

/-- The price of a click and the spend without leads are both past their stops. -/
theorem stop_iff_nearest_stop_dollar :
    evaluateStopRules .exact dollarRow dollarContext = .ok dollarEvaluation ∧
      (dollarEvaluation.stage = some .stop ↔
        ∃ hit, dollarEvaluation.nearestStop = some hit ∧ hit.stage = some .stop) := by
  have hevaluate : evaluateStopRules .exact dollarRow dollarContext = .ok dollarEvaluation := by
    decide +kernel
  exact ⟨hevaluate, (stop_iff_nearest_stop dollarRow dollarContext dollarEvaluation (by decide)
    hevaluate).1⟩

end StopBot.Rules
