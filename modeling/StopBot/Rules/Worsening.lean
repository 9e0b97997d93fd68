import StopBot.Rules.Evaluable

/-!
# Worsening money

Two rows with the same events, the second with higher amounts, under one
context: the second is not judged milder. Every rule compares a number that
grows with the amounts, roundings included. The one switch that higher amounts
turn off is the spend rule of the registration stage, and the price that
turns it off stops the row itself.
-/

namespace StopBot.Rules

open Lib Observer

/-- none < WARNING < STOP. -/
def severity : Option AlertStage → Nat
  | none => 0
  | some .warning => 1
  | some .stop => 2

/-- A cost that is known in both rows has not fallen. -/
inductive CostGrows : Option Decimal → Option Decimal → Prop
  | unknown : CostGrows none none
  | known {cost cost' : Decimal} (h : cost.le cost' = .ok true) : CostGrows (some cost) (some cost')

/-- The same events at higher amounts; the price of a registration may become known. -/
structure ScannedAdRow.Worsens (row row' : ScannedAdRow) : Prop where
  clicks : row'.clicks = row.clicks
  leads : row'.leads = row.leads
  registrations : row'.registrations = row.registrations
  spend : row.spend.le row'.spend = .ok true
  cpc : CostGrows row.cpc row'.cpc
  costPerLead : CostGrows row.costPerLead row'.costPerLead
  costPerRegistration : row.costPerRegistration = none ∨
    CostGrows row.costPerRegistration row'.costPerRegistration

-- ------------------------------------------------------------
-- The pick of the highest priority
-- ------------------------------------------------------------

theorem le_pickHighestPriorityHit {hits : List (Option RuleHit)} {hit : Option RuleHit}
    (hmem : hit ∈ hits) :
    severity (stageOf hit) ≤ severity (stageOf (pickHighestPriorityHit hits)) := by
  cases hit with
  | none => exact Nat.zero_le _
  | some hit =>
    have hcandidate : hit ∈ hits.filterMap id := List.mem_filterMap.mpr ⟨_, hmem, rfl⟩
    simp only [pickHighestPriorityHit]
    cases hstop : (hits.filterMap id).find? fun hit => hit.stage = some .stop with
    | some first =>
      have hfirst : first.stage = some .stop := by simpa using List.find?_some hstop
      simp only [stageOf, Option.bind_some, hfirst]
      cases hstage : hit.stage with
      | none => decide
      | some stage => cases stage <;> decide
    | none =>
      have hnot : hit.stage ≠ some .stop := by
        simpa using List.find?_eq_none.mp hstop hit hcandidate
      cases hwarning : (hits.filterMap id).find? fun hit => hit.stage = some .warning with
      | some first =>
        have hfirst : first.stage = some .warning := by simpa using List.find?_some hwarning
        simp only [stageOf, Option.bind_some, hfirst]
        cases hstage : hit.stage with
        | none => decide
        | some stage =>
          cases stage with
          | warning => decide
          | stop => exact absurd hstage hnot
      | none =>
        have hnot' : hit.stage ≠ some .warning := by
          simpa using List.find?_eq_none.mp hwarning hit hcandidate
        simp only [stageOf, Option.bind_some]
        cases hstage : hit.stage with
        | none => decide
        | some stage =>
          cases stage with
          | warning => exact absurd hstage hnot'
          | stop => exact absurd hstage hnot

theorem pickHighestPriorityHit_mem {hits : List (Option RuleHit)} {hit : RuleHit}
    (h : pickHighestPriorityHit hits = some hit) :
    some hit ∈ hits ∧ (hit.stage = some .stop ∨ hit.stage = some .warning) := by
  have hof (hmem : hit ∈ hits.filterMap id) : some hit ∈ hits := by
    obtain ⟨cand, hcand, heq⟩ := List.mem_filterMap.mp hmem
    rwa [show cand = some hit from heq] at hcand
  simp only [pickHighestPriorityHit] at h
  split at h
  · rename_i first hstop
    obtain rfl := Option.some.inj h
    exact ⟨hof (List.mem_of_find?_eq_some hstop), .inl (by simpa using List.find?_some hstop)⟩
  · exact ⟨hof (List.mem_of_find?_eq_some h), .inr (by simpa using List.find?_some h)⟩

theorem pickHighestPriorityHit_mono {hits hits' : List (Option RuleHit)}
    (h : ∀ hit ∈ hits, ∃ hit' ∈ hits', severity (stageOf hit) ≤ severity (stageOf hit')) :
    severity (stageOf (pickHighestPriorityHit hits)) ≤
      severity (stageOf (pickHighestPriorityHit hits')) := by
  cases hpick : pickHighestPriorityHit hits with
  | none => exact Nat.zero_le _
  | some hit =>
    obtain ⟨hit', hmem', hle⟩ := h _ (pickHighestPriorityHit_mem hpick).1
    exact le_trans hle (le_pickHighestPriorityHit hmem')

theorem evaluationOf_pick {hits : List (Option RuleHit)} {nearest : Option RuleHit} :
    (evaluationOf (pickHighestPriorityHit hits) nearest).stage =
      stageOf (pickHighestPriorityHit hits) := by
  cases hpick : pickHighestPriorityHit hits with
  | none => rfl
  | some hit =>
    rcases (pickHighestPriorityHit_mem hpick).2 with hstage | hstage <;>
      simp [evaluationOf, stageOf, hstage]

-- ------------------------------------------------------------
-- Rules
-- ------------------------------------------------------------

theorem stageFrom_mono {current current' stop warning : Decimal} {stage stage' : Option AlertStage}
    (hle : current.le current' = .ok true) (h : stageFrom current stop warning = .ok stage)
    (h' : stageFrom current' stop warning = .ok stage') : severity stage ≤ severity stage' := by
  simp only [stageFrom, bind_eq_ok, ofDecimal_eq_ok] at h h'
  obtain ⟨stops, hstops, h⟩ := h
  obtain ⟨stops', hstops', h'⟩ := h'
  cases stops' with
  | true =>
    obtain rfl := Except.ok.inj h'
    cases stage with
    | none => decide
    | some stage => cases stage <;> decide
  | false =>
    cases stops with
    | true =>
      rw [Decimal.le_trans hstops hle] at hstops'
      cases hstops'
    | false =>
      simp only [Bool.false_eq_true, if_false, bind_eq_ok, ofDecimal_eq_ok] at h h'
      obtain ⟨warns, hwarns, h⟩ := h
      obtain ⟨warns', hwarns', h'⟩ := h'
      cases warns with
      | false =>
        obtain rfl := Except.ok.inj h
        exact Nat.zero_le _
      | true =>
        rw [Decimal.le_trans hwarns hle] at hwarns'
        obtain rfl := Except.ok.inj hwarns'
        obtain rfl := Except.ok.inj h
        obtain rfl := Except.ok.inj h'
        exact le_rfl

section
variable {A : Arithmetic} {code : RuleCode} {exponent : Int} {enabled : Bool} {th : Thresholds}
variable {hit hit' : Option RuleHit}

theorem reached_mono {current current' stop warning : Decimal}
    (hle : current.le current' = .ok true) (h : reached code current stop warning = .ok hit)
    (h' : reached code current' stop warning = .ok hit') :
    severity (stageOf hit) ≤ severity (stageOf hit') :=
  stageFrom_mono hle (reached_stage h) (reached_stage h')

theorem exactDerivedMoney_ok {d current : Decimal} (h : exactDerivedMoney d = .ok current) :
    current = d := by
  unfold exactDerivedMoney at h
  split at h
  · split_ifs at h
    exact (Except.ok.inj h).symm
  · cases h

theorem evaluateGuardrailOnly_mono {spend spend' : Decimal} (hle : spend.le spend' = .ok true)
    (h : evaluateGuardrailOnly A spend enabled th code exponent = .ok hit)
    (h' : evaluateGuardrailOnly A spend' enabled th code exponent = .ok hit') :
    severity (stageOf hit) ≤ severity (stageOf hit') := by
  cases enabled with
  | false =>
    obtain rfl := Except.ok.inj h
    exact Nat.zero_le _
  | true =>
    simp only [evaluateGuardrailOnly, if_true, bind_eq_ok] at h h'
    obtain ⟨-, -, -, -, h⟩ := h
    obtain ⟨-, -, -, -, h'⟩ := h'
    exact reached_mono hle h h'

theorem evaluateMetricOnly_mono {metric metric' : Option Decimal}
    (hle : metric = none ∨ CostGrows metric metric')
    (h : evaluateMetricOnly A metric enabled th code exponent = .ok hit)
    (h' : evaluateMetricOnly A metric' enabled th code exponent = .ok hit') :
    severity (stageOf hit) ≤ severity (stageOf hit') := by
  have hnone (hmetric : metric = none) : severity (stageOf hit) ≤ severity (stageOf hit') := by
    subst hmetric
    cases enabled <;> obtain rfl := Except.ok.inj h <;> exact Nat.zero_le _
  rcases hle with hmetric | hgrows
  · exact hnone hmetric
  · cases hgrows with
    | unknown => exact hnone rfl
    | known hle =>
      cases enabled with
      | false =>
        obtain rfl := Except.ok.inj h
        exact Nat.zero_le _
      | true =>
        simp only [evaluateMetricOnly, bind_eq_ok] at h h'
        obtain ⟨current, hcurrent, -, -, -, -, h⟩ := h
        obtain ⟨current', hcurrent', -, -, -, -, h'⟩ := h'
        obtain rfl := exactDerivedMoney_ok hcurrent
        obtain rfl := exactDerivedMoney_ok hcurrent'
        exact reached_mono hle h h'

theorem roundPercent_mono {p p' : ℚ} {c c' : Decimal} (hle : p ≤ p')
    (h : roundPercent A (.finite p) = .ok c) (h' : roundPercent A (.finite p') = .ok c') :
    c.le c' = .ok true := by
  obtain ⟨-, rfl⟩ := roundPercent_eq h
  obtain ⟨-, rfl⟩ := roundPercent_eq h'
  have hround : halfUp (p / (1 / 100)) ≤ halfUp (p' / (1 / 100)) := halfUp_mono (by gcongr)
  have hcast : (halfUp (p / (1 / 100)) : ℚ) ≤ halfUp (p' / (1 / 100)) := by exact_mod_cast hround
  simp only [Decimal.le_finite, Except.ok.injEq, decide_eq_true_eq]
  gcongr

theorem evaluateSpendRange_mono {p p' : ℚ} {cpa stopFrom warningPercent stopPercent : Decimal}
    (hle : p ≤ p')
    (h : evaluateSpendRange A enabled (.finite p) cpa exponent stopFrom warningPercent stopPercent
      code = .ok hit)
    (h' : evaluateSpendRange A enabled (.finite p') cpa exponent stopFrom warningPercent stopPercent
      code = .ok hit') :
    severity (stageOf hit) ≤ severity (stageOf hit') := by
  cases enabled with
  | false =>
    obtain rfl := Except.ok.inj h
    exact Nat.zero_le _
  | true =>
    obtain ⟨current, effective, warning, hcurrent, heffective, hwarning, hstage⟩ :=
      evaluateSpendRange_ok h
    obtain ⟨current', effective', warning', hcurrent', heffective', hwarning', hstage'⟩ :=
      evaluateSpendRange_ok h'
    rw [heffective] at heffective'
    obtain rfl := Except.ok.inj heffective'
    rw [hwarning] at hwarning'
    obtain rfl := Except.ok.inj hwarning'
    exact stageFrom_mono (roundPercent_mono hle hcurrent hcurrent') hstage hstage'

theorem ratioPercent_mono {s s' c : ℚ} {p p' : Decimal} (hs : 0 ≤ s) (hle : s ≤ s') (hc : 0 < c)
    (h : ratioPercent .default (.finite s) (.finite c) = .ok p)
    (h' : ratioPercent .default (.finite s') (.finite c) = .ok p') :
    ∃ q q', p = .finite q ∧ p' = .finite q' ∧ q ≤ q' := by
  simp only [ratioPercent, Decimal.le_finite, not_le.mpr hc, decide_false, ofDecimal_eq_ok,
    bind_eq_ok, Except.ok.injEq, exists_eq_left', Bool.false_eq_true, if_false, Arithmetic.div,
    hc.ne'] at h h'
  obtain ⟨ratio, hratio, h⟩ := h
  obtain ⟨ratio', hratio', h'⟩ := h'
  obtain ⟨r, rfl⟩ := Arithmetic.finish_eq_ok hratio
  obtain ⟨r', rfl⟩ := Arithmetic.finish_eq_ok hratio'
  simp only [Arithmetic.mul] at h h'
  obtain ⟨q, rfl⟩ := Arithmetic.finish_eq_ok h
  obtain ⟨q', rfl⟩ := Arithmetic.finish_eq_ok h'
  have hzero : Arithmetic.default.finish 0 = .ok (.finite 0) := by decide +kernel
  have hr0 : 0 ≤ r :=
    Arithmetic.finish_mono (by decide) le_rfl (div_nonneg hs hc.le) hzero hratio
  have hrr' : r ≤ r' :=
    Arithmetic.finish_mono (by decide) (div_nonneg hs hc.le) (by gcongr) hratio hratio'
  exact ⟨q, q', rfl, rfl, Arithmetic.finish_mono (by decide) (by positivity) (by gcongr) h h'⟩

end

-- ------------------------------------------------------------
-- The ladder
-- ------------------------------------------------------------

theorem requireExact_finite {A : Arithmetic} {value d : Decimal} {currency : Option String}
    {exponent : Int} {field : String} {allowZero : Bool}
    (h : requireExactCurrencyAmount A value currency exponent field allowZero = .ok d) :
    ∃ q, value = .finite q ∧ 0 ≤ q := by
  cases value with
  | finite q =>
    obtain ⟨-, -, -, hq, -⟩ := requireExact_ok h
    exact ⟨q, rfl, hq⟩
  | infinite n =>
    obtain ⟨step, -, h⟩ := bind_eq_ok.mp h
    cases h
  | nan signaling =>
    obtain ⟨step, -, h⟩ := bind_eq_ok.mp h
    cases h

section
variable {row row' : ScannedAdRow} {ctx : RuleContext} {hit hit' : Option RuleHit}
variable {stopPercent warningPercent s s' : ℚ}

theorem evaluateClickStage_mono (hrows : row.Worsens row')
    (h : evaluateClickStage .default row ctx = .ok hit)
    (h' : evaluateClickStage .default row' ctx = .ok hit') :
    severity (stageOf hit) ≤ severity (stageOf hit') := by
  unfold evaluateClickStage at h h'
  rw [hrows.clicks] at h'
  split_ifs at h h'
  · exact evaluateGuardrailOnly_mono hrows.spend h h'
  · simp only [bind_eq_ok] at h h'
    obtain ⟨cpc, hcpc, cpl, hcpl, h⟩ := h
    obtain ⟨cpc', hcpc', cpl', hcpl', h'⟩ := h'
    obtain rfl := Except.ok.inj h
    obtain rfl := Except.ok.inj h'
    refine pickHighestPriorityHit_mono ?_
    simp only [List.mem_cons, List.not_mem_nil, or_false, forall_eq_or_imp, forall_eq,
      exists_eq_or_imp,
      exists_eq_left]
    exact ⟨.inl (evaluateMetricOnly_mono (.inr hrows.cpc) hcpc hcpc'),
      .inr (evaluateGuardrailOnly_mono hrows.spend hcpl hcpl')⟩

theorem evaluateLeadStage_mono (hrows : row.Worsens row')
    (h : evaluateLeadStage .default row ctx = .ok hit)
    (h' : evaluateLeadStage .default row' ctx = .ok hit') :
    severity (stageOf hit) ≤ severity (stageOf hit') := by
  simp only [evaluateLeadStage, bind_eq_ok] at h h'
  obtain ⟨cpl, hcpl, cpr, hcpr, h⟩ := h
  obtain ⟨cpl', hcpl', cpr', hcpr', h'⟩ := h'
  obtain rfl := Except.ok.inj h
  obtain rfl := Except.ok.inj h'
  refine pickHighestPriorityHit_mono ?_
  simp only [List.mem_cons, List.not_mem_nil, or_false, forall_eq_or_imp, forall_eq,
    exists_eq_or_imp,
    exists_eq_left]
  exact ⟨.inl (evaluateMetricOnly_mono (.inr hrows.costPerLead) hcpl hcpl'),
    .inr (evaluateGuardrailOnly_mono hrows.spend hcpr hcpr')⟩

theorem evaluateDepositStage_mono (hctx : Accepted .default ctx stopPercent warningPercent)
    (hs : row.spend = .finite s) (hs' : row'.spend = .finite s') (hs0 : 0 ≤ s) (hle : s ≤ s')
    (h : evaluateDepositStage .default row ctx = .ok hit)
    (h' : evaluateDepositStage .default row' ctx = .ok hit') :
    severity (stageOf hit) ≤ severity (stageOf hit') := by
  obtain ⟨n, hn, hcpa, -⟩ := hctx.cpa
  have hc : (0 : ℚ) < n * quantum ctx.currencyExponent.toNat :=
    mul_pos (by exact_mod_cast hn) (quantum_pos _)
  simp only [evaluateDepositStage, bind_eq_ok, hs, hs', hcpa] at h h'
  obtain ⟨p, hp, h⟩ := h
  obtain ⟨p', hp', h'⟩ := h'
  obtain ⟨q, q', rfl, rfl, hqq'⟩ := ratioPercent_mono hs0 hle hc hp hp'
  exact evaluateSpendRange_mono hqq' h h'

/-- Where the price of a registration turns the spend rule off, it stops the row. -/
theorem registrationSpendHit_mono (hctx : Accepted .default ctx stopPercent warningPercent)
    (hrows : row.Worsens row') (hregs : 1 ≤ row.registrations)
    (hs : row.spend = .finite s) (hs' : row'.spend = .finite s') (hs0 : 0 ≤ s) (hle : s ≤ s')
    {cprHit' : Option RuleHit} (h : registrationSpendHit .default row ctx = .ok hit)
    (h' : registrationSpendHit .default row' ctx = .ok hit')
    (hcpr' : evaluateMetricOnly .default row'.costPerRegistration ctx.cprEnabled ctx.cpr .cprStop
      ctx.currencyExponent = .ok cprHit') :
    severity (stageOf hit) ≤ severity (stageOf hit') ∨
      severity (stageOf hit) ≤ severity (stageOf cprHit') := by
  obtain ⟨n, hn, hcpa, -⟩ := hctx.cpa
  have hc : (0 : ℚ) < n * quantum ctx.currencyExponent.toNat :=
    mul_pos (by exact_mod_cast hn) (quantum_pos _)
  simp only [registrationSpendHit, bind_eq_ok] at h h'
  obtain ⟨applies, happlies, h⟩ := h
  obtain ⟨applies', happlies', h'⟩ := h'
  cases applies with
  | false =>
    obtain rfl := Except.ok.inj h
    exact .inl (Nat.zero_le _)
  | true =>
    cases applies' with
    | true =>
      simp only [if_true, bind_eq_ok, hs, hs', hcpa] at h h'
      obtain ⟨p, hp, h⟩ := h
      obtain ⟨p', hp', h'⟩ := h'
      obtain ⟨q, q', rfl, rfl, hqq'⟩ := ratioPercent_mono hs0 hle hc hp hp'
      exact .inl (evaluateSpendRange_mono hqq' h h')
    | false =>
      right
      have hstops : stageOf cprHit' = some .stop := by
        unfold shouldApplyRegistrationSpendGuardrail at happlies'
        rw [hrows.registrations, if_neg (by omega)] at happlies'
        cases hcost : row'.costPerRegistration with
        | none =>
          rw [hcost] at happlies'
          cases happlies'
        | some cost =>
          simp only [hcost, bind_eq_ok, ofDecimal_eq_ok] at happlies'
          obtain ⟨current, hcurrent, hover⟩ := happlies'
          have henabled : ctx.cprEnabled = true := hctx.enabled.2.2.1
          simp only [hcost, henabled, evaluateMetricOnly, bind_eq_ok, hcurrent, Except.ok.injEq,
            exists_eq_left'] at hcpr'
          obtain ⟨-, -, -, -, hreached⟩ := hcpr'
          have hpast : ctx.cpr.stop.le current = .ok true := Decimal.le_of_not_le hover
          simp only [reached, hpast, ofDecimal, ok_bind, if_true] at hreached
          obtain rfl := Except.ok.inj hreached
          rfl
      rw [hstops]
      cases hstage : stageOf hit with
      | none => decide
      | some stage => cases stage <;> decide

theorem evaluateRegistrationStage_mono (hctx : Accepted .default ctx stopPercent warningPercent)
    (hrows : row.Worsens row') (hregs : 1 ≤ row.registrations)
    (hs : row.spend = .finite s) (hs' : row'.spend = .finite s') (hs0 : 0 ≤ s) (hle : s ≤ s')
    (h : evaluateRegistrationStage .default row ctx = .ok hit)
    (h' : evaluateRegistrationStage .default row' ctx = .ok hit') :
    severity (stageOf hit) ≤ severity (stageOf hit') := by
  simp only [evaluateRegistrationStage, bind_eq_ok] at h h'
  obtain ⟨cpr, hcpr, spend, hspend, h⟩ := h
  obtain ⟨cpr', hcpr', spend', hspend', h'⟩ := h'
  obtain rfl := Except.ok.inj h
  obtain rfl := Except.ok.inj h'
  have hregistrations : evaluateRegsWithoutDeposits row' ctx =
      evaluateRegsWithoutDeposits row ctx := by
    simp only [evaluateRegsWithoutDeposits, hrows.registrations]
  refine pickHighestPriorityHit_mono ?_
  simp only [List.mem_cons, List.not_mem_nil, or_false, forall_eq_or_imp, forall_eq,
    exists_eq_or_imp,
    exists_eq_left]
  refine ⟨.inl (evaluateMetricOnly_mono hrows.costPerRegistration hcpr hcpr'),
    .inr (.inl (by rw [hregistrations])), ?_⟩
  rcases registrationSpendHit_mono hctx hrows hregs hs hs' hs0 hle hspend hspend'
    hcpr' with hle | hle
  · exact .inr (.inr hle)
  · exact .inl hle

theorem evaluateFunnelLadder_mono (hctx : Accepted .default ctx stopPercent warningPercent)
    (hrows : row.Worsens row')
    (hs : row.spend = .finite s) (hs' : row'.spend = .finite s') (hs0 : 0 ≤ s) (hle : s ≤ s')
    (h : evaluateFunnelLadder .default row ctx = .ok hit)
    (h' : evaluateFunnelLadder .default row' ctx = .ok hit') :
    severity (stageOf hit) ≤ severity (stageOf hit') := by
  unfold evaluateFunnelLadder at h h'
  rw [hrows.registrations, hrows.leads] at h'
  split_ifs at h h' with hdeposit hregs hleads
  · exact evaluateDepositStage_mono hctx hs hs' hs0 hle h h'
  · exact evaluateRegistrationStage_mono hctx hrows hregs hs hs' hs0 hle h h'
  · exact evaluateLeadStage_mono hrows h h'
  · exact evaluateClickStage_mono hrows h h'

end

/-- Worsening money never relaxes the verdict. -/
theorem worsening_never_relaxes (offer : OfferRules) (evidence : RowEvidence) (ctx : RuleContext)
    (row row' : ScannedAdRow) (evaluation evaluation' : RuleEvaluation)
    (hbuild : buildRuleContext .default offer evidence = .ok ctx) (hrows : row.Worsens row')
    (h : evaluateStopRules .default row ctx = .ok evaluation)
    (h' : evaluateStopRules .default row' ctx = .ok evaluation') :
    severity evaluation.stage ≤ severity evaluation'.stage := by
  obtain ⟨⟨stopPercent, warningPercent, hctx⟩, -⟩ := buildRuleContext_accepted hbuild
  simp only [evaluateStopRules, bind_eq_ok] at h h'
  obtain ⟨amount, hamount, funnel, hfunnel, frequency, hfrequency, nearest, -, h⟩ := h
  obtain ⟨amount', hamount', funnel', hfunnel', frequency', hfrequency', nearest', -, h'⟩ := h'
  obtain rfl := Except.ok.inj h
  obtain rfl := Except.ok.inj h'
  rw [hfrequency] at hfrequency'
  obtain rfl := Except.ok.inj hfrequency'
  obtain ⟨s, hs, hs0⟩ := requireExact_finite hamount
  obtain ⟨s', hs', -⟩ := requireExact_finite hamount'
  have hle : s ≤ s' := by simpa [hs, hs'] using hrows.spend
  rw [evaluationOf_pick, evaluationOf_pick]
  refine pickHighestPriorityHit_mono ?_
  simp only [List.mem_cons, List.not_mem_nil, or_false, forall_eq_or_imp, forall_eq,
    exists_eq_or_imp,
    exists_eq_left]
  exact ⟨.inl (evaluateFunnelLadder_mono hctx hrows hs hs' hs0 hle hfunnel hfunnel'), .inr le_rfl⟩

def calmRow : ScannedAdRow :=
  { spend := .finite (3 / 2), clicks := 10, cpc := some (.finite (3 / 20)) }

def calmEvaluation : RuleEvaluation :=
  { stage := none, warningHits := [], stopHits := []
    nearestStop := some (ruleHit .cplStop none (.finite (3 / 2)) (.finite 2)) }

/-- The same clicks at three times the price go from no alert to a stop. -/
theorem worsening_never_relaxes_dollar :
    evaluateStopRules .default calmRow dollarContext = .ok calmEvaluation ∧
      evaluateStopRules .default dollarRow dollarContext = .ok dollarEvaluation ∧
      severity calmEvaluation.stage ≤ severity dollarEvaluation.stage := by
  have hbuild : buildRuleContext .default dollarOffer dollarEvidence = .ok dollarContext := by
    decide +kernel
  have hcalm : evaluateStopRules .default calmRow dollarContext = .ok calmEvaluation := by
    decide +kernel
  have hdollar : evaluateStopRules .default dollarRow dollarContext = .ok dollarEvaluation := by
    decide +kernel
  have hrows : calmRow.Worsens dollarRow :=
    ⟨rfl, rfl, rfl, by decide +kernel, .known (by decide +kernel), .unknown, .inr .unknown⟩
  exact ⟨hcalm, hdollar, worsening_never_relaxes dollarOffer dollarEvidence dollarContext calmRow
    dollarRow calmEvaluation dollarEvaluation hbuild hrows hcalm hdollar⟩

end StopBot.Rules
