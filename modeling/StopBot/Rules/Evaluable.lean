import StopBot.Rules.Agreement

/-!
# When a row can be evaluated

The configurations `build_rule_context` accepts, and the rows the rules can
evaluate under them. A threshold is quantized two or three times on its way
from the CPA, and the candidates refuse one that has come out as zero: such a
configuration is accepted and raises on every row of the rung that uses it.
-/

namespace StopBot.Rules

open Lib Observer

def Returns {α : Type} (x : Except Raised α) : Prop := ∃ a, x = .ok a

theorem returns_bind {α β : Type} {x : Except Raised α} {f : α → Except Raised β} :
    Returns (x >>= f) ↔ ∃ a, x = .ok a ∧ Returns (f a) := by
  simp only [Returns, bind_eq_ok]
  exact ⟨fun ⟨b, a, hx, hf⟩ => ⟨a, hx, b, hf⟩, fun ⟨a, hx, b, hf⟩ => ⟨b, a, hx, hf⟩⟩

theorem returns_ok {α : Type} (a : α) : Returns (.ok a : Except Raised α) := ⟨a, rfl⟩

-- ------------------------------------------------------------
-- Conditions
-- ------------------------------------------------------------

def Prints (A : Arithmetic) (step q : ℚ) : Prop := A.fits (halfUp (q / step)) = true

def Thresholds.InForce (th : Thresholds) : Prop := ∃ t, th.stop = .finite t ∧ 0 < t

def MetricReady (A : Arithmetic) (exponent : Int) (th : Thresholds)
    (metric : Option Decimal) : Prop :=
  ∀ q, metric = some (.finite q) → Prints A (quantum exponent.toNat) q ∧ th.InForce

/-- The percentage of the CPA that stops is positive at its step, and the
spend can be written as a percentage. -/
def SpendReady (A : Arithmetic) (row : ScannedAdRow) (ctx : RuleContext)
    (stopFrom : Decimal) : Prop :=
  (∃ e t, shareOf A stopFrom ctx.stopPercentOfBase = .ok (.finite e) ∧
    roundPercent A (.finite e) = .ok (.finite t) ∧ 0 < t) ∧
  ∃ p c, ratioPercent A row.spend ctx.cpaAmount = .ok p ∧ roundPercent A p = .ok c

def RegsReady (A : Arithmetic) (row : ScannedAdRow) (ctx : RuleContext) : Prop :=
  ctx.externalDeposits = 0 → 0 < ctx.regsNoDepStopCount ∧
    ∃ r, A.finish (row.registrations / ctx.regsNoDepStopCount) = .ok r

def GuardApplies (row : ScannedAdRow) (ctx : RuleContext) : Prop :=
  ∀ q t, row.costPerRegistration = some (.finite q) → ctx.cpr.stop = .finite t → q ≤ t

/-- The thresholds of the rung a row stands on are in force, and its amounts
can be printed. -/
def RungReady (A : Arithmetic) (row : ScannedAdRow) (ctx : RuleContext) : Prop :=
  if hasConfirmedDepositSignal ctx then SpendReady A row ctx ctx.spendWithDepFromPercent
  else if 1 ≤ row.registrations then
    MetricReady A ctx.currencyExponent ctx.cpr row.costPerRegistration ∧ RegsReady A row ctx ∧
      (GuardApplies row ctx → SpendReady A row ctx ctx.spendNoDepFromPercent)
  else if 1 ≤ row.leads then
    MetricReady A ctx.currencyExponent ctx.cpl row.costPerLead ∧ ctx.cpr.InForce
  else if 1 ≤ row.clicks then
    MetricReady A ctx.currencyExponent ctx.cpc row.cpc ∧ ctx.cpl.InForce
  else ctx.cpc.InForce

def FrequencyReady (A : Arithmetic) (ctx : RuleContext) : Prop :=
  ∀ current stop, ctx.frequencyAnomalyEnabled = true →
    ctx.frequencyCurrent = some (.finite current) →
    ctx.frequencyStopThreshold = .finite stop →
    significantRatioDenominator ctx.reach ctx.minRatioDenominator = true →
    ∃ scaled, A.finish (stop * 3) = .ok (.finite scaled) ∧
      (current ≤ max 10 scaled → ∃ r, A.finish (current / stop) = .ok r)

structure Evaluable (A : Arithmetic) (row : ScannedAdRow) (ctx : RuleContext) : Prop where
  spend : ∀ q, row.spend = .finite q → Prints A (quantum ctx.currencyExponent.toNat) q
  rung : RungReady A row ctx
  frequency : FrequencyReady A ctx

/-- An exact, non-negative amount of the currency of a context. -/
def ExactSpend (row : ScannedAdRow) (ctx : RuleContext) : Prop :=
  ∃ n : ℕ, row.spend = .finite (n * quantum ctx.currencyExponent.toNat)

def NonNegative (metric : Option Decimal) : Prop :=
  ∀ d, metric = some d → ∃ q, d = .finite q ∧ 0 ≤ q

structure ScannedAdRow.Measured (row : ScannedAdRow) : Prop where
  clicks : 0 ≤ row.clicks
  leads : 0 ≤ row.leads
  registrations : 0 ≤ row.registrations
  cpc : NonNegative row.cpc
  costPerLead : NonNegative row.costPerLead
  costPerRegistration : NonNegative row.costPerRegistration

-- ------------------------------------------------------------
-- Accepted configurations
-- ------------------------------------------------------------

def Graded (A : Arithmetic) (step : ℚ) (th : Thresholds) : Prop :=
  ∀ t, th.stop = .finite t → ∃ b s w : ℤ, th.base = .finite (b * step) ∧ t = s * step ∧
    th.warning = .finite (w * step) ∧ A.fits b = true ∧ A.fits s = true

structure Accepted (A : Arithmetic) (ctx : RuleContext)
    (stopPercent warningPercent : ℚ) : Prop where
  quantum_ok : currencyQuantum (some ctx.currency) ctx.currencyExponent =
    .ok (quantum ctx.currencyExponent.toNat)
  cpa : ∃ n : ℤ, 0 < n ∧ ctx.cpaAmount = .finite (n * quantum ctx.currencyExponent.toNat) ∧
    A.fits n = true
  stop_eq : ctx.stopPercentOfBase = .finite stopPercent
  stop_range : 0 < stopPercent ∧ stopPercent ≤ 100
  noDep_eq : ctx.effectiveSpendNoDepWarningPercentOfStop = .finite warningPercent
  withDep_eq : ctx.effectiveSpendWithDepWarningPercentOfStop = .finite warningPercent
  warning_range : 0 < warningPercent ∧ warningPercent ≤ 100
  enabled : ctx.cpcEnabled = true ∧ ctx.cplEnabled = true ∧ ctx.cprEnabled = true ∧
    ctx.regsNoDepEnabled = true ∧ ctx.spendNoDepEnabled = true ∧ ctx.spendWithDepEnabled = true
  cpc : Graded A (quantum ctx.currencyExponent.toNat) ctx.cpc
  cpl : Graded A (quantum ctx.currencyExponent.toNat) ctx.cpl
  cpr : Graded A (quantum ctx.currencyExponent.toNat) ctx.cpr
  cap : ctx.frequencyOutlierCap = .finite 10
  frequency : ctx.frequencyAnomalyEnabled = true →
    ∃ f w, ctx.frequencyStopThreshold = .finite f ∧ 0 < f ∧
      ctx.frequencyWarningThreshold = .finite w

theorem quantum_pos (exponent : Nat) : 0 < quantum exponent := by
  unfold quantum
  positivity

section
variable {A : Arithmetic} {step : ℚ}

theorem percentOf_finite {amount percent : Decimal} {t : ℚ}
    (h : percentOf A step amount percent = .ok (.finite t)) :
    ∃ (x y : ℚ) (n : ℤ), amount = .finite x ∧ percent = .finite y ∧ t = n * step ∧
      A.fits n = true := by
  simp only [percentOf, bind_eq_ok, ofDecimal_eq_ok] at h
  obtain ⟨product, hproduct, share, hshare, hquantize⟩ := h
  obtain ⟨q, rfl, hfits, rfl⟩ := Arithmetic.quantize_eq_finite hquantize
  obtain ⟨p, rfl⟩ := Arithmetic.div_eq_finite hshare
  obtain ⟨x, y, rfl, rfl⟩ := Arithmetic.mul_eq_finite hproduct
  exact ⟨x, y, _, rfl, rfl, rfl, hfits⟩

theorem percentOf_of_finite {x y : ℚ} {d : Decimal}
    (h : percentOf A step (.finite x) (.finite y) = .ok d) : ∃ n : ℤ, d = .finite (n * step) := by
  simp only [percentOf, bind_eq_ok, ofDecimal_eq_ok, Arithmetic.mul] at h
  obtain ⟨product, hproduct, share, hshare, hquantize⟩ := h
  obtain ⟨p, rfl⟩ := Arithmetic.finish_eq_ok hproduct
  simp only [Arithmetic.div, OfNat.ofNat_ne_zero, if_false] at hshare
  obtain ⟨q, rfl⟩ := Arithmetic.finish_eq_ok hshare
  simp only [Arithmetic.quantize] at hquantize
  split_ifs at hquantize
  exact ⟨_, (Except.ok.inj hquantize).symm⟩

theorem thresholds_graded {cpa percent stopPercent : Decimal} {warningPercent : ℚ} {th : Thresholds}
    (h : thresholds A step cpa percent stopPercent (.finite warningPercent) = .ok th) :
    Graded A step th := by
  simp only [thresholds, bind_eq_ok] at h
  obtain ⟨base, hbase, stop, hstop, warning, hwarning, h⟩ := h
  obtain rfl := Except.ok.inj h
  rintro t rfl
  obtain ⟨b, -, n, rfl, -, rfl, hfits⟩ := percentOf_finite hstop
  obtain ⟨-, -, m, -, -, rfl, hfits'⟩ := percentOf_finite hbase
  obtain ⟨w, rfl⟩ := percentOf_of_finite hwarning
  exact ⟨m, n, w, rfl, rfl, rfl, hfits', hfits⟩

theorem requireCurrencyExponent_ok {currency : Option String} {exponent : Int} {code : String}
    {confirmed : Nat} (h : requireCurrencyExponent currency exponent = .ok (code, confirmed)) :
    exponent = confirmed := by
  simp only [requireCurrencyExponent, bind_eq_ok] at h
  obtain ⟨⟨code', expected⟩, -, h⟩ := h
  split_ifs at h with hne
  obtain ⟨-, rfl⟩ := Prod.mk.inj (Except.ok.inj h)
  exact not_not.mp hne

theorem currencyQuantum_ok {currency : Option String} {exponent : Int}
    (h : currencyQuantum currency exponent = .ok step) : step = quantum exponent.toNat := by
  simp only [currencyQuantum, bind_eq_ok] at h
  obtain ⟨⟨code, confirmed⟩, hrequire, h⟩ := h
  rw [requireCurrencyExponent_ok hrequire]
  exact (Except.ok.inj h).symm

theorem requireExact_ok {q : ℚ} {d : Decimal} {currency : Option String} {exponent : Int}
    {field : String} {allowZero : Bool}
    (h : requireExactCurrencyAmount A (.finite q) currency exponent field allowZero = .ok d) :
    ∃ step, currencyQuantum currency exponent = .ok step ∧ d = .finite q ∧ 0 ≤ q ∧
      (allowZero = false → q ≠ 0) ∧ ∃ n : ℤ, q = n * step ∧ A.fits n = true := by
  simp only [requireExactCurrencyAmount, bind_eq_ok] at h
  obtain ⟨step, hstep, h⟩ := h
  split_ifs at h with hrange
  rw [not_or, not_lt] at hrange
  simp only [bind_eq_ok, ofDecimal_eq_ok] at h
  obtain ⟨rendered, hrendered, same, hsame, h⟩ := h
  cases same with
  | false => cases h
  | true =>
    simp only [Arithmetic.quantize] at hrendered
    split_ifs at hrendered with hfits
    obtain rfl := Except.ok.inj hrendered
    simp only [Decimal.eq_finite, Except.ok.injEq, decide_eq_true_eq] at hsame
    exact ⟨step, hstep, (Except.ok.inj h).symm, hrange.1, fun hz hq => hrange.2 ⟨hz, hq⟩, _, hsame,
      hfits⟩

theorem frequencyThresholds_ok {threshold : Option Decimal} {warningPercent : ℚ} {enabled : Bool}
    {stop warning : Decimal}
    (h : frequencyThresholds A threshold warningPercent = .ok (enabled, stop, warning)) :
    enabled = true → ∃ f w, stop = .finite f ∧ 0 < f ∧ warning = .finite w := by
  rintro rfl
  cases threshold with
  | none => cases h
  | some threshold =>
    simp only [frequencyThresholds, bind_eq_ok, ofDecimal_eq_ok] at h
    obtain ⟨positive, hpositive, h⟩ := h
    cases positive with
    | false => cases h
    | true =>
      simp only [if_true, bind_eq_ok, ofDecimal_eq_ok] at h
      obtain ⟨product, hproduct, share, hshare, warning', hwarning, h⟩ := h
      obtain ⟨-, hpair⟩ := Prod.mk.inj (Except.ok.inj h)
      obtain ⟨rfl, rfl⟩ := Prod.mk.inj hpair
      cases threshold with
      | nan signaling => cases hpositive
      | infinite n =>
        -- an infinite threshold survives to the rounding, which refuses it
        simp only [Arithmetic.mul] at hproduct
        split_ifs at hproduct
        obtain rfl := Except.ok.inj hproduct
        simp only [Arithmetic.div] at hshare
        obtain rfl := Except.ok.inj hshare
        cases hwarning
      | finite f =>
        simp only [Decimal.lt_finite, Except.ok.injEq, decide_eq_true_eq] at hpositive
        simp only [Arithmetic.mul] at hproduct
        obtain ⟨p, rfl⟩ := Arithmetic.finish_eq_ok hproduct
        simp only [Arithmetic.div, OfNat.ofNat_ne_zero, if_false] at hshare
        obtain ⟨q, rfl⟩ := Arithmetic.finish_eq_ok hshare
        simp only [Arithmetic.quantize] at hwarning
        split_ifs at hwarning
        exact ⟨f, _, rfl, hpositive, (Except.ok.inj hwarning).symm⟩

end

theorem confirmedPercent_range {percent : Option Decimal} {q : ℚ}
    (h : confirmedPercent percent = some q) : 0 < q ∧ q ≤ 100 := by
  unfold confirmedPercent at h
  split at h
  · split_ifs at h with hrange
    obtain rfl := Option.some.inj h
    rw [not_or, not_le, not_lt] at hrange
    exact hrange
  · cases h

theorem buildRuleContext_accepted {A : Arithmetic} {offer : OfferRules} {evidence : RowEvidence}
    {ctx : RuleContext} (h : buildRuleContext A offer evidence = .ok ctx) :
    (∃ stopPercent warningPercent, Accepted A ctx stopPercent warningPercent) ∧
      (ctx.frequencyCurrent = evidence.frequencyCurrent ∨ ctx.frequencyCurrent = none) := by
  unfold buildRuleContext at h
  split at h
  · rename_i cpa hcpa
    split_ifs at h with hpositive
    simp only [bind_eq_ok] at h
    obtain ⟨⟨account, exponent⟩, hrequire, h⟩ := h
    split_ifs at h
    split at h
    · rename_i warningPercent stopPercent hwarning hstop
      simp only [bind_eq_ok] at h
      obtain ⟨⟨enabled, stop, warning⟩, hfrequency, h⟩ := h
      split at h
      · cases h
      · -- the settings pass their own checks
        simp only [RuleSettings.context, bind_eq_ok] at h
        obtain ⟨⟨currency, confirmed⟩, hconfirmed, amount, hamount, step, hstep, cpc,
            hcpc, cpl, hcpl,
          cpr, hcpr, h⟩ := h
        obtain rfl := Except.ok.inj h
        obtain ⟨step', hstep', rfl, hnonneg, hne, n, hn, hfits⟩ := requireExact_ok hamount
        rw [hstep] at hstep'
        obtain rfl := Except.ok.inj hstep'
        have hquantum := currencyQuantum_ok hstep
        simp only [Int.toNat_natCast] at hquantum
        subst hquantum
        have hnpos : 0 < n := by
          have hq : 0 < cpa := not_le.mp hpositive
          rw [hn] at hq
          exact_mod_cast pos_of_mul_pos_left hq (quantum_pos _).le
        refine ⟨⟨stopPercent, warningPercent,
          { quantum_ok := by simpa using hstep
            cpa := ⟨n, hnpos, by simp [hn], hfits⟩
            stop_eq := rfl
            stop_range := confirmedPercent_range hstop
            noDep_eq := rfl
            withDep_eq := rfl
            warning_range := confirmedPercent_range hwarning
            enabled := ⟨rfl, rfl, rfl, rfl, rfl, rfl⟩
            cpc := by simpa using thresholds_graded hcpc
            cpl := by simpa using thresholds_graded hcpl
            cpr := by simpa using thresholds_graded hcpr
            cap := rfl
            frequency := frequencyThresholds_ok hfrequency }⟩, ?_⟩
        cases enabled with
        | false => exact .inr rfl
        | true => exact .inl rfl
    · cases h
  · cases h

-- ------------------------------------------------------------
-- The rules of a rung return
-- ------------------------------------------------------------

section
variable {A : Arithmetic} {code : RuleCode} {exponent : Int} {th : Thresholds}

def Placed (A : Arithmetic) (cand : Option RuleHit) : Prop :=
  ∀ hit, cand = some hit → ∃ r, progress A hit = .ok (.finite r)

theorem placed_none : Placed A none := by
  intro hit hhit
  cases hhit

theorem placed_ruleHit {stage : Option AlertStage} {v t r : ℚ} (ht : 0 < t)
    (h : A.finish (v / t) = .ok (.finite r)) :
    Placed A (some (ruleHit code stage (.finite v) (.finite t))) := by
  intro hit hhit
  obtain rfl := Option.some.inj hhit
  exact ⟨r, by simp [progress, ruleHit, Arithmetic.div, ht.ne', h, ofDecimal]⟩

theorem formatMoneyValue_returns {q : ℚ} (h : Prints A (quantum exponent.toNat) q) :
    Returns (formatMoneyValue A (.finite q) exponent) := by
  unfold Prints at h
  simp only [formatMoneyValue, Arithmetic.quantize, h, if_true, ofDecimal]
  exact returns_ok _

theorem prints_grid {step : ℚ} {n : ℤ} (hstep : 0 < step) (h : A.fits n = true) :
    Prints A step (n * step) := by
  unfold Prints
  rwa [mul_div_assoc, div_self hstep.ne', mul_one, halfUp_intCast]

theorem reached_returns {x s w : ℚ} :
    Returns (reached code (.finite x) (.finite s) (.finite w)) := by
  simp only [reached, Decimal.le_finite, ofDecimal, ok_bind]
  split
  · exact returns_ok _
  · split
    · exact returns_ok _
    · exact returns_ok _

theorem texts_return (code : RuleCode) (hgraded : Graded A (quantum exponent.toNat) th)
    (hforce : th.InForce) {x : ℚ} (hx : Prints A (quantum exponent.toNat) x) :
    Returns (formatMoneyValue A (.finite x) exponent) ∧
      Returns (formatThresholdValue A th.stop th.base exponent) ∧
      Returns (reached code (.finite x) th.stop th.warning) := by
  obtain ⟨t, ht, hpos⟩ := hforce
  obtain ⟨b, s, w, hbase, rfl, hwarning, hb, hs⟩ := hgraded t ht
  have hstep := quantum_pos exponent.toNat
  refine ⟨formatMoneyValue_returns hx, ?_, ?_⟩
  · obtain ⟨printed, hprinted⟩ := formatMoneyValue_returns (prints_grid hstep hs)
    obtain ⟨printedBase, hprintedBase⟩ := formatMoneyValue_returns (prints_grid hstep hb)
    simp only [formatThresholdValue, ht, hbase, Decimal.eq_finite, ofDecimal, ok_bind, hprinted,
      hprintedBase]
    split
    · exact returns_ok _
    · exact returns_ok _
  · rw [ht, hwarning]
    exact reached_returns

theorem guardrail_returns (code : RuleCode) (hgraded : Graded A (quantum exponent.toNat) th)
    (hforce : th.InForce) {x : ℚ} (hx : Prints A (quantum exponent.toNat) x) :
    Returns (evaluateGuardrailOnly A (.finite x) true th code exponent) := by
  obtain ⟨⟨m, hm⟩, ⟨ts, hts⟩, hreached⟩ := texts_return code hgraded hforce hx
  simpa only [evaluateGuardrailOnly, if_true, hm, hts, ok_bind] using hreached

theorem exactDerivedMoney_eq {x : ℚ} (hx : 0 ≤ x) : exactDerivedMoney (.finite x) = .ok
    (.finite x) := by
  simp [exactDerivedMoney, not_lt.mpr hx]

theorem metric_returns (code : RuleCode) {metric : Option Decimal}
    (hgraded : Graded A (quantum exponent.toNat) th)
    (hmetric : NonNegative metric) (hready : MetricReady A exponent th metric) :
    Returns (evaluateMetricOnly A metric true th code exponent) := by
  cases metric with
  | none => exact returns_ok _
  | some d =>
    obtain ⟨x, rfl, hx⟩ := hmetric d rfl
    obtain ⟨hprints, hforce⟩ := hready x rfl
    obtain ⟨⟨m, hm⟩, ⟨ts, hts⟩, hreached⟩ := texts_return code hgraded hforce hprints
    simpa only [evaluateMetricOnly, exactDerivedMoney_eq hx, hm, hts, ok_bind] using hreached

theorem stageFrom_returns {x s w : ℚ} :
    Returns (stageFrom (.finite x) (.finite s) (.finite w)) := by
  simp only [stageFrom, Decimal.le_finite, ofDecimal, ok_bind]
  split
  · exact returns_ok _
  · split
    · exact returns_ok _
    · exact returns_ok _

theorem stopProgressHit_eq {v t : ℚ} {stage : Option AlertStage} (hv : 0 ≤ v) (ht : 0 < t) :
    stopProgressHit code (.finite v) (.finite t) stage =
      .ok (ruleHit code stage (.finite v) (.finite t)) := by
  simp [stopProgressHit, not_lt.mpr hv, not_le.mpr ht]

theorem decimalStopCandidate_placed {v t w r : ℚ} (hv : 0 ≤ v) (ht : 0 < t)
    (h : A.finish (v / t) = .ok (.finite r)) :
    ∃ cand, decimalStopCandidate (.finite v) true (.finite t) (.finite w) code = .ok cand ∧
      Placed A cand := by
  obtain ⟨stage, hstage⟩ : Returns (stageFrom (.finite v) (.finite t) (.finite w)) :=
    stageFrom_returns
  refine ⟨some (ruleHit code stage (.finite v) (.finite t)), ?_, placed_ruleHit ht h⟩
  simp only [decimalStopCandidate, if_true, hstage, stopProgressHit_eq hv ht, ok_bind]

theorem ratio_in_range (hA : A.Regular) {step x : ℚ} {s : ℤ} (hstep : 0 < step) (hx : 0 ≤ x)
    (hprints : Prints A step x) (hs : 0 < (s : ℚ) * step) :
    ∃ r, A.finish (x / (s * step)) = .ok (.finite r) := by
  have hone : (1 : ℚ) ≤ s := by
    have : 0 < s := by exact_mod_cast pos_of_mul_pos_left hs hstep.le
    exact_mod_cast this
  have hshort := Arithmetic.short_of_fits (div_nonneg hx hstep.le) hprints
  have hsmall : A.Short 0 (x / (s * step)) := by
    refine hshort.mono le_rfl (div_nonneg hx hs.le) ?_
    rw [Nat.sub_self, pow_zero, one_mul]
    gcongr
    exact le_mul_of_one_le_left hstep.le hone
  obtain ⟨r, hr, -, -⟩ := Arithmetic.finish_short hA (by decide) hsmall
  exact ⟨r, hr⟩

theorem amountCandidate_placed (code : RuleCode) (hA : A.Regular) {x : ℚ} (hx : 0 ≤ x)
    (hgraded : Graded A (quantum exponent.toNat) th) (hforce : th.InForce)
    (hprints : Prints A (quantum exponent.toNat) x) :
    ∃ cand, decimalStopCandidate (.finite x) true th.stop th.warning code = .ok cand ∧
      Placed A cand := by
  obtain ⟨t, ht, hpos⟩ := hforce
  obtain ⟨b, s, w, -, rfl, hwarning, -, -⟩ := hgraded t ht
  obtain ⟨r, hr⟩ := ratio_in_range hA (quantum_pos exponent.toNat) hx hprints hpos
  rw [ht, hwarning]
  exact decimalStopCandidate_placed hx hpos hr

theorem moneyCandidate_placed (code : RuleCode) (hA : A.Regular) {metric : Option Decimal}
    (hgraded : Graded A (quantum exponent.toNat) th) (hmetric : NonNegative metric)
    (hready : MetricReady A exponent th metric) :
    ∃ cand, moneyStopCandidate metric true th code = .ok cand ∧ Placed A cand := by
  cases metric with
  | none => exact ⟨none, rfl, placed_none⟩
  | some d =>
    obtain ⟨x, rfl, hx⟩ := hmetric d rfl
    obtain ⟨hprints, hforce⟩ := hready x rfl
    simp only [moneyStopCandidate, exactDerivedMoney_eq hx, ok_bind]
    exact amountCandidate_placed code hA hx hgraded hforce hprints

theorem ratioPercent_eq (hA : A.Regular) {step x : ℚ} {m : ℤ} (hstep : 0 < step) (hx : 0 ≤ x)
    (hprints : Prints A step x) (hm : 0 < m) :
    ∃ p, ratioPercent A (.finite x) (.finite (m * step)) = .ok (.finite p) ∧ 0 ≤ p := by
  have hmq : (0 : ℚ) < m * step := mul_pos (by exact_mod_cast hm) hstep
  have hshort : A.Short 0 (x / (m * step)) := by
    refine (Arithmetic.short_of_fits (div_nonneg hx hstep.le) hprints).mono le_rfl
      (div_nonneg hx hmq.le) ?_
    rw [Nat.sub_self, pow_zero, one_mul]
    gcongr
    exact le_mul_of_one_le_left hstep.le (by exact_mod_cast hm)
  obtain ⟨r, hr, hrShort, hrNonneg⟩ := Arithmetic.finish_short hA (by decide) hshort
  have hr0 := hrNonneg (div_nonneg hx hmq.le)
  have hpShort : A.Short 2 (r * 100) :=
    hrShort.mono (by decide) (mul_nonneg hr0 (by norm_num)) (by norm_num; linarith)
  obtain ⟨p, hp, -, hp0⟩ := Arithmetic.finish_short hA (by decide) hpShort
  refine ⟨p, ?_, hp0 (mul_nonneg hr0 (by norm_num))⟩
  simp only [ratioPercent, Decimal.le_finite, not_le.mpr hmq, decide_false, ofDecimal, ok_bind,
    Bool.false_eq_true, if_false, Arithmetic.div, hmq.ne', hr, Arithmetic.mul, hp]

theorem shareOf_eq (hA : A.Regular) {e percent : ℚ} (he : 0 ≤ e) (hprints : Prints A (1 / 100) e)
    (hpercent : 0 ≤ percent ∧ percent ≤ 100) :
    ∃ w, shareOf A (.finite e) (.finite percent) = .ok (.finite w) ∧ 0 ≤ w := by
  have hshort := Arithmetic.short_of_fits (div_nonneg he (by norm_num)) hprints
  have hxShort : A.Short 0 (e * percent) :=
    hshort.mono le_rfl (mul_nonneg he hpercent.1) (by norm_num; nlinarith)
  obtain ⟨x, hx, hx', hx0⟩ := Arithmetic.finish_short hA (by decide) hxShort
  have hnonneg := hx0 (mul_nonneg he hpercent.1)
  have hwShort : A.Short 0 (x / 100) :=
    hx'.mono le_rfl (div_nonneg hnonneg (by norm_num)) (by norm_num; linarith)
  obtain ⟨w, hw, -, hw0⟩ := Arithmetic.finish_short hA (by decide) hwShort
  refine ⟨w, ?_, hw0 (div_nonneg hnonneg (by norm_num))⟩
  simp only [shareOf, Arithmetic.mul, hx, ofDecimal, ok_bind, Arithmetic.div, OfNat.ofNat_ne_zero,
    if_false, hw]

theorem roundPercent_eq {q : ℚ} {d : Decimal} (h : roundPercent A (.finite q) = .ok d) :
    Prints A (1 / 100) q ∧ d = .finite (halfUp (q / (1 / 100)) * (1 / 100)) := by
  simp only [roundPercent, Arithmetic.quantize, ofDecimal_eq_ok] at h
  split_ifs at h with hfits
  exact ⟨hfits, (Except.ok.inj h).symm⟩

structure SpendValues (A : Arithmetic) (current effective warning stop : ℚ) : Prop where
  current_nonneg : 0 ≤ current
  stop_ok : roundPercent A (.finite effective) = .ok (.finite stop)
  stop_pos : 0 < stop
  warning_ok : warning ≤ current → Returns (roundPercent A (.finite warning))
  ratio : ∃ r, A.finish (current / stop) = .ok (.finite r)

theorem spendReady_values (hA : A.Regular) {row : ScannedAdRow} {ctx : RuleContext}
    {stopPercent warningPercent : ℚ} {stopFrom : Decimal}
    (hctx : Accepted A ctx stopPercent warningPercent) (hspend : ExactSpend row ctx)
    (hprints : ∀ q, row.spend = .finite q → Prints A (quantum ctx.currencyExponent.toNat) q)
    (hready : SpendReady A row ctx stopFrom) :
    ∃ p c e w t, ratioPercent A row.spend ctx.cpaAmount = .ok p ∧
      roundPercent A p = .ok (.finite c) ∧
      shareOf A stopFrom ctx.stopPercentOfBase = .ok (.finite e) ∧
      shareOf A (.finite e) (.finite warningPercent) = .ok (.finite w) ∧ SpendValues A c e w t := by
  obtain ⟨⟨e, t, he, ht, hpos⟩, p', c, hp', hc⟩ := hready
  obtain ⟨n, hn⟩ := hspend
  obtain ⟨m, hm, hcpa, -⟩ := hctx.cpa
  obtain ⟨p, hp, hp0⟩ := ratioPercent_eq hA (quantum_pos ctx.currencyExponent.toNat)
    (mul_nonneg n.cast_nonneg (quantum_pos _).le) (hprints _ hn) hm
  rw [hn, hcpa, hp] at hp'
  obtain rfl := Except.ok.inj hp'
  obtain ⟨hprintsC, rfl⟩ := roundPercent_eq hc
  obtain ⟨hprintsE, hte⟩ := roundPercent_eq ht
  obtain rfl : t = halfUp (e / (1 / 100)) * (1 / 100) := by simpa using hte
  have hj : (0 : ℚ) < halfUp (e / (1 / 100)) := pos_of_mul_pos_left hpos (by norm_num)
  have hk : 0 ≤ halfUp (p / (1 / 100)) := le_halfUp (by simpa using hp0)
  have hkq : (0 : ℚ) ≤ halfUp (p / (1 / 100)) * (1 / 100) :=
    mul_nonneg (by exact_mod_cast hk) (by norm_num)
  have he0 : 0 ≤ e := by
    by_contra hneg
    have hle : halfUp (e / (1 / 100)) ≤ 0 := halfUp_le (by push_cast; linarith [not_le.mp hneg])
    have : (halfUp (e / (1 / 100)) : ℚ) ≤ 0 := by exact_mod_cast hle
    linarith
  obtain ⟨w, hw, hw0⟩ :=
    shareOf_eq hA he0 hprintsE ⟨hctx.warning_range.1.le, hctx.warning_range.2⟩
  refine ⟨.finite p, _, e, w, _, by rw [hn, hcpa, hp], hc, he, hw, hkq, ht, hpos, fun hle => ?_,
    ratio_in_range hA (by norm_num) hkq (prints_grid (by norm_num) hprintsC) hpos⟩
  have hfits : A.fits (halfUp (w / (1 / 100))) = true :=
    Arithmetic.fits_mono (le_halfUp (by simpa using hw0)) (halfUp_le (by linarith)) hprintsC
  simp only [roundPercent, Arithmetic.quantize, hfits, if_true, ofDecimal]
  exact returns_ok _

variable {currentValue cpa stopFrom warningPercent stopPercent : Decimal} {c e w t : ℚ}

theorem spendRange_returns (hcurrent : roundPercent A currentValue = .ok (.finite c))
    (heffective : shareOf A stopFrom stopPercent = .ok (.finite e))
    (hwarning : shareOf A (.finite e) warningPercent = .ok (.finite w))
    (hcpa : Returns (formatMoneyValue A cpa exponent)) (hvalues : SpendValues A c e w t) :
    Returns (evaluateSpendRange A true currentValue cpa exponent stopFrom warningPercent stopPercent
      code) := by
  obtain ⟨printed, hprinted⟩ := hcpa
  simp only [evaluateSpendRange, if_true, heffective, hwarning, hprinted, hcurrent, hvalues.stop_ok,
    Decimal.le_finite, Decimal.lt_finite, ofDecimal, ok_bind]
  split
  · exact returns_ok _
  · split
    · rename_i hle
      split
      · obtain ⟨rounded, hrounded⟩ := hvalues.warning_ok (of_decide_eq_true hle)
        rw [hrounded]
        exact returns_ok _
      · exact returns_ok _
    · exact returns_ok _

theorem spendCandidate_placed (hcurrent : roundPercent A currentValue = .ok (.finite c))
    (heffective : shareOf A stopFrom stopPercent = .ok (.finite e))
    (hwarning : shareOf A (.finite e) warningPercent = .ok (.finite w))
    (hvalues : SpendValues A c e w t) :
    ∃ cand, spendRangeStopCandidate A true currentValue stopFrom warningPercent stopPercent code =
      .ok cand ∧ Placed A cand := by
  obtain ⟨stage, hstage⟩ : Returns (stageFrom (.finite c) (.finite e) (.finite w)) :=
    stageFrom_returns
  obtain ⟨r, hr⟩ := hvalues.ratio
  refine ⟨some (ruleHit code stage (.finite c) (.finite t)), ?_, placed_ruleHit hvalues.stop_pos hr⟩
  simp only [spendRangeStopCandidate, if_true, hcurrent, heffective, hwarning, hstage,
    hvalues.stop_ok, stopProgressHit_eq hvalues.current_nonneg hvalues.stop_pos, ok_bind]

end

-- ------------------------------------------------------------
-- The choice of the nearest stop
-- ------------------------------------------------------------

theorem Fair.progress_finite {A : Arithmetic} {hit : RuleHit} {key : Decimal} (h : Fair hit)
    (hkey : Rules.progress A hit = .ok key) : ∃ r, key = .finite r := by
  obtain ⟨v, t, hv, ht, -, hpos⟩ := h.measured
  have hfinish : A.finish (v / t) = .ok key := by
    simpa [Rules.progress, hv, ht, Arithmetic.div, hpos.ne'] using hkey
  exact Arithmetic.finish_eq_ok hfinish

theorem furthest_returns_iff {A : Arithmetic} {best : RuleHit} {k : ℚ} {rest : List RuleHit}
    (hfair : ∀ hit ∈ rest, Fair hit) :
    Returns (furthest A best (.finite k) rest) ↔ ∀ hit ∈ rest, ∃ r, progress A hit = .ok
      (.finite r) := by
  induction rest generalizing best k with
  | nil => simp [furthest, returns_ok]
  | cons hit rest ih =>
    have ih' {best : RuleHit} {k : ℚ} := @ih best k fun c hc => hfair c (List.mem_cons_of_mem _ hc)
    simp only [furthest, returns_bind, List.forall_mem_cons]
    constructor
    · rintro ⟨own, hown, less, -, hrest⟩
      obtain ⟨r, rfl⟩ := (hfair hit (by simp)).progress_finite hown
      refine ⟨⟨r, hown⟩, ?_⟩
      cases less with
      | false => exact ih'.mp hrest
      | true => exact ih'.mp hrest
    · rintro ⟨⟨r, hr⟩, hrest⟩
      refine ⟨.finite r, hr, Decidable.decide (k < r), by simp [ofDecimal], ?_⟩
      split
      · exact ih'.mpr hrest
      · exact ih'.mpr hrest

theorem choice_returns_iff {A : Arithmetic} {hits : List RuleHit} (hfair : ∀ hit ∈ hits, Fair hit) :
    Returns (match hits with
      | [] => (.ok none : Except Raised (Option RuleHit))
      | hit :: rest => do
        let key ← progress A hit
        let best ← furthest A hit key rest
        .ok (some best)) ↔ ∀ hit ∈ hits, ∃ r, progress A hit = .ok (.finite r) := by
  cases hits with
  | nil => simp [returns_ok]
  | cons hit rest =>
    have hrest : ∀ c ∈ rest, Fair c := fun c hc => hfair c (List.mem_cons_of_mem _ hc)
    simp only [returns_bind, List.forall_mem_cons]
    constructor
    · rintro ⟨key, hkey, best, hbest, -⟩
      obtain ⟨r, rfl⟩ := (hfair hit (by simp)).progress_finite hkey
      exact ⟨⟨r, hkey⟩, (furthest_returns_iff hrest).mp ⟨best, hbest⟩⟩
    · rintro ⟨⟨r, hr⟩, hall⟩
      obtain ⟨best, hbest⟩ := (@furthest_returns_iff A hit r rest hrest).mpr hall
      exact ⟨.finite r, hr, best, hbest, returns_ok _⟩

theorem nearestStopHit_returns_iff {A : Arithmetic} {row : ScannedAdRow} {ctx : RuleContext} :
    Returns (nearestStopHit A row ctx) ↔
      (∃ candidates, funnelStopCandidates A row ctx = .ok candidates ∧
        ∀ cand ∈ candidates, Placed A cand) ∧
      ∃ frequency, frequencyStopCandidate A ctx = .ok frequency ∧ Placed A frequency := by
  have hplaced (candidates : List (Option RuleHit)) (frequency : Option RuleHit) :
      ((∀ cand ∈ candidates, Placed A cand) ∧ Placed A frequency) ↔
        ∀ hit ∈ (candidates ++ [frequency]).filterMap id, ∃ r,
          progress A hit = .ok (.finite r) := by
    constructor
    · rintro ⟨hcands, hfreq⟩ hit hmem
      obtain ⟨cand, hcand, rfl⟩ := List.mem_filterMap.mp hmem
      rcases List.mem_append.mp hcand with hcand | hcand
      · exact hcands _ hcand hit rfl
      · rw [List.mem_singleton] at hcand
        exact hfreq hit hcand.symm
    · intro h
      refine ⟨fun cand hcand hit hhit => ?_, fun hit hhit => ?_⟩
      · exact h hit (List.mem_filterMap.mpr ⟨cand, by simp [hcand], hhit⟩)
      · exact h hit (List.mem_filterMap.mpr ⟨frequency, by simp, hhit⟩)
  simp only [nearestStopHit, returns_bind]
  constructor
  · rintro ⟨candidates, hfunnel, frequency, hfrequency, h⟩
    obtain ⟨hfair, -⟩ := candidates_ordered hfunnel hfrequency
    obtain ⟨hcands, hfreq⟩ := (hplaced candidates frequency).mpr ((choice_returns_iff hfair).mp h)
    exact ⟨⟨candidates, hfunnel, hcands⟩, frequency, hfrequency, hfreq⟩
  · rintro ⟨⟨candidates, hfunnel, hcands⟩, frequency, hfrequency, hfreq⟩
    obtain ⟨hfair, -⟩ := candidates_ordered hfunnel hfrequency
    exact ⟨candidates, hfunnel, frequency, hfrequency,
      (choice_returns_iff hfair).mpr ((hplaced candidates frequency).mp ⟨hcands, hfreq⟩)⟩

-- ------------------------------------------------------------
-- Rungs
-- ------------------------------------------------------------

section
variable {A : Arithmetic} {row : ScannedAdRow} {ctx : RuleContext} {stopPercent warningPercent : ℚ}

theorem spendReady_of_candidate {code : RuleCode} {p : Decimal} {stopFrom warning : Decimal}
    {cand : Option RuleHit} (hp : ratioPercent A row.spend ctx.cpaAmount = .ok p)
    (h : spendRangeStopCandidate A true p stopFrom warning ctx.stopPercentOfBase code = .ok cand) :
    SpendReady A row ctx stopFrom := by
  obtain ⟨c, effective, w, stage, v, t, hc, heffective, -, -, ht, -, -, hpos, -⟩ :=
    spendRangeStopCandidate_ok h
  have ht' := ht
  simp only [roundPercent, ofDecimal_eq_ok] at ht'
  obtain ⟨e, rfl, -, -⟩ := Arithmetic.quantize_eq_finite ht'
  exact ⟨⟨e, t, heffective, ht, hpos⟩, p, c, hp, hc⟩

theorem inForce_of_candidate {value warning : Decimal} {th : Thresholds} {code : RuleCode}
    {cand : Option RuleHit} (h : decimalStopCandidate value true th.stop warning code = .ok cand) :
    th.InForce := by
  obtain ⟨v, t, stage, -, ht, -, hpos, -, -⟩ := decimalStopCandidate_ok h
  exact ⟨t, ht, hpos⟩

theorem prints_of_format {q : ℚ} {exponent : Int} {d : Decimal}
    (h : formatMoneyValue A (.finite q) exponent = .ok d) :
    Prints A (quantum exponent.toNat) q := by
  simp only [formatMoneyValue, Arithmetic.quantize, ofDecimal_eq_ok] at h
  split_ifs at h with hfits
  exact hfits

theorem metricReady_of_returns {metric : Option Decimal} {th : Thresholds} {code : RuleCode}
    {exponent : Int} {hit cand : Option RuleHit}
    (hhit : evaluateMetricOnly A metric true th code exponent = .ok hit)
    (hcand : moneyStopCandidate metric true th code = .ok cand) :
    MetricReady A exponent th metric := by
  rintro q rfl
  simp only [evaluateMetricOnly, bind_eq_ok] at hhit
  obtain ⟨current, hcurrent, printed, hprinted, -⟩ := hhit
  simp only [moneyStopCandidate, bind_eq_ok] at hcand
  obtain ⟨current', -, hcand⟩ := hcand
  have hq : current = .finite q := by
    simp only [exactDerivedMoney] at hcurrent
    split_ifs at hcurrent
    exact (Except.ok.inj hcurrent).symm
  subst hq
  exact ⟨prints_of_format hprinted, inForce_of_candidate hcand⟩

theorem regsReady_iff (hctx : Accepted A ctx stopPercent warningPercent)
    (hregs : 0 ≤ row.registrations) :
    (∃ cand, registrationsWithoutDepositStopCandidate row ctx = .ok cand ∧ Placed A cand) ↔
      RegsReady A row ctx := by
  obtain ⟨-, -, -, henabled, -, -⟩ := hctx.enabled
  unfold registrationsWithoutDepositStopCandidate RegsReady
  by_cases hdeposits : ctx.externalDeposits = 0
  · simp only [henabled, hdeposits, bne_self_eq_false, Bool.not_true, Bool.or_false,
      Bool.false_eq_true, if_false, true_implies]
    constructor
    · rintro ⟨cand, hcand, hplaced⟩
      obtain ⟨v, t, stage, hv, ht, -, hpos, -, rfl⟩ := decimalStopCandidate_ok hcand
      obtain rfl : (row.registrations : ℚ) = v := by simpa using hv
      obtain rfl : (ctx.regsNoDepStopCount : ℚ) = t := by simpa using ht
      obtain ⟨r, hr⟩ := hplaced _ rfl
      refine ⟨by exact_mod_cast hpos, .finite r, ?_⟩
      simpa [progress, ruleHit, Arithmetic.div, hpos.ne'] using hr
    · rintro ⟨hpos, r, hr⟩
      obtain ⟨q, rfl⟩ := Arithmetic.finish_eq_ok hr
      have hpos' : (0 : ℚ) < ctx.regsNoDepStopCount := by exact_mod_cast hpos
      obtain ⟨w, hw⟩ : ∃ w, (warningCount ctx.regsNoDepStopCount).getD
          (.finite ctx.regsNoDepStopCount) = .finite w := by
        unfold warningCount
        split
        · exact ⟨_, rfl⟩
        · exact ⟨_, rfl⟩
      rw [hw]
      exact decimalStopCandidate_placed (by exact_mod_cast hregs) hpos' hr
  · have hoff : (!ctx.regsNoDepEnabled || ctx.externalDeposits != 0) = true := by simp [hdeposits]
    simp only [hoff, if_true, hdeposits, false_implies, iff_true]
    exact ⟨none, rfl, placed_none⟩

theorem shouldApply_eq (hregs : 1 ≤ row.registrations)
    (hmetric : NonNegative row.costPerRegistration)
    (hready : MetricReady A ctx.currencyExponent ctx.cpr row.costPerRegistration) :
    ∃ applies, shouldApplyRegistrationSpendGuardrail row ctx = .ok applies ∧
      (applies = true ↔ GuardApplies row ctx) := by
  have hpos : ¬ row.registrations ≤ 0 := by omega
  cases hcost : row.costPerRegistration with
  | none =>
    refine ⟨true, by simp [shouldApplyRegistrationSpendGuardrail, hpos, hcost], ?_⟩
    simp [GuardApplies, hcost]
  | some d =>
    obtain ⟨q, rfl, hq⟩ := hmetric d hcost
    obtain ⟨-, t, ht, -⟩ := hready q hcost
    refine ⟨Decidable.decide (q ≤ t), ?_, ?_⟩
    · simp only [shouldApplyRegistrationSpendGuardrail, hpos, if_false, hcost,
        exactDerivedMoney_eq hq, ok_bind, ht, Decimal.le_finite, ofDecimal]
    · simp [GuardApplies, hcost, ht]

theorem spendRule_return (hA : A.Regular) (hctx : Accepted A ctx stopPercent warningPercent)
    (hspend : ExactSpend row ctx)
    (hprints : ∀ q, row.spend = .finite q → Prints A (quantum ctx.currencyExponent.toNat) q)
    {stopFrom : Decimal} (code : RuleCode) (hready : SpendReady A row ctx stopFrom) :
    ∃ p, ratioPercent A row.spend ctx.cpaAmount = .ok p ∧
      Returns (evaluateSpendRange A true p ctx.cpaAmount ctx.currencyExponent stopFrom
        (.finite warningPercent) ctx.stopPercentOfBase code) ∧
      ∃ cand, spendRangeStopCandidate A true p stopFrom (.finite warningPercent)
        ctx.stopPercentOfBase code = .ok cand ∧ Placed A cand := by
  obtain ⟨p, c, e, w, t, hp, hc, he, hw, hvalues⟩ := spendReady_values hA hctx hspend hprints hready
  obtain ⟨m, -, hcpa, hfits⟩ := hctx.cpa
  have hcpaPrints : Returns (formatMoneyValue A ctx.cpaAmount ctx.currencyExponent) := by
    rw [hcpa]
    exact formatMoneyValue_returns (prints_grid (quantum_pos _) hfits)
  exact ⟨p, hp, spendRange_returns hc he hw hcpaPrints hvalues,
    spendCandidate_placed hc he hw hvalues⟩

theorem pricedRung_iff (hA : A.Regular) {exponent : Int} {metric : Option Decimal}
    {th th' : Thresholds} {code code' : RuleCode} {x : ℚ} (hx : 0 ≤ x)
    (hprints : Prints A (quantum exponent.toNat) x) (hmetric : NonNegative metric)
    (hgraded : Graded A (quantum exponent.toNat) th)
    (hgraded' : Graded A (quantum exponent.toNat) th') :
    (Returns (do
        let first ← evaluateMetricOnly A metric true th code exponent
        let second ← evaluateGuardrailOnly A (.finite x) true th' code' exponent
        .ok (pickHighestPriorityHit [first, second])) ∧
      ∃ candidates, (do
          let first ← moneyStopCandidate metric true th code
          let second ← decimalStopCandidate (.finite x) true th'.stop th'.warning code'
          .ok [first, second]) = .ok candidates ∧ ∀ cand ∈ candidates, Placed A cand) ↔
      MetricReady A exponent th metric ∧ th'.InForce := by
  constructor
  · rintro ⟨⟨hit, hhit⟩, candidates, h, -⟩
    simp only [bind_eq_ok] at hhit h
    obtain ⟨firstHit, hfirstHit, -⟩ := hhit
    obtain ⟨first, hfirst, second, hsecond, -⟩ := h
    exact ⟨metricReady_of_returns hfirstHit hfirst, inForce_of_candidate hsecond⟩
  · rintro ⟨hready, hforce⟩
    obtain ⟨firstHit, hfirstHit⟩ := metric_returns code hgraded hmetric hready
    obtain ⟨first, hfirst, hfirstPlaced⟩ := moneyCandidate_placed code hA hgraded hmetric hready
    obtain ⟨secondHit, hsecondHit⟩ := guardrail_returns code' hgraded' hforce hprints
    obtain ⟨second, hsecond, hsecondPlaced⟩ :=
      amountCandidate_placed code' hA hx hgraded' hforce hprints
    simp only [hfirstHit, hsecondHit, hfirst, hsecond, ok_bind]
    exact ⟨returns_ok _, _, rfl, by simp [hfirstPlaced, hsecondPlaced]⟩

theorem registrationRung_return (hA : A.Regular) (hctx : Accepted A ctx stopPercent warningPercent)
    (hrow : row.Measured) (hspend : ExactSpend row ctx)
    (hprints : ∀ q, row.spend = .finite q → Prints A (quantum ctx.currencyExponent.toNat) q)
    (hregs : 1 ≤ row.registrations)
    (hmetric : MetricReady A ctx.currencyExponent ctx.cpr row.costPerRegistration)
    (hspendReady : GuardApplies row ctx → SpendReady A row ctx ctx.spendNoDepFromPercent) :
    Returns (registrationSpendHit A row ctx) ∧
      ∃ spend, registrationSpendCandidate A row ctx = .ok spend ∧ Placed A spend := by
  obtain ⟨applies, happlies, hiff⟩ := shouldApply_eq hregs hrow.costPerRegistration hmetric
  obtain ⟨-, -, -, -, henabled, -⟩ := hctx.enabled
  simp only [registrationSpendHit, registrationSpendCandidate, happlies, ok_bind]
  cases applies with
  | false => exact ⟨returns_ok _, none, rfl, placed_none⟩
  | true =>
    obtain ⟨p, hp, hhit, hcand⟩ :=
      spendRule_return hA hctx hspend hprints .spendNoDepRange (hspendReady (hiff.mp rfl))
    simp only [if_true, spendWithoutDepositStopCandidate, hp, ok_bind, henabled, hctx.noDep_eq]
    exact ⟨hhit, hcand⟩

/-- The rules of a rung return, on both sides, exactly when the rung is ready. -/
theorem rungReady_iff (hA : A.Regular) (hctx : Accepted A ctx stopPercent warningPercent)
    (hrow : row.Measured) (hspend : ExactSpend row ctx)
    (hprints : ∀ q, row.spend = .finite q → Prints A (quantum ctx.currencyExponent.toNat) q) :
    (Returns (evaluateFunnelLadder A row ctx) ∧
      ∃ candidates, funnelStopCandidates A row ctx = .ok candidates ∧
        ∀ cand ∈ candidates, Placed A cand) ↔ RungReady A row ctx := by
  obtain ⟨hcpcOn, hcplOn, hcprOn, -, hnoDepOn, hwithDepOn⟩ := hctx.enabled
  obtain ⟨n, hn⟩ := hspend
  have hn0 : (0 : ℚ) ≤ n * quantum ctx.currencyExponent.toNat :=
    mul_nonneg n.cast_nonneg (quantum_pos _).le
  unfold evaluateFunnelLadder funnelStopCandidates RungReady
  by_cases hdeposit : hasConfirmedDepositSignal ctx = true
  · simp only [hdeposit, if_true, evaluateDepositStage, spendWithDepositStopCandidate, hwithDepOn]
    constructor
    · rintro ⟨-, candidates, h, -⟩
      obtain ⟨spend, hspendCand, -⟩ := bind_eq_ok.mp h
      obtain ⟨p, hp, hspendCand⟩ := bind_eq_ok.mp hspendCand
      exact spendReady_of_candidate hp hspendCand
    · intro hready
      obtain ⟨p, hp, hhit, cand, hcand, hplaced⟩ :=
        spendRule_return hA hctx ⟨n, hn⟩ hprints .spendWithDepRange hready
      simp only [hp, ok_bind, hctx.withDep_eq]
      exact ⟨hhit, [cand], by rw [hcand]; rfl, by simpa using hplaced⟩
  simp only [hdeposit, Bool.false_eq_true, if_false]
  by_cases hregs : 1 ≤ row.registrations
  · simp only [hregs, if_true, evaluateRegistrationStage, hcprOn]
    constructor
    · rintro ⟨⟨hit, hhit⟩, candidates, h, hplaced⟩
      simp only [bind_eq_ok] at hhit h
      obtain ⟨cprHit, hcprHit, spendHit, -, -⟩ := hhit
      obtain ⟨spend, hspendCand, cpr, hcpr, regs, hregsCand, h⟩ := h
      obtain rfl := Except.ok.inj h
      have hmetric := metricReady_of_returns hcprHit hcpr
      refine ⟨hmetric, (regsReady_iff hctx hrow.registrations).mp
        ⟨regs, hregsCand, hplaced _ (by simp)⟩,
        fun hguard => ?_⟩
      obtain ⟨applies, happlies, hiff⟩ := shouldApply_eq hregs hrow.costPerRegistration hmetric
      obtain rfl := hiff.mpr hguard
      simp only [registrationSpendCandidate, happlies, ok_bind, if_true,
        spendWithoutDepositStopCandidate, hnoDepOn] at hspendCand
      obtain ⟨p, hp, hspendCand⟩ := bind_eq_ok.mp hspendCand
      exact spendReady_of_candidate hp hspendCand
    · rintro ⟨hmetric, hregsReady, hspendReady⟩
      obtain ⟨cprHit, hcprHit⟩ := metric_returns .cprStop hctx.cpr hrow.costPerRegistration hmetric
      obtain ⟨cpr, hcpr, hcprPlaced⟩ :=
        moneyCandidate_placed .cprStop hA hctx.cpr hrow.costPerRegistration hmetric
      obtain ⟨regs, hregsCand, hregsPlaced⟩ :=
        (regsReady_iff hctx hrow.registrations).mpr hregsReady
      obtain ⟨⟨spendHit, hspendHit⟩, spend, hspendCand, hspendPlaced⟩ :=
        registrationRung_return hA hctx hrow ⟨n, hn⟩ hprints hregs hmetric hspendReady
      simp only [hcprHit, hspendHit, hspendCand, hcpr, hregsCand, ok_bind]
      exact ⟨returns_ok _, _, rfl, by simp [hcprPlaced, hregsPlaced, hspendPlaced]⟩
  simp only [hregs, if_false]
  by_cases hleads : 1 ≤ row.leads
  · simp only [hleads, if_true, evaluateLeadStage, hcplOn, hcprOn, hn]
    exact pricedRung_iff hA hn0 (hprints _ hn) hrow.costPerLead hctx.cpl hctx.cpr
  simp only [hleads, if_false, evaluateClickStage]
  by_cases hclicks : 1 ≤ row.clicks
  · have hsome : row.clicks ≠ 0 := by omega
    simp only [hclicks, if_true, hsome, if_false, hcpcOn, hcplOn, hn]
    exact pricedRung_iff hA hn0 (hprints _ hn) hrow.cpc hctx.cpc hctx.cpl
  · have hzero : row.clicks = 0 := le_antisymm (by omega) hrow.clicks
    simp only [hzero, if_true, hcpcOn]
    constructor
    · rintro ⟨-, candidates, h, -⟩
      obtain ⟨cpc, hcpc, -⟩ := bind_eq_ok.mp h
      exact inForce_of_candidate hcpc
    · intro hforce
      obtain ⟨cpc, hcpc, hcpcPlaced⟩ :=
        amountCandidate_placed .cpcStop hA hn0 hctx.cpc hforce (hprints _ hn)
      rw [hn]
      refine ⟨guardrail_returns .cpcStop hctx.cpc hforce (hprints _ hn), [cpc], ?_,
        by simpa using hcpcPlaced⟩
      rw [hcpc]
      rfl

theorem confirmedFrequency_eq {current stop scaled : ℚ} (hon : ctx.frequencyAnomalyEnabled = true)
    (hcurrent : ctx.frequencyCurrent = some (.finite current))
    (hreach : significantRatioDenominator ctx.reach ctx.minRatioDenominator = true)
    (hstop : ctx.frequencyStopThreshold = .finite stop)
    (hcap : ctx.frequencyOutlierCap = .finite 10) (h : A.finish (stop * 3) = .ok (.finite scaled)) :
    confirmedFrequency A ctx = .ok
      (if current ≤ max 10 scaled then some (.finite current) else none) := by
  simp only [confirmedFrequency, hon, hcurrent, hreach, if_true, hstop, hcap, Arithmetic.mul, h,
    ofDecimal, ok_bind, Decimal.lt_finite]
  by_cases hlarger : (10 : ℚ) < scaled
  · simp only [hlarger, decide_true, if_true, Decimal.lt_finite, ok_bind, max_eq_right hlarger.le]
    by_cases hover : scaled < current <;> simp [hover, not_le.mpr, not_lt.mp]
  · simp only [hlarger, decide_false, Bool.false_eq_true, if_false, Decimal.lt_finite, ok_bind,
      max_eq_left (not_lt.mp hlarger)]
    by_cases hover : (10 : ℚ) < current <;> simp [hover, not_le.mpr, not_lt.mp]

theorem confirmed_return_iff {current stop warning : ℚ}
    (hconfirmed : confirmedFrequency A ctx = .ok (some (.finite current))) (hcurrent : 0 ≤ current)
    (hstop : ctx.frequencyStopThreshold = .finite stop) (hpos : 0 < stop)
    (hwarning : ctx.frequencyWarningThreshold = .finite warning) :
    (Returns (evaluateFrequencyAnomaly A ctx) ∧
      ∃ cand, frequencyStopCandidate A ctx = .ok cand ∧ Placed A cand) ↔
      ∃ r, A.finish (current / stop) = .ok r := by
  constructor
  · rintro ⟨-, cand, hcand, hplaced⟩
    rcases frequencyStopCandidate_ok hcand with ⟨hnone, -⟩ | ⟨v, t, stage, hsome, ht, -, -, -, rfl⟩
    · rw [hconfirmed] at hnone
      cases hnone
    · obtain rfl : current = v := by simpa [hconfirmed] using hsome
      obtain rfl : stop = t := by simpa [hstop] using ht
      obtain ⟨r, hr⟩ := hplaced _ rfl
      exact ⟨.finite r, by simpa [progress, ruleHit, Arithmetic.div, hpos.ne'] using hr⟩
  · rintro ⟨d, hd⟩
    obtain ⟨r, rfl⟩ := Arithmetic.finish_eq_ok hd
    refine ⟨?_, ?_⟩
    · simp only [evaluateFrequencyAnomaly, hconfirmed, ok_bind, hstop, hwarning, Decimal.lt_finite,
        ofDecimal]
      split
      · exact returns_ok _
      · split
        · exact returns_ok _
        · exact returns_ok _
    · obtain ⟨stage, hstage⟩ :
          Returns (strictStageFrom (.finite current) (.finite stop) (.finite warning)) := by
        simp only [strictStageFrom, Decimal.lt_finite, ofDecimal, ok_bind]
        split
        · exact returns_ok _
        · split
          · exact returns_ok _
          · exact returns_ok _
      refine ⟨some (ruleHit .frequencyAnomaly stage (.finite current) (.finite stop)), ?_,
        placed_ruleHit hpos hd⟩
      simp only [frequencyStopCandidate, hconfirmed, ok_bind, hstop, hwarning, hstage,
        stopProgressHit_eq hcurrent hpos]

/-- The frequency rule returns, on both sides, exactly when it is ready. -/
theorem frequencyReady_iff (hctx : Accepted A ctx stopPercent warningPercent)
    (hfrequency : NonNegative ctx.frequencyCurrent) :
    (Returns (evaluateFrequencyAnomaly A ctx) ∧
      ∃ cand, frequencyStopCandidate A ctx = .ok cand ∧ Placed A cand) ↔ FrequencyReady A ctx := by
  have hsilent (h : confirmedFrequency A ctx = .ok none) :
      Returns (evaluateFrequencyAnomaly A ctx) ∧
        ∃ cand, frequencyStopCandidate A ctx = .ok cand ∧ Placed A cand := by
    simp only [evaluateFrequencyAnomaly, frequencyStopCandidate, h, ok_bind]
    exact ⟨returns_ok _, none, rfl, placed_none⟩
  cases hon : ctx.frequencyAnomalyEnabled with
  | false =>
    refine ⟨fun _ current stop h => absurd (hon.symm.trans h) (by decide), fun _ => hsilent ?_⟩
    simp [confirmedFrequency, hon]
  | true =>
    obtain ⟨stop, warning, hstop, hpos, hwarning⟩ := hctx.frequency hon
    cases hcurrent : ctx.frequencyCurrent with
    | none =>
      refine ⟨fun _ current stop _ h => absurd (hcurrent.symm.trans h) (by simp),
        fun _ => hsilent ?_⟩
      simp [confirmedFrequency, hon, hcurrent]
    | some d =>
      obtain ⟨current, rfl, hcurrent0⟩ := hfrequency d hcurrent
      cases hreach : significantRatioDenominator ctx.reach ctx.minRatioDenominator with
      | false =>
        refine ⟨fun _ _ _ _ _ _ h => absurd (hreach.symm.trans h) (by decide), fun _ => hsilent ?_⟩
        simp [confirmedFrequency, hon, hcurrent, hreach]
      | true =>
        constructor
        · rintro ⟨hhit, hcand⟩ current' stop' - hcurrent' hstop' -
          obtain rfl : current = current' := by simpa [hcurrent] using hcurrent'
          obtain rfl : stop = stop' := by simpa [hstop] using hstop'
          -- the outlier cap was computed
          obtain ⟨scaled, hscaled⟩ : ∃ scaled, A.finish (stop * 3) = .ok (.finite scaled) := by
            obtain ⟨hit, hhit⟩ := hhit
            simp only [evaluateFrequencyAnomaly, bind_eq_ok, confirmedFrequency, hon,
              hcurrent, hreach,
              if_true, hstop, Arithmetic.mul, ofDecimal_eq_ok] at hhit
            obtain ⟨confirmed, ⟨scaled, hscaled, -⟩, -⟩ := hhit
            obtain ⟨q, rfl⟩ := Arithmetic.finish_eq_ok hscaled
            exact ⟨q, hscaled⟩
          refine ⟨scaled, hscaled, fun hle => ?_⟩
          have hconfirmed := confirmedFrequency_eq hon hcurrent hreach hstop hctx.cap hscaled
          rw [if_pos hle] at hconfirmed
          exact (confirmed_return_iff hconfirmed hcurrent0 hstop hpos hwarning).mp ⟨hhit, hcand⟩
        · intro hready
          obtain ⟨scaled, hscaled, hratio⟩ := hready current stop hon hcurrent hstop hreach
          have hconfirmed := confirmedFrequency_eq hon hcurrent hreach hstop hctx.cap hscaled
          by_cases hle : current ≤ max 10 scaled
          · rw [if_pos hle] at hconfirmed
            exact (confirmed_return_iff hconfirmed hcurrent0 hstop hpos hwarning).mpr (hratio hle)
          · rw [if_neg hle] at hconfirmed
            exact hsilent hconfirmed

theorem requireExact_returns_iff (hctx : Accepted A ctx stopPercent warningPercent)
    (hspend : ExactSpend row ctx) :
    Returns (requireExactCurrencyAmount A row.spend (some ctx.currency) ctx.currencyExponent "spend"
      true) ↔ ∀ q, row.spend = .finite q → Prints A (quantum ctx.currencyExponent.toNat) q := by
  obtain ⟨n, hn⟩ := hspend
  have hstep := quantum_pos ctx.currencyExponent.toNat
  have hn0 : (0 : ℚ) ≤ n * quantum ctx.currencyExponent.toNat := mul_nonneg n.cast_nonneg hstep.le
  have hprints : Prints A (quantum ctx.currencyExponent.toNat)
      (n * quantum ctx.currencyExponent.toNat) ↔ A.fits n = true := by
    unfold Prints
    rw [mul_div_assoc, div_self hstep.ne', mul_one, ← Int.cast_natCast, halfUp_intCast]
  have hcoefficient : halfEven (n * quantum ctx.currencyExponent.toNat /
      quantum ctx.currencyExponent.toNat) = n := by
    rw [mul_div_assoc, div_self hstep.ne', mul_one, ← Int.cast_natCast, halfEven_intCast]
  rw [hn]
  constructor
  · rintro ⟨d, hd⟩ q hq
    obtain rfl := Decimal.finite.inj hq
    obtain ⟨step, hstep', -, -, -, m, hm, hfits⟩ := requireExact_ok hd
    rw [hctx.quantum_ok] at hstep'
    obtain rfl := Except.ok.inj hstep'
    rw [hm]
    exact prints_grid hstep hfits
  · intro h
    have hfits := hprints.mp (h _ rfl)
    simp only [requireExactCurrencyAmount, hctx.quantum_ok, ok_bind, not_lt.mpr hn0,
      Bool.true_eq_false, false_and, or_self, if_false, Arithmetic.quantize, hcoefficient, hfits,
      if_true, Int.cast_natCast, ofDecimal, Decimal.eq_finite, decide_true]
    exact returns_ok _

/-- On an accepted context, the rows that can be evaluated. -/
theorem evaluateStopRules_returns_iff (hA : A.Regular)
    (hctx : Accepted A ctx stopPercent warningPercent) (hrow : row.Measured)
    (hspend : ExactSpend row ctx) (hfrequency : NonNegative ctx.frequencyCurrent) :
    Returns (evaluateStopRules A row ctx) ↔ Evaluable A row ctx := by
  simp only [evaluateStopRules, returns_bind]
  constructor
  · rintro ⟨spend, hcheck, funnelHit, hfunnelHit, freqHit, hfreqHit, nearest, hnearest, -⟩
    have hprints := (requireExact_returns_iff hctx hspend).mp ⟨spend, hcheck⟩
    obtain ⟨hcandidates, hfreqCand⟩ := nearestStopHit_returns_iff.mp ⟨nearest, hnearest⟩
    exact
      { spend := hprints
        rung := (rungReady_iff hA hctx hrow hspend hprints).mp ⟨⟨funnelHit, hfunnelHit⟩,
          hcandidates⟩
        frequency := (frequencyReady_iff hctx hfrequency).mp ⟨⟨freqHit, hfreqHit⟩, hfreqCand⟩ }
  · rintro ⟨hprints, hrung, hfreq⟩
    obtain ⟨spend, hcheck⟩ := (requireExact_returns_iff hctx hspend).mpr hprints
    obtain ⟨⟨funnelHit, hfunnelHit⟩, hcandidates⟩ :=
      (rungReady_iff hA hctx hrow hspend hprints).mpr hrung
    obtain ⟨⟨freqHit, hfreqHit⟩, hfreqCand⟩ := (frequencyReady_iff hctx hfrequency).mpr hfreq
    obtain ⟨nearest, hnearest⟩ := nearestStopHit_returns_iff.mpr ⟨hcandidates, hfreqCand⟩
    exact ⟨spend, hcheck, funnelHit, hfunnelHit, freqHit, hfreqHit, nearest, hnearest, returns_ok _⟩

end

/-- The evaluation of a row under an accepted configuration returns exactly
when the thresholds of its rung survived their quantization and its amounts
can be printed. -/
theorem accepted_configuration_evaluates_iff (offer : OfferRules) (evidence : RowEvidence)
    (ctx : RuleContext) (row : ScannedAdRow)
    (hbuild : buildRuleContext .default offer evidence = .ok ctx) (hrow : row.Measured)
    (hspend : ExactSpend row ctx) (hfrequency : NonNegative evidence.frequencyCurrent) :
    (∃ evaluation, evaluateStopRules .default row ctx = .ok evaluation) ↔
      Evaluable .default row ctx := by
  obtain ⟨⟨stopPercent, warningPercent, hctx⟩, hcurrent⟩ := buildRuleContext_accepted hbuild
  refine evaluateStopRules_returns_iff Arithmetic.default_regular hctx hrow hspend ?_
  rcases hcurrent with h | h
  · rwa [h]
  · intro d hd
    rw [h] at hd
    cases hd

def dollarOffer : OfferRules :=
  { code := "GAMES", cpaThreshold := some (.finite 25), frequencyThreshold := some (.finite (7 / 2))
    currency := some "USD", stopPercentOfRule := some (.finite 80)
    warningPercentOfStop := some (.finite 80) }

def dollarEvidence : RowEvidence :=
  { accountCurrency := "USD", currencyExponent := 2, frequencyCurrent := some (.finite 2)
    reach := some 500 }

theorem accepted_configuration_evaluates_dollar :
    buildRuleContext .default dollarOffer dollarEvidence = .ok dollarContext ∧
      Evaluable .default dollarRow dollarContext := by
  have hbuild : buildRuleContext .default dollarOffer dollarEvidence = .ok dollarContext := by
    decide +kernel
  have hevaluate : evaluateStopRules .default dollarRow dollarContext = .ok dollarEvaluation := by
    decide +kernel
  have hrow : dollarRow.Measured := by
    refine ⟨by decide, by decide, by decide, ?_, ?_, ?_⟩ <;> intro d hd <;> cases hd
    exact ⟨9 / 20, rfl, by norm_num⟩
  refine ⟨hbuild, (accepted_configuration_evaluates_iff dollarOffer dollarEvidence
    dollarContext dollarRow
    hbuild hrow ⟨450, ?_⟩ ?_).mp ⟨dollarEvaluation, hevaluate⟩⟩
  · simp only [dollarRow, dollarContext, quantum, show (2 : Int).toNat = 2 from rfl]
    norm_num
  · intro d hd
    cases hd
    exact ⟨2, rfl, by norm_num⟩

/-- A CPA of 24 yen: two percent of it are 0.48 yen, which round to zero. -/
def yenOffer : OfferRules :=
  { dollarOffer with cpaThreshold := some (.finite 24), frequencyThreshold := none
                     currency := some "JPY" }

def yenEvidence : RowEvidence :=
  { accountCurrency := "JPY", currencyExponent := 0 }

def yenContext : RuleContext :=
  { currency := "JPY", currencyExponent := 0, cpaAmount := .finite 24
    warningPercentOfStop := .finite 80, stopPercentOfBase := .finite 80
    frequencyAnomalyEnabled := false
    cpc := ⟨.finite 0, .finite 0, .finite 0⟩
    cpl := ⟨.finite 2, .finite 2, .finite 2⟩
    cpr := ⟨.finite 5, .finite 4, .finite 3⟩ }

def freshRow : ScannedAdRow := { spend := .finite 0 }

/-- The accepted configuration raises on every row without an event. -/
theorem accepted_configuration_raises :
    ¬ ∀ (offer : OfferRules) (evidence : RowEvidence) (ctx : RuleContext) (row : ScannedAdRow),
      buildRuleContext .default offer evidence = .ok ctx → row.Measured → ExactSpend row ctx →
      NonNegative evidence.frequencyCurrent →
      ∃ evaluation, evaluateStopRules .default row ctx = .ok evaluation := by
  intro h
  have hbuild : buildRuleContext .default yenOffer yenEvidence = .ok yenContext := by decide +kernel
  have hraises : evaluateStopRules .default freshRow yenContext =
      .error (.valueError "stop threshold must be finite and positive") := by decide +kernel
  have hrow : freshRow.Measured := by
    refine ⟨by decide, by decide, by decide, ?_, ?_, ?_⟩ <;> intro d hd <;> cases hd
  obtain ⟨evaluation, hevaluation⟩ := h yenOffer yenEvidence yenContext freshRow hbuild hrow
    ⟨0, by simp [freshRow]⟩ (fun d hd => nomatch hd)
  rw [hraises] at hevaluation
  cases hevaluation

end StopBot.Rules
