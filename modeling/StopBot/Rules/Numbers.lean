import StopBot.Rules.SpendCap

/-!
# The numbers of an offer that can be evaluated

`Evaluable` on what is configured: the CPA, the percentages of an offer and the
amounts of a row. A stored CPA and stored percentages are short enough for
their products to be exact, so a stop threshold is what the two roundings to
the step of the currency leave of the product, and it is in force when they
leave a step.
-/

namespace StopBot.Rules

open Lib Observer

/-- The number of a finite decimal. -/
def number : Decimal → ℚ
  | .finite q => q
  | _ => 0

-- ------------------------------------------------------------
-- Conditions
-- ------------------------------------------------------------

/-- The base threshold of a price rule, in steps of the currency. -/
def baseSteps (ctx : RuleContext) (percent : Decimal) : ℤ :=
  halfUp (number ctx.cpaAmount * 10 ^ ctx.currencyExponent.toNat * number percent / 100)

def stopSteps (ctx : RuleContext) (percent : Decimal) : ℤ :=
  halfUp (baseSteps ctx percent * number ctx.stopPercentOfBase / 100)

/-- Half a step is left of the base, so that a step is left of the stop. -/
def KeepsStop (ctx : RuleContext) (percent : Decimal) : Prop :=
  50 ≤ baseSteps ctx percent * number ctx.stopPercentOfBase

/-- In steps of the currency, an amount rounds to 28 digits or fewer. -/
def InDigits (ctx : RuleContext) (amount : ℚ) : Prop :=
  amount * 10 ^ ctx.currencyExponent.toNat < 10 ^ 28 - 1 / 2

/-- A known price is in range, and its rule keeps a stop. -/
def PriceKept (ctx : RuleContext) (percent : Decimal) (metric : Option Decimal) : Prop :=
  ∀ q, metric = some (.finite q) → InDigits ctx q ∧ KeepsStop ctx percent

/-- The share of the CPA that stops is half a hundredth of a percent or more, and the spend is a
percentage of 28 digits. -/
def ShareKept (row : ScannedAdRow) (ctx : RuleContext) (stopFrom : Decimal) : Prop :=
  1 / 2 ≤ number stopFrom * number ctx.stopPercentOfBase ∧
    number row.spend / number ctx.cpaAmount * 100 < 10 ^ 26 - 1 / 200

/-- The price of a registration is unknown, or not over its stop. -/
def PriceUnderStop (row : ScannedAdRow) (ctx : RuleContext) : Prop :=
  ∀ q, row.costPerRegistration = some (.finite q) →
    q * 10 ^ ctx.currencyExponent.toNat ≤ stopSteps ctx ctx.cprPercentOfCpa

def RungKept (row : ScannedAdRow) (ctx : RuleContext) : Prop :=
  if hasConfirmedDepositSignal ctx then ShareKept row ctx ctx.spendWithDepFromPercent
  else if 1 ≤ row.registrations then
    PriceKept ctx ctx.cprPercentOfCpa row.costPerRegistration ∧ RegsReady .default row ctx ∧
      (PriceUnderStop row ctx → ShareKept row ctx ctx.spendNoDepFromPercent)
  else if 1 ≤ row.leads then
    PriceKept ctx ctx.cplPercentOfCpa row.costPerLead ∧ KeepsStop ctx ctx.cprPercentOfCpa
  else if 1 ≤ row.clicks then
    PriceKept ctx ctx.cpcPercentOfCpa row.cpc ∧ KeepsStop ctx ctx.cplPercentOfCpa
  else KeepsStop ctx ctx.cpcPercentOfCpa

structure Kept (row : ScannedAdRow) (ctx : RuleContext) : Prop where
  spend : InDigits ctx (number row.spend)
  rung : RungKept row ctx
  frequency : FrequencyReady .default ctx

-- ------------------------------------------------------------
-- Stored prices
-- ------------------------------------------------------------

def StoredShare (d : Decimal) : Prop :=
  ∃ n : ℕ, 0 < n ∧ n < 10 ^ 5 ∧ d = .finite (n / 100)

structure OfferRules.PricesStored (offer : OfferRules) : Prop where
  cpc : ∀ d, offer.cpcPercentOfCpa = some d → StoredShare d
  cpl : ∀ d, offer.cplPercentOfCpa = some d → StoredShare d
  cpr : ∀ d, offer.cprPercentOfCpa = some d → StoredShare d

theorem StoredShare.getD {percent : Option Decimal} {n : ℕ} (hn : 0 < n ∧ n < 10 ^ 5)
    (h : ∀ d, percent = some d → StoredShare d) :
    StoredShare (percent.getD (.finite (n / 100))) := by
  cases percent with
  | none => exact ⟨n, hn.1, hn.2, rfl⟩
  | some d => exact h d rfl

/-- The thresholds of a price rule are computed from the CPA and a stored share of it. -/
def PriceRule (ctx : RuleContext) (percent : Decimal) (th : Thresholds) : Prop :=
  StoredShare percent ∧ ∃ warningPercent, thresholds .default (quantum ctx.currencyExponent.toNat)
    ctx.cpaAmount percent ctx.stopPercentOfBase warningPercent = .ok th

theorem buildRuleContext_prices {offer : OfferRules} {evidence : RowEvidence} {ctx : RuleContext}
    (h : buildRuleContext .default offer evidence = .ok ctx) (hprices : offer.PricesStored) :
    PriceRule ctx ctx.cpcPercentOfCpa ctx.cpc ∧ PriceRule ctx ctx.cplPercentOfCpa ctx.cpl ∧
      PriceRule ctx ctx.cprPercentOfCpa ctx.cpr := by
  unfold buildRuleContext at h
  split at h
  · rename_i cpa hcpa
    split_ifs at h
    simp only [bind_eq_ok] at h
    obtain ⟨⟨account, exponent⟩, -, h⟩ := h
    split_ifs at h
    split at h
    · simp only [bind_eq_ok] at h
      obtain ⟨⟨enabled, stop, warning⟩, -, h⟩ := h
      split at h
      · cases h
      · simp only [RuleSettings.context, bind_eq_ok] at h
        obtain ⟨⟨currency, confirmed⟩, -, amount, -, step, hstep, cpc, hcpc, cpl, hcpl, cpr,
            hcpr, h⟩ := h
        obtain rfl := Except.ok.inj h
        obtain rfl := currencyQuantum_ok hstep
        refine ⟨⟨?_, _, hcpc⟩, ⟨?_, _, hcpl⟩, ⟨?_, _, hcpr⟩⟩
        · rw [show (2 : ℚ) = ((200 : ℕ) : ℚ) / 100 by norm_num]
          exact StoredShare.getD (by decide) hprices.cpc
        · rw [show (10 : ℚ) = ((1000 : ℕ) : ℚ) / 100 by norm_num]
          exact StoredShare.getD (by decide) hprices.cpl
        · rw [show (20 : ℚ) = ((2000 : ℕ) : ℚ) / 100 by norm_num]
          exact StoredShare.getD (by decide) hprices.cpr
    · cases h
  · cases h

theorem percentOf_steps {m n e : ℕ} (hmn : m * n < 10 ^ 28) (he : e ≤ 3) :
    percentOf .default (quantum e) (.finite (m * quantum e)) (.finite (n / 100)) =
      .ok (.finite (halfUp (m * (n / 100) / 100 : ℚ) * quantum e)) := by
  have hshare : shareOf .default (.finite (m * quantum e)) (.finite (n / 100)) =
      .ok (.finite (m * n / 10 ^ (e + 4))) := by
    rw [quantum, mul_one_div]
    exact shareOf_digits e hmn (by omega)
  have hsteps : (m * n / 10 ^ (e + 4) : ℚ) / quantum e = m * (n / 100) / 100 := by
    rw [quantum, div_div_eq_mul_div, div_one, pow_add]
    field_simp
    norm_num
  have hfits : Arithmetic.default.fits (halfUp (m * (n / 100) / 100 : ℚ)) = true := by
    have hle : halfUp (m * (n / 100) / 100 : ℚ) ≤ (m * n : ℕ) := by
      refine halfUp_le ?_
      push_cast
      have hnonneg : (0 : ℚ) ≤ m * n := by positivity
      linarith
    have hge : 0 ≤ halfUp (m * (n / 100) / 100 : ℚ) := le_halfUp (by positivity)
    have hmn' : ((m * n : ℕ) : ℤ) < 10 ^ 28 := by exact_mod_cast hmn
    simp only [Arithmetic.fits, Arithmetic.default, decide_eq_true_eq]
    omega
  have hsplit : percentOf .default (quantum e) (.finite (m * quantum e)) (.finite (n / 100)) =
      shareOf .default (.finite (m * quantum e)) (.finite (n / 100)) >>= fun share =>
        ofDecimal (Arithmetic.default.quantize halfUp (quantum e) share) := by
    rw [percentOf, shareOf, bind_assoc]
  rw [hsplit, hshare, ok_bind, Arithmetic.quantize, hsteps, if_pos hfits]
  rfl

section
variable {ctx : RuleContext} {row : ScannedAdRow} {stopPercent warningPercent : ℚ}

/-- The thresholds of a price rule, in steps. -/
theorem PriceRule.steps {percent : Decimal} {th : Thresholds} (h : PriceRule ctx percent th)
    (hctx : Accepted .default ctx stopPercent warningPercent) (hstored : ctx.Stored) :
    0 ≤ baseSteps ctx percent ∧
      th.stop = .finite (stopSteps ctx percent * quantum ctx.currencyExponent.toNat) := by
  obtain ⟨⟨n, -, hn, rfl⟩, warning, hth⟩ := h
  obtain ⟨c, hc⟩ : ∃ c, ctx.cpaAmount = .finite c := ⟨_, hctx.cpa.choose_spec.2.1⟩
  obtain ⟨m, -, hm, rfl, -⟩ := hctx.cpa_steps hstored hc
  obtain ⟨p, -, hp, hstop⟩ := hstored.stopPercent
  have hmn : m * n < 10 ^ 22 := by nlinarith
  have hbase : baseSteps ctx (.finite (n / 100)) = halfUp (m * (n / 100) / 100 : ℚ) := by
    rw [baseSteps, hc, number, number, quantum, mul_assoc (m : ℚ),
      one_div_mul_cancel (by positivity),
      mul_one]
  have hnonneg : 0 ≤ halfUp (m * (n / 100) / 100 : ℚ) := le_halfUp (by positivity)
  obtain ⟨b, hb⟩ := Int.eq_ofNat_of_zero_le hnonneg
  have hb22 : b < 10 ^ 22 := by
    have hle : halfUp (m * (n / 100) / 100 : ℚ) ≤ (m * n : ℕ) := by
      refine halfUp_le ?_
      push_cast
      have hnonneg : (0 : ℚ) ≤ m * n := by positivity
      linarith
    omega
  refine ⟨hbase ▸ hnonneg, ?_⟩
  simp only [thresholds, hc, hstop, percentOf_steps (by omega : m * n < 10 ^ 28) hctx.exponent_le,
    ok_bind, hb, Int.cast_natCast,
    percentOf_steps (by nlinarith : b * p < 10 ^ 28) hctx.exponent_le] at hth
  obtain ⟨warningAmount, -, hth⟩ := bind_eq_ok.mp hth
  obtain rfl := Except.ok.inj hth
  rw [stopSteps, hbase, hb, hstop, number]
  simp

theorem PriceRule.inForce_iff {percent : Decimal} {th : Thresholds} (h : PriceRule ctx percent th)
    (hctx : Accepted .default ctx stopPercent warningPercent) (hstored : ctx.Stored) :
    th.InForce ↔ KeepsStop ctx percent := by
  obtain ⟨hbase, hstop⟩ := h.steps hctx hstored
  have hquantum := quantum_pos ctx.currencyExponent.toNat
  have hshare : 0 ≤ baseSteps ctx percent * number ctx.stopPercentOfBase := by
    rw [hctx.stop_eq, number]
    exact mul_nonneg (by exact_mod_cast hbase) hctx.stop_range.1.le
  have hsteps : 0 < stopSteps ctx percent ↔ KeepsStop ctx percent := by
    rw [← Int.add_one_le_iff, stopSteps, le_halfUp_iff (by positivity), KeepsStop]
    push_cast
    constructor <;> intro h <;> linarith
  rw [← hsteps]
  constructor
  · rintro ⟨t, ht, hpos⟩
    obtain rfl := Decimal.finite.inj (hstop.symm.trans ht)
    exact_mod_cast pos_of_mul_pos_left hpos hquantum.le
  · intro hpos
    exact ⟨_, hstop, mul_pos (by exact_mod_cast hpos) hquantum⟩

/-- An amount prints exactly when it is in range. -/
theorem prints_iff_inDigits {q : ℚ} (hq : 0 ≤ q) :
    Prints .default (quantum ctx.currencyExponent.toNat) q ↔ InDigits ctx q := by
  have hsteps : q / quantum ctx.currencyExponent.toNat = q * 10 ^ ctx.currencyExponent.toNat := by
    rw [quantum, div_div_eq_mul_div, div_one]
  have hnonneg : 0 ≤ q * 10 ^ ctx.currencyExponent.toNat := by positivity
  have hround : 0 ≤ halfUp (q * 10 ^ ctx.currencyExponent.toNat) :=
    le_halfUp (by exact_mod_cast hnonneg)
  have hle := le_halfUp_iff (n := 10 ^ 28) hnonneg
  rw [Prints, hsteps, InDigits, ← not_le,
    show (10 ^ 28 - 1 / 2 : ℚ) = ((10 ^ 28 : ℤ) : ℚ) - 1 / 2 by
    norm_num, ← hle]
  simp only [Arithmetic.fits, Arithmetic.default, decide_eq_true_eq]
  omega

theorem metricReady_iff {percent : Decimal} {th : Thresholds} {metric : Option Decimal}
    (h : PriceRule ctx percent th) (hctx : Accepted .default ctx stopPercent warningPercent)
    (hstored : ctx.Stored) (hmetric : NonNegative metric) :
    MetricReady .default ctx.currencyExponent th metric ↔ PriceKept ctx percent metric := by
  refine forall_congr' fun q => forall_congr' fun hq => ?_
  obtain ⟨q', hfinite, hnonneg⟩ := hmetric _ hq
  obtain rfl := Decimal.finite.inj hfinite
  rw [prints_iff_inDigits hnonneg, h.inForce_iff hctx hstored]

theorem guardApplies_iff (h : PriceRule ctx ctx.cprPercentOfCpa ctx.cpr)
    (hctx : Accepted .default ctx stopPercent warningPercent) (hstored : ctx.Stored) :
    GuardApplies row ctx ↔ PriceUnderStop row ctx := by
  have hstop := (h.steps hctx hstored).2
  have hpow : (0 : ℚ) < 10 ^ ctx.currencyExponent.toNat := by positivity
  refine forall_congr' fun q => ?_
  constructor
  · intro hguard hq
    have hle := hguard _ hq hstop
    rwa [quantum, mul_one_div, le_div_iff₀ hpow] at hle
  · intro hunder t hq ht
    obtain rfl := Decimal.finite.inj (hstop.symm.trans ht)
    rw [quantum, mul_one_div, le_div_iff₀ hpow]
    exact hunder hq

/-- The rounded share is positive from half a hundredth on. -/
theorem shareReady_iff {stopFrom stopPercent : Decimal} (hfrom : StoredPercent stopFrom)
    (hstop : StoredPercent stopPercent) :
    (∃ e t, shareOf .default stopFrom stopPercent = .ok (.finite e) ∧
      roundPercent .default (.finite e) = .ok (.finite t) ∧ 0 < t) ↔
      1 / 2 ≤ number stopFrom * number stopPercent := by
  obtain ⟨a, ha, ha', rfl⟩ := hfrom
  obtain ⟨b, hb, hb', rfl⟩ := hstop
  have hscaled : (a * b / 10 ^ 6 : ℚ) / (1 / 100) = a / 100 * (b / 100) := by ring
  have hnonneg : (0 : ℚ) ≤ a / 100 * (b / 100) := by positivity
  have hab : (a * b : ℚ) ≤ 10 ^ 8 := by exact_mod_cast (by nlinarith : a * b ≤ 10 ^ 8)
  have hfits : Arithmetic.default.fits (halfUp (a / 100 * (b / 100) : ℚ)) = true := by
    have hle : halfUp (a / 100 * (b / 100) : ℚ) ≤ 10 ^ 4 := halfUp_le (by push_cast; linarith)
    have hge : 0 ≤ halfUp (a / 100 * (b / 100) : ℚ) := le_halfUp (by exact_mod_cast hnonneg)
    simp only [Arithmetic.fits, Arithmetic.default, decide_eq_true_eq]
    omega
  have hround : roundPercent .default (.finite (a * b / 10 ^ 6)) =
      .ok (.finite (halfUp (a / 100 * (b / 100) : ℚ) * (1 / 100))) := by
    simp only [roundPercent, Arithmetic.quantize, hscaled, hfits, if_true, ofDecimal]
  have hpositive : 0 < (halfUp (a / 100 * (b / 100) : ℚ) * (1 / 100) : ℚ) ↔
      (1 / 2 : ℚ) ≤ a / 100 * (b / 100) := by
    rw [mul_pos_iff_of_pos_right (by norm_num), Int.cast_pos, ← Int.add_one_le_iff,
      le_halfUp_iff hnonneg]
    norm_num
  rw [shareOf_stored ha' hb', number, number, ← hpositive]
  constructor
  · rintro ⟨e, t, he, ht, hpos⟩
    obtain rfl := Decimal.finite.inj (Except.ok.inj he)
    obtain rfl := Decimal.finite.inj (Except.ok.inj (hround.symm.trans ht))
    exact hpos
  · intro hpos
    exact ⟨_, _, rfl, hround, hpos⟩

theorem spendReady_iff (hctx : Accepted .default ctx stopPercent warningPercent)
    (hstored : ctx.Stored)
    (rule : SpendRule) {n : ℕ} (hn : row.spend = .finite (n * quantum ctx.currencyExponent.toNat))
    (hfits : Arithmetic.default.fits n = true) :
    SpendReady .default row ctx (rule.stopFrom ctx) ↔ ShareKept row ctx (rule.stopFrom ctx) := by
  have hquantum := quantum_pos ctx.currencyExponent.toNat
  obtain ⟨c, hc⟩ : ∃ c, ctx.cpaAmount = .finite c := ⟨_, hctx.cpa.choose_spec.2.1⟩
  obtain ⟨m, hm, -, rfl, -⟩ := hctx.cpa_steps hstored hc
  have hmq : (0 : ℚ) < m := by exact_mod_cast hm
  refine and_congr (shareReady_iff (hstored.stopFrom rule) hstored.stopPercent) ?_
  have hratio : n * quantum ctx.currencyExponent.toNat / (m * quantum ctx.currencyExponent.toNat) =
      (n / m : ℚ) := mul_div_mul_right _ _ hquantum.ne'
  obtain ⟨r, hr, -, hpercent⟩ := ratioPercent_rounded (by positivity) (mul_pos hmq hquantum)
    (hratio ▸ ratio_short hm hfits)
  rw [hratio] at hr
  rw [hn, hc, number, number, hratio, ← ratio_fits_iff (by positivity) hr]
  constructor
  · rintro ⟨p, printed, hp, hprinted⟩
    obtain rfl := Except.ok.inj (hpercent.symm.trans hp)
    by_contra hlong
    simp only [roundPercent, Arithmetic.quantize, if_neg hlong, ofDecimal] at hprinted
    cases hprinted
  · intro hshort
    refine ⟨_, .finite (halfUp (r * 100 / (1 / 100)) * (1 / 100)), hpercent, ?_⟩
    simp only [roundPercent, Arithmetic.quantize, hshort, if_true, ofDecimal]

/-- The two readings of a rung agree. -/
theorem rungKept_iff (hctx : Accepted .default ctx stopPercent warningPercent)
    (hstored : ctx.Stored) (hcpc : PriceRule ctx ctx.cpcPercentOfCpa ctx.cpc)
    (hcpl : PriceRule ctx ctx.cplPercentOfCpa ctx.cpl)
    (hcpr : PriceRule ctx ctx.cprPercentOfCpa ctx.cpr) (hrow : row.Measured) {n : ℕ}
    (hn : row.spend = .finite (n * quantum ctx.currencyExponent.toNat))
    (hfits : Arithmetic.default.fits n = true) : RungReady .default row ctx ↔ RungKept row ctx := by
  have hnoDep := spendReady_iff hctx hstored .noDep hn hfits
  have hwithDep := spendReady_iff hctx hstored .withDep hn hfits
  simp only [SpendRule.stopFrom] at hnoDep hwithDep
  simp only [RungReady, RungKept, hnoDep, hwithDep, guardApplies_iff hcpr hctx hstored,
    metricReady_iff hcpr hctx hstored hrow.costPerRegistration,
    metricReady_iff hcpl hctx hstored hrow.costPerLead, metricReady_iff hcpc hctx hstored hrow.cpc,
    hcpr.inForce_iff hctx hstored, hcpl.inForce_iff hctx hstored, hcpc.inForce_iff hctx hstored]

end

/-- On a stored offer, the evaluation of a row returns exactly when its numbers are in range and
halves do not round the stops of its rung away. -/
theorem stored_configuration_evaluates_iff (offer : OfferRules) (evidence : RowEvidence)
    (ctx : RuleContext) (row : ScannedAdRow)
    (hbuild : buildRuleContext .default offer evidence = .ok ctx) (hstored : offer.Stored)
    (hprices : offer.PricesStored) (hrow : row.Measured) (hspend : ExactSpend row ctx)
    (hfrequency : NonNegative evidence.frequencyCurrent) :
    (∃ evaluation, evaluateStopRules .default row ctx = .ok evaluation) ↔ Kept row ctx := by
  obtain ⟨⟨stopPercent, warningPercent, hctx⟩, hcurrent⟩ := buildRuleContext_accepted hbuild
  have hctxStored := buildRuleContext_stored hbuild hstored
  obtain ⟨hcpc, hcpl, hcpr⟩ := buildRuleContext_prices hbuild hprices
  have hcurrent' : NonNegative ctx.frequencyCurrent := by
    rcases hcurrent with h | h
    · rwa [h]
    · intro d hd
      rw [h] at hd
      cases hd
  refine (evaluateStopRules_returns_iff Arithmetic.default_regular hctx hrow hspend hcurrent').trans
    ?_
  obtain ⟨n, hn⟩ := hspend
  have hquantum := quantum_pos ctx.currencyExponent.toNat
  have hnonneg : 0 ≤ n * quantum ctx.currencyExponent.toNat := by positivity
  have hprints : (∀ q, row.spend = .finite q →
      Prints .default (quantum ctx.currencyExponent.toNat) q) ↔
      InDigits ctx (number row.spend) := by
    rw [hn, number, ← prints_iff_inDigits hnonneg]
    exact ⟨fun h => h _ rfl, fun h q hq => Decimal.finite.inj hq ▸ h⟩
  have hrung (h : InDigits ctx (number row.spend)) : RungReady .default row ctx ↔
      RungKept row ctx := by
    rw [hn, number, ← prints_iff_inDigits hnonneg, Prints, mul_div_assoc,
      div_self hquantum.ne', mul_one,
      ← Int.cast_natCast, halfUp_intCast] at h
    exact rungKept_iff hctx hctxStored hcpc hcpl hcpr hrow hn h
  constructor
  · rintro ⟨hprinted, hready, hfreq⟩
    have hrange := hprints.mp hprinted
    exact ⟨hrange, (hrung hrange).mp hready, hfreq⟩
  · rintro ⟨hrange, hkept, hfreq⟩
    exact ⟨hprints.mpr hrange, (hrung hrange).mpr hkept, hfreq⟩

end StopBot.Rules
