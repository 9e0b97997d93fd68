import StopBot.Rules.Evaluable

/-!
# The spend cap

The two spend rules write the spend as a percentage of the CPA, round it half
up to a hundredth and compare it with a threshold that is not rounded. The
percentages that stop therefore begin half a hundredth below the first
hundredth that reaches the threshold, and not at the threshold: the cap is
exact except between the two.
-/

namespace StopBot.Rules

open Lib Observer

inductive SpendRule
  | noDep
  | withDep
  deriving DecidableEq, Repr

def SpendRule.stopFrom (ctx : RuleContext) : SpendRule → Decimal
  | .noDep => ctx.spendNoDepFromPercent
  | .withDep => ctx.spendWithDepFromPercent

def SpendRule.hit (A : Arithmetic) (row : ScannedAdRow) (ctx : RuleContext) :
    SpendRule → Except Raised (Option RuleHit)
  | .noDep => registrationSpendHit A row ctx
  | .withDep => evaluateDepositStage A row ctx

/-- The rung evaluates the rule: without deposits the price of a registration decides. -/
def SpendRule.Applies (row : ScannedAdRow) (ctx : RuleContext) : SpendRule → Prop
  | .noDep => shouldApplyRegistrationSpendGuardrail row ctx = .ok true
  | .withDep => True

def SpendRule.Stops (rule : SpendRule) (A : Arithmetic) (row : ScannedAdRow)
    (ctx : RuleContext) : Prop :=
  ∃ hit, rule.hit A row ctx = .ok (some hit) ∧ hit.stage = some .stop

-- ------------------------------------------------------------
-- Stored offers
-- ------------------------------------------------------------

/-- A percentage column of `offer_rules`: `numeric(5, 2)`, in (0, 100]. -/
def StoredPercent (d : Decimal) : Prop :=
  ∃ n : ℕ, 0 < n ∧ n ≤ 10000 ∧ d = .finite (n / 100)

/-- What the columns of `offer_rules` hold; the CPA is `numeric(20, 6)`. -/
structure OfferRules.Stored (offer : OfferRules) : Prop where
  cpa : ∀ q, offer.cpaThreshold = some (.finite q) → q < 10 ^ 14
  stopPercent : ∀ d, offer.stopPercentOfRule = some d → StoredPercent d
  noDep : ∀ d, offer.spendNoDepFromPercent = some d → StoredPercent d
  withDep : ∀ d, offer.spendWithDepFromPercent = some d → StoredPercent d

structure RuleContext.Stored (ctx : RuleContext) : Prop where
  cpa : ∀ q, ctx.cpaAmount = .finite q → q < 10 ^ 14
  stopPercent : StoredPercent ctx.stopPercentOfBase
  stopFrom : ∀ rule : SpendRule, StoredPercent (rule.stopFrom ctx)

theorem confirmedPercent_eq {percent : Option Decimal} {q : ℚ}
    (h : confirmedPercent percent = some q) :
    percent = some (.finite q) := by
  unfold confirmedPercent at h
  split at h
  · split_ifs at h
    rw [Option.some.inj h]
  · cases h

theorem StoredPercent.getD {percent : Option Decimal} {n : ℕ} (hn : 0 < n ∧ n ≤ 10000)
    (h : ∀ d, percent = some d → StoredPercent d) :
    StoredPercent (percent.getD (.finite (n / 100))) := by
  cases percent with
  | none => exact ⟨n, hn.1, hn.2, rfl⟩
  | some d => exact h d rfl

theorem buildRuleContext_stored {A : Arithmetic} {offer : OfferRules} {evidence : RowEvidence}
    {ctx : RuleContext} (h : buildRuleContext A offer evidence = .ok ctx) (hstored : offer.Stored) :
    ctx.Stored := by
  unfold buildRuleContext at h
  split at h
  · rename_i cpa hcpa
    split_ifs at h
    simp only [bind_eq_ok] at h
    obtain ⟨⟨account, exponent⟩, -, h⟩ := h
    split_ifs at h
    split at h
    · rename_i warningPercent stopPercent hwarning hstop
      simp only [bind_eq_ok] at h
      obtain ⟨⟨enabled, stop, warning⟩, -, h⟩ := h
      split at h
      · cases h
      · simp only [RuleSettings.context, bind_eq_ok] at h
        obtain ⟨⟨currency, confirmed⟩, -, amount, hamount, step, -, cpc, -, cpl, -, cpr, -, h⟩ := h
        obtain rfl := Except.ok.inj h
        obtain ⟨-, -, rfl, -⟩ := requireExact_ok hamount
        refine ⟨fun q hq => ?_, hstored.stopPercent _ (confirmedPercent_eq hstop), fun rule => ?_⟩
        · obtain rfl := Decimal.finite.inj hq
          exact hstored.cpa _ hcpa
        · cases rule with
          | noDep =>
            have hdefault : (50 : ℚ) = ((5000 : ℕ) : ℚ) / 100 := by norm_num
            simp only [SpendRule.stopFrom, hdefault]
            exact StoredPercent.getD (by decide) hstored.noDep
          | withDep =>
            have hdefault : (70 : ℚ) = ((7000 : ℕ) : ℚ) / 100 := by norm_num
            simp only [SpendRule.stopFrom, hdefault]
            exact StoredPercent.getD (by decide) hstored.withDep
    · cases h
  · cases h

-- ------------------------------------------------------------
-- The numbers that are compared
-- ------------------------------------------------------------

def Digits (q : ℚ) : Prop := Arithmetic.Representable 28 999999 q

theorem digits_of_place {n : ℤ} (k : ℕ) (hn : |n| < 10 ^ 28) (hk : k ≤ 999999) :
    Digits (n / 10 ^ k) := by
  refine ⟨n, -k, hn, by push_cast; omega, ?_⟩
  rw [zpow_neg, zpow_natCast, div_eq_mul_inv]

theorem finish_digits {q : ℚ} (hq : Digits q) (hshort : Arithmetic.default.Short 4 q) :
    Arithmetic.default.finish q = .ok (.finite q) := by
  obtain ⟨r, hr, -, -⟩ := Arithmetic.finish_short Arithmetic.default_regular le_rfl hshort
  rw [hr, hq.finish_eq hr]

/-- A percentage is exact when the product of the coefficients is. -/
theorem shareOf_digits {a b : ℕ} (k : ℕ) (hab : a * b < 10 ^ 28) (hk : k ≤ 999995) :
    shareOf .default (.finite (a / 10 ^ k)) (.finite (b / 100)) =
      .ok (.finite (a * b / 10 ^ (k + 4))) := by
  have hdigits (j : ℕ) (hj : j ≤ 999999) : Digits ((a * b : ℕ) / 10 ^ j) := by
    have h := digits_of_place j (n := (a * b : ℕ)) (by rw [Nat.abs_cast]; exact_mod_cast hab) hj
    simpa using h
  have hshort (j : ℕ) : Arithmetic.default.Short 4 ((a * b : ℕ) / 10 ^ j) := by
    have hcast : ((a * b : ℕ) : ℚ) ≤ 10 ^ 28 := by exact_mod_cast hab.le
    simp only [Arithmetic.Short, Arithmetic.default]
    rw [abs_of_nonneg (by positivity)]
    refine le_trans (div_le_self (by positivity) (one_le_pow₀ (by norm_num))) (le_trans hcast ?_)
    norm_num
  have hproduct : (a / 10 ^ k : ℚ) * (b / 100) = (a * b : ℕ) / 10 ^ (k + 2) := by
    rw [div_mul_div_comm, pow_add]
    push_cast
    norm_num
  have hshare : ((a * b : ℕ) / 10 ^ (k + 2) : ℚ) / 100 = (a * b : ℕ) / 10 ^ (k + 4) := by
    rw [div_div, pow_add, pow_add, mul_assoc]
    norm_num
  simp only [shareOf, Arithmetic.mul, hproduct,
    finish_digits (hdigits (k + 2) (by omega)) (hshort _),
    ofDecimal, ok_bind, Arithmetic.div, OfNat.ofNat_ne_zero, if_false, hshare,
    finish_digits (hdigits (k + 4) (by omega)) (hshort _)]
  push_cast
  rfl

theorem shareOf_stored {a b : ℕ} (ha : a ≤ 10000) (hb : b ≤ 10000) :
    shareOf .default (.finite (a / 100)) (.finite (b / 100)) = .ok (.finite (a * b / 10 ^ 6)) := by
  have hab : a * b ≤ 10 ^ 8 := by nlinarith
  have h := shareOf_digits 2 (a := a) (b := b) (by omega) (by decide)
  rwa [show (10 : ℚ) ^ 2 = 100 by norm_num] at h

theorem ratio_short {m n : ℕ} (hm : 0 < m) (hfits : Arithmetic.default.fits n = true) :
    Arithmetic.default.Short 0 (n / m) := by
  have hn : n < 10 ^ 28 := by
    simpa only [Arithmetic.fits, Arithmetic.default, decide_eq_true_eq,
      Int.natAbs_natCast] using hfits
  have hnq : (n : ℚ) ≤ 10 ^ 28 := by exact_mod_cast hn.le
  simp only [Arithmetic.Short, Arithmetic.default, Nat.add_zero]
  rw [abs_of_nonneg (by positivity)]
  exact le_trans (div_le_self n.cast_nonneg (by exact_mod_cast hm)) hnq

theorem ratioPercent_rounded {x c : ℚ} (hx : 0 ≤ x) (hc : 0 < c)
    (hshort : Arithmetic.default.Short 0 (x / c)) :
    ∃ r, Arithmetic.default.finish (x / c) = .ok (.finite r) ∧ 0 ≤ r ∧
      ratioPercent .default (.finite x) (.finite c) = .ok (.finite (r * 100)) := by
  obtain ⟨r, hr, hrShort, hrNonneg⟩ :=
    Arithmetic.finish_short Arithmetic.default_regular (by decide) hshort
  have hr0 := hrNonneg (div_nonneg hx hc.le)
  have hdigits : Digits (r * 10 ^ 2) :=
    (Arithmetic.representable_of_finish (by decide) hr).mul_pow 2
  rw [show (10 : ℚ) ^ 2 = 100 by norm_num] at hdigits
  have hpShort : Arithmetic.default.Short 4 (r * 100) :=
    hrShort.mono (by decide) (mul_nonneg hr0 (by norm_num)) (by norm_num; linarith)
  refine ⟨r, hr, hr0, ?_⟩
  simp only [ratioPercent, Decimal.le_finite, not_le.mpr hc, decide_false, ofDecimal, ok_bind,
    Bool.false_eq_true, if_false, Arithmetic.div, hc.ne', hr, Arithmetic.mul,
    finish_digits hdigits hpShort]

/-- A ratio of amounts is rounded to or past a bound of five decimals only from
the bound on: the amounts are too short to come closer. -/
theorem bound_le_rounded {m n : ℕ} {k : ℤ} {r : ℚ} (hm : 0 < m) (hm' : m < 10 ^ 17)
    (hk : 0 < k) (hk' : k ≤ 10 ^ 5) (hr : Arithmetic.default.finish (n / m) = .ok (.finite r)) :
    (k / 10 ^ 5 : ℚ) ≤ r ↔ (k / 10 ^ 5 : ℚ) ≤ n / m := by
  have hmq : (0 : ℚ) < m := by exact_mod_cast hm
  constructor
  · intro hle
    by_contra hlt
    rw [not_le] at hlt
    -- the gap is at least one unit of the product of the denominators
    have hgap : (1 : ℚ) / 10 ^ 22 < k / 10 ^ 5 - n / m := by
      have hcross : (n : ℤ) * 10 ^ 5 + 1 ≤ k * m := by
        rw [div_lt_div_iff₀ hmq (by positivity)] at hlt
        have : (n : ℤ) * 10 ^ 5 < k * m := by exact_mod_cast hlt
        omega
      have hcross' : (n : ℚ) * 10 ^ 5 + 1 ≤ k * m := by exact_mod_cast hcross
      have hm17 : (m : ℚ) < 10 ^ 17 := by exact_mod_cast hm'
      have hdiff : (k : ℚ) / 10 ^ 5 - n / m = (k * m - n * 10 ^ 5) / (10 ^ 5 * m) := by
        field_simp
      rw [hdiff, lt_div_iff₀ (by positivity)]
      nlinarith
    have hnear : |r - n / m| ≤ (10 : ℚ) ^ (-27 : ℤ) / 2 := by
      refine Arithmetic.abs_finish_sub_le hr ?_
      have hone : (n / m : ℚ) < ((10 : ℕ) : ℚ) ^ (1 : ℤ) := by
        have hk1 : (k : ℚ) ≤ 10 ^ 5 := by exact_mod_cast hk'
        have : (k / 10 ^ 5 : ℚ) ≤ 1 := by rw [div_le_one (by positivity)]; exact hk1
        norm_num
        linarith
      have hlog : Int.log 10 |(n / m : ℚ)| ≤ 0 := by
        rw [abs_of_nonneg (by positivity)]
        rcases Nat.eq_zero_or_pos n with hn | hn
        · simp [hn]
        · have hpos : (0 : ℚ) < n / m := div_pos (by exact_mod_cast hn) hmq
          have := (Int.lt_zpow_iff_log_lt (by norm_num) hpos).mp hone
          omega
      unfold Arithmetic.lastPlace
      omega
    have hupper := (abs_le.mp hnear).2
    rw [zpow_neg] at hupper
    norm_num at hupper hgap
    linarith
  · intro hle
    have hdigits : Digits (k / 10 ^ 5) :=
      digits_of_place 5 (by rw [abs_of_pos hk]; omega) (by decide)
    have hkq : (0 : ℚ) < k := by exact_mod_cast hk
    have hshort : Arithmetic.default.Short 4 (k / 10 ^ 5 : ℚ) := by
      simp only [Arithmetic.Short, Arithmetic.default]
      rw [abs_of_pos (by positivity)]
      have hk1 : (k : ℚ) ≤ 10 ^ 5 := by exact_mod_cast hk'
      refine le_trans ((div_le_one (by positivity)).mpr hk1) ?_
      norm_num
    exact Arithmetic.finish_mono (by decide) (by positivity) hle (finish_digits hdigits hshort) hr

theorem ratio_fits_iff {q r : ℚ} (hq : 0 ≤ q)
    (hr : Arithmetic.default.finish q = .ok (.finite r)) :
    Arithmetic.default.fits (halfUp (r * 100 / (1 / 100))) = true ↔
      q * 100 < 10 ^ 26 - 1 / 200 := by
  have htie : Arithmetic.default.finish (10 ^ 24 - 1 / 20000) = .ok (.finite (10 ^ 24)) := by
    decide +kernel
  have hscaled : r * 100 / (1 / 100) = r * 10 ^ 4 := by ring
  rw [hscaled]
  constructor
  · intro hfits
    by_contra hlarge
    have hle : (10 : ℚ) ^ 24 ≤ r :=
      Arithmetic.finish_mono (by decide) (by norm_num) (by linarith) htie hr
    have hround : (10 ^ 28 : ℤ) ≤ halfUp (r * 10 ^ 4) := le_halfUp (by push_cast; linarith)
    simp only [Arithmetic.fits, Arithmetic.default, decide_eq_true_eq] at hfits
    omega
  · intro hsmall
    have hle : r ≤ 10 ^ 24 - 1 / 10 ^ 4 := by
      rcases le_or_gt q (10 ^ 24 - 1 / 10 ^ 4) with hbelow | habove
      · have hlast : Arithmetic.default.finish (10 ^ 24 - 1 / 10 ^ 4) =
            .ok (.finite (10 ^ 24 - 1 / 10 ^ 4)) := by decide +kernel
        exact Arithmetic.finish_mono (by decide) hq hbelow hr hlast
      · -- above the last number of 28 digits and below the tie
        have hpos : 0 < q := lt_trans (by norm_num) habove
        have hlog : Int.log 10 |q| = 23 := by
          rw [abs_of_pos hpos]
          refine le_antisymm ?_ ?_
          · have hlt := (Int.lt_zpow_iff_log_lt (b := 10) (x := 24) (by norm_num) hpos).mp
              (by norm_num; linarith)
            omega
          · exact (Int.zpow_le_iff_le_log (b := 10) (x := 23) (by norm_num) hpos).mp
              (by norm_num; linarith)
        have hplace : Arithmetic.lastPlace 28 999999 q = -4 := by
          unfold Arithmetic.lastPlace
          omega
        have hfloor : ⌊q * 10 ^ 4⌋ = 10 ^ 28 - 1 := by
          rw [Int.floor_eq_iff]
          push_cast
          constructor <;> linarith
        have hdown : halfEven (q * 10 ^ 4) = 10 ^ 28 - 1 := by
          rw [halfEven, hfloor, if_pos]
          push_cast
          linarith
        have hvalue := Arithmetic.finish_rounded_eq hr
        rw [hplace] at hvalue
        rw [show (10 : ℚ) ^ (-4 : ℤ) = 1 / 10 ^ 4 by norm_num,
          show q / (1 / 10 ^ 4) = q * 10 ^ 4 by ring, hdown] at hvalue
        rw [hvalue]
        norm_num
    have hround : halfUp (r * 10 ^ 4) ≤ 10 ^ 28 - 1 := halfUp_le (by push_cast; linarith)
    have hr0 : 0 ≤ r := by
      have hzero : Arithmetic.default.finish 0 = .ok (.finite 0) := by decide +kernel
      exact Arithmetic.finish_mono (by decide) le_rfl hq hzero hr
    have hround0 : 0 ≤ halfUp (r * 10 ^ 4) := le_halfUp (by push_cast; linarith)
    simp only [Arithmetic.fits, Arithmetic.default, decide_eq_true_eq]
    omega

-- ------------------------------------------------------------
-- The cap
-- ------------------------------------------------------------

def roundedCut (threshold : ℚ) : ℚ := (⌈threshold * 100⌉ - 1 / 2) / 100

/-- No rounding carries a percentage over a threshold, upwards or downwards. -/
structure ClearOfRounding (percent threshold : ℚ) : Prop where
  up : ¬ (roundedCut threshold ≤ percent ∧ percent < threshold)
  down : ¬ (threshold ≤ percent ∧ percent < roundedCut threshold)

theorem clearOfRounding_iff {percent threshold : ℚ} :
    ClearOfRounding percent threshold ↔ (roundedCut threshold ≤ percent ↔ threshold ≤ percent) := by
  constructor
  · rintro ⟨up, down⟩
    exact ⟨fun h => not_lt.mp fun hlt => up ⟨h, hlt⟩, fun h => not_lt.mp fun hlt => down ⟨h, hlt⟩⟩
  · intro h
    exact ⟨fun ⟨hcut, hlt⟩ => not_le.mpr hlt (h.mp hcut),
      fun ⟨hle, hlt⟩ => not_le.mpr hlt (h.mpr hle)⟩

theorem evaluateSpendRange_stop_iff {A : Arithmetic} {currentValue cpa : Decimal} {exponent : Int}
    {stopFrom warningPercent stopPercent : Decimal} {code : RuleCode} {p e w : ℚ}
    (hcurrent : currentValue = .finite p)
    (heffective : shareOf A stopFrom stopPercent = .ok (.finite e))
    (hwarning : shareOf A (.finite e) warningPercent = .ok (.finite w))
    (hcpa : Returns (formatMoneyValue A cpa exponent))
    (hstop : Returns (roundPercent A (.finite e))) :
    (∃ hit, evaluateSpendRange A true currentValue cpa exponent stopFrom warningPercent stopPercent
      code = .ok (some hit) ∧ hit.stage = some .stop) ↔
    A.fits (halfUp (p / (1 / 100))) = true ∧ e ≤ halfUp (p / (1 / 100)) * (1 / 100) := by
  obtain ⟨printed, hprinted⟩ := hcpa
  obtain ⟨rounded, hrounded⟩ := hstop
  subst hcurrent
  simp only [evaluateSpendRange, if_true, heffective, hwarning, hprinted, hrounded, ok_bind]
  by_cases hfits : A.fits (halfUp (p / (1 / 100))) = true
  · have hround : roundPercent A (.finite p) =
        .ok (.finite (halfUp (p / (1 / 100)) * (1 / 100))) := by
      simp only [roundPercent, Arithmetic.quantize, hfits, if_true, ofDecimal]
    simp only [hround, ok_bind, Decimal.le_finite, ofDecimal, hfits, true_and]
    by_cases hle : e ≤ halfUp (p / (1 / 100)) * (1 / 100)
    · simp only [hle, decide_true, if_true, iff_true]
      exact ⟨_, rfl, rfl⟩
    · simp only [hle, decide_false, Bool.false_eq_true, if_false, iff_false, not_exists, not_and]
      intro hit hhit hstage
      split_ifs at hhit
      · simp only [Decimal.lt_finite, ok_bind] at hhit
        split_ifs at hhit
        · obtain ⟨threshold, -, hhit⟩ := bind_eq_ok.mp hhit
          obtain rfl := Option.some.inj (Except.ok.inj hhit)
          cases hstage
        · cases hhit
      · cases hhit
  · have hround : roundPercent A (.finite p) = .error (.decimal .invalidOperation) := by
      simp only [roundPercent, Arithmetic.quantize, hfits, Bool.false_eq_true, if_false, ofDecimal]
    rw [hround]
    constructor
    · rintro ⟨hit, hhit, -⟩
      cases hhit
    · rintro ⟨h, -⟩
      exact absurd h hfits

/-- Half up to a hundredth reaches the threshold from the cut on. -/
theorem threshold_le_rounded_iff {p e : ℚ} (hp : 0 ≤ p) :
    e ≤ halfUp (p / (1 / 100)) * (1 / 100) ↔ roundedCut e ≤ p := by
  have hceil : e ≤ halfUp (p / (1 / 100)) * (1 / 100) ↔ ⌈e * 100⌉ ≤ halfUp (p / (1 / 100)) := by
    rw [Int.ceil_le]
    constructor <;> intro h <;> linarith
  rw [hceil, le_halfUp_iff (by positivity), roundedCut]
  constructor <;> intro h <;> linarith

theorem Accepted.exponent_le {A : Arithmetic} {ctx : RuleContext} {stopPercent warningPercent : ℚ}
    (hctx : Accepted A ctx stopPercent warningPercent) : ctx.currencyExponent.toNat ≤ 3 := by
  have h := hctx.quantum_ok
  simp only [currencyQuantum, requireCurrencyExponent, bind_eq_ok] at h
  obtain ⟨⟨code, confirmed⟩, ⟨⟨code', expected⟩, hsupported, hsame⟩, -⟩ := h
  split_ifs at hsame with hne
  rw [not_not.mp hne, Int.toNat_natCast]
  exact currencyExponent_le hsupported

theorem Accepted.cpa_steps {A : Arithmetic} {ctx : RuleContext} {stopPercent warningPercent c : ℚ}
    (hctx : Accepted A ctx stopPercent warningPercent) (hstored : ctx.Stored)
    (hc : ctx.cpaAmount = .finite c) :
    ∃ m : ℕ, 0 < m ∧ m < 10 ^ 17 ∧ c = m * quantum ctx.currencyExponent.toNat ∧
      A.fits m = true := by
  obtain ⟨m, hm, hcpa, hfits⟩ := hctx.cpa
  lift m to ℕ using hm.le
  rw [hc] at hcpa
  obtain rfl := Decimal.finite.inj hcpa
  refine ⟨m, by omega, ?_, rfl, hfits⟩
  have hlt := hstored.cpa _ hc
  have hstep : (1 : ℚ) / 10 ^ 3 ≤ quantum ctx.currencyExponent.toNat := by
    have hexponent := hctx.exponent_le
    unfold quantum
    gcongr
    norm_num
  have hcast : (m : ℚ) < 10 ^ 17 := by
    push_cast at hlt
    nlinarith [(Nat.cast_nonneg m : (0 : ℚ) ≤ m)]
  exact_mod_cast hcast

theorem SpendRule.hit_eq {ctx : RuleContext} {row : ScannedAdRow} {stopPercent warningPercent : ℚ}
    (rule : SpendRule) (hctx : Accepted .default ctx stopPercent warningPercent)
    (happlies : rule.Applies row ctx) {p : Decimal}
    (hp : ratioPercent .default row.spend ctx.cpaAmount = .ok p) :
    ∃ code, rule.hit .default row ctx = evaluateSpendRange .default true p ctx.cpaAmount
      ctx.currencyExponent (rule.stopFrom ctx)
        (.finite warningPercent) ctx.stopPercentOfBase code := by
  obtain ⟨-, -, -, -, hno, hwith⟩ := hctx.enabled
  cases rule with
  | noDep =>
    refine ⟨.spendNoDepRange, ?_⟩
    have hguard : shouldApplyRegistrationSpendGuardrail row ctx = .ok true := happlies
    simp only [SpendRule.hit, registrationSpendHit, hguard, ok_bind, if_true, hp, hno,
      hctx.noDep_eq,
      SpendRule.stopFrom]
  | withDep =>
    refine ⟨.spendWithDepRange, ?_⟩
    simp only [SpendRule.hit, evaluateDepositStage, ok_bind, hp, hwith, hctx.withDep_eq,
      SpendRule.stopFrom]

/-- What the code computes for a spend rule: the cap is at the cut. -/
theorem SpendRule.stops_iff {ctx : RuleContext} {row : ScannedAdRow}
    {stopPercent warningPercent : ℚ}
    (rule : SpendRule) (hctx : Accepted .default ctx stopPercent warningPercent)
    (hstored : ctx.Stored) (happlies : rule.Applies row ctx) {s c f p : ℚ} {n : ℕ}
    (hs : row.spend = .finite s) (hn : s = n * quantum ctx.currencyExponent.toNat)
    (hfits : Arithmetic.default.fits n = true)
    (hc : ctx.cpaAmount = .finite c) (hf : rule.stopFrom ctx = .finite f)
    (hp : ctx.stopPercentOfBase = .finite p) :
    rule.Stops .default row ctx ↔
      s / c * 100 < 10 ^ 26 - 1 / 200 ∧ roundedCut (f * p / 100) ≤ s / c * 100 := by
  have hquantum := quantum_pos ctx.currencyExponent.toNat
  obtain ⟨m, hm, hm17, rfl, hmfits⟩ := hctx.cpa_steps hstored hc
  have hmq : (0 : ℚ) < m := by exact_mod_cast hm
  have hratio : s / (m * quantum ctx.currencyExponent.toNat) = n / m := by
    rw [hn, mul_div_mul_right _ _ hquantum.ne']
  obtain ⟨a, ha, ha', hfa⟩ := hstored.stopFrom rule
  obtain ⟨b, hb, hb', hpb⟩ := hstored.stopPercent
  rw [hf] at hfa
  rw [hp] at hpb
  obtain rfl := Decimal.finite.inj hfa
  obtain rfl := Decimal.finite.inj hpb
  have hthreshold : (a / 100 * (b / 100) / 100 : ℚ) = a * b / 10 ^ 6 := by ring
  have hab : (0 : ℚ) < a * b := by exact_mod_cast Nat.mul_pos ha hb
  have hab' : (a * b : ℚ) ≤ 10 ^ 8 := by exact_mod_cast (by nlinarith : a * b ≤ 10 ^ 8)
  have hceil : 0 < ⌈(a * b / 10 ^ 6 : ℚ) * 100⌉ ∧ ⌈(a * b / 10 ^ 6 : ℚ) * 100⌉ ≤ 10 ^ 4 := by
    constructor
    · exact Int.ceil_pos.mpr (by positivity)
    · rw [Int.ceil_le]
      push_cast
      linarith
  -- the numbers of the comparison
  obtain ⟨r, hr, hr0, hpercent⟩ := ratioPercent_rounded (by rw [hn]; positivity)
    (mul_pos hmq hquantum) (hratio ▸ ratio_short hm hfits)
  rw [← hs, ← hc] at hpercent
  rw [hratio] at hr ⊢
  have hprints : Prints .default (1 / 100) (a * b / 10 ^ 6) := by
    have hle : halfUp ((a * b / 10 ^ 6 : ℚ) / (1 / 100)) ≤ 10 ^ 4 :=
      halfUp_le (by push_cast; linarith)
    have hge : 0 ≤ halfUp ((a * b / 10 ^ 6 : ℚ) / (1 / 100)) := le_halfUp (by positivity)
    simp only [Prints, Arithmetic.fits, Arithmetic.default, decide_eq_true_eq]
    omega
  obtain ⟨w, hw, -⟩ := shareOf_eq Arithmetic.default_regular (by positivity) hprints
    ⟨hctx.warning_range.1.le, hctx.warning_range.2⟩
  have hcpa : Returns (formatMoneyValue .default ctx.cpaAmount ctx.currencyExponent) := by
    rw [hc]
    exact formatMoneyValue_returns (prints_grid hquantum hmfits)
  have hstop : Returns (roundPercent .default (.finite (a * b / 10 ^ 6))) := by
    simp only [roundPercent, Arithmetic.quantize,
      show Arithmetic.default.fits _ = true from hprints,
      if_true, ofDecimal]
    exact returns_ok _
  obtain ⟨code, hhit⟩ := rule.hit_eq hctx happlies hpercent
  unfold SpendRule.Stops
  rw [hhit, hf, hp, evaluateSpendRange_stop_iff rfl (shareOf_stored ha' hb') hw hcpa hstop,
    ratio_fits_iff (by positivity) hr, threshold_le_rounded_iff (by positivity), hthreshold]
  refine and_congr_right fun _ => ?_
  have hbound := bound_le_rounded (k := 10 * ⌈(a * b / 10 ^ 6 : ℚ) * 100⌉ - 5) hm hm17 (by omega)
    (by omega) hr
  rw [show (((10 * ⌈(a * b / 10 ^ 6 : ℚ) * 100⌉ - 5 : ℤ) : ℚ) / 10 ^ 5) =
    roundedCut (a * b / 10 ^ 6) / 100 by unfold roundedCut; push_cast; ring] at hbound
  rw [← div_le_iff₀ (by norm_num), hbound, div_le_iff₀ (by norm_num)]

theorem spend_steps {ctx : RuleContext} {stopPercent warningPercent s : ℚ}
    (hctx : Accepted .default ctx stopPercent warningPercent)
    (hspend : Returns (requireExactCurrencyAmount .default (.finite s) (some ctx.currency)
      ctx.currencyExponent "spend" true)) :
    ∃ n : ℕ, s = n * quantum ctx.currencyExponent.toNat ∧ Arithmetic.default.fits n = true := by
  obtain ⟨d, hd⟩ := hspend
  obtain ⟨step, hstep, -, hs0, -, n, hn, hfits⟩ := requireExact_ok hd
  rw [hctx.quantum_ok] at hstep
  obtain rfl := Except.ok.inj hstep
  have hquantum := quantum_pos ctx.currencyExponent.toNat
  have hn0 : 0 ≤ n := by
    rw [hn] at hs0
    exact_mod_cast nonneg_of_mul_nonneg_left hs0 hquantum
  lift n to ℕ using hn0
  exact ⟨n, by simpa using hn, hfits⟩

/-- On the offers and amounts the program can hold, a spend rule stops exactly
the spends at or over the cap if and only if the percentage is not between the
threshold and the cut that rounding puts in its place, and can be written. -/
theorem spend_cap_exact_iff (rule : SpendRule) (offer : OfferRules) (evidence : RowEvidence)
    (ctx : RuleContext) (row : ScannedAdRow) (s c f p : ℚ)
    (hbuild : buildRuleContext .default offer evidence = .ok ctx) (hstored : offer.Stored)
    (hspend : Returns (requireExactCurrencyAmount .default row.spend (some ctx.currency)
      ctx.currencyExponent "spend" true))
    (happlies : rule.Applies row ctx) (hs : row.spend = .finite s) (hc : ctx.cpaAmount = .finite c)
    (hf : rule.stopFrom ctx = .finite f) (hp : ctx.stopPercentOfBase = .finite p) :
    (rule.Stops .default row ctx ↔ c * f * p ≤ s * 10000) ↔
      ClearOfRounding (s / c * 100) (f * p / 100) ∧ s / c * 100 < 10 ^ 26 - 1 / 200 := by
  obtain ⟨⟨stopPercent, warningPercent, hctx⟩, -⟩ := buildRuleContext_accepted hbuild
  have hstored' := buildRuleContext_stored hbuild hstored
  rw [hs] at hspend
  obtain ⟨n, hn, hfits⟩ := spend_steps hctx hspend
  have hpos : 0 < c := by
    obtain ⟨m, hm, -, rfl, -⟩ := hctx.cpa_steps hstored' hc
    exact mul_pos (by exact_mod_cast hm) (quantum_pos _)
  have hexact : c * f * p ≤ s * 10000 ↔ f * p / 100 ≤ s / c * 100 := by
    rw [div_mul_eq_mul_div, le_div_iff₀ hpos]
    constructor <;> intro h <;> linarith
  rw [rule.stops_iff hctx hstored' happlies hs hn hfits hc hf hp, hexact, clearOfRounding_iff]
  by_cases hrange : s / c * 100 < 10 ^ 26 - 1 / 200
  · simp only [hrange, true_and, and_true]
  · -- the rounding raises, far past every threshold
    have hthreshold : f * p / 100 ≤ s / c * 100 := by
      obtain ⟨a, -, ha, hfa⟩ := hstored'.stopFrom rule
      obtain ⟨b, -, hb, hpb⟩ := hstored'.stopPercent
      rw [hf] at hfa
      rw [hp] at hpb
      obtain rfl := Decimal.finite.inj hfa
      obtain rfl := Decimal.finite.inj hpb
      have hab : (a * b : ℚ) ≤ 10 ^ 8 := by exact_mod_cast (by nlinarith : a * b ≤ 10 ^ 8)
      linarith
    simp only [hrange, false_and, and_false, hthreshold, iff_true]

def registeredRow : ScannedAdRow :=
  { spend := .finite 10, clicks := 10, leads := 2, registrations := 1 }

theorem dollarOffer_stored : dollarOffer.Stored := by
  refine ⟨fun q hq => ?_, fun d hd => ?_, fun d hd => ?_, fun d hd => ?_⟩
  · obtain rfl := Decimal.finite.inj (Option.some.inj hq)
    norm_num
  · obtain rfl := Option.some.inj hd
    exact ⟨8000, by decide, by decide, by norm_num⟩
  · cases hd
  · cases hd

/-- At the cap itself, 40 percent of a CPA of 25 dollars, the rule is exact. -/
theorem spend_cap_exact_dollar :
    SpendRule.noDep.Stops .default registeredRow dollarContext ↔
      (25 : ℚ) * 50 * 80 ≤ 10 * 10000 := by
  have hbuild : buildRuleContext .default dollarOffer dollarEvidence = .ok dollarContext := by
    decide +kernel
  have hspend : requireExactCurrencyAmount .default registeredRow.spend
      (some dollarContext.currency)
      dollarContext.currencyExponent "spend" true = .ok (.finite 10) := by decide +kernel
  have hcut : roundedCut (50 * 80 / 100) = 7999 / 200 := by
    rw [roundedCut, show (50 * 80 / 100 : ℚ) * 100 = ((4000 : ℤ) : ℚ) by norm_num, Int.ceil_intCast]
    norm_num
  refine (spend_cap_exact_iff .noDep dollarOffer dollarEvidence dollarContext registeredRow
    10 25 50 80
    hbuild dollarOffer_stored ⟨_, hspend⟩ rfl rfl rfl rfl rfl).mpr ⟨⟨?_, ?_⟩, by norm_num⟩
  · rintro ⟨-, hlt⟩
    norm_num at hlt
  · rintro ⟨-, hlt⟩
    rw [hcut] at hlt
    norm_num at hlt

def halfOffer : OfferRules :=
  { dollarOffer with cpaThreshold := some (.finite 200), frequencyThreshold := none
                     stopPercentOfRule := some (.finite 100) }

def halfContext : RuleContext :=
  { currency := "USD", currencyExponent := 2, cpaAmount := .finite 200
    warningPercentOfStop := .finite 80, stopPercentOfBase := .finite 100
    frequencyAnomalyEnabled := false, reach := some 500
    cpc := ⟨.finite 4, .finite 4, .finite (16 / 5)⟩
    cpl := ⟨.finite 20, .finite 20, .finite 16⟩
    cpr := ⟨.finite 40, .finite 40, .finite 32⟩ }

def underCapRow : ScannedAdRow := { registeredRow with spend := .finite (9999 / 100) }

/-- 99.99 of 200 dollars are 49.995 percent, which is rounded to 50 percent and stops. -/
theorem spend_cap_rounded_up :
    ¬ ∀ (rule : SpendRule) (offer : OfferRules) (evidence : RowEvidence) (ctx : RuleContext)
      (row : ScannedAdRow) (s c f p : ℚ), buildRuleContext .default offer evidence = .ok ctx →
      offer.Stored → Returns (requireExactCurrencyAmount .default row.spend (some ctx.currency)
        ctx.currencyExponent "spend" true) → rule.Applies row ctx → row.spend = .finite s →
      ctx.cpaAmount = .finite c → rule.stopFrom ctx = .finite f →
        ctx.stopPercentOfBase = .finite p →
      (rule.Stops .default row ctx ↔ c * f * p ≤ s * 10000) := by
  intro h
  have hbuild : buildRuleContext .default halfOffer dollarEvidence = .ok halfContext := by
    decide +kernel
  have hspend : requireExactCurrencyAmount .default underCapRow.spend (some halfContext.currency)
      halfContext.currencyExponent "spend" true = .ok (.finite (9999 / 100)) := by decide +kernel
  have hstored : halfOffer.Stored := by
    refine ⟨fun q hq => ?_, fun d hd => ?_, dollarOffer_stored.noDep, dollarOffer_stored.withDep⟩
    · obtain rfl := Decimal.finite.inj (Option.some.inj hq)
      norm_num
    · obtain rfl := Option.some.inj hd
      exact ⟨10000, by decide, by decide, by norm_num⟩
  have hhit : SpendRule.noDep.hit .default underCapRow halfContext =
      .ok (some (ruleHit .spendNoDepRange (some .stop) (.finite 50) (.finite 50))) := by
        decide +kernel
  have hstops := (h .noDep halfOffer dollarEvidence halfContext underCapRow (9999 / 100) 200 50 100
    hbuild hstored ⟨_, hspend⟩ rfl rfl rfl rfl rfl).mp ⟨_, hhit, rfl⟩
  norm_num at hstops

end StopBot.Rules
