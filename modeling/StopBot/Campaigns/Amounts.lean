import StopBot.Lib.PlainDecimal
import StopBot.Rules.Context

/-!
# Amounts of a campaign

`core/campaign_builder/money.py`: a plain decimal text in major units becomes
an integer of minor units, and back. The product with the power of ten is
rounded to the precision of the decimal context before it is tested for being
an integer, so the conversion is exact on the amounts whose product has no
more digits than that, and on the fractions that stay fractions.
-/

namespace StopBot.Campaigns

open Lib

inductive AmountError
  | invalidMajorAmount (message : String)
  | unsupportedCampaignCurrency (code : String)
  | decimal (error : DecimalError)
  deriving DecidableEq, Repr

def campaignCurrencyExponent (currency : String) : Except AmountError Nat :=
  let code := PyText.upper (PyText.strip currency)
  match Rules.currencyExponent (some code) with
  | .ok (_, exponent) => .ok exponent
  | .error _ => .error (.unsupportedCampaignCurrency code)

def inContext {α : Type} : Except DecimalError α → Except AmountError α
  | .ok a => .ok a
  | .error error => .error (.decimal error)

@[simp] theorem inContext_eq_ok {α : Type} {x : Except DecimalError α} {a : α} :
    inContext x = .ok a ↔ x = .ok a := by
  cases x <;> simp [inContext]

/-- `scaled.to_integral_value()` and its comparison with `scaled`. -/
def integralUnits (exponent : Nat) (currency : String) : Decimal → Except AmountError Int
  | .finite scaled =>
    if scaled = halfEven scaled then .ok (halfEven scaled)
    else .error (.invalidMajorAmount ("amount has more than " ++ toString exponent ++
      " significant decimal places for " ++ currency))
  | _ => .error (.decimal .invalidOperation)

def nonnegativeMajorAmountToMinorUnits (A : Arithmetic) (raw currency : String) :
    Except AmountError Int := do
  let text := (PyText.strip raw).toList
  if PlainDecimal.isPlain text then
    let amount := PlainDecimal.value text
    if amount < 0 then .error (.invalidMajorAmount "amount must be non-negative")
    else
      let exponent ← campaignCurrencyExponent currency
      let scaled ← inContext (A.mul (.finite amount) (.finite (10 ^ exponent)))
      integralUnits exponent currency scaled
  else .error (.invalidMajorAmount "amount must be a positive decimal string")

def majorAmountToMinorUnits (A : Arithmetic) (raw currency : String) : Except AmountError Int := do
  let minorUnits ← nonnegativeMajorAmountToMinorUnits A raw currency
  if minorUnits ≤ 0 then .error (.invalidMajorAmount "amount must be greater than zero")
  else .ok minorUnits

def minorUnitsToMajorAmount (A : Arithmetic) (value : Int) (currency : String) :
    Except AmountError String := do
  let exponent ← campaignCurrencyExponent currency
  match ← inContext (A.finish (value / 10 ^ exponent)) with
  | .finite amount => .ok (PlainDecimal.fixedPoint exponent amount)
  | _ => .error (.decimal .invalidOperation)

def normalizeMajorAmount (A : Arithmetic) (raw currency : String) : Except AmountError String := do
  let minorUnits ← majorAmountToMinorUnits A raw currency
  minorUnitsToMajorAmount A minorUnits currency

-- ------------------------------------------------------------
-- What the texts denote
-- ------------------------------------------------------------

/-- The stripped text is an amount, and writes this number. -/
def Denotes (raw : String) (q : ℚ) : Prop :=
  PlainDecimal.isPlain (PyText.strip raw).toList = true ∧
    PlainDecimal.value (PyText.strip raw).toList = q

/-- The exact conversion: the number of minor units, and a refusal where there is none. -/
structure ConvertsExactly (raw currency : String) (exponent : Nat) : Prop where
  returns : ∀ n : ℤ, nonnegativeMajorAmountToMinorUnits .default raw currency = .ok n ↔
    Denotes raw (n / 10 ^ exponent)
  refuses : (∀ n : ℤ, ¬ Denotes raw (n / 10 ^ exponent)) →
    ∃ message, nonnegativeMajorAmountToMinorUnits .default raw currency =
      .error (.invalidMajorAmount message)

/-- The rounding of a product leaves an integer as it is, and no fraction comes
as close to an integer as half a unit of its last place. -/
structure Kept (x : ℚ) : Prop where
  integer : ∀ n : ℤ, x = n → Arithmetic.Representable 28 999999 x ∧ Int.log 10 |x| ≤ 999999
  fraction : (∀ n : ℤ, x ≠ n) → ∀ n : ℤ, 10 ^ Arithmetic.lastPlace 28 999999 x / 2 < |x - n|

-- ------------------------------------------------------------
-- The rounded product
-- ------------------------------------------------------------

section
variable {x r : ℚ}

theorem Kept.finish_integer (h : Kept x) {n : ℤ} (hx : x = n) :
    Arithmetic.default.finish x = .ok (.finite x) := by
  obtain ⟨hdigits, hlog⟩ := h.integer n hx
  exact hdigits.finish_of_log_le hlog

theorem kept_of_finish_integer {n : ℤ} (hx : x = n)
    (h : Arithmetic.default.finish x = .ok (.finite n)) : Kept x := by
  subst hx
  refine ⟨fun m hm => ⟨Arithmetic.representable_of_finish (by decide) h,
    Arithmetic.finish_log_le h⟩,
    fun hne => absurd rfl (hne n)⟩

theorem finish_integer_of_lastPlace (hplace : 0 ≤ Arithmetic.lastPlace 28 999999 x)
    (h : Arithmetic.default.finish x = .ok (.finite r)) : ∃ n : ℤ, r = n := by
  obtain ⟨j, hj⟩ := Int.eq_ofNat_of_zero_le hplace
  refine ⟨halfEven (x / 10 ^ Arithmetic.lastPlace 28 999999 x) * 10 ^ j, ?_⟩
  rw [Arithmetic.finish_rounded_eq h, hj]
  push_cast
  rfl

theorem finish_eq_of_close {n : ℤ} (hplace : Arithmetic.lastPlace 28 999999 x < 0)
    (h : Arithmetic.default.finish x = .ok (.finite r))
    (hclose : |x - n| ≤ 10 ^ Arithmetic.lastPlace 28 999999 x / 2) : r = n := by
  obtain ⟨j, hj⟩ : ∃ j : ℕ, Arithmetic.lastPlace 28 999999 x = -(j + 1 : ℕ) :=
    ⟨(-Arithmetic.lastPlace 28 999999 x).toNat - 1, by omega⟩
  rw [hj, zpow_neg, zpow_natCast] at hclose
  have hpos : (0 : ℚ) < 10 ^ (j + 1) := by positivity
  have heven : (n * 10 ^ (j + 1)) % 2 = 0 := by
    rw [pow_succ, Int.mul_emod, Int.mul_emod (10 ^ j)]
    simp
  have hround : halfEven (x * 10 ^ (j + 1)) = n * 10 ^ (j + 1) := by
    refine halfEven_eq_of_even heven ?_
    push_cast
    rw [← sub_mul, abs_mul, abs_of_pos hpos]
    calc |x - n| * 10 ^ (j + 1) ≤ (10 ^ (j + 1))⁻¹ / 2 * 10 ^ (j + 1) := by gcongr
      _ = 1 / 2 := by field_simp
  rw [Arithmetic.finish_rounded_eq h, hj, zpow_neg, zpow_natCast, div_inv_eq_mul, hround]
  push_cast
  rw [mul_assoc, mul_inv_cancel₀ hpos.ne', mul_one]

theorem kept_of_finish_fraction (hx : ∀ n : ℤ, x ≠ n) (hr : ∀ n : ℤ, r ≠ n)
    (h : Arithmetic.default.finish x = .ok (.finite r)) : Kept x := by
  refine ⟨fun n hn => absurd hn (hx n), fun _ n => ?_⟩
  by_contra hclose
  rcases lt_or_ge (Arithmetic.lastPlace 28 999999 x) 0 with hplace | hplace
  · exact hr n (finish_eq_of_close hplace h (not_lt.mp hclose))
  · obtain ⟨m, hm⟩ := finish_integer_of_lastPlace hplace h
    exact hr m hm

theorem Kept.finish_fraction (h : Kept x) (hx : ∀ n : ℤ, x ≠ n) :
    ∃ r, Arithmetic.default.finish x = .ok (.finite r) ∧ ∀ n : ℤ, r ≠ n := by
  have hfar := h.fraction hx
  have hplace : Arithmetic.lastPlace 28 999999 x < 0 := by
    by_contra hge
    -- the nearest multiple of the last place would be an integer
    obtain ⟨j, hj⟩ := Int.eq_ofNat_of_zero_le (not_lt.mp hge)
    have hpos : (0 : ℚ) < 10 ^ j := by positivity
    have hnear := hfar (halfEven (x / 10 ^ j) * 10 ^ j)
    rw [hj, zpow_natCast] at hnear
    have hround := abs_halfEven_sub_le (x / 10 ^ j)
    have hle : |x - ((halfEven (x / 10 ^ j) * 10 ^ j : ℤ) : ℚ)| ≤ 10 ^ j / 2 := by
      push_cast
      calc |x - halfEven (x / 10 ^ j) * 10 ^ j|
          = |(halfEven (x / 10 ^ j) : ℚ) - x / 10 ^ j| * 10 ^ j := by
            rw [← abs_of_pos hpos, ← abs_mul, abs_of_pos hpos, sub_mul, div_mul_cancel₀ _ hpos.ne',
              abs_sub_comm]
        _ ≤ 1 / 2 * 10 ^ j := by gcongr
        _ = 10 ^ j / 2 := by ring
    exact absurd hnear (not_lt.mpr hle)
  have hshort : Arithmetic.default.Short 0 x := by
    have hlog : Int.log 10 |x| < 28 := by
      unfold Arithmetic.lastPlace at hplace
      omega
    have hlt : |x| < ((10 : ℕ) : ℚ) ^ (28 : ℤ) := by
      rcases (abs_nonneg x).eq_or_lt with hzero | hpos
      · rw [← hzero]
        positivity
      · exact (Int.lt_zpow_iff_log_lt (by norm_num) hpos).mpr hlog
    simp only [Arithmetic.Short, Arithmetic.default, Nat.add_zero]
    exact_mod_cast hlt.le
  obtain ⟨r, hr, -, -⟩ := Arithmetic.finish_short Arithmetic.default_regular (by decide) hshort
  refine ⟨r, hr, fun n hn => ?_⟩
  have hclose := Arithmetic.abs_finish_sub_le hr le_rfl
  rw [hn, abs_sub_comm] at hclose
  exact absurd (hfar n) (not_lt.mpr hclose)

end

-- ------------------------------------------------------------
-- Conversions
-- ------------------------------------------------------------

section
variable {raw currency : String} {exponent : Nat} {q : ℚ}

theorem Denotes.unique {q' : ℚ} (h : Denotes raw q) (h' : Denotes raw q') : q = q' :=
  h.2.symm.trans h'.2

theorem Denotes.convert_eq (h : Denotes raw q)
    (hexponent : campaignCurrencyExponent currency = .ok exponent) :
    nonnegativeMajorAmountToMinorUnits .default raw currency =
      (inContext (Arithmetic.default.finish (q * 10 ^ exponent)) >>= integralUnits exponent
        currency) := by
  obtain ⟨hplain, rfl⟩ := h
  simp only [nonnegativeMajorAmountToMinorUnits, hplain, if_true,
    not_lt.mpr (PlainDecimal.value_nonneg _), if_false, hexponent, ok_bind, Arithmetic.mul]

theorem convert_of_not_plain (h : ∀ q, ¬ Denotes raw q) :
    nonnegativeMajorAmountToMinorUnits .default raw currency =
      .error (.invalidMajorAmount "amount must be a positive decimal string") := by
  have hplain : PlainDecimal.isPlain (PyText.strip raw).toList = false := by
    by_contra htrue
    exact h _ ⟨by simpa using htrue, rfl⟩
  simp only [nonnegativeMajorAmountToMinorUnits, hplain, Bool.false_eq_true, if_false]

theorem Denotes.convert_ok (h : Denotes raw q)
    (hexponent : campaignCurrencyExponent currency = .ok exponent) {n : ℤ} :
    nonnegativeMajorAmountToMinorUnits .default raw currency = .ok n ↔
      Arithmetic.default.finish (q * 10 ^ exponent) = .ok (.finite n) := by
  rw [h.convert_eq hexponent]
  constructor
  · intro hok
    obtain ⟨d, hd, hok⟩ := bind_eq_ok.mp hok
    have hfinish := inContext_eq_ok.mp hd
    obtain ⟨r, rfl⟩ := Arithmetic.finish_eq_ok hfinish
    simp only [integralUnits] at hok
    split_ifs at hok with hint
    rw [hfinish, hint, Except.ok.inj hok]
  · intro hfinish
    simp only [hfinish, inContext, ok_bind, integralUnits, halfEven_intCast, if_true]

/-- The conversion of an amount is exact if and only if its product is kept. -/
theorem convertsExactly_iff (hexponent : campaignCurrencyExponent currency = .ok exponent) :
    ConvertsExactly raw currency exponent ↔ ∀ q, Denotes raw q → Kept (q * 10 ^ exponent) := by
  have hpow : (0 : ℚ) < 10 ^ exponent := by positivity
  have hsteps {q : ℚ} {n : ℤ} : q = n / 10 ^ exponent ↔ q * 10 ^ exponent = n :=
    eq_div_iff hpow.ne'
  constructor
  · intro hexact q hq
    by_cases hint : ∃ n : ℤ, q * 10 ^ exponent = n
    · obtain ⟨n, hn⟩ := hint
      have hok := (hexact.returns n).mpr (hsteps.mpr hn ▸ hq)
      exact kept_of_finish_integer hn ((hq.convert_ok hexponent).mp hok)
    · have hfraction : ∀ n : ℤ, q * 10 ^ exponent ≠ n := fun n hn => hint ⟨n, hn⟩
      have hnone : ∀ n : ℤ, ¬ Denotes raw (n / 10 ^ exponent) := fun n hn =>
        hfraction n (hsteps.mp (hq.unique hn))
      obtain ⟨message, hmessage⟩ := hexact.refuses hnone
      cases hresult : Arithmetic.default.finish (q * 10 ^ exponent) with
      | error error =>
        -- an overflow is not the refusal of an amount
        rw [hq.convert_eq hexponent, hresult] at hmessage
        cases hmessage
      | ok d =>
        obtain ⟨r, rfl⟩ := Arithmetic.finish_eq_ok hresult
        refine kept_of_finish_fraction hfraction (fun n hn => ?_) hresult
        rw [(hq.convert_ok hexponent).mpr (hn ▸ hresult)] at hmessage
        cases hmessage
  · intro hkept
    refine ⟨fun n => ⟨fun hok => ?_, fun hn => ?_⟩, fun hnone => ?_⟩
    · by_cases hdenotes : ∃ q, Denotes raw q
      · obtain ⟨q, hq⟩ := hdenotes
        have hfinish := (hq.convert_ok hexponent).mp hok
        by_cases hint : ∃ m : ℤ, q * 10 ^ exponent = m
        · obtain ⟨m, hm⟩ := hint
          rw [(hkept q hq).finish_integer hm] at hfinish
          rw [← hsteps.mpr (Decimal.finite.inj (Except.ok.inj hfinish))]
          exact hq
        · obtain ⟨r, hr, hne⟩ := (hkept q hq).finish_fraction fun m hm => hint ⟨m, hm⟩
          rw [hfinish] at hr
          exact absurd (Decimal.finite.inj (Except.ok.inj hr)).symm (hne n)
      · rw [convert_of_not_plain fun q hq => hdenotes ⟨q, hq⟩] at hok
        cases hok
    · have hn' : (n / 10 ^ exponent : ℚ) * 10 ^ exponent = n := hsteps.mp rfl
      rw [hn.convert_ok hexponent, (hkept _ hn).finish_integer hn', hn']
    · by_cases hdenotes : ∃ q, Denotes raw q
      · obtain ⟨q, hq⟩ := hdenotes
        have hfraction : ∀ n : ℤ, q * 10 ^ exponent ≠ n := fun n hn =>
          hnone n (hsteps.mpr hn ▸ hq)
        obtain ⟨r, hr, hne⟩ := (hkept q hq).finish_fraction hfraction
        rw [hq.convert_eq hexponent, hr]
        simp only [inContext, ok_bind, integralUnits, hne, if_false]
        exact ⟨_, rfl⟩
      · exact ⟨_, convert_of_not_plain fun q hq => hdenotes ⟨q, hq⟩⟩

-- ------------------------------------------------------------
-- Texts of minor units
-- ------------------------------------------------------------

theorem denotes_fixedPoint {r : ℚ} (hr : 0 ≤ r) : Denotes (PlainDecimal.fixedPoint exponent r)
    ((halfEven (r * 10 ^ exponent)).natAbs / 10 ^ exponent) := by
  have hstrip : (PyText.strip (PlainDecimal.fixedPoint exponent r)).toList =
      PlainDecimal.ofSteps exponent (halfEven (r * 10 ^ exponent)).natAbs := by
    simp only [PyText.strip, PlainDecimal.fixedPoint, not_lt.mpr hr, if_false, List.nil_append,
      String.toList_ofList]
    exact PlainDecimal.stripChars_of_isPlain (PlainDecimal.isPlain_ofSteps _ _)
  rw [Denotes, hstrip]
  exact ⟨PlainDecimal.isPlain_ofSteps _ _, PlainDecimal.value_ofSteps _ _⟩

theorem campaignCurrencyExponent_le (h : campaignCurrencyExponent currency = .ok exponent) :
    exponent ≤ 3 := by
  unfold campaignCurrencyExponent at h
  cases hcurrency : Rules.currencyExponent (some (PyText.upper (PyText.strip currency))) with
  | error error => simp [hcurrency] at h
  | ok confirmed =>
    simp only [hcurrency, Except.ok.injEq] at h
    rw [← h]
    exact Rules.currencyExponent_le hcurrency

theorem Kept.text {n : ℕ} (h : Kept n)
    (hexponent : campaignCurrencyExponent currency = .ok exponent) :
    ∃ text, minorUnitsToMajorAmount .default n currency = .ok text ∧
      Denotes text (n / 10 ^ exponent) := by
  obtain ⟨⟨m, k, hm, -, hn⟩, hlog⟩ := h.integer n (by push_cast; rfl)
  have hle := campaignCurrencyExponent_le hexponent
  have hpow : (0 : ℚ) < 10 ^ exponent := by positivity
  have hdigits : Arithmetic.Representable 28 999999 (n / 10 ^ exponent : ℚ) := by
    rcases le_or_gt 0 k with hk | hk
    · refine ⟨m, k - exponent, hm, by push_cast; omega, ?_⟩
      rw [hn, zpow_sub₀ (by norm_num), zpow_natCast, mul_div_assoc]
    · -- an integer with decimals to spare has few digits itself
      refine ⟨n, -exponent, ?_, by push_cast; omega, ?_⟩
      · have hsmall : (10 : ℚ) ^ k ≤ 1 := zpow_le_one_of_nonpos₀ (by norm_num) hk.le
        have hcast : |((n : ℤ) : ℚ)| < 10 ^ 28 := by
          rw [show ((n : ℤ) : ℚ) = m * 10 ^ k from hn, abs_mul,
            abs_of_pos (by positivity : (0 : ℚ) < 10 ^ k)]
          have hmq : (|m| : ℚ) < 10 ^ 28 := by exact_mod_cast hm
          calc |(m : ℚ)| * 10 ^ k ≤ |(m : ℚ)| * 1 := by gcongr
            _ < 10 ^ 28 := by rw [mul_one]; exact hmq
        exact_mod_cast hcast
      · rw [zpow_neg, zpow_natCast]
        push_cast
        rw [div_eq_mul_inv]
  have hshift : Int.log 10 |(n / 10 ^ exponent : ℚ)| ≤ 999999 := by
    rcases Nat.eq_zero_or_pos n with hzero | hpos
    · simp [hzero]
    · have hnq : (0 : ℚ) < n := by exact_mod_cast hpos
      refine le_trans (Int.log_mono_right (abs_pos.mpr (div_pos hnq hpow).ne') ?_) hlog
      rw [abs_of_pos (div_pos hnq hpow), abs_of_pos hnq]
      exact div_le_self hnq.le (one_le_pow₀ (by norm_num))
  have hfinish : Arithmetic.default.finish (n / 10 ^ exponent) =
      .ok (.finite (n / 10 ^ exponent)) :=
    hdigits.finish_of_log_le hshift
  refine ⟨PlainDecimal.fixedPoint exponent (n / 10 ^ exponent), ?_, ?_⟩
  · simp only [minorUnitsToMajorAmount, hexponent, ok_bind, Int.cast_natCast, hfinish, inContext]
  · have hnonneg : (0 : ℚ) ≤ n / 10 ^ exponent := by positivity
    have htext : Denotes (PlainDecimal.fixedPoint exponent (n / 10 ^ exponent)) _ :=
      denotes_fixedPoint hnonneg
    have hround : halfEven ((n / 10 ^ exponent : ℚ) * 10 ^ exponent) = n := by
      rw [div_mul_cancel₀ _ hpow.ne']
      exact_mod_cast halfEven_intCast (n : ℤ)
    rwa [hround, Int.natAbs_natCast] at htext

theorem finish_kept {x : ℚ} {n : ℕ} (h : Arithmetic.default.finish x = .ok (.finite n)) : Kept n :=
  ⟨fun _ _ => ⟨Arithmetic.representable_of_finish (by decide) h, Arithmetic.finish_log_le h⟩,
    fun hne => absurd (by push_cast; rfl) (hne n)⟩

theorem Kept.convert_text {n : ℕ} {text : String} (h : Kept n)
    (hexponent : campaignCurrencyExponent currency = .ok exponent)
    (htext : Denotes text (n / 10 ^ exponent)) :
    nonnegativeMajorAmountToMinorUnits .default text currency = .ok n := by
  have hpow : (0 : ℚ) < 10 ^ exponent := by positivity
  rw [htext.convert_ok hexponent, div_mul_cancel₀ _ hpow.ne',
    h.finish_integer (n := n) (by push_cast; rfl)]
  push_cast
  rfl

theorem roundTrip_iff {n : ℕ} (hexponent : campaignCurrencyExponent currency = .ok exponent) :
    (minorUnitsToMajorAmount .default n currency >>= fun text =>
      nonnegativeMajorAmountToMinorUnits .default text currency) = .ok (n : ℤ) ↔ Kept n := by
  constructor
  · intro h
    obtain ⟨text, htext, hback⟩ := bind_eq_ok.mp h
    simp only [minorUnitsToMajorAmount, hexponent, ok_bind, bind_eq_ok] at htext
    obtain ⟨d, hd, htext⟩ := htext
    cases d with
    | infinite negative => cases htext
    | nan signaling => cases htext
    | finite r =>
      obtain rfl := Except.ok.inj htext
      have hr := inContext_eq_ok.mp hd
      have hzero : Arithmetic.default.finish 0 = .ok (.finite 0) := by decide +kernel
      have hr0 : 0 ≤ r :=
        Arithmetic.finish_mono (by decide) le_rfl (by push_cast; positivity) hzero hr
      have hfinish := ((denotes_fixedPoint hr0).convert_ok hexponent).mp hback
      exact finish_kept (by exact_mod_cast hfinish)
  · intro h
    obtain ⟨text, htext, hdenotes⟩ := h.text hexponent
    rw [htext, ok_bind, h.convert_text hexponent hdenotes]

theorem normalize_ok {text : String} (hexponent : campaignCurrencyExponent currency = .ok exponent)
    (h : normalizeMajorAmount .default raw currency = .ok text) :
    ∃ (q : ℚ) (n : ℕ), 0 < n ∧ Denotes raw q ∧
      Arithmetic.default.finish (q * 10 ^ exponent) = .ok (.finite n) ∧ Kept n ∧
      Denotes text (n / 10 ^ exponent) ∧
        minorUnitsToMajorAmount .default n currency = .ok text := by
  simp only [normalizeMajorAmount, majorAmountToMinorUnits, bind_eq_ok] at h
  obtain ⟨units, ⟨units', hunits, hpositive⟩, htext⟩ := h
  split_ifs at hpositive with hle
  obtain rfl := Except.ok.inj hpositive
  lift units' to ℕ using by omega
  have hq : ∃ q, Denotes raw q := by
    by_contra hnone
    rw [convert_of_not_plain fun q hq => hnone ⟨q, hq⟩] at hunits
    cases hunits
  obtain ⟨q, hq⟩ := hq
  have hfinish := (hq.convert_ok hexponent).mp hunits
  have hkept : Kept units' := finish_kept (by exact_mod_cast hfinish)
  obtain ⟨text', htext', hdenotes⟩ := hkept.text hexponent
  rw [htext] at htext'
  obtain rfl := Except.ok.inj htext'
  exact ⟨q, units', by omega, hq, by exact_mod_cast hfinish, hkept, hdenotes, htext⟩

theorem normalize_idempotent {text : String}
    (hexponent : campaignCurrencyExponent currency = .ok exponent)
    (h : normalizeMajorAmount .default raw currency = .ok text) :
    normalizeMajorAmount .default text currency = .ok text := by
  obtain ⟨q, n, hn, -, -, hkept, hdenotes, htext⟩ := normalize_ok hexponent h
  have hpositive : ¬ (n : ℤ) ≤ 0 := by omega
  simp only [normalizeMajorAmount, majorAmountToMinorUnits, hkept.convert_text hexponent hdenotes,
    ok_bind, hpositive, if_false, htext]

/-- A normalized amount keeps its value if and only if its product is kept. -/
theorem normalize_preserves_iff {text : String}
    (hexponent : campaignCurrencyExponent currency = .ok exponent)
    (h : normalizeMajorAmount .default raw currency = .ok text) (hq : Denotes raw q) :
    Denotes text q ↔ Kept (q * 10 ^ exponent) := by
  have hpow : (0 : ℚ) < 10 ^ exponent := by positivity
  obtain ⟨q', n, -, hq', hfinish, -, hdenotes, -⟩ := normalize_ok hexponent h
  obtain rfl := hq.unique hq'
  constructor
  · intro htext
    have hn : q * 10 ^ exponent = ((n : ℤ) : ℚ) := by
      rw [htext.unique hdenotes, div_mul_cancel₀ _ hpow.ne']
      push_cast
      rfl
    exact kept_of_finish_integer hn (by exact_mod_cast hfinish)
  · intro hkept
    by_cases hint : ∃ m : ℤ, q * 10 ^ exponent = m
    · obtain ⟨m, hm⟩ := hint
      rw [hkept.finish_integer hm] at hfinish
      rw [(eq_div_iff hpow.ne').mpr (Decimal.finite.inj (Except.ok.inj hfinish))]
      exact hdenotes
    · obtain ⟨r, hr, hne⟩ := hkept.finish_fraction fun m hm => hint ⟨m, hm⟩
      rw [hfinish] at hr
      exact absurd (Decimal.finite.inj (Except.ok.inj hr)).symm (by exact_mod_cast hne n)

end

/-- Conversion and normalization are exact on the amounts whose product is kept,
and on no other; the text of minor units is read back where they are kept. -/
theorem campaign_money_exact_iff (currency : String) (exponent : Nat)
    (hexponent : campaignCurrencyExponent currency = .ok exponent) :
    (∀ raw, ConvertsExactly raw currency exponent ↔ ∀ q, Denotes raw q → Kept (q * 10 ^ exponent)) ∧
    (∀ raw text, normalizeMajorAmount .default raw currency = .ok text →
      normalizeMajorAmount .default text currency = .ok text ∧
      ∀ q, Denotes raw q → (Denotes text q ↔ Kept (q * 10 ^ exponent))) ∧
    ∀ n : ℕ, 0 < n → ((minorUnitsToMajorAmount .default n currency >>= fun text =>
      nonnegativeMajorAmountToMinorUnits .default text currency) = .ok (n : ℤ) ↔ Kept n) :=
  ⟨fun _ => convertsExactly_iff hexponent,
    fun _ _ h => ⟨normalize_idempotent hexponent h,
      fun _ hq => normalize_preserves_iff hexponent h hq⟩,
    fun _ _ => roundTrip_iff hexponent⟩

/-- Twelve dollars and a half are converted exactly. -/
theorem campaign_money_exact_dollar :
    ConvertsExactly "12.50" "USD" 2 ∧
      nonnegativeMajorAmountToMinorUnits .default "12.50" "USD" = .ok 1250 := by
  have hexponent : campaignCurrencyExponent "USD" = .ok 2 := by decide +kernel
  have hvalue : PlainDecimal.value (PyText.strip "12.50").toList = 25 / 2 := by decide +kernel
  have hfinish : Arithmetic.default.finish 1250 = .ok (.finite (1250 : ℕ)) := by decide +kernel
  refine ⟨((campaign_money_exact_iff "USD" 2 hexponent).1 "12.50").mpr fun q hq =>
    ?_, by decide +kernel⟩
  rw [← hq.2, hvalue, show (25 / 2 : ℚ) * 10 ^ 2 = (1250 : ℕ) by norm_num]
  exact finish_kept hfinish

/-- A dollar and a fraction beyond the 28th digit is taken for a dollar. -/
theorem campaign_money_loses_digit :
    ¬ ∀ (raw currency : String) (exponent : Nat), campaignCurrencyExponent currency = .ok exponent →
      ConvertsExactly raw currency exponent := by
  intro h
  have hexponent : campaignCurrencyExponent "USD" = .ok 2 := by decide +kernel
  have hreturns : nonnegativeMajorAmountToMinorUnits .default
      "1.0000000000000000000000000001" "USD" =
      .ok 100 := by decide +kernel
  have hvalue : PlainDecimal.value (PyText.strip "1.0000000000000000000000000001").toList =
      1 + 1 / 10 ^ 28 := by decide +kernel
  have hdenotes := ((h "1.0000000000000000000000000001" "USD" 2 hexponent).returns 100).mp hreturns
  have hsame := hdenotes.2
  rw [hvalue] at hsame
  norm_num at hsame

end StopBot.Campaigns
