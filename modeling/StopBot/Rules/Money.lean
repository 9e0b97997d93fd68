import StopBot.Lib.DecimalText
import StopBot.Rules.Evaluable

/-!
# Exact amounts

`require_exact_currency_amount` and `checked_daily_budget_minor_units` on the
values they are given: the text of a value, and an exponent that need not be a
number. Both work in the default context, which has 28 digits for the result of
`quantize`.
-/

namespace StopBot.Rules.Money

open Lib

/-- `require_currency_exponent`; the exponent is none if it is a boolean or no integer. -/
def requireCurrencyExponent (currency : Option String) (exponent : Option Int) :
    Except Raised (String × Nat) := do
  let (code, _) ← currencyExponent currency
  match exponent with
  | none => .error (.exponentNotExplicit code)
  | some supplied => Rules.requireCurrencyExponent currency supplied

def currencyQuantum (currency : Option String) (exponent : Option Int) : Except Raised ℚ := do
  let (_, confirmed) ← requireCurrencyExponent currency exponent
  .ok (quantum confirmed)

/-- `value` is its `str`, or none if that raises; a decimal is made of it under `try`. -/
def requireExactCurrencyAmount (value currency : Option String) (exponent : Option Int)
    (field : String) (allowZero : Bool) : Except Raised Decimal := do
  let step ← currencyQuantum currency exponent
  match value.bind Decimal.ofText with
  | none => .error (.invalidCurrencyAmount (field ++ " is not a decimal"))
  | some (.finite amount) =>
    if amount < 0 ∨ (allowZero = false ∧ amount = 0) then
      .error (.invalidCurrencyAmount (field ++ " is outside the safe range"))
    else
      let rounded ← ofDecimal (Arithmetic.default.quantize halfEven step (.finite amount))
      if (← ofDecimal (Decimal.eq (.finite amount) rounded)) then .ok (.finite amount)
      else .error (.invalidCurrencyAmount
        (field ++ " has excess precision for " ++ PyText.upper (PyText.strip (currency.getD ""))))
  | some _ => .error (.invalidCurrencyAmount (field ++ " is outside the safe range"))

def maxDailyBudgetMajor : Decimal := .finite 100000

def scaleb (A : Arithmetic) (n : Nat) : Decimal → Except DecimalError Decimal
  | .finite q => A.finish (q * 10 ^ n)
  | .nan true => .error .invalidOperation
  | other => .ok other

def toIntegralValue : Decimal → Except DecimalError Decimal
  | .finite q => .ok (.finite (halfEven q))
  | .nan true => .error .invalidOperation
  | other => .ok other

/-- `int(value)`, towards zero; the overflow of an infinite value is an `OverflowError`. -/
def int : Decimal → Except Raised Int
  | .finite q => .ok (if q < 0 then ⌈q⌉ else ⌊q⌋)
  | .nan _ => .error (.valueError "cannot convert NaN to integer")
  | .infinite _ => .error (.decimal .overflow)

def checkedDailyBudgetMinorUnits (value currency : Option String) (exponent : Option Int) :
    Except Raised (String × Nat × Decimal × Int) := do
  let (code, exponent) ← requireCurrencyExponent currency exponent
  let amount ← requireExactCurrencyAmount value (some code) (some exponent) "daily_budget" false
  if (← ofDecimal (maxDailyBudgetMajor.lt amount)) then
    .error (.valueError ("daily_budget exceeds 100000 " ++ code))
  else
    let minorUnits ← ofDecimal (scaleb .default exponent amount)
    let integral ← ofDecimal (toIntegralValue minorUnits)
    if (← ofDecimal (Decimal.eq minorUnits integral)) then
      .ok (code, exponent, amount, ← int minorUnits)
    else .error (.valueError "daily_budget cannot be represented in Meta minor units")

-- ------------------------------------------------------------
-- What is asked of them
-- ------------------------------------------------------------

/-- The amount is the value and lies on the grid of the currency, or the value is refused as an
amount. -/
def ExactOrRefused (value currency : Option String) (exponent : Option Int) (field : String)
    (allowZero : Bool) : Prop :=
  (∃ amount step, requireExactCurrencyAmount value currency exponent field allowZero =
        .ok (.finite amount) ∧
      value.bind Decimal.ofText = some (.finite amount) ∧
      currencyQuantum currency exponent = .ok step ∧ ∃ n : ℤ, amount = n * step) ∨
    ∃ message, requireExactCurrencyAmount value currency exponent field allowZero =
      .error (.invalidCurrencyAmount message)

/-- A `ValueError`, as every class of `core/money.py` is one. -/
def documented : Raised → Bool
  | .decimal _ => false
  | _ => true

/-- The text of a `ValueError` of `core/money.py`; a signal of the decimal context has none. -/
def text : Raised → Option String
  | .unsupportedCurrencyExponent code =>
    some ("currency '" ++ code.getD "<empty>" ++ "' has no reviewed exponent")
  | .currencyExponentMismatch code expected supplied =>
    some ("currency " ++ code ++ " requires exponent " ++ toString expected ++ ", got " ++
      toString supplied)
  | .exponentNotExplicit code => some ("currency " ++ code ++ " exponent must be explicit")
  | .invalidCurrencyAmount message | .valueError message => some message
  -- the errors of an offer are not raised by amounts
  | .decimal _ | .missingOfferCpa _ | .offerCurrencyMismatch _ _ _ | .invalidOfferSensitivity _ =>
    none

/-- The minor units are the amount times a power of ten, or a `ValueError` is raised. -/
def ExactBudget (value currency : Option String) (exponent : Option Int) : Prop :=
  (∃ code places amount minor, checkedDailyBudgetMinorUnits value currency exponent =
        .ok (code, places, .finite amount, minor) ∧
      value.bind Decimal.ofText = some (.finite amount) ∧ (minor : ℚ) = amount * 10 ^ places) ∨
    ∃ error, checkedDailyBudgetMinorUnits value currency exponent = .error error ∧
      documented error = true

/-- In steps of the currency, the value rounds to 28 digits or fewer. -/
def Writable (value : Option String) (places : Nat) : Prop :=
  ∀ q, value.bind Decimal.ofText = some (.finite q) → q * 10 ^ places < 10 ^ 28 - 1 / 2

-- ------------------------------------------------------------
-- Rounding to steps
-- ------------------------------------------------------------

theorem halfEven_lt_iff {q : ℚ} {n : ℤ} (hn : n % 2 = 0) : halfEven q < n ↔ q < n - 1 / 2 := by
  constructor
  · intro h
    by_contra hge
    have hround : halfEven (n - 1 / 2) = n := halfEven_eq_of_even hn (by norm_num [abs_le])
    have hmono := halfEven_mono (not_lt.mp hge)
    omega
  · intro h
    have hfloor : ⌊q⌋ < n := Int.floor_lt.mpr (by linarith)
    have hle := Int.floor_le q
    have hbounds := halfEven_bounds q
    rcases lt_or_ge ⌊q⌋ (n - 1) with hlow | hhigh
    · omega
    · have hnear : ⌊q⌋ = n - 1 := by omega
      have hcast : (⌊q⌋ : ℚ) = n - 1 := by rw [hnear]; push_cast; ring
      have hsame : halfEven q = ⌊q⌋ := by
        rw [halfEven, if_pos (by linarith)]
      omega

/-- The rounded value has the digits for its steps exactly below the bound. -/
theorem fits_iff {q : ℚ} (places : Nat) (hq : 0 ≤ q) :
    Arithmetic.default.fits (halfEven (q / quantum places)) = true ↔
      q * 10 ^ places < 10 ^ 28 - 1 / 2 := by
  have hsteps : q / quantum places = q * 10 ^ places := by
    rw [quantum, div_div_eq_mul_div, div_one]
  have hnonneg : 0 ≤ halfEven (q / quantum places) :=
    le_halfEven (by rw [hsteps]; push_cast; positivity)
  have hlt := halfEven_lt_iff (q := q / quantum places) (n := 10 ^ 28) (by norm_num)
  rw [show (((10 : ℤ) ^ 28 : ℤ) : ℚ) = 10 ^ 28 by norm_num] at hlt
  rw [hsteps] at hlt hnonneg ⊢
  rw [← hlt]
  simp only [Arithmetic.default, Arithmetic.fits, decide_eq_true_eq]
  omega

theorem requireCurrencyExponent_some {currency : Option String} {exponent : Option Int}
    {code : String}
    {places : Nat} (h : requireCurrencyExponent currency exponent = .ok (code, places)) :
    exponent = some (places : Int) ∧ currencyExponent currency = .ok (code, places) := by
  simp only [requireCurrencyExponent, bind_eq_ok] at h
  obtain ⟨⟨code', expected⟩, hcode, h⟩ := h
  cases exponent with
  | none => cases h
  | some supplied =>
    simp only [Rules.requireCurrencyExponent, hcode, bind_eq_ok] at h
    obtain ⟨pair, hpair, h⟩ := h
    obtain rfl := Except.ok.inj hpair
    split_ifs at h with hne
    obtain ⟨rfl, rfl⟩ := Prod.mk.inj (Except.ok.inj h)
    exact ⟨by rw [not_not.mp hne], hcode⟩

theorem currencyQuantum_of_pair {currency : Option String} {exponent : Option Int} {code : String}
    {places : Nat} (h : requireCurrencyExponent currency exponent = .ok (code, places)) :
    currencyQuantum currency exponent = .ok (quantum places) := by
  simp [currencyQuantum, h, bind, Except.bind]

section
variable {value currency : Option String} {exponent : Option Int} {code : String} {places : Nat}

/-- A value that is no writable number in range is refused; one that is passes if it lies on the
grid; and one that is not writable makes `quantize` raise. -/
theorem requireExact_cases (value : Option String)
    (hpair : requireCurrencyExponent currency exponent = .ok (code, places))
    (field : String) (allowZero : Bool) :
    (Writable value places ∧
      ((∃ q, value.bind Decimal.ofText = some (.finite q) ∧
          requireExactCurrencyAmount value currency exponent field allowZero = .ok (.finite q) ∧
          0 ≤ q ∧ ∃ n : ℤ, q = n * quantum places) ∨
        ∃ message, requireExactCurrencyAmount value currency exponent field allowZero =
          .error (.invalidCurrencyAmount message))) ∨
    (¬ Writable value places ∧
      requireExactCurrencyAmount value currency exponent field allowZero =
        .error (.decimal .invalidOperation)) := by
  have hstep := currencyQuantum_of_pair hpair
  cases hvalue : value.bind Decimal.ofText with
  | none =>
    refine .inl ⟨fun q hq => ?_, .inr ⟨field ++ " is not a decimal", ?_⟩⟩
    · rw [hvalue] at hq
      cases hq
    · simp [requireExactCurrencyAmount, hstep, hvalue, bind, Except.bind]
  | some d =>
    cases d with
    | infinite negative | nan signaling =>
      refine .inl ⟨fun q hq => ?_, .inr ⟨field ++ " is outside the safe range", ?_⟩⟩
      · rw [hvalue] at hq
        cases hq
      · simp [requireExactCurrencyAmount, hstep, hvalue, bind, Except.bind]
    | finite q =>
      have hwritable : Writable value places ↔ q * 10 ^ places < 10 ^ 28 - 1 / 2 := by
        constructor
        · exact fun h => h q hvalue
        · intro h q' hq'
          rw [hvalue] at hq'
          cases hq'
          exact h
      rw [hwritable]
      by_cases hrange : q < 0 ∨ (allowZero = false ∧ q = 0)
      · have hbound : q * 10 ^ places < 10 ^ 28 - 1 / 2 := by
          have hle : q ≤ 0 := hrange.elim le_of_lt fun h => h.2.le
          have hprod : q * 10 ^ places ≤ 0 := mul_nonpos_of_nonpos_of_nonneg hle (by positivity)
          refine lt_of_le_of_lt hprod (by norm_num)
        refine .inl ⟨hbound, .inr ⟨field ++ " is outside the safe range", ?_⟩⟩
        simp only [requireExactCurrencyAmount, hstep, hvalue, bind, Except.bind, if_pos hrange]
      · have hnonneg : 0 ≤ q := not_lt.mp fun h => hrange (.inl h)
        have hfits := fits_iff places hnonneg
        by_cases hbound : q * 10 ^ places < 10 ^ 28 - 1 / 2
        · refine .inl ⟨hbound, ?_⟩
          by_cases hgrid : q = halfEven (q / quantum places) * quantum places
          · refine .inl ⟨q, rfl, ?_, hnonneg, _, hgrid⟩
            simp only [requireExactCurrencyAmount, hstep, hvalue, bind, Except.bind, if_neg hrange,
              Arithmetic.quantize, hfits.mpr hbound, ofDecimal, Decimal.eq_finite, if_true,
              decide_eq_true hgrid]
          · refine .inr ⟨field ++ " has excess precision for " ++
              PyText.upper (PyText.strip (currency.getD "")), ?_⟩
            simp only [requireExactCurrencyAmount, hstep, hvalue, bind, Except.bind, if_neg hrange,
              Arithmetic.quantize, hfits.mpr hbound, ofDecimal, Decimal.eq_finite, if_true,
              decide_eq_false hgrid, Bool.false_eq_true, if_false]
        · refine .inr ⟨hbound, ?_⟩
          have hnot : Arithmetic.default.fits (halfEven (q / quantum places)) = false := by
            rw [Bool.eq_false_iff]
            exact fun h => hbound (hfits.mp h)
          simp only [requireExactCurrencyAmount, hstep, hvalue, bind, Except.bind, if_neg hrange,
            Arithmetic.quantize, hnot, Bool.false_eq_true, if_false, ofDecimal]

theorem exactOrRefused_iff (hpair : requireCurrencyExponent currency exponent = .ok (code, places))
    (field : String) (allowZero : Bool) :
    ExactOrRefused value currency exponent field allowZero ↔ Writable value places := by
  rcases requireExact_cases value hpair field allowZero with
    ⟨hwritable, ⟨q, hq, hok, -, n, hn⟩ | ⟨message, herror⟩⟩ | ⟨hnot, herror⟩
  · refine ⟨fun _ => hwritable, fun _ => .inl ⟨q, _, hok, hq, currencyQuantum_of_pair hpair, n, hn⟩⟩
  · exact ⟨fun _ => hwritable, fun _ => .inr ⟨message, herror⟩⟩
  · refine ⟨?_, fun h => absurd h hnot⟩
    rintro (⟨amount, step, hok, -⟩ | ⟨message, hrefused⟩)
    · rw [herror] at hok
      cases hok
    · rw [herror] at hrefused
      cases hrefused

-- ------------------------------------------------------------
-- Daily budgets
-- ------------------------------------------------------------

theorem upper_strip_isoCode : ∀ code ∈ isoCodes, PyText.upper (PyText.strip code) = code := by
  decide +kernel

theorem currencyExponent_code (h : currencyExponent currency = .ok (code, places)) :
    currencyExponent (some code) = .ok (code, places) := by
  unfold currencyExponent at h ⊢
  cases hcode : validatedCurrencyCode currency with
  | none => simp [hcode] at h
  | some found =>
    rw [hcode] at h
    cases hplaces : supportedCurrencyExponent found with
    | none => simp [hplaces] at h
    | some expected =>
      simp only [hplaces, Except.ok.injEq, Prod.mk.injEq] at h
      obtain ⟨rfl, rfl⟩ := h
      have hmem : found ∈ isoCodes := by
        simp only [validatedCurrencyCode] at hcode
        split_ifs at hcode with hin
        rw [← Option.some.inj hcode]
        exact List.contains_iff_mem.mp hin
      have hsame : validatedCurrencyCode (some found) = some found := by
        simp only [validatedCurrencyCode, Option.getD_some, upper_strip_isoCode found hmem]
        rw [if_pos (List.contains_iff_mem.mpr hmem)]
      simp only [hsame, hplaces]

theorem requireCurrencyExponent_code (h : currencyExponent currency = .ok (code, places)) :
    requireCurrencyExponent (some code) (some (places : Int)) = .ok (code, places) := by
  simp [requireCurrencyExponent, Rules.requireCurrencyExponent, currencyExponent_code h, bind,
    Except.bind]

theorem scaleb_exact {q : ℚ} {n : ℤ} (hn : q = n * quantum places) (hq : 0 ≤ q) (hmax : q ≤ 100000)
    (hplaces : places ≤ 3) : scaleb .default places (.finite q) = .ok (.finite n) := by
  have hsteps : q * 10 ^ places = n := by
    rw [hn, quantum]
    field_simp
  have hpow : (10 : ℚ) ^ places ≤ 1000 := by
    calc (10 : ℚ) ^ places ≤ 10 ^ 3 := pow_le_pow_right₀ (by norm_num) hplaces
      _ = 1000 := by norm_num
  have hbound : (n : ℚ) ≤ 100000000 := by
    rw [← hsteps]
    calc q * 10 ^ places ≤ 100000 * 1000 := by gcongr
      _ = 100000000 := by norm_num
  have hnonneg : (0 : ℚ) ≤ n := by
    rw [← hsteps]
    positivity
  have hn' : n ≤ 100000000 := by exact_mod_cast hbound
  have hn0 : 0 ≤ n := by exact_mod_cast hnonneg
  have hrepresentable : Arithmetic.Representable 28 999999 (n : ℚ) := by
    refine ⟨n, 0, ?_, by norm_num, by simp⟩
    rw [abs_of_nonneg hn0]
    omega
  have hlog : Int.log 10 |(n : ℚ)| ≤ (999999 : ℕ) := by
    rw [abs_of_nonneg hnonneg]
    rcases hnonneg.eq_or_lt with hzero | hpos
    · rw [← hzero]
      simp
    · have hmono := Int.log_mono_right (b := 10) hpos
        (hbound.trans (by norm_num : (100000000 : ℚ) ≤ ((10 : ℕ) : ℚ) ^ (8 : ℤ)))
      rw [Int.log_zpow (by norm_num)] at hmono
      omega
  rw [scaleb, hsteps]
  exact hrepresentable.finish_of_log_le hlog

theorem exactBudget_iff (hpair : requireCurrencyExponent currency exponent = .ok (code, places)) :
    ExactBudget value currency exponent ↔ Writable value places := by
  obtain ⟨-, hcurrency⟩ := requireCurrencyExponent_some hpair
  rcases requireExact_cases value (requireCurrencyExponent_code hcurrency) "daily_budget" false with
    ⟨hwritable, ⟨q, hq, hok, hnonneg, n, hn⟩ | ⟨message, herror⟩⟩ | ⟨hnot, herror⟩
  · refine ⟨fun _ => hwritable, fun _ => ?_⟩
    by_cases hmax : 100000 < q
    · refine .inr ⟨.valueError ("daily_budget exceeds 100000 " ++ code), ?_, rfl⟩
      simp [checkedDailyBudgetMinorUnits, hpair, hok, bind, Except.bind, ofDecimal,
        maxDailyBudgetMajor, hmax]
    · have hscaled := scaleb_exact hn hnonneg (not_lt.mp hmax) (currencyExponent_le hcurrency)
      have hround : (halfEven (n : ℚ) : ℚ) = n := by rw [halfEven_intCast]
      have hsign : ¬ (n : ℚ) < 0 := by
        have hprod : q * 10 ^ places = n := by
          rw [hn, quantum]
          field_simp
        rw [← hprod, not_lt]
        positivity
      refine .inl ⟨code, places, q, n, ?_, hq, ?_⟩
      · simp [checkedDailyBudgetMinorUnits, hpair, hok, bind, Except.bind, ofDecimal,
          maxDailyBudgetMajor, hmax, hscaled, toIntegralValue, hround, int, hsign]
      · rw [hn, quantum]
        field_simp
  · refine ⟨fun _ => hwritable, fun _ => .inr ⟨.invalidCurrencyAmount message, ?_, rfl⟩⟩
    simp [checkedDailyBudgetMinorUnits, hpair, herror, bind, Except.bind]
  · refine ⟨?_, fun h => absurd h hnot⟩
    have hraised : checkedDailyBudgetMinorUnits value currency exponent =
        .error (.decimal .invalidOperation) := by
      simp [checkedDailyBudgetMinorUnits, hpair, herror, bind, Except.bind]
    rintro (⟨code', places', amount, minor, hresult, -⟩ | ⟨error, hresult, hdocumented⟩)
    · rw [hraised] at hresult
      cases hresult
    · rw [hraised] at hresult
      obtain rfl := Except.error.inj hresult
      cases hdocumented

end

/-- For a reviewed currency and its exponent, amounts are exact or refused as long as they can be
written in 28 digits. -/
theorem exact_amount_iff_writable {currency : Option String} {exponent : Option Int} {code : String}
    {places : Nat} (hpair : requireCurrencyExponent currency exponent = .ok (code, places))
    (value : Option String) (field : String) (allowZero : Bool) :
    (ExactOrRefused value currency exponent field allowZero ↔ Writable value places) ∧
      (ExactBudget value currency exponent ↔ Writable value places) :=
  ⟨exactOrRefused_iff hpair field allowZero, exactBudget_iff hpair⟩

theorem exact_amount_dollars :
    requireCurrencyExponent (some "usd") (some 2) = .ok ("USD", 2) ∧
      ExactOrRefused (some "12.50") (some "usd") (some 2) "amount" true ∧
      ExactBudget (some "12.50") (some "usd") (some 2) := by
  have hpair : requireCurrencyExponent (some "usd") (some 2) = .ok ("USD", 2) := by decide +kernel
  have hwritable : Writable (some "12.50") 2 := by
    intro q hq
    have hvalue : (some "12.50" : Option String).bind Decimal.ofText = some (.finite (25 / 2)) := by
      decide +kernel
    rw [hvalue] at hq
    obtain rfl := Decimal.finite.inj (Option.some.inj hq)
    norm_num
  obtain ⟨hamount, hbudget⟩ := exact_amount_iff_writable hpair (some "12.50") "amount" true
  exact ⟨hpair, hamount.mpr hwritable, hbudget.mpr hwritable⟩

/-- A long amount is not refused: `quantize` raises. -/
theorem long_amount_raises :
    requireExactCurrencyAmount (some "1e30") (some "USD") (some 2) "amount" true =
        .error (.decimal .invalidOperation) ∧
      ¬ ExactOrRefused (some "1e30") (some "USD") (some 2) "amount" true ∧
      ¬ ExactBudget (some "1e30") (some "USD") (some 2) := by
  have hraised : requireExactCurrencyAmount (some "1e30") (some "USD") (some 2) "amount" true =
      .error (.decimal .invalidOperation) := by decide +kernel
  have hbudget : checkedDailyBudgetMinorUnits (some "1e30") (some "USD") (some 2) =
      .error (.decimal .invalidOperation) := by decide +kernel
  refine ⟨hraised, ?_, ?_⟩
  · rintro (⟨amount, step, hok, -⟩ | ⟨message, herror⟩)
    · rw [hraised] at hok
      cases hok
    · rw [hraised] at herror
      cases herror
  · rintro (⟨code, places, amount, minor, hok, -⟩ | ⟨error, herror, hdocumented⟩)
    · rw [hbudget] at hok
      cases hok
    · rw [hbudget] at herror
      obtain rfl := Except.error.inj herror
      cases hdocumented

end StopBot.Rules.Money
