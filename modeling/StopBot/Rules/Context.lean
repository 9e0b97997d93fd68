import StopBot.Lib.Decimal
import StopBot.Lib.PyText
import StopBot.Lib.Checks

/-!
# The context of the stop rules

Amounts with their reviewed currency (`core/money.py`), the thresholds a rule
context derives from the CPA of an offer (`core/rules/types.py`) and the
context of one scanned row (`build_rule_context`). The arithmetic is a
parameter: the code runs in the default decimal context.
-/

namespace StopBot.Rules

open Lib

inductive Raised
  | decimal (error : DecimalError)
  | unsupportedCurrencyExponent (code : Option String)
  | currencyExponentMismatch (code : String) (expected supplied : Int)
  | exponentNotExplicit (code : String)
  | invalidCurrencyAmount (message : String)
  | missingOfferCpa (offer : String)
  | offerCurrencyMismatch (offer : String) (currency : Option String) (cabinet : String)
  | invalidOfferSensitivity (offer : String)
  | valueError (message : String)
  deriving DecidableEq, Repr

def ofDecimal {α : Type} : Except DecimalError α → Except Raised α
  | .ok a => .ok a
  | .error error => .error (.decimal error)

-- ------------------------------------------------------------
-- Amounts and currencies
-- ------------------------------------------------------------

def exponentZero : List String :=
  ["BIF", "CLP", "DJF", "GNF", "ISK", "JPY", "KMF", "KRW", "PYG", "RWF", "UGX", "VND", "VUV",
    "XAF", "XOF", "XPF"]

def exponentThree : List String :=
  ["BHD", "IQD", "JOD", "KWD", "LYD", "OMR", "TND"]

def exponentTwo : List String :=
  ["AED", "AFN", "ALL", "AMD", "ANG", "AOA", "ARS", "AUD", "AWG", "AZN", "BAM", "BBD", "BDT",
    "BGN", "BMD", "BND", "BOB", "BRL", "BSD", "BTN", "BWP", "BYN", "BZD", "CAD", "CDF", "CHF",
    "CNY", "COP", "CRC", "CVE", "CZK", "DKK", "DOP", "DZD", "EGP", "ERN", "ETB", "EUR", "FJD",
    "FKP", "GBP", "GEL", "GHS", "GIP", "GMD", "GTQ", "GYD", "HKD", "HNL", "HTG", "HUF", "IDR",
    "ILS", "INR", "IRR", "JMD", "KES", "KGS", "KHR", "KPW", "KYD", "KZT", "LAK", "LBP", "LKR",
    "LRD", "LSL", "MAD", "MDL", "MGA", "MKD", "MMK", "MNT", "MOP", "MRU", "MUR", "MVR", "MWK",
    "MXN", "MYR", "MZN", "NAD", "NGN", "NIO", "NOK", "NPR", "NZD", "PAB", "PEN", "PGK", "PHP",
    "PKR", "PLN", "QAR", "RON", "RSD", "RUB", "SAR", "SBD", "SCR", "SDG", "SEK", "SGD", "SHP",
    "SLE", "SOS", "SRD", "SSP", "STN", "SVC", "SYP", "SZL", "THB", "TJS", "TMT", "TOP", "TRY",
    "TTD", "TWD", "TZS", "UAH", "USD", "UYU", "UZS", "VED", "VES", "WST", "YER", "ZAR", "ZMW",
    "ZWG"]

/-- The codes of `_ISO_4217_CODES` that have no reviewed exponent. -/
def unreviewedCodes : List String :=
  ["BOV", "CHE", "CHW", "CLF", "COU", "CUP", "MXV", "USN", "UYI", "UYW", "XAG", "XAU", "XCD",
    "XDR", "XPD", "XPT", "XSU", "XUA"]

/-- `_ISO_4217_CODES`. -/
def isoCodes : List String :=
  exponentZero ++ exponentThree ++ exponentTwo ++ unreviewedCodes

def validatedCurrencyCode (raw : Option String) : Option String :=
  let value := PyText.upper (PyText.strip (raw.getD ""))
  if isoCodes.contains value then some value else none

def supportedCurrencyExponent (code : String) : Option Nat :=
  if exponentThree.contains code then some 3
  else if exponentTwo.contains code then some 2
  else if exponentZero.contains code then some 0
  else none

theorem supportedCurrencyExponent_le {code : String} {exponent : Nat}
    (h : supportedCurrencyExponent code = some exponent) : exponent ≤ 3 := by
  unfold supportedCurrencyExponent at h
  split_ifs at h <;> obtain rfl := Option.some.inj h <;> decide

def currencyExponent (currency : Option String) : Except Raised (String × Nat) :=
  match validatedCurrencyCode currency with
  | none => .error (.unsupportedCurrencyExponent none)
  | some code =>
    match supportedCurrencyExponent code with
    | none => .error (.unsupportedCurrencyExponent (some code))
    | some exponent => .ok (code, exponent)

theorem currencyExponent_le {currency : Option String} {code : String} {exponent : Nat}
    (h : currencyExponent currency = .ok (code, exponent)) : exponent ≤ 3 := by
  unfold currencyExponent at h
  split at h
  · cases h
  · split at h
    · cases h
    · rename_i hsupported
      rw [← (Prod.mk.inj (Except.ok.inj h)).2]
      exact supportedCurrencyExponent_le hsupported

def requireCurrencyExponent (currency : Option String) (exponent : Int) :
    Except Raised (String × Nat) := do
  let (code, expected) ← currencyExponent currency
  if exponent ≠ expected then .error (.currencyExponentMismatch code expected exponent)
  else .ok (code, expected)

/-- The step of a currency, `Decimal(1).scaleb(-exponent)`. -/
def quantum (exponent : Nat) : ℚ := 1 / 10 ^ exponent

def currencyQuantum (currency : Option String) (exponent : Int) : Except Raised ℚ := do
  let (_, confirmed) ← requireCurrencyExponent currency exponent
  .ok (quantum confirmed)

/-- `require_exact_currency_amount`, of a value that is a decimal already. -/
def requireExactCurrencyAmount (A : Arithmetic) (value : Decimal) (currency : Option String)
    (exponent : Int) (field : String) (allowZero : Bool) : Except Raised Decimal := do
  let step ← currencyQuantum currency exponent
  match value with
  | .finite amount =>
    if amount < 0 ∨ (allowZero = false ∧ amount = 0) then
      .error (.invalidCurrencyAmount (field ++ " is outside the safe range"))
    else
      let rendered ← ofDecimal (A.quantize halfEven step (.finite amount))
      if (← ofDecimal (Decimal.eq (.finite amount) rendered)) then .ok (.finite amount)
      else .error (.invalidCurrencyAmount
        (field ++ " has excess precision for " ++ PyText.upper (PyText.strip (currency.getD ""))))
  | _ => .error (.invalidCurrencyAmount (field ++ " is outside the safe range"))

-- ------------------------------------------------------------
-- Rule contexts
-- ------------------------------------------------------------

structure RuleSettings where
  currency : String
  currencyExponent : Int
  cpaAmount : Decimal
  warningPercentOfStop : Decimal
  stopPercentOfBase : Decimal := .finite 80
  cpcWarningPercentOfStop : Option Decimal := none
  cpcStopPercentOfBase : Option Decimal := none
  cplWarningPercentOfStop : Option Decimal := none
  cplStopPercentOfBase : Option Decimal := none
  cprWarningPercentOfStop : Option Decimal := none
  cprStopPercentOfBase : Option Decimal := none
  spendNoDepWarningPercentOfStop : Option Decimal := none
  spendWithDepWarningPercentOfStop : Option Decimal := none
  cpcPercentOfCpa : Decimal := .finite 2
  cplPercentOfCpa : Decimal := .finite 10
  cprPercentOfCpa : Decimal := .finite 20
  cpcEnabled : Bool := true
  cplEnabled : Bool := true
  cprEnabled : Bool := true
  regsNoDepEnabled : Bool := true
  regsNoDepStopCount : Int := 5
  spendNoDepEnabled : Bool := true
  spendNoDepFromPercent : Decimal := .finite 50
  spendWithDepEnabled : Bool := true
  spendWithDepFromPercent : Decimal := .finite 70
  frequencyAnomalyEnabled : Bool := true
  frequencyCurrent : Option Decimal := none
  frequencyWarningThreshold : Decimal := .finite (5 / 2)
  frequencyStopThreshold : Decimal := .finite (7 / 2)
  reach : Option Int := none
  frequencyOutlierCap : Decimal := .finite 10
  minRatioDenominator : Int := 100
  externalDeposits : Int := 0
  deriving DecidableEq

structure Thresholds where
  base : Decimal
  stop : Decimal
  warning : Decimal
  deriving DecidableEq

structure RuleContext extends RuleSettings where
  cpc : Thresholds
  cpl : Thresholds
  cpr : Thresholds
  deriving DecidableEq

/-- `_base`, `_stop` and `_warn`: a percentage of an amount, at the step of the currency. -/
def percentOf (A : Arithmetic) (step : ℚ) (amount percent : Decimal) : Except Raised Decimal := do
  let product ← ofDecimal (A.mul amount percent)
  let share ← ofDecimal (A.div product (.finite 100))
  ofDecimal (A.quantize halfUp step share)

def thresholds (A : Arithmetic) (step : ℚ) (cpa percent stopPercent warningPercent : Decimal) :
    Except Raised Thresholds := do
  let base ← percentOf A step cpa percent
  let stop ← percentOf A step base stopPercent
  let warning ← percentOf A step stop warningPercent
  .ok { base, stop, warning }

def RuleSettings.context (A : Arithmetic) (settings : RuleSettings) :
    Except Raised RuleContext := do
  let (currency, exponent) ←
    requireCurrencyExponent (some settings.currency) settings.currencyExponent
  let cpaAmount ←
    requireExactCurrencyAmount A settings.cpaAmount (some currency) exponent "cpa_amount" false
  let step ← currencyQuantum (some currency) exponent
  let effective (own : Option Decimal) (shared : Decimal) := own.getD shared
  let cpc ← thresholds A step cpaAmount settings.cpcPercentOfCpa
    (effective settings.cpcStopPercentOfBase settings.stopPercentOfBase)
    (effective settings.cpcWarningPercentOfStop settings.warningPercentOfStop)
  let cpl ← thresholds A step cpaAmount settings.cplPercentOfCpa
    (effective settings.cplStopPercentOfBase settings.stopPercentOfBase)
    (effective settings.cplWarningPercentOfStop settings.warningPercentOfStop)
  let cpr ← thresholds A step cpaAmount settings.cprPercentOfCpa
    (effective settings.cprStopPercentOfBase settings.stopPercentOfBase)
    (effective settings.cprWarningPercentOfStop settings.warningPercentOfStop)
  .ok { settings with currency, currencyExponent := exponent, cpaAmount, cpc, cpl, cpr }

def RuleSettings.effectiveSpendNoDepWarningPercentOfStop (settings : RuleSettings) : Decimal :=
  settings.spendNoDepWarningPercentOfStop.getD settings.warningPercentOfStop

def RuleSettings.effectiveSpendWithDepWarningPercentOfStop (settings : RuleSettings) : Decimal :=
  settings.spendWithDepWarningPercentOfStop.getD settings.warningPercentOfStop

-- ------------------------------------------------------------
-- The context of an offer
-- ------------------------------------------------------------

structure OfferRules where
  code : String
  cpaThreshold : Option Decimal
  frequencyThreshold : Option Decimal
  currency : Option String := none
  stopPercentOfRule : Option Decimal := none
  warningPercentOfStop : Option Decimal := none
  cpcPercentOfCpa : Option Decimal := none
  cplPercentOfCpa : Option Decimal := none
  cprPercentOfCpa : Option Decimal := none
  regsNoDepStopCount : Option Int := none
  spendNoDepFromPercent : Option Decimal := none
  spendWithDepFromPercent : Option Decimal := none
  minRatioDenominator : Option Int := none

structure RowEvidence where
  accountCurrency : String
  currencyExponent : Int
  externalDeposits : Int := 0
  frequencyCurrent : Option Decimal := none
  reach : Option Int := none

def confirmedPercent : Option Decimal → Option ℚ
  | some (.finite percent) => if percent ≤ 0 ∨ 100 < percent then none else some percent
  | _ => none

def frequencyThresholds (A : Arithmetic) (threshold : Option Decimal) (warningPercent : ℚ) :
    Except Raised (Bool × Decimal × Decimal) := do
  match threshold with
  | none => .ok (false, .finite (7 / 2), .finite (5 / 2))
  | some threshold =>
    if (← ofDecimal (Decimal.lt (.finite 0) threshold)) then
      let product ← ofDecimal (A.mul threshold (.finite warningPercent))
      let share ← ofDecimal (A.div product (.finite 100))
      let warning ← ofDecimal (A.quantize halfEven (1 / 100) share)
      .ok (true, threshold, warning)
    else .ok (false, .finite (7 / 2), .finite (5 / 2))

def buildRuleContext (A : Arithmetic) (offer : OfferRules) (evidence : RowEvidence) :
    Except Raised RuleContext := do
  match offer.cpaThreshold with
  | some (.finite cpa) =>
    if cpa ≤ 0 then .error (.missingOfferCpa offer.code)
    else
      let (accountCurrency, exponent) ←
        requireCurrencyExponent (some evidence.accountCurrency) evidence.currencyExponent
      if validatedCurrencyCode offer.currency ≠ some accountCurrency then
        .error (.offerCurrencyMismatch offer.code offer.currency accountCurrency)
      else
        match confirmedPercent offer.warningPercentOfStop,
          confirmedPercent offer.stopPercentOfRule with
        | some warningPercent, some stopPercent =>
          let (enabled, stop, warning) ←
            frequencyThresholds A offer.frequencyThreshold warningPercent
          let settings : RuleSettings :=
            { currency := accountCurrency
              currencyExponent := exponent
              cpaAmount := .finite cpa
              warningPercentOfStop := .finite warningPercent
              stopPercentOfBase := .finite stopPercent
              externalDeposits := evidence.externalDeposits
              frequencyAnomalyEnabled := enabled
              frequencyCurrent := if enabled then evidence.frequencyCurrent else none
              frequencyStopThreshold := stop
              frequencyWarningThreshold := warning
              reach := evidence.reach
              cpcPercentOfCpa := offer.cpcPercentOfCpa.getD (.finite 2)
              cplPercentOfCpa := offer.cplPercentOfCpa.getD (.finite 10)
              cprPercentOfCpa := offer.cprPercentOfCpa.getD (.finite 20)
              regsNoDepStopCount := offer.regsNoDepStopCount.getD 5
              spendNoDepFromPercent := offer.spendNoDepFromPercent.getD (.finite 50)
              spendWithDepFromPercent := offer.spendWithDepFromPercent.getD (.finite 70)
              minRatioDenominator := offer.minRatioDenominator.getD 100 }
          match settings.context A with
          | .error (.invalidCurrencyAmount _) => .error (.missingOfferCpa offer.code)
          | other => other
        | _, _ => .error (.invalidOfferSensitivity offer.code)
  | _ => .error (.missingOfferCpa offer.code)

end StopBot.Rules
