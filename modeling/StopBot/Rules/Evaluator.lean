import StopBot.Observer.StateMachine
import StopBot.Rules.Context

/-!
# The stop rules

`core/rules/evaluator.py`: the funnel ladder and the frequency rule decide the
stage of a scanned row, and a second pass over the same rungs picks the
candidate nearest to its stop. Of the texts of a hit the titles are kept; the
amounts that the summaries print are still rounded to be printed, since that
rounding can raise.
-/

namespace StopBot.Rules

open Lib Observer

inductive RuleCode
  | cpcStop
  | cplStop
  | cprStop
  | regsNoDepStop
  | spendNoDepRange
  | spendWithDepRange
  | frequencyAnomaly
  deriving DecidableEq, Repr

/-- `rule_label`. -/
def RuleCode.label : RuleCode → String
  | .cpcStop => "Дорогой клик"
  | .cplStop => "Дорогой лид"
  | .cprStop => "Дорогая рега"
  | .regsNoDepStop => "Реги без депозитов"
  | .spendNoDepRange => "Расход без депа"
  | .spendWithDepRange => "Расход с депозитом"
  | .frequencyAnomaly => "Выгорание аудитории"

structure RuleHit where
  code : RuleCode
  title : String
  stage : Option AlertStage
  value : Decimal
  threshold : Decimal
  deriving DecidableEq

structure RuleEvaluation where
  stage : Option AlertStage
  warningHits : List RuleHit
  stopHits : List RuleHit
  nearestStop : Option RuleHit
  deriving DecidableEq

structure ScannedAdRow where
  spend : Decimal
  clicks : Int := 0
  cpc : Option Decimal := none
  leads : Int := 0
  costPerLead : Option Decimal := none
  registrations : Int := 0
  costPerRegistration : Option Decimal := none

def ruleHit (code : RuleCode) (stage : Option AlertStage) (value threshold : Decimal) : RuleHit :=
  { code, title := code.label, stage, value, threshold }

-- ------------------------------------------------------------
-- Arithmetic of the rules
-- ------------------------------------------------------------

def ratioPercent (A : Arithmetic) (value total : Decimal) : Except Raised Decimal := do
  if (← ofDecimal (total.le (.finite 0))) then .ok (.finite 0)
  else
    let ratio ← ofDecimal (A.div value total)
    ofDecimal (A.mul ratio (.finite 100))

/-- `_warning_threshold` and `_apply_downward_stop`: a percentage, not quantized. -/
def shareOf (A : Arithmetic) (value percent : Decimal) : Except Raised Decimal := do
  let product ← ofDecimal (A.mul value percent)
  ofDecimal (A.div product (.finite 100))

def exactDerivedMoney : Decimal → Except Raised Decimal
  | .finite amount =>
    if amount < 0 then .error (.valueError "derived money metric must be finite and non-negative")
    else .ok (.finite amount)
  | _ => .error (.valueError "derived money metric must be finite and non-negative")

def roundPercent (A : Arithmetic) (value : Decimal) : Except Raised Decimal :=
  ofDecimal (A.quantize halfUp (1 / 100) value)

/-- The number `_format_money_value` prints. -/
def formatMoneyValue (A : Arithmetic) (value : Decimal) (exponent : Int) : Except Raised Decimal :=
  ofDecimal (A.quantize halfUp (quantum exponent.toNat) value)

/-- The numbers `_format_threshold_value` prints: the base too, when it differs. -/
def formatThresholdValue (A : Arithmetic) (effective base : Decimal) (exponent : Int) :
    Except Raised (List Decimal) := do
  let same ← ofDecimal (Decimal.eq effective base)
  let printed ← formatMoneyValue A effective exponent
  if same then .ok [printed]
  else
    let printedBase ← formatMoneyValue A base exponent
    .ok [printed, printedBase]

def warningCount (stopCount : Int) : Option Decimal :=
  if stopCount ≤ 1 then none else some (.finite (stopCount - 1 : Int))

-- ------------------------------------------------------------
-- The ladder
-- ------------------------------------------------------------

/-- STOP from the stop threshold on, WARNING from the warning threshold on. -/
def reached (code : RuleCode) (current stop warning : Decimal) :
    Except Raised (Option RuleHit) := do
  if (← ofDecimal (stop.le current)) then .ok (some (ruleHit code (some .stop) current stop))
  else if (← ofDecimal (warning.le current)) then
    .ok (some (ruleHit code (some .warning) current warning))
  else .ok none

def evaluateMetricOnly (A : Arithmetic) (metric : Option Decimal) (enabled : Bool)
    (thresholds : Thresholds) (code : RuleCode) (exponent : Int) :
    Except Raised (Option RuleHit) := do
  match enabled, metric with
  | true, some metric =>
    let current ← exactDerivedMoney metric
    let _ ← formatMoneyValue A current exponent
    let _ ← formatThresholdValue A thresholds.stop thresholds.base exponent
    reached code current thresholds.stop thresholds.warning
  | _, _ => .ok none

def evaluateGuardrailOnly (A : Arithmetic) (spend : Decimal) (enabled : Bool)
    (thresholds : Thresholds) (code : RuleCode) (exponent : Int) :
    Except Raised (Option RuleHit) := do
  if enabled then
    let _ ← formatMoneyValue A spend exponent
    let _ ← formatThresholdValue A thresholds.stop thresholds.base exponent
    reached code spend thresholds.stop thresholds.warning
  else .ok none

def evaluateRegsWithoutDeposits (row : ScannedAdRow) (ctx : RuleContext) : Option RuleHit :=
  if !ctx.regsNoDepEnabled || ctx.externalDeposits != 0 then none
  else
    let current : Decimal := .finite row.registrations
    if ctx.regsNoDepStopCount ≤ row.registrations then
      some (ruleHit .regsNoDepStop (some .stop) current (.finite ctx.regsNoDepStopCount))
    else
      match warningCount ctx.regsNoDepStopCount with
      | some warning =>
        if ctx.regsNoDepStopCount - 1 ≤ row.registrations then
          some (ruleHit .regsNoDepStop (some .warning) current warning)
        else none
      | none => none

def evaluateSpendRange (A : Arithmetic) (enabled : Bool) (currentValue cpa : Decimal)
    (exponent : Int) (stopFrom warningPercent stopPercentOfBase : Decimal) (code : RuleCode) :
    Except Raised (Option RuleHit) := do
  if enabled then
    let effectiveFrom ← shareOf A stopFrom stopPercentOfBase
    let warningFrom ← shareOf A effectiveFrom warningPercent
    let _ ← formatMoneyValue A cpa exponent
    let current ← roundPercent A currentValue
    let stopThreshold ← roundPercent A effectiveFrom
    if (← ofDecimal (effectiveFrom.le current)) then
      .ok (some (ruleHit code (some .stop) current stopThreshold))
    else if (← ofDecimal (warningFrom.le current)) then
      if (← ofDecimal (current.lt effectiveFrom)) then
        let warningThreshold ← roundPercent A warningFrom
        .ok (some (ruleHit code (some .warning) current warningThreshold))
      else .ok none
    else .ok none
  else .ok none

def pickHighestPriorityHit (hits : List (Option RuleHit)) : Option RuleHit :=
  let candidates := hits.filterMap id
  match candidates.find? fun hit => hit.stage = some .stop with
  | some hit => some hit
  | none => candidates.find? fun hit => hit.stage = some .warning

def shouldApplyRegistrationSpendGuardrail (row : ScannedAdRow) (ctx : RuleContext) :
    Except Raised Bool := do
  if row.registrations ≤ 0 then .ok false
  else
    match row.costPerRegistration with
    | none => .ok true
    | some cost =>
      let current ← exactDerivedMoney cost
      ofDecimal (current.le ctx.cpr.stop)

def hasConfirmedDepositSignal (ctx : RuleContext) : Bool :=
  Decidable.decide (1 ≤ ctx.externalDeposits)

def evaluateClickStage (A : Arithmetic) (row : ScannedAdRow) (ctx : RuleContext) :
    Except Raised (Option RuleHit) := do
  if row.clicks = 0 then
    evaluateGuardrailOnly A row.spend ctx.cpcEnabled ctx.cpc .cpcStop ctx.currencyExponent
  else
    let cpcHit ← evaluateMetricOnly A row.cpc ctx.cpcEnabled ctx.cpc .cpcStop ctx.currencyExponent
    let cplHit ←
      evaluateGuardrailOnly A row.spend ctx.cplEnabled ctx.cpl .cplStop ctx.currencyExponent
    .ok (pickHighestPriorityHit [cpcHit, cplHit])

def evaluateLeadStage (A : Arithmetic) (row : ScannedAdRow) (ctx : RuleContext) :
    Except Raised (Option RuleHit) := do
  let cplHit ←
    evaluateMetricOnly A row.costPerLead ctx.cplEnabled ctx.cpl .cplStop ctx.currencyExponent
  let cprHit ←
    evaluateGuardrailOnly A row.spend ctx.cprEnabled ctx.cpr .cprStop ctx.currencyExponent
  .ok (pickHighestPriorityHit [cplHit, cprHit])

def registrationSpendHit (A : Arithmetic) (row : ScannedAdRow) (ctx : RuleContext) :
    Except Raised (Option RuleHit) := do
  if (← shouldApplyRegistrationSpendGuardrail row ctx) then
    evaluateSpendRange A ctx.spendNoDepEnabled (← ratioPercent A row.spend ctx.cpaAmount)
      ctx.cpaAmount ctx.currencyExponent ctx.spendNoDepFromPercent
      ctx.effectiveSpendNoDepWarningPercentOfStop ctx.stopPercentOfBase .spendNoDepRange
  else .ok none

def evaluateRegistrationStage (A : Arithmetic) (row : ScannedAdRow) (ctx : RuleContext) :
    Except Raised (Option RuleHit) := do
  let cprHit ← evaluateMetricOnly A row.costPerRegistration ctx.cprEnabled ctx.cpr .cprStop
    ctx.currencyExponent
  let spendHit ← registrationSpendHit A row ctx
  .ok (pickHighestPriorityHit [cprHit, evaluateRegsWithoutDeposits row ctx, spendHit])

def evaluateDepositStage (A : Arithmetic) (row : ScannedAdRow) (ctx : RuleContext) :
    Except Raised (Option RuleHit) := do
  evaluateSpendRange A ctx.spendWithDepEnabled (← ratioPercent A row.spend ctx.cpaAmount)
    ctx.cpaAmount ctx.currencyExponent ctx.spendWithDepFromPercent
    ctx.effectiveSpendWithDepWarningPercentOfStop ctx.stopPercentOfBase .spendWithDepRange

def evaluateFunnelLadder (A : Arithmetic) (row : ScannedAdRow) (ctx : RuleContext) :
    Except Raised (Option RuleHit) :=
  if hasConfirmedDepositSignal ctx then evaluateDepositStage A row ctx
  else if 1 ≤ row.registrations then evaluateRegistrationStage A row ctx
  else if 1 ≤ row.leads then evaluateLeadStage A row ctx
  else evaluateClickStage A row ctx

-- ------------------------------------------------------------
-- Frequency
-- ------------------------------------------------------------

def significantRatioDenominator (volume : Option Int) (minDenominator : Int) : Bool :=
  match volume with
  | some volume => Decidable.decide (minDenominator ≤ volume)
  | none => false

def confirmedFrequency (A : Arithmetic) (ctx : RuleContext) : Except Raised (Option Decimal) := do
  match ctx.frequencyAnomalyEnabled, ctx.frequencyCurrent with
  | true, some current =>
    if significantRatioDenominator ctx.reach ctx.minRatioDenominator then
      let scaled ← ofDecimal (A.mul ctx.frequencyStopThreshold (.finite 3))
      let larger ← ofDecimal (ctx.frequencyOutlierCap.lt scaled)
      let effectiveCap := if larger then scaled else ctx.frequencyOutlierCap
      if (← ofDecimal (effectiveCap.lt current)) then .ok none else .ok (some current)
    else .ok none
  | _, _ => .ok none

def evaluateFrequencyAnomaly (A : Arithmetic) (ctx : RuleContext) :
    Except Raised (Option RuleHit) := do
  match ← confirmedFrequency A ctx with
  | none => .ok none
  | some current =>
    if (← ofDecimal (ctx.frequencyStopThreshold.lt current)) then
      .ok (some (ruleHit .frequencyAnomaly (some .stop) current ctx.frequencyStopThreshold))
    else if (← ofDecimal (ctx.frequencyWarningThreshold.lt current)) then
      .ok (some (ruleHit .frequencyAnomaly (some .warning) current ctx.frequencyWarningThreshold))
    else .ok none

-- ------------------------------------------------------------
-- Candidates for the nearest stop
-- ------------------------------------------------------------

def stopProgressHit (code : RuleCode) (value stopThreshold : Decimal) (stage : Option AlertStage) :
    Except Raised RuleHit :=
  match value, stopThreshold with
  | .finite amount, .finite stop =>
    if amount < 0 then .error (.valueError "rule progress value must be finite and non-negative")
    else if stop ≤ 0 then .error (.valueError "stop threshold must be finite and positive")
    else .ok (ruleHit code stage (.finite amount) (.finite stop))
  | .finite amount, _ =>
    if amount < 0 then .error (.valueError "rule progress value must be finite and non-negative")
    else .error (.valueError "stop threshold must be finite and positive")
  | _, _ => .error (.valueError "rule progress value must be finite and non-negative")

def stageFrom (current stop warning : Decimal) : Except Raised (Option AlertStage) := do
  if (← ofDecimal (stop.le current)) then .ok (some .stop)
  else if (← ofDecimal (warning.le current)) then .ok (some .warning)
  else .ok none

def decimalStopCandidate (value : Decimal) (enabled : Bool) (stop warning : Decimal)
    (code : RuleCode) : Except Raised (Option RuleHit) := do
  if enabled then
    let stage ← stageFrom value stop warning
    let hit ← stopProgressHit code value stop stage
    .ok (some hit)
  else .ok none

def moneyStopCandidate (value : Option Decimal) (enabled : Bool) (thresholds : Thresholds)
    (code : RuleCode) : Except Raised (Option RuleHit) := do
  match value with
  | none => .ok none
  | some value =>
    let current ← exactDerivedMoney value
    decimalStopCandidate current enabled thresholds.stop thresholds.warning code

def registrationsWithoutDepositStopCandidate (row : ScannedAdRow) (ctx : RuleContext) :
    Except Raised (Option RuleHit) :=
  if !ctx.regsNoDepEnabled || ctx.externalDeposits != 0 then .ok none
  else
    let stop : Decimal := .finite ctx.regsNoDepStopCount
    decimalStopCandidate (.finite row.registrations) true stop
      ((warningCount ctx.regsNoDepStopCount).getD stop) .regsNoDepStop

def spendRangeStopCandidate (A : Arithmetic) (enabled : Bool)
    (currentValue stopFrom warningPercent stopPercentOfBase : Decimal) (code : RuleCode) :
    Except Raised (Option RuleHit) := do
  if enabled then
    let current ← roundPercent A currentValue
    let stopThreshold ← shareOf A stopFrom stopPercentOfBase
    let warningThreshold ← shareOf A stopThreshold warningPercent
    let stage ← stageFrom current stopThreshold warningThreshold
    let rounded ← roundPercent A stopThreshold
    let hit ← stopProgressHit code current rounded stage
    .ok (some hit)
  else .ok none

def spendWithoutDepositStopCandidate (A : Arithmetic) (row : ScannedAdRow) (ctx : RuleContext) :
    Except Raised (Option RuleHit) := do
  spendRangeStopCandidate A ctx.spendNoDepEnabled (← ratioPercent A row.spend ctx.cpaAmount)
    ctx.spendNoDepFromPercent ctx.effectiveSpendNoDepWarningPercentOfStop ctx.stopPercentOfBase
    .spendNoDepRange

def spendWithDepositStopCandidate (A : Arithmetic) (row : ScannedAdRow) (ctx : RuleContext) :
    Except Raised (Option RuleHit) := do
  spendRangeStopCandidate A ctx.spendWithDepEnabled (← ratioPercent A row.spend ctx.cpaAmount)
    ctx.spendWithDepFromPercent ctx.effectiveSpendWithDepWarningPercentOfStop ctx.stopPercentOfBase
    .spendWithDepRange

def strictStageFrom (current stop warning : Decimal) : Except Raised (Option AlertStage) := do
  if (← ofDecimal (stop.lt current)) then .ok (some .stop)
  else if (← ofDecimal (warning.lt current)) then .ok (some .warning)
  else .ok none

def frequencyStopCandidate (A : Arithmetic) (ctx : RuleContext) :
    Except Raised (Option RuleHit) := do
  match ← confirmedFrequency A ctx with
  | none => .ok none
  | some current =>
    let stage ← strictStageFrom current ctx.frequencyStopThreshold ctx.frequencyWarningThreshold
    let hit ← stopProgressHit .frequencyAnomaly current ctx.frequencyStopThreshold stage
    .ok (some hit)

def registrationSpendCandidate (A : Arithmetic) (row : ScannedAdRow) (ctx : RuleContext) :
    Except Raised (Option RuleHit) := do
  if (← shouldApplyRegistrationSpendGuardrail row ctx) then
    spendWithoutDepositStopCandidate A row ctx
  else .ok none

def funnelStopCandidates (A : Arithmetic) (row : ScannedAdRow) (ctx : RuleContext) :
    Except Raised (List (Option RuleHit)) := do
  if hasConfirmedDepositSignal ctx then
    let spend ← spendWithDepositStopCandidate A row ctx
    .ok [spend]
  else if 1 ≤ row.registrations then
    let spend ← registrationSpendCandidate A row ctx
    let cpr ← moneyStopCandidate row.costPerRegistration ctx.cprEnabled ctx.cpr .cprStop
    let regs ← registrationsWithoutDepositStopCandidate row ctx
    .ok [cpr, regs, spend]
  else if 1 ≤ row.leads then
    let cpl ← moneyStopCandidate row.costPerLead ctx.cplEnabled ctx.cpl .cplStop
    let cpr ← decimalStopCandidate row.spend ctx.cprEnabled ctx.cpr.stop ctx.cpr.warning .cprStop
    .ok [cpl, cpr]
  else if 1 ≤ row.clicks then
    let cpc ← moneyStopCandidate row.cpc ctx.cpcEnabled ctx.cpc .cpcStop
    let cpl ← decimalStopCandidate row.spend ctx.cplEnabled ctx.cpl.stop ctx.cpl.warning .cplStop
    .ok [cpc, cpl]
  else
    let cpc ← decimalStopCandidate row.spend ctx.cpcEnabled ctx.cpc.stop ctx.cpc.warning .cpcStop
    .ok [cpc]

def progress (A : Arithmetic) (hit : RuleHit) : Except Raised Decimal :=
  ofDecimal (A.div hit.value hit.threshold)

/-- `max` with a key: the first of the largest. -/
def furthest (A : Arithmetic) (best : RuleHit) (key : Decimal) :
    List RuleHit → Except Raised RuleHit
  | [] => .ok best
  | hit :: rest => do
    let own ← progress A hit
    if (← ofDecimal (key.lt own)) then furthest A hit own rest else furthest A best key rest

def nearestStopHit (A : Arithmetic) (row : ScannedAdRow) (ctx : RuleContext) :
    Except Raised (Option RuleHit) := do
  let funnel ← funnelStopCandidates A row ctx
  let frequency ← frequencyStopCandidate A ctx
  match (funnel ++ [frequency]).filterMap id with
  | [] => .ok none
  | hit :: rest =>
    let key ← progress A hit
    let best ← furthest A hit key rest
    .ok (some best)

-- ------------------------------------------------------------
-- The evaluation
-- ------------------------------------------------------------

def evaluationOf (final nearest : Option RuleHit) : RuleEvaluation :=
  match final with
  | none => { stage := none, warningHits := [], stopHits := [], nearestStop := nearest }
  | some hit =>
    if hit.stage = some .stop then
      { stage := some .stop, warningHits := [], stopHits := [hit], nearestStop := nearest }
    else { stage := some .warning, warningHits := [hit], stopHits := [], nearestStop := nearest }

def evaluateStopRules (A : Arithmetic) (row : ScannedAdRow) (ctx : RuleContext) :
    Except Raised RuleEvaluation := do
  let _ ← requireExactCurrencyAmount A row.spend (some ctx.currency) ctx.currencyExponent
    "spend" true
  let funnelHit ← evaluateFunnelLadder A row ctx
  let freqHit ← evaluateFrequencyAnomaly A ctx
  let nearest ← nearestStopHit A row ctx
  .ok (evaluationOf (pickHighestPriorityHit [funnelHit, freqHit]) nearest)

end StopBot.Rules
