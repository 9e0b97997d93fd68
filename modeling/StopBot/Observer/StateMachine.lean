import StopBot.Lib.PyText

/-!
# The alert state machine

`core/observer/state_machine.py`: the pure decision from the stored alert
state of an ad and the rule codes of one scan. `uuid.uuid4()` is the argument
`uuid4` of `decide`. An instant is an `Int` of microseconds throughout.
-/

namespace StopBot.Observer

abbrev Uuid := Nat

inductive AlertState
  | normal
  | warningSent
  | stopSent
  | claimed
  | disabled
  deriving DecidableEq, Repr

inductive AlertStage
  | warning
  | stop
  deriving DecidableEq, Repr

def AlertState.text : AlertState → String
  | .normal => "normal"
  | .warningSent => "warning_sent"
  | .stopSent => "stop_sent"
  | .claimed => "claimed"
  | .disabled => "disabled"

/-- The states the observer must leave to the command and worker planes. -/
def AlertState.terminal : AlertState → Bool
  | .claimed | .disabled => true
  | .normal | .warningSent | .stopSent => false

structure FsmInput where
  currentState : AlertState
  currentStage : Option AlertStage
  currentOpenToken : Option Uuid
  warningRuleCodes : List String
  stopRuleCodes : List String
  isCabinetReset : Bool := false
  deriving DecidableEq, Repr

structure FsmTransition where
  newState : AlertState
  newStage : Option AlertStage
  newOpenToken : Option Uuid
  emitAlert : Bool := false
  alertStage : Option AlertStage := none
  alertRuleCodes : List String := []
  createDisableTask : Bool := false
  transitionReason : String := ""
  deriving DecidableEq, Repr

def hasWarnings (inp : FsmInput) : Bool :=
  !inp.warningRuleCodes.isEmpty

def hasStops (inp : FsmInput) : Bool :=
  !inp.stopRuleCodes.isEmpty

def FsmInput.stay (inp : FsmInput) (reason : String) : FsmTransition :=
  { newState := inp.currentState
    newStage := inp.currentStage
    newOpenToken := inp.currentOpenToken
    transitionReason := inp.currentState.text ++ " → " ++ inp.currentState.text ++ reason }

def decideStop (uuid4 : Uuid) (inp : FsmInput) : FsmTransition :=
  match inp.currentState with
  | .warningSent =>
    { newState := .stopSent
      newStage := some .stop
      newOpenToken := inp.currentOpenToken <|> some uuid4
      emitAlert := true
      alertStage := some .stop
      alertRuleCodes := inp.stopRuleCodes
      createDisableTask := true
      transitionReason := "warning_sent → stop_sent (эскалация, token сохранён)" }
  | .normal =>
    { newState := .stopSent
      newStage := some .stop
      newOpenToken := some uuid4
      emitAlert := true
      alertStage := some .stop
      alertRuleCodes := inp.stopRuleCodes
      createDisableTask := true
      transitionReason := "normal → stop_sent (новый STOP-инцидент)" }
  | .stopSent =>
    -- the alert is not repeated, and neither `alert_stage` nor the codes are given
    { newState := .stopSent
      newStage := some .stop
      newOpenToken := inp.currentOpenToken
      createDisableTask := true
      transitionReason := "stop_sent → stop_sent (STOP активен, recovery pause-задачи)" }
  | .claimed | .disabled => inp.stay " (STOP остаётся, ждём финализации)"

/-- The branch of `decide` for a scan with WARNING codes and no STOP code. -/
def decideWarning (uuid4 : Uuid) (inp : FsmInput) : FsmTransition :=
  match inp.currentState with
  | .normal =>
    { newState := .warningSent
      newStage := some .warning
      newOpenToken := some uuid4
      emitAlert := true
      alertStage := some .warning
      alertRuleCodes := inp.warningRuleCodes
      transitionReason := "normal → warning_sent" }
  | .warningSent =>
    { newState := .warningSent
      newStage := some .warning
      newOpenToken := inp.currentOpenToken
      transitionReason := "warning_sent → warning_sent (повтор WARNING — не дублируем)" }
  | .stopSent =>
    { newState := .warningSent
      newStage := some .warning
      newOpenToken := inp.currentOpenToken
      transitionReason := "stop_sent → warning_sent (деэскалация без emit)" }
  | .claimed | .disabled => inp.stay " (WARNING игнорируется в финальных состояниях)"

def decideQuiet (inp : FsmInput) : FsmTransition :=
  match inp.currentState with
  | .warningSent | .stopSent =>
    if inp.isCabinetReset then
      inp.stay " (zero-scan нового кабинетного дня — не деэскалируем)"
    else
      { newState := .normal
        newStage := none
        newOpenToken := none
        transitionReason := inp.currentState.text ++ " → normal (правила больше не сработали)" }
  | .normal | .claimed | .disabled => inp.stay " (no change)"

def decide (uuid4 : Uuid) (inp : FsmInput) : FsmTransition :=
  if hasStops inp then decideStop uuid4 inp
  else if hasWarnings inp then decideWarning uuid4 inp
  else decideQuiet inp

def deliveryDisabledStatuses : List String :=
  ["OFF", "PAUSED", "ADSET_PAUSED", "CAMPAIGN_PAUSED", "CAMPAIGN_GROUP_PAUSED", "ARCHIVED",
    "DELETED"]

def normalizedDeliveryStatus (value : Option String) : String :=
  Lib.PyText.upper (Lib.PyText.strip (value.getD ""))

def isDeliveryDisabled (value : Option String) : Bool :=
  deliveryDisabledStatuses.contains (normalizedDeliveryStatus value)

def shouldReopenDisabled (currentState : AlertState) (deliveryStatus : Option String) : Bool :=
  currentState == .disabled && normalizedDeliveryStatus deliveryStatus == "ACTIVE"

def shouldSyncDisabled (currentState : AlertState) (deliveryStatus : Option String) : Bool :=
  (currentState == .warningSent || currentState == .stopSent) && isDeliveryDisabled deliveryStatus

-- ------------------------------------------------------------
-- What a decision can be
-- ------------------------------------------------------------

@[simp] theorem hasStops_eq_true_iff (inp : FsmInput) :
    hasStops inp = true ↔ inp.stopRuleCodes ≠ [] := by
  simp [hasStops]

@[simp] theorem FsmInput.stay_newState (inp : FsmInput) (reason : String) :
    (inp.stay reason).newState = inp.currentState := rfl

/-- The state `cur` is left to `next`: terminal states stay, and no other
state becomes terminal. -/
def KeepsTerminal (cur next : AlertState) : Prop :=
  (cur.terminal = true → next = cur) ∧ (cur.terminal = false → next.terminal = false)

theorem decideStop_keepsTerminal (uuid4 : Uuid) (inp : FsmInput) :
    KeepsTerminal inp.currentState (decideStop uuid4 inp).newState := by
  unfold decideStop
  cases hs : inp.currentState <;> simp [KeepsTerminal, AlertState.terminal, hs]

theorem decideWarning_keepsTerminal (uuid4 : Uuid) (inp : FsmInput) :
    KeepsTerminal inp.currentState (decideWarning uuid4 inp).newState := by
  unfold decideWarning
  cases hs : inp.currentState <;> simp [KeepsTerminal, AlertState.terminal, hs]

theorem decideQuiet_keepsTerminal (inp : FsmInput) :
    KeepsTerminal inp.currentState (decideQuiet inp).newState := by
  unfold decideQuiet
  cases hs : inp.currentState <;> cases hr : inp.isCabinetReset <;>
    simp [KeepsTerminal, AlertState.terminal, hs]

theorem decide_keepsTerminal (uuid4 : Uuid) (inp : FsmInput) :
    KeepsTerminal inp.currentState (decide uuid4 inp).newState := by
  unfold decide
  split
  · exact decideStop_keepsTerminal uuid4 inp
  · split
    · exact decideWarning_keepsTerminal uuid4 inp
    · exact decideQuiet_keepsTerminal inp

/-- A STOP scan leads to `stop_sent` exactly from the three open states, and it
carries its codes exactly when it opens or escalates the incident. -/
theorem decideStop_cases (uuid4 : Uuid) (inp : FsmInput) :
    (inp.currentState = .stopSent ∧ (decideStop uuid4 inp).newState = .stopSent ∧
      (decideStop uuid4 inp).alertStage = none) ∨
    (inp.currentState ≠ .stopSent ∧ inp.currentState.terminal = false ∧
      (decideStop uuid4 inp).newState = .stopSent ∧
      (decideStop uuid4 inp).newStage = some .stop ∧
      (decideStop uuid4 inp).alertStage = some .stop ∧
      (decideStop uuid4 inp).alertRuleCodes = inp.stopRuleCodes) ∨
    (inp.currentState.terminal = true ∧
      (decideStop uuid4 inp).newState = inp.currentState) := by
  unfold decideStop FsmInput.stay
  cases hs : inp.currentState <;> simp [AlertState.terminal]

end StopBot.Observer
