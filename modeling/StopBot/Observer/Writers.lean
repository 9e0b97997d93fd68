import StopBot.Lib.PyText
import StopBot.Lib.Runs
import StopBot.Observer.StateMachine

/-!
# Writers of `ad_alert_state`

The upsert of `core/observer/writers.py` and every other statement that
changes the alert row of an ad: the projections of a confirmed mutation
(`core/meta_api/fsm_sync.py`), the observer's own reopen and offline sync, the
manual claim, the compensation of an unsafe activation and the insert of an
enable grace. `NOW()` is an argument of each statement.

An observer cycle loads its snapshot once and writes much later, so the cycle
is a little program of three steps and every other writer may run in between.
-/

namespace StopBot.Observer

open Lib

/-- The columns of `ad_alert_state` that the writers below read or set. -/
structure AlertRow where
  alertState : AlertState := .normal
  currentStage : Option AlertStage := none
  openStateToken : Option Uuid := none
  warningRuleCodes : List String := []
  stopRuleCodes : List String := []
  snoozedUntil : Option Int := none
  lastScanId : Option Int := none
  lastTransitionAt : Int
  deriving DecidableEq, Repr

-- ------------------------------------------------------------
-- The upsert of the observer
-- ------------------------------------------------------------

def warningsFrom (transition : FsmTransition) : List String :=
  if transition.alertStage = some .warning then transition.alertRuleCodes else []

def stopsFrom (transition : FsmTransition) : List String :=
  if transition.alertStage = some .stop then transition.alertRuleCodes else []

def excluded (now : Int) (transition : FsmTransition) (scanId : Option Int) : AlertRow :=
  { alertState := transition.newState
    currentStage := transition.newStage
    openStateToken := transition.newOpenToken
    warningRuleCodes := warningsFrom transition
    stopRuleCodes := stopsFrom transition
    lastScanId := scanId
    lastTransitionAt := now }

/-- `ON CONFLICT (ad_id) DO UPDATE … WHERE alert_state NOT IN ('claimed', 'disabled')`. -/
def doUpdate (now : Int) (row new : AlertRow) : AlertRow :=
  if row.alertState.terminal then row
  else
    { new with
      snoozedUntil :=
        if new.alertState = .normal then none
        else if row.alertState = .normal then none
        else row.snoozedUntil
      lastTransitionAt := if row.alertState ≠ new.alertState then now else row.lastTransitionAt }

/-- The upsert; the incident, the notification and the auto-pause command are
in the same transaction, so when one of them raises nothing is `committed`. -/
def applyFsmTransition (now : Int) (transition : FsmTransition) (scanId : Option Int)
    (committed : Bool) (row : Option AlertRow) : Option AlertRow :=
  if committed then
    match row with
    | none => some (excluded now transition scanId)
    | some row => some (doUpdate now row (excluded now transition scanId))
  else row

-- ------------------------------------------------------------
-- The other writers
-- ------------------------------------------------------------

def resetDisabled (now : Int) (row : AlertRow) : Option AlertRow :=
  if row.alertState ∈ [.warningSent, .stopSent, .claimed] then
    some { row with alertState := .disabled, lastTransitionAt := now }
  else none

def cleared (now : Int) (row : AlertRow) : AlertRow :=
  { row with
    alertState := .normal
    currentStage := none
    openStateToken := none
    warningRuleCodes := []
    stopRuleCodes := []
    snoozedUntil := none
    lastTransitionAt := now }

def resetEnabled (now : Int) (row : AlertRow) : Option AlertRow :=
  if row.alertState = .disabled then some (cleared now row) else none

def resetAlertStateAfterEnableSucceeded (now : Int) (row : AlertRow) : Option AlertRow :=
  if row.alertState ≠ .normal then some (cleared now row) else none

def markAlertStateClaimed (now : Int) (row : AlertRow) : Option AlertRow :=
  if row.alertState ∈ [.warningSent, .stopSent] then
    some { row with alertState := .claimed, lastTransitionAt := now }
  else none

def reactivationCooldownMinutes : Int := 15

def minutes (n : Int) : Int := n * 60000000

def reopenReactivatedAlertState (now : Int) (row : AlertRow) : Option AlertRow :=
  if row.alertState = .disabled ∧
      row.lastTransitionAt < now - minutes reactivationCooldownMinutes then
    some { row with
      alertState := .normal
      currentStage := none
      openStateToken := none
      snoozedUntil := none
      lastTransitionAt := now }
  else none

/-- A row without an open token raises after the update, which rolls it back. -/
def markDisabledWhenOffline (now : Int) (row : AlertRow) : Except String (Option AlertRow) :=
  if row.alertState ∈ [.warningSent, .stopSent] ∧
      row.lastTransitionAt < now - minutes reactivationCooldownMinutes then
    if row.openStateToken.isNone then
      .error "offline incident transition has no open_state_token"
    else .ok (some { row with alertState := .disabled, lastTransitionAt := now })
  else .ok none

/-- The alert update of `commit_compensation` in `apps/meta_api_worker/main.py`. -/
def openCompensationIncident (now : Int) (transitionToken : Uuid) (row : AlertRow) :
    Option AlertRow :=
  if row.alertState ∈ [.normal, .disabled] then
    some { row with
      alertState := .stopSent
      currentStage := some .stop
      openStateToken := row.openStateToken <|> some transitionToken
      lastTransitionAt := now }
  else none

inductive Writer
  | resetDisabled
  | resetEnabled
  | resetAlertStateAfterEnableSucceeded
  | markAlertStateClaimed
  | reopenReactivatedAlertState
  | markDisabledWhenOffline
  | openCompensationIncident (transitionToken : Uuid)
  | persistEnableGrace
  deriving DecidableEq, Repr

def Writer.update (now : Int) : Writer → AlertRow → Option AlertRow
  | .resetDisabled => Observer.resetDisabled now
  | .resetEnabled => Observer.resetEnabled now
  | .resetAlertStateAfterEnableSucceeded => Observer.resetAlertStateAfterEnableSucceeded now
  | .markAlertStateClaimed => Observer.markAlertStateClaimed now
  | .reopenReactivatedAlertState => Observer.reopenReactivatedAlertState now
  | .markDisabledWhenOffline => fun row => (Observer.markDisabledWhenOffline now row).toOption.join
  | .openCompensationIncident token => Observer.openCompensationIncident now token
  | .persistEnableGrace => fun _ => none

/-- Only `persist_enable_grace` inserts: the grace of an ad with no row yet. -/
def Writer.apply (now : Int) (w : Writer) : Option AlertRow → Option AlertRow
  | some row => some ((w.update now row).getD row)
  | none => if w = .persistEnableGrace then some { lastTransitionAt := now } else none

-- ------------------------------------------------------------
-- One observer cycle of one ad
-- ------------------------------------------------------------

/-- `AdAlertSnapshot`, as `load_alert_state_by_fb_ad_id` returns it. -/
structure AlertSnapshot where
  alertState : AlertState
  currentStage : Option AlertStage
  openStateToken : Option Uuid
  snoozedUntil : Option Int
  deriving DecidableEq, Repr

def AlertRow.snapshot (row : AlertRow) : AlertSnapshot :=
  { alertState := row.alertState
    currentStage := row.currentStage
    openStateToken := row.openStateToken
    snoozedUntil := row.snoozedUntil }

/-- What the evaluator found for the ad in one scan, after the enable grace. -/
structure Scan where
  warningRuleCodes : List String
  stopRuleCodes : List String
  isCabinetReset : Bool := false
  scanId : Option Int
  cycleTs : Int
  /-- The value `uuid.uuid4()` yields in this scan. -/
  uuid4 : Uuid := 0
  deriving DecidableEq, Repr

def fsmInput (current : Option AlertSnapshot) (scan : Scan) : FsmInput :=
  { currentState := (current.map (·.alertState)).getD .normal
    currentStage := current.bind (·.currentStage)
    currentOpenToken := current.bind (·.openStateToken)
    warningRuleCodes := scan.warningRuleCodes
    stopRuleCodes := scan.stopRuleCodes
    isCabinetReset := scan.isCabinetReset }

def suppressEmit (transition : FsmTransition) (reason : String) : FsmTransition :=
  { transition with
    emitAlert := false
    transitionReason := transition.transitionReason ++ " [suppressed: " ++ reason ++ "]" }

def isSnoozed (current : Option AlertSnapshot) (cycleTs : Int) : Bool :=
  match current.bind (·.snoozedUntil) with
  | some until_ => cycleTs < until_
  | none => false

/-- The transition of `_process_one_row`: `decide` on the snapshot, muted by a snooze. -/
def scanTransition (current : Option AlertSnapshot) (scan : Scan) : FsmTransition :=
  let transition := decide scan.uuid4 (fsmInput current scan)
  if isSnoozed current scan.cycleTs then suppressEmit transition "snoozed" else transition

@[simp] theorem scanTransition_newState (current : Option AlertSnapshot) (scan : Scan) :
    (scanTransition current scan).newState =
      (decide scan.uuid4 (fsmInput current scan)).newState := by
  unfold scanTransition
  split <;> rfl

@[simp] theorem scanTransition_newStage (current : Option AlertSnapshot) (scan : Scan) :
    (scanTransition current scan).newStage =
      (decide scan.uuid4 (fsmInput current scan)).newStage := by
  unfold scanTransition
  split <;> rfl

/-- A snooze mutes the alert, not the rule codes that are persisted. -/
@[simp] theorem stopsFrom_scanTransition (current : Option AlertSnapshot) (scan : Scan) :
    stopsFrom (scanTransition current scan) =
      stopsFrom (decide scan.uuid4 (fsmInput current scan)) := by
  unfold scanTransition
  split <;> rfl

end StopBot.Observer
