import StopBot.Rules.Context
import StopBot.Worker.Mutation

/-!
# The command service

`core/commands/service.py`, without its statements: the entry points for money
actions on one ad, what they read, and what they decide on it. The ledger that
the statements read and write is `StopBot.Commands.Ledger`.
-/

namespace StopBot.Commands

open Lib Tasks Worker
open Rules (validatedCurrencyCode)

/-- What the service takes from outside the repository: the digest behind a
derived key, the time zone database, and the printing of an instant. -/
structure Host where
  sha256 : String → String
  zoneExists : String → Bool
  isoformat : Int → String

inductive AdActionKind
  | pauseAd
  | activateAd
  deriving DecidableEq, Repr

def AdActionKind.text : AdActionKind → String
  | .pauseAd => "pause_ad"
  | .activateAd => "activate_ad"

/-- The actions the check constraint of `command_idempotency_receipts` allows. -/
inductive BoundAction
  | ad (kind : AdActionKind)
  | abortCampaignRun
  | resumeCampaignRun
  deriving DecidableEq, Repr

structure Binding where
  taskId : Nat
  actionKind : BoundAction
  targetId : String
  deriving DecidableEq, Repr

inductive CommandState
  | queued
  | running
  | confirmed
  | failed
  | cancelled
  | unknown
  deriving DecidableEq, Repr

structure CommandReceipt where
  taskId : Nat
  created : Bool
  state : CommandState
  correlationId : Uuid
  deriving DecidableEq, Repr

/-- The exceptions of the service, with their texts; `value` is a `ValueError`. -/
inductive CommandError
  | value (message : String)
  | notFound (message : String)
  | conflict (message : String)
  | identity (message : String)
  | precondition (message : String)
  deriving DecidableEq, Repr

-- ------------------------------------------------------------
-- Delivery
-- ------------------------------------------------------------

def activeDeliveryStatuses : List String := ["ACTIVE", "ON", "ENABLED", "DELIVERING"]

def inactiveDeliveryStatuses : List String := ["OFF", "PAUSED", "INACTIVE", "DISABLED"]

def actionSourceStatuses : AdActionKind → List String
  | .pauseAd => activeDeliveryStatuses
  | .activateAd => inactiveDeliveryStatuses

def normalizeDeliveryStatus (value : Option String) : String :=
  PyText.upper (PyText.strip (value.getD ""))

def requireActionableDelivery (kind : AdActionKind) (deliveryStatus : Option String) :
    Except CommandError String :=
  let normalized := normalizeDeliveryStatus deliveryStatus
  if (actionSourceStatuses kind).contains normalized then .ok normalized
  else
    let shown := if normalized = "" then "UNKNOWN" else normalized
    .error (.precondition (kind.text ++ " is not allowed from delivery status " ++ shown))

-- ------------------------------------------------------------
-- Entry points
-- ------------------------------------------------------------

/-- A command after the checks that need no connection. `proof` is the status a
worker read back from Meta; only the compensation of an activation has one. -/
structure Command where
  actionKind : AdActionKind
  targetId : String
  commandKey : String
  requestedBy : String
  correlationId : Uuid
  maxAttempts : Int
  params : Obj
  createdByChatId : Option Int
  expected : Option (String × Int)
  proof : Option String
  target_ne : targetId ≠ ""
  key_length : 1 ≤ commandKey.length ∧ commandKey.length ≤ 128
  attempts_pos : 1 ≤ maxAttempts

/-- The arguments of `enqueue_ad_action`; `freshId` is what `uuid4` would give. -/
structure AdAction where
  actionKind : AdActionKind
  fbAdId : String
  requestedBy : String
  idempotencyKey : String
  correlationId : Option Uuid := none
  freshId : Uuid := 0
  maxAttempts : Int := 5
  params : Obj := []
  createdByChatId : Option Int := none
  expectedDeliveryStatus : Option String := none
  expectedAsOf : Option Int := none
  deriving Repr

def AdAction.prepare (a : AdAction) (proof : Option String) : Except CommandError Command :=
  let targetId := PyText.strip a.fbAdId
  let commandKey := PyText.strip a.idempotencyKey
  if htarget : targetId ≠ "" then
    if hkey : 1 ≤ commandKey.length ∧ commandKey.length ≤ 128 then
      if hattempts : 1 ≤ a.maxAttempts then
        if a.expectedDeliveryStatus.isSome = a.expectedAsOf.isSome then
          .ok
            { actionKind := a.actionKind
              targetId := targetId
              commandKey := commandKey
              requestedBy := a.requestedBy
              correlationId := a.correlationId.getD a.freshId
              maxAttempts := a.maxAttempts
              params := a.params
              createdByChatId := a.createdByChatId
              expected := a.expectedDeliveryStatus.bind fun status =>
                a.expectedAsOf.map fun asOf => (status, asOf)
              proof := proof
              target_ne := htarget
              key_length := hkey
              attempts_pos := hattempts }
        else .error (.value "command preconditions must be provided together")
      else .error (.value "max_attempts must be positive")
    else .error (.value "idempotency_key must contain 1..128 characters")
  else .error (.value "fb_ad_id must not be empty")

def enqueueAdAction (a : AdAction) : Except CommandError Command :=
  a.prepare none

structure PauseCompensation where
  fbAdId : String
  idempotencyKey : String
  reason : String
  sourceTaskId : Int
  observedDeliveryStatus : String
  correlationId : Option Uuid := none
  freshId : Uuid := 0
  maxAttempts : Int := 15
  deriving Repr

def safetyCompensationSourceParam (reason : String) : Option String :=
  if reason = "activation_without_grace" then some "supersedes_activation_task_id" else none

def enqueueVerifiedPauseCompensation (c : PauseCompensation) : Except CommandError Command :=
  match safetyCompensationSourceParam c.reason with
  | none => .error (.value "unsupported safety compensation reason")
  | some sourceParam =>
    if c.sourceTaskId ≤ 0 then .error (.value "source_task_id must be a positive integer")
    else
      match requireActionableDelivery .pauseAd (some c.observedDeliveryStatus) with
      | .error e => .error e
      | .ok observed =>
        AdAction.prepare
          { actionKind := .pauseAd
            fbAdId := c.fbAdId
            requestedBy := autoStopRequestedBy
            idempotencyKey := c.idempotencyKey
            correlationId := c.correlationId
            freshId := c.freshId
            maxAttempts := c.maxAttempts
            params := [("safety_compensation", .str c.reason),
              (sourceParam, .num c.sourceTaskId 0)] }
          (some observed)

def Command.requestedPriority (cmd : Command) : Int :=
  if cmd.actionKind = .pauseAd ∧ cmd.requestedBy = autoStopRequestedBy then 200 else 100

-- ------------------------------------------------------------
-- Readings of a task
-- ------------------------------------------------------------

/-- `str(data.get(key) or "")`. -/
def textOrEmpty (data : Obj) (key : String) : String :=
  match data.get? key with
  | some value => if value.truthy then pyStr value else ""
  | none => ""

def reconcileIsTrue (row : TaskRow) : Bool :=
  (row.resultObj.get? "reconcile_required").any Json.isTrue

def isActive (row : TaskRow) : Bool :=
  !row.status.terminal

/-- Map durable task state without claiming a terminal retry is queued. -/
def commandState (row : TaskRow) : CommandState :=
  if outcomeUpper row = "UNKNOWN" ∨ reconcileIsTrue row then .unknown
  else
    match row.status with
    | .pending | .retrying => .queued
    | .running => .running
    | .succeeded => .confirmed
    | .cancelled => .cancelled
    | .failed => .failed

/-- What `_get_bound_command` returns: the receipt joined with its task. -/
structure Bound where
  id : Nat
  actionKind : BoundAction
  targetId : String
  row : TaskRow
  deriving Repr

def Bound.means (bound : Bound) (kind : AdActionKind) (targetId : String) : Bool :=
  bound.row.taskType == .metaApiMutation &&
    (bound.row.payload.get? "mutation_kind").bind Json.asStr? == some kind.text &&
    textOrEmpty bound.row.payload "target_id" == targetId &&
    bound.actionKind == .ad kind && bound.targetId == targetId

def receiptForSemantics (bound : Bound) (kind : AdActionKind) (targetId : String) :
    Except CommandError CommandReceipt :=
  if bound.means kind targetId then
    .ok
      { taskId := bound.id
        created := false
        state := commandState bound.row
        correlationId := bound.row.correlationId }
  else .error (.conflict "idempotency key is bound to another command")

/-- Allow a new generation only after a proven terminal auto-pause reject. -/
def isRejectedAutostopRetrySource (row : TaskRow) (kind : AdActionKind) (requestedBy : String) :
    Bool :=
  kind == .pauseAd && requestedBy == autoStopRequestedBy &&
    (row.status == .failed || row.status == .cancelled) &&
    outcomeUpper row == "REJECTED" && !reconcileIsTrue row

/-- The message whose digest names the next generation of a command. -/
def autostopRetryMessage (commandKey : String) (predecessorTaskId : Nat) : String :=
  "fb-agent:auto-pause-retry:v1\x00" ++ commandKey ++ "\x00" ++ toString predecessorTaskId

def autostopRetryIdempotencyKey (host : Host) (commandKey : String) (predecessorTaskId : Nat) :
    String :=
  "auto:pause_ad:retry:" ++ host.sha256 (autostopRetryMessage commandKey predecessorTaskId)

-- ------------------------------------------------------------
-- The barrier of a target
-- ------------------------------------------------------------

/-- A pause or activate task of one ad, by its `task_type` and payload. -/
def isAdCommandOf (targetId : String) (row : TaskRow) : Bool :=
  row.taskType == .metaApiMutation &&
    row.mutationKind.any (["pause_ad", "activate_ad"].contains ·) &&
    row.targetId == some targetId

/-- The greatest pause or activate task of the target; `hasPostEvidence` says
that a metric of the ad is newer than the task's end. -/
structure Latest where
  id : Nat
  row : TaskRow
  hasPostEvidence : Bool
  deriving Repr

def targetBarrier : Option Latest → Option Latest
  | none => none
  | some latest =>
    if isActive latest.row then some latest
    else if outcomeUpper latest.row = "UNKNOWN" ∨ reconcileIsTrue latest.row then
      -- a recorded manual review lifts the barrier, whatever it observed
      if latest.row.manualReviewObservation.any (· ≠ "") then none else some latest
    else if latest.row.status = .succeeded ∧ outcomeUpper latest.row = "CONFIRMED" ∧
        ¬ latest.hasPostEvidence then
      some latest
    else none

/-- A direct ACTIVE read supersedes terminal history, never active work. -/
def verifiedSafetySupersedesBarrier (barrier : Latest) (proof : Option String) : Bool :=
  proof.isSome && !isActive barrier.row

def standingBarrier (cmd : Command) (latest : Option Latest) : Option Latest :=
  (targetBarrier latest).filter fun barrier => !verifiedSafetySupersedesBarrier barrier cmd.proof

-- ------------------------------------------------------------
-- Admission
-- ------------------------------------------------------------

/-- What the catalog query returns for one ad: the account of its campaign, its
delivery, the account snapshot, and the instants of its metrics. -/
structure CatalogRow where
  adAccountId : String
  deliveryStatus : Option String
  cabinetTimezone : Option String := none
  currency : Option String := none
  currencyObservedAt : Option Int := none
  metrics : List Int := []
  deriving DecidableEq, Repr

/-- `MAX(m.cycle_ts)`. -/
def CatalogRow.metricsAsOf (row : CatalogRow) : Option Int :=
  row.metrics.max?

/-- `cycle_ts > COALESCE(task.completed_at, task.updated_at)` for some metric. -/
def CatalogRow.hasPostEvidence (catalog : CatalogRow) (task : TaskRow) : Bool :=
  catalog.metrics.any fun cycleTs => task.completedAt.getD task.updatedAt < cycleTs

def validatedTimezoneName (host : Host) (raw : Option String) : Option String :=
  let name := PyText.strip (raw.getD "")
  if name = "" ∨ 128 < name.length ∨ host.zoneExists name = false then none else some name

/-- No older than a day, and no more than five minutes ahead of the clock. -/
def currencyEvidenceIsFresh (observedAt : Option Int) (now : Int) : Bool :=
  observedAt.any fun observed =>
    now - seconds (24 * 60 * 60) ≤ observed && observed ≤ now + seconds (5 * 60)

def mutationPayload (host : Host) (cmd : Command) (accountId : String) (target : CatalogRow) :
    Obj :=
  let timezone := validatedTimezoneName host target.cabinetTimezone
  let issues : List Json :=
    if timezone.isNone then [.str "cabinet_timezone_unknown"] else []
  [("mutation_kind", .str cmd.actionKind.text),
    ("target_id", .str cmd.targetId),
    ("params", .obj (Obj.merge [("requested_via", .str (PyText.clip 64 cmd.requestedBy))]
      cmd.params)),
    ("ad_account_id", .str accountId),
    ("account_id", .str accountId),
    ("currency", .str "USD"),
    ("cabinet_timezone", (timezone.map Json.str).getD .null),
    ("account_context_observed_at",
      (target.currencyObservedAt.map fun observed => Json.str (host.isoformat observed)).getD
        .null),
    ("account_context_issues", .arr issues)]

/-- The checks on the locked catalog row, up to the payload of the new task. -/
def checkTarget (host : Host) (now : Int) (cmd : Command) (target : Option CatalogRow) :
    Except CommandError Obj := do
  let ad := "ad " ++ cmd.targetId
  let target ← match target with
    | none => .error (.notFound (ad ++ " not found"))
    | some target => .ok target
  if cmd.expected.any fun (status, asOf) =>
      normalizeDeliveryStatus target.deliveryStatus ≠ PyText.upper (PyText.strip status) ∨
        target.metricsAsOf ≠ some asOf then
    .error (.precondition (ad ++ " changed after operator confirmation"))
  let _ ← requireActionableDelivery cmd.actionKind (cmd.proof <|> target.deliveryStatus)
  let accountId ← match requireAdAccountId (.str target.adAccountId) with
    | .error _ => .error (.identity (ad ++ " has no explicit ad_account_id; command rejected"))
    | .ok accountId => .ok accountId
  if validatedCurrencyCode target.currency ≠ some "USD" ∨
      currencyEvidenceIsFresh target.currencyObservedAt now = false then
    .error (.precondition (ad ++ " requires confirmed USD currency before enqueue"))
  return mutationPayload host cmd accountId target

def createMutationTask (cmd : Command) (payload : Obj) (idempotencyKey : String)
    (correlationId : Uuid) : NewTask :=
  { taskType := .metaApiMutation
    idempotencyKey := idempotencyKey
    payload := payload
    requestedBy := PyText.clip 64 cmd.requestedBy
    maxAttempts := cmd.maxAttempts
    createdByChatId := cmd.createdByChatId
    priority := some cmd.requestedPriority
    correlationId := correlationId }

end StopBot.Commands
