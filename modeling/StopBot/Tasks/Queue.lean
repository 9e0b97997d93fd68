import StopBot.Tasks.Row

/-!
# The statements of `core/tasks/queue.py`

Each `UPDATE task_queue` is a function of the clocks, its bind parameters and
the row it addresses: the new row when the `WHERE` clause matches, `none` when
it does not. A batch statement touches every matching row; it is given per
row. Incidents, notifications and metrics of the same transactions are left
out: they read the row and never write it.
-/

namespace StopBot.Tasks

open Lib

/-- An `UPDATE` of one row. -/
def update (guard : Bool) (row : TaskRow) : Option TaskRow :=
  if guard then some row else none

-- ------------------------------------------------------------
-- Create and claim
-- ------------------------------------------------------------

/-- `str(payload.get(key) or "")`, for text values. -/
def payloadText (payload : Obj) (key : String) : String :=
  match payload.get? key with
  | some value => if value.truthy then (value.text).getD "" else ""
  | none => ""

def inferTaskLane (taskType : TaskType) (payload : Obj) (requestedBy : String) : Lane :=
  let mutationKind := payloadText payload "mutation_kind"
  if taskType = .metaApiMutation ∧ mutationKind = "pause_ad" ∧ requestedBy = "bot_auto_stop" then
    .money
  else if taskType = .campaignCreate ∨ (taskType = .metaApiMutation ∧
      mutationKind ∈ ["bulk_status_change", "duplicate_adset_structure"]) then
    .bulk
  else if taskType = .trackerEventProcess then .background
  else .interactive

/-- The arguments of `create_task`; the target locks are taken by the caller's
transaction and do not reach the row. -/
structure NewTask where
  taskType : TaskType
  idempotencyKey : String
  payload : Obj
  requestedBy : String
  status : Status := .pending
  maxAttempts : Int := 5
  createdByChatId : Option Int := none
  lane : Option Lane := none
  priority : Option Int := none
  availableAt : Option Int := none
  deadlineAt : Option Int := none
  correlationId : Uuid := 0
  deriving Repr

def NewTask.row (clk : Clock) (t : NewTask) : TaskRow :=
  let lane := t.lane.getD (inferTaskLane t.taskType t.payload t.requestedBy)
  { taskType := t.taskType
    status := t.status
    idempotencyKey := t.idempotencyKey
    payload := t.payload
    maxAttempts := t.maxAttempts
    requestedBy := t.requestedBy
    createdByChatId := t.createdByChatId
    createdAt := clk.now
    updatedAt := clk.now
    lane := lane
    priority := t.priority.getD (defaultPriority lane)
    availableAt := t.availableAt.getD clk.host
    deadlineAt := t.deadlineAt <|> retryDeadline lane clk.host
    correlationId := t.correlationId }

/-- The conditions of the claim candidate that concern the row alone, the same
in `_CLAIM_SQL` and in `_BROWSER_READY_CLAIM_SQL`. -/
def claimable (clk : Clock) (taskType : TaskType) (lanes : List Lane) (row : TaskRow) : Bool :=
  row.taskType == taskType && row.status.queued && lanes.contains row.lane &&
    row.availableAt ≤ clk.wall &&
    (row.lane == .money || row.deadlineAt.all fun deadline => clk.wall < deadline) &&
    (row.cancelRequestedAt.isNone || row.reconcileRequired)

def claimRow (clk : Clock) (worker : Uuid) (leaseSeconds : Int) (row : TaskRow) : TaskRow :=
  let window := executionWindowSeconds row.lane
  { row with
    status := .running
    leaseOwner := some worker
    leaseToken := row.leaseToken + 1
    deadlineAt := some (clk.wall + seconds window)
    leaseExpiresAt :=
      some (clk.wall + seconds (max (max 5 leaseSeconds) (window + finalizeHeadroomSeconds)))
    updatedAt := clk.wall }

-- ------------------------------------------------------------
-- Finalizers
-- ------------------------------------------------------------

def markSucceeded (clk : Clock) (f : Fence) (result : Option Obj) (row : TaskRow) :
    Option TaskRow :=
  update (hasValidFence f && row.heldBy clk f)
    { row with
      status := .succeeded
      result := some (result.getD [])
      completedAt := some clk.now
      lastError := none
      updatedAt := clk.now }

def markFailed (clk : Clock) (f : Fence) (error : String) (result : Option Obj) (row : TaskRow) :
    Option TaskRow :=
  update (hasValidFence f && row.heldBy clk f)
    { row with
      status := .failed
      lastError := some (clipError error)
      result := result <|> row.result
      completedAt := some clk.now
      updatedAt := clk.now }

def markCancelled (clk : Clock) (f : Fence) (reason : String) (row : TaskRow) : Option TaskRow :=
  update (hasValidFence f && row.heldBy clk f && row.externalStartedAt.isNone)
    { row with
      status := .cancelled
      completedAt := some clk.now
      lastError := some (clipError reason)
      result := some (Obj.merge row.resultObj
        [("outcome", .str "REJECTED"), ("reason", .str "cancel_requested")])
      leaseOwner := none
      leaseExpiresAt := none
      updatedAt := clk.now }

/-- An empty lock key raises before the statement, here and below. -/
def markTaskFailedOrCancelled (clk : Clock) (f : Fence) (targetLockKey error : String)
    (result : Option Obj) (row : TaskRow) : Option TaskRow :=
  let cancelled := row.cancelRequestedAt.isSome
  update (targetLockKey != "" && hasValidFence f && row.heldBy clk f)
    { row with
      status := if cancelled then .cancelled else .failed
      lastError :=
        if cancelled then row.cancelReason <|> some (clipError error) else some (clipError error)
      result := result <|> row.result
      completedAt := some clk.now
      updatedAt := clk.now }

def resolveStatusReconciliationNotApplied (clk : Clock) (f : Fence) (effectiveStatus : String)
    (row : TaskRow) : Option TaskRow :=
  let cancelled := row.cancelRequestedAt.isSome
  let exhausted : Bool := row.maxAttempts ≤ row.attemptCount
  let closed := cancelled || exhausted
  let effective := Json.str (PyText.clip 100 effectiveStatus)
  update (hasValidFence f && row.heldBy clk f && row.externalStartedAt.isSome &&
      row.reconcileRequired)
    { row with
      status := if cancelled then .cancelled else if exhausted then .failed else .running
      completedAt := if closed then some clk.now else none
      externalStartedAt := if closed then row.externalStartedAt else none
      result := some <|
        if cancelled then
          Obj.merge (Obj.erase row.resultObj "reconcile_required")
            [("outcome", .str "REJECTED"),
              ("reason", .str "cancelled_after_verified_not_applied"),
              ("reconciled_after_unknown", .bool true), ("effective_status", effective)]
        else if exhausted then
          Obj.merge (Obj.erase row.resultObj "reconcile_required")
            [("outcome", .str "REJECTED"),
              ("reason", .str "attempts_exhausted_after_verified_not_applied"),
              ("reconciled_after_unknown", .bool true), ("reconcile_required", .bool false),
              ("effective_status", effective)]
        else
          Obj.merge (Obj.erase (Obj.erase row.resultObj "reconcile_required") "outcome")
            [("reconciled_not_applied", .bool true), ("effective_status", effective)]
      lastError :=
        if cancelled then row.cancelReason <|> some "cancelled after reconciliation"
        else if exhausted then some "status write was verified not applied; attempts exhausted"
        else none
      leaseOwner := if closed then none else row.leaseOwner
      leaseExpiresAt := if closed then none else row.leaseExpiresAt
      updatedAt := clk.now }

def touchTaskRunning (clk : Clock) (f : Fence) (leaseSeconds : Int) (row : TaskRow) :
    Option TaskRow :=
  update (hasValidFence f && row.heldBy clk f)
    { row with
      updatedAt := clk.now
      leaseExpiresAt := some (clk.now + seconds (max 5 leaseSeconds)) }

def markExternalCallStarted (clk : Clock) (f : Fence) (targetLockKey : String) (row : TaskRow) :
    Option TaskRow :=
  update (targetLockKey != "" && hasValidFence f && row.heldBy clk f &&
      row.cancelRequestedAt.isNone && row.deadlineAt.all fun deadline => clk.wall < deadline)
    { row with
      externalStartedAt := row.externalStartedAt <|> some clk.now
      updatedAt := clk.now }

-- ------------------------------------------------------------
-- Duplicate checkpoints and their recovery
-- ------------------------------------------------------------

def isDuplicate (row : TaskRow) : Bool :=
  row.mutationKind == some "duplicate_adset_structure"

def hasDuplicateCheckpoint (row : TaskRow) : Bool :=
  Obj.text row.resultObj "checkpoint_type" == some "duplicate_adset_structure" &&
    (Obj.get? row.resultObj "created_ids").map Json.typeName == some "object"

def checkpointDuplicateAdsetStructure (clk : Clock) (f : Fence) (checkpoint : Obj)
    (row : TaskRow) : Option TaskRow :=
  update (Obj.text checkpoint "checkpoint_type" == some "duplicate_adset_structure" &&
      hasValidFence f && row.taskType == .metaApiMutation && row.heldBy clk f &&
      isDuplicate row && !row.flag "recovery_requested")
    { row with result := some checkpoint, updatedAt := clk.now }

def prepareStuckDuplicateRecovery (clk : Clock) (stuckAfterSeconds : Int) (row : TaskRow) :
    Option TaskRow :=
  update (row.taskType == .metaApiMutation && row.status == .running &&
      row.stuck clk.now stuckAfterSeconds && isDuplicate row && hasDuplicateCheckpoint row)
    { row with
      status := .retrying
      availableAt := clk.now
      deadlineAt := some (clk.now + seconds (recoveryWindowSeconds row.lane))
      lastError := some (row.lastError.getD "" ++
        " [stuck duplicate_adset_structure: scheduled PAUSE recovery]")
      result := row.result.map fun result => Obj.merge result
        [("recovery_requested", .bool true), ("phase", .str "recovery_pending")]
      leaseOwner := none
      leaseExpiresAt := none
      updatedAt := clk.now }

/-- `created_ids_from_checkpoint` raises on a checkpoint without a complete
recovery payload; `validCheckpoint` says that it did not. -/
def requeueDuplicateRecovery (clk : Clock) (f : Fence) (checkpoint : Obj)
    (validCheckpoint : Bool) (error : String) (delaySeconds : Int) (row : TaskRow) :
    Option TaskRow :=
  let delay := max 1 delaySeconds
  update (((checkpoint.get? "recovery_requested").map Json.isTrue == some true) &&
      validCheckpoint && hasValidFence f && row.taskType == .metaApiMutation &&
      row.heldBy clk f && isDuplicate row)
    { row with
      status := .retrying
      availableAt := clk.now + seconds delay
      deadlineAt := some (clk.now + seconds (delay + recoveryWindowSeconds row.lane))
      lastError := some (clipError error)
      result := some checkpoint
      leaseOwner := none
      leaseExpiresAt := none
      updatedAt := clk.now }

def failStuckDuplicateWithoutCheckpoint (clk : Clock) (stuckAfterSeconds : Int) (row : TaskRow) :
    Option TaskRow :=
  update (row.taskType == .metaApiMutation && row.status == .running &&
      row.stuck clk.now stuckAfterSeconds && isDuplicate row && !hasDuplicateCheckpoint row)
    { row with
      status := .failed
      completedAt := some clk.now
      lastError := some (row.lastError.getD "" ++
        " [stuck duplicate_adset_structure without recoverable checkpoint: " ++
        "НЕ ретраим; созданные до checkpoint объекты были requested PAUSED]")
      leaseOwner := none
      leaseExpiresAt := none
      result := some (Obj.merge row.resultObj
        [("outcome", .str "UNKNOWN"), ("reconcile_required", .bool true),
          ("reason", .str "stuck_duplicate_without_checkpoint")])
      updatedAt := clk.now }

def failStuckCampaignCreate (clk : Clock) (stuckAfterSeconds : Int) (row : TaskRow) :
    Option TaskRow :=
  update (row.taskType == .campaignCreate && row.status == .running &&
      row.stuck clk.now stuckAfterSeconds)
    { row with
      status := .failed
      completedAt := some clk.now
      lastError := some (row.lastError.getD "" ++
        " [stuck campaign_create: воркер мог начать залив в Meta до краша " ++
        "— НЕ ретраим (риск дубля кампании), проверь Meta вручную]")
      leaseOwner := none
      leaseExpiresAt := none
      result := some (Obj.merge row.resultObj
        [("outcome", .str "UNKNOWN"), ("reconcile_required", .bool true),
          ("reason", .str "stuck_campaign_create_after_worker_loss")])
      updatedAt := clk.now }

-- ------------------------------------------------------------
-- Back to the queue
-- ------------------------------------------------------------

/-- `attemptCount`, `maxAttempts` and `lane` are those of the worker's own
snapshot of the task; exhaustion is decided on them, by `mark_failed`. -/
def requeueForRetry (clk : Clock) (f : Fence) (error : String) (attemptCount maxAttempts : Int)
    (lane : Lane) (row : TaskRow) : Option TaskRow :=
  let newAttempt := attemptCount + 1
  let nextAt := calcRetryAvailableAt clk newAttempt
  if maxAttempts ≤ newAttempt then
    markFailed clk f error (some [("outcome", .str "REJECTED")]) row
  else
    update (hasValidFence f && row.heldBy clk f)
      { row with
        status := .retrying
        attemptCount := newAttempt
        availableAt := nextAt
        deadlineAt := retryDeadline lane nextAt
        lastError := some (clipError error)
        leaseOwner := none
        leaseExpiresAt := none
        updatedAt := clk.now }

def requeueProvenNotCommitted (clk : Clock) (f : Fence) (targetLockKey error : String)
    (attemptCount : Int) (lane : Lane) (row : TaskRow) : Option TaskRow :=
  let nextAt := calcRetryAvailableAt clk (attemptCount + 1)
  let cancelled := row.cancelRequestedAt.isSome
  let exhausted : Bool := row.maxAttempts ≤ row.attemptCount + 1
  let closed := cancelled || exhausted
  let proven := Obj.erase (Obj.erase row.resultObj "reconcile_required") "manual_review_required"
  update (targetLockKey != "" && hasValidFence f && row.heldBy clk f &&
      row.externalStartedAt.isSome && row.targetId == some targetLockKey)
    { row with
      status := if cancelled then .cancelled else if exhausted then .failed else .retrying
      attemptCount := if cancelled then row.attemptCount else row.attemptCount + 1
      availableAt := if closed then row.availableAt else nextAt
      deadlineAt := if closed then row.deadlineAt else retryDeadline lane nextAt
      completedAt := if closed then some clk.now else none
      externalStartedAt := none
      lastError :=
        if cancelled then row.cancelReason <|> some "cancelled after proven pre-send reject"
        else some (clipError error)
      result :=
        if cancelled then
          some (Obj.merge proven [("outcome", .str "REJECTED"),
            ("reason", .str "cancelled_after_proven_not_committed")])
        else if exhausted then
          some (Obj.merge proven [("outcome", .str "REJECTED"),
            ("reason", .str "attempts_exhausted_proven_not_committed")])
        else row.result
      leaseOwner := none
      leaseExpiresAt := none
      updatedAt := clk.now }

/-- The release of a live-identity rejection. A cancelled row is closed unless
its outcome is unknown; only the money lane spends attempts. The boundary is
cleared in every case. -/
def releaseAfterBrowserReadinessRejection (clk : Clock) (f : Fence) (generation : Option Int)
    (error : String) (targetLockKey : Option String) (lane : Lane) (row : TaskRow) :
    Option TaskRow :=
  let cancelled := row.cancelRequestedAt.isSome && !row.reconcileRequired
  let money : Bool := row.lane = .money
  let exhausted : Bool := money && row.maxAttempts ≤ row.attemptCount + 1
  let closed := cancelled || exhausted
  let unbound :=
    Obj.erase (Obj.erase row.resultObj "external_boundary_operation") "external_boundary_target"
  let proven := Obj.erase (Obj.erase unbound "reconcile_required") "manual_review_required"
  update (hasValidFence f && generation.any (0 < ·) &&
      targetLockKey.all (fun key => PyText.strip key != "") && row.heldBy clk f)
    { row with
      status := if cancelled then .cancelled else if exhausted then .failed else .retrying
      attemptCount :=
        if cancelled then row.attemptCount
        else if money then row.attemptCount + 1
        else row.attemptCount
      availableAt := if closed then row.availableAt else clk.wall
      deadlineAt :=
        if closed then row.deadlineAt
        else if money then none
        else some (clk.wall + seconds (queueWaitSeconds lane))
      completedAt := if closed then some clk.wall else none
      externalStartedAt := none
      lastError :=
        if cancelled then row.cancelReason <|> some "cancelled after browser readiness rejection"
        else some (clipError error)
      result := some <|
        if cancelled then
          Obj.merge proven [("outcome", .str "REJECTED"),
            ("reason", .str "cancelled_after_browser_readiness_rejection")]
        else if exhausted && row.reconcileRequired then
          Obj.merge unbound [("outcome", .str "UNKNOWN"), ("reconcile_required", .bool true),
            ("reason", .str "browser_readiness_reconciliation_attempts_exhausted")]
        else if exhausted then
          Obj.merge proven [("outcome", .str "REJECTED"),
            ("reason", .str "browser_readiness_attempts_exhausted")]
        else unbound
      leaseOwner := none
      leaseExpiresAt := none
      updatedAt := clk.wall }

/-- `attemptCount`, `maxAttempts`, `lane` and `alreadyReconciling` are read off
the worker's snapshot. The statement itself carries only the SQL fence. -/
def requeueUnknownForReconciliation (clk : Clock) (f : Fence) (error : String)
    (attemptCount maxAttempts : Int) (lane : Lane) (alreadyReconciling : Bool) (row : TaskRow) :
    Option TaskRow :=
  let nextAttempt := attemptCount + 1
  if alreadyReconciling && maxAttempts ≤ nextAttempt then
    markFailed clk f error
      (some [("outcome", .str "UNKNOWN"), ("reconcile_required", .bool false),
        ("reconciliation_exhausted", .bool true)]) row
  else
    update (row.heldBy clk f)
      { row with
        status := .retrying
        attemptCount := nextAttempt
        availableAt := clk.now
        deadlineAt := retryDeadline lane clk.host
        lastError := some (clipError error)
        result := some (Obj.merge row.resultObj
          [("outcome", .str "UNKNOWN"), ("reconcile_required", .bool true),
            ("unknown_at", .num clk.now 0)])
        leaseOwner := none
        leaseExpiresAt := none
        updatedAt := clk.now }

def deferUnknownReconciliation (clk : Clock) (f : Fence) (error : String) (delaySeconds : Int)
    (lane : Lane) (row : TaskRow) : Option TaskRow :=
  let delay := max 1 delaySeconds
  update (hasValidFence f && row.heldBy clk f)
    { row with
      status := .retrying
      availableAt := clk.now + seconds delay
      deadlineAt :=
        if row.lane = .money then none
        else some (clk.now + seconds (delay + queueWaitSeconds lane))
      lastError := some (clipError error)
      result := some (Obj.merge row.resultObj
        [("outcome", .str "UNKNOWN"), ("reconcile_required", .bool true)])
      leaseOwner := none
      leaseExpiresAt := none
      updatedAt := clk.now }

-- ------------------------------------------------------------
-- Reconciler, cancellation, expiry and manual review
-- ------------------------------------------------------------

/-- A status action: its outcome can be read back, so it is verified, not closed. -/
def isStatusAction (row : TaskRow) : Bool :=
  row.taskType == .metaApiMutation &&
    row.mutationKind.any (["pause_ad", "activate_ad", "bulk_status_change"].contains ·)

def reconcileStuckRunning (clk : Clock) (stuckAfterSeconds : Int) (excludeKinds : List String)
    (row : TaskRow) : Option TaskRow :=
  let started := row.externalStartedAt.isSome
  let verifies := started && isStatusAction row
  let exhausted : Bool := row.maxAttempts ≤ row.attemptCount + 1
  let retries := verifies || (!started && !exhausted)
  update (row.status == .running && row.stuck clk.now stuckAfterSeconds &&
      row.taskType != .campaignCreate &&
      !(row.taskType == .metaApiMutation && row.mutationKind.any (excludeKinds.contains ·)))
    { row with
      status :=
        if verifies then .retrying
        else if exhausted then .failed
        else if started then .failed
        else .retrying
      attemptCount := row.attemptCount + 1
      availableAt := if retries then clk.now else row.availableAt
      deadlineAt :=
        if retries then
          if row.lane = .money then none
          else some (clk.now + seconds (queueWaitSeconds
            (if row.lane = .bulk then .bulk else .interactive)))
        else row.deadlineAt
      completedAt :=
        if verifies then row.completedAt
        else if exhausted then some clk.now
        else if started then some clk.now
        else row.completedAt
      result :=
        if started then
          some (Obj.merge row.resultObj
            [("outcome", .str "UNKNOWN"), ("reconcile_required", .bool true),
              ("reason", .str "worker_lease_expired_after_external_start")])
        else if exhausted then
          some (Obj.merge row.resultObj
            [("outcome", .str "REJECTED"),
              ("reason", .str "attempts_exhausted_before_external_start")])
        else row.result
      lastError := some (row.lastError.getD "" ++
        if started then " [lease expired after external start: result unknown]"
        else " [stuck timeout reconciled before external start]")
      leaseOwner := none
      leaseExpiresAt := none
      updatedAt := clk.now }

/-- Queued work that crossed no boundary is closed at once; anything else only
gets the marker. -/
def requestTaskCancel (clk : Clock) (reason : String) (row : TaskRow) : Option TaskRow :=
  let unstarted := row.status.queued && row.externalStartedAt.isNone
  update (!row.status.terminal)
    { row with
      cancelRequestedAt := row.cancelRequestedAt <|> some clk.now
      cancelReason := some (clipError reason)
      status := if unstarted then .cancelled else row.status
      completedAt := if unstarted then some clk.now else row.completedAt
      lastError := if unstarted then some (clipError reason) else row.lastError
      result :=
        if unstarted then
          some (Obj.merge row.resultObj
            [("outcome", .str "REJECTED"),
              ("reason", .str "cancel_requested_before_external_call")])
        else row.result
      updatedAt := clk.now }

/-- `scope` narrows the sweep to the type and lanes of one consumer. -/
def expireOverdue (clk : Clock) (scope : Option (TaskType × List Lane)) (row : TaskRow) :
    Option TaskRow :=
  let unknown := row.externalStartedAt.isSome || row.reconcileRequired
  update (row.status.queued && row.lane != .money &&
      row.deadlineAt.any (fun deadline => deadline ≤ clk.now) &&
      scope.all fun (taskType, lanes) => row.taskType == taskType && lanes.contains row.lane)
    { row with
      status := .failed
      completedAt := some clk.now
      lastError := some <|
        if unknown then "absolute deadline exceeded while external outcome remained unknown"
        else "queue wait limit exceeded before any external call"
      result := some (Obj.merge row.resultObj
        [("outcome", .str (if unknown then "UNKNOWN" else "REJECTED")),
          ("reconcile_required", .bool unknown),
          ("reason", .str <|
            if unknown then "absolute_deadline_exceeded" else "queue_wait_limit_exceeded"),
          ("operator_reason", .str <|
            if unknown then
              "Задача прервана по предельному сроку, " ++
                "а ответ внешней системы не получен — нужна сверка."
            else
              "Задача так и не начала работу: истёк предельный срок " ++
                "ожидания в очереди. В Facebook не уходило ничего — " ++
                "можно запустить заново.")])
      updatedAt := clk.now }

def manualReviewObservations : List String := ["stopped", "active", "missing"]

/-- `str(stored_result.get("outcome") or "").upper()`. -/
def outcomeUpper (row : TaskRow) : String :=
  PyText.upper (payloadText row.resultObj "outcome")

/-- The refusals before the statement raise; the same observation again is a no-op. -/
def recordManualReconciliation (clk : Clock) (observation reviewedBy : String) (row : TaskRow) :
    Option TaskRow :=
  let principal := PyText.strip reviewedBy
  update (manualReviewObservations.contains observation && principal != "" &&
      principal.length ≤ 128 && outcomeUpper row == "UNKNOWN" && row.status.terminal &&
      row.manualReviewObservation != some observation)
    { row with
      manualReviewObservation := some observation
      manualReviewAt := some clk.now
      manualReviewBy := some principal
      updatedAt := clk.now }

end StopBot.Tasks
