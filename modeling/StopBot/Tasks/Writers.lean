import StopBot.Tasks.Queue

/-!
# The other statements that write `task_queue`

The tracker's projection and its own queue discipline
(`core/adset_pro/processing.py`), the stale-snapshot deferral
(`core/meta_api/freshness.py`), the command service, the campaign creator and
its abort, the duplicate execution boundary and the scan publisher. Same
reading as in `StopBot.Tasks.Queue`: the new row, or `none`.
-/

namespace StopBot.Tasks

open Lib

-- ------------------------------------------------------------
-- Automatic pauses
-- ------------------------------------------------------------

def deferAutoStopForFreshSnapshot (clk : Clock) (f : Fence) (delaySeconds : Int) (row : TaskRow) :
    Option TaskRow :=
  update (hasValidFence f && row.heldBy clk f && row.externalStartedAt.isNone)
    { row with
      status := .retrying
      availableAt := clk.now + seconds (max delaySeconds 1)
      deadlineAt := none
      externalStartedAt := none
      lastError := some "stale_meta_snapshot: observer refresh requested"
      leaseOwner := none
      leaseExpiresAt := none
      updatedAt := clk.now }

def isAutoPauseOf (fbAdId : String) (row : TaskRow) : Bool :=
  row.taskType == .metaApiMutation && row.mutationKind == some "pause_ad" &&
    row.targetId == some fbAdId && row.requestedBy == "bot_auto_stop"

/-- The two statements of `cancel_unstarted_auto_pause`, in their order: before
the boundary the pause is closed, after it a marker is left. -/
def cancelUnstartedAutoPause (clk : Clock) (fbAdId : String) (row : TaskRow) : Option TaskRow :=
  if isAutoPauseOf fbAdId row && !row.status.terminal && row.externalStartedAt.isNone then
    some { row with
      status := .cancelled
      lastError := some "cancelled_by_positive_tracker_event"
      result := some (Obj.merge row.resultObj
        [("outcome", .str "REJECTED"),
          ("reason", .str "positive_tracker_event_before_external_call")])
      completedAt := some clk.now
      leaseOwner := none
      leaseExpiresAt := none
      updatedAt := clk.now }
  else
    update (isAutoPauseOf fbAdId row && (row.status == .running || row.status == .retrying) &&
        row.externalStartedAt.isSome && row.cancelRequestedAt.isNone)
      { row with
        cancelRequestedAt := some clk.now
        cancelReason :=
          row.cancelReason <|> some "positive_tracker_event_after_external_boundary"
        updatedAt := clk.now }

def strengthenActiveTask (clk : Clock) (maxAttempts priority : Int) (row : TaskRow) :
    Option TaskRow :=
  update (!row.status.terminal)
    { row with
      maxAttempts := max row.maxAttempts maxAttempts
      priority := max row.priority priority
      updatedAt := clk.now }

/-- `mark_failed` whose transactional effect records the compensating task in
the row it just failed, under the same fence. -/
def markFailedWithCompensation (clk : Clock) (f : Fence) (error : String) (result : Obj)
    (compensationTaskId : Int) (compensationState : String) (row : TaskRow) : Option TaskRow :=
  (markFailed clk f error (some result) row).map fun failed =>
    { failed with
      result := some (Obj.merge failed.resultObj
        [("compensation_task_id", .num compensationTaskId 0),
          ("compensation_state", .str compensationState)])
      updatedAt := clk.now }

-- ------------------------------------------------------------
-- Tracker events
-- ------------------------------------------------------------

def trackerDeadlineSeconds : Int := 120

def isTrackerEvent (row : TaskRow) : Bool :=
  row.taskType == .trackerEventProcess

def sweepExhaustedTracker (clk : Clock) (row : TaskRow) : Option TaskRow :=
  update (isTrackerEvent row && row.status.queued && row.maxAttempts ≤ row.attemptCount)
    { row with
      status := .failed
      completedAt := row.completedAt <|> some clk.now
      lastError := row.lastError <|> some "tracker retry budget exhausted"
      updatedAt := clk.now }

def trackerClaimable (clk : Clock) (row : TaskRow) : Bool :=
  isTrackerEvent row && row.status.queued && row.lane == .background &&
    row.availableAt ≤ clk.wall && row.deadlineAt.all (fun deadline => clk.wall < deadline) &&
    row.cancelRequestedAt.isNone && row.attemptCount < row.maxAttempts

def trackerClaimRow (clk : Clock) (worker : Uuid) (leaseSeconds : Int) (row : TaskRow) : TaskRow :=
  { row with
    status := .running
    attemptCount := row.attemptCount + 1
    deadlineAt := row.deadlineAt <|> some (clk.wall + seconds trackerDeadlineSeconds)
    leaseOwner := some worker
    leaseToken := row.leaseToken + 1
    leaseExpiresAt := some (clk.wall + seconds (max 5 leaseSeconds))
    updatedAt := clk.now }

def trackerCancel (clk : Clock) (f : Fence) (row : TaskRow) : Option TaskRow :=
  update (isTrackerEvent row && row.heldBy clk f && row.cancelRequestedAt.isSome)
    { row with
      status := .cancelled
      completedAt := some clk.now
      lastError := row.cancelReason <|> some "cancelled"
      leaseOwner := none
      leaseExpiresAt := none
      updatedAt := clk.now }

/-- The retry of `process_event_task` and of `mark_task_retry`: both look at
the cancel marker first, with the row locked. -/
def trackerRetry (clk : Clock) (f : Fence) (retryAt : Int) (error : String) (row : TaskRow) :
    Option TaskRow :=
  update (isTrackerEvent row && row.heldBy clk f && row.cancelRequestedAt.isNone)
    { row with
      status := .retrying
      availableAt := retryAt
      deadlineAt := some (retryAt + seconds trackerDeadlineSeconds)
      lastError := some error
      leaseOwner := none
      leaseExpiresAt := none
      updatedAt := clk.now }

def trackerSucceed (clk : Clock) (f : Fence) (result : Obj) (row : TaskRow) : Option TaskRow :=
  update (isTrackerEvent row && row.heldBy clk f && row.cancelRequestedAt.isNone)
    { row with
      status := .succeeded
      result := some result
      lastError := none
      completedAt := some clk.now
      updatedAt := clk.now }

def finishTaskFailed (clk : Clock) (f : Fence) (error : String) (row : TaskRow) :
    Option TaskRow :=
  update (isTrackerEvent row && row.heldBy clk f)
    { row with
      status := .failed
      lastError := some (PyText.clip 500 error)
      completedAt := some clk.now
      leaseOwner := none
      leaseExpiresAt := none
      updatedAt := clk.now }

-- ------------------------------------------------------------
-- Campaign runs
-- ------------------------------------------------------------

def beginExternal (clk : Clock) (f : Fence) (operation target : String) (row : TaskRow) :
    Option TaskRow :=
  let keep (key fallback : String) : Json := .str ((Obj.text row.resultObj key).getD fallback)
  update (operation != "" && row.heldBy clk f && row.cancelRequestedAt.isNone &&
      row.deadlineAt.all fun deadline => clk.wall < deadline)
    { row with
      externalStartedAt := row.externalStartedAt <|> some clk.wall
      result := some (Obj.merge row.resultObj
        [("external_boundary_operation",
            keep "external_boundary_operation" (PyText.clip 128 operation)),
          ("external_boundary_target", keep "external_boundary_target" (PyText.clip 256 target))])
      updatedAt := clk.wall }

def recordCreatedIds (clk : Clock) (f : Fence) (result : Obj) (row : TaskRow) : Option TaskRow :=
  update (row.heldBy clk f) { row with result := some result, updatedAt := clk.now }

/-- The task belongs to the run; without that `campaign_run` is not updated and
the transaction is rolled back. -/
def ofRun (runId : String) (row : TaskRow) : Bool :=
  Obj.text row.payload "run_id" == some runId

def finalizeRunSucceeded (clk : Clock) (f : Fence) (runId : String) (result : Obj)
    (row : TaskRow) : Option TaskRow :=
  update (row.heldBy clk f && ofRun runId row)
    { row with
      status := .succeeded
      result := some result
      completedAt := some clk.now
      lastError := none
      updatedAt := clk.now }

def finalizeRunFailed (clk : Clock) (f : Fence) (runId error : String) (result : Obj)
    (row : TaskRow) : Option TaskRow :=
  update (row.heldBy clk f && ofRun runId row)
    { row with
      status := .failed
      lastError := some (clipError error)
      result := some result
      completedAt := some clk.now
      updatedAt := clk.now }

def finalizeRunCancelled (clk : Clock) (f : Fence) (runId reason : String) (result : Obj)
    (row : TaskRow) : Option TaskRow :=
  update (row.heldBy clk f && row.externalStartedAt.isNone && ofRun runId row)
    { row with
      status := .cancelled
      completedAt := some clk.now
      lastError := some (clipError reason)
      result := some result
      updatedAt := clk.now }

/-- The abort of a run: a queued task before its boundary is closed, a running
one gets the marker. The caller has checked that the task is a campaign task. -/
def abortCampaignTask (clk : Clock) (reason : String) (row : TaskRow) : Option TaskRow :=
  if row.taskType = .campaignCreate ∧ row.status.queued ∧ row.externalStartedAt.isNone then
    some { row with
      cancelRequestedAt := row.cancelRequestedAt <|> some clk.wall
      cancelReason := row.cancelReason <|> some (clipError reason)
      status := .cancelled
      completedAt := some clk.wall
      lastError := some (clipError reason)
      result := some (Obj.merge row.resultObj
        [("outcome", .str "REJECTED"), ("reason", .str "campaign_run_abort_before_execution")])
      updatedAt := clk.wall }
  else
    update (row.taskType == .campaignCreate && row.status == .running)
      { row with
        cancelRequestedAt := row.cancelRequestedAt <|> some clk.wall
        cancelReason := row.cancelReason <|> some (clipError reason)
        updatedAt := clk.wall }

-- ------------------------------------------------------------
-- Duplicate boundary and observer scans
-- ------------------------------------------------------------

/-- The boundary of `authorize_duplicate_execution_boundary`, once its receipts
are verified: a fresh create crosses it, a recovery only refreshes the row. -/
def authorizeDuplicateExecutionBoundary (clk : Clock) (f : Fence) (recovery : Bool)
    (row : TaskRow) : Option TaskRow :=
  update (row.heldBy clk f && row.cancelRequestedAt.isNone &&
      row.deadlineAt.all (fun deadline => clk.wall < deadline) &&
      (if recovery then row.externalStartedAt.isSome && row.result.isSome
       else row.externalStartedAt.isNone && row.result.isNone))
    { row with
      externalStartedAt := if recovery then row.externalStartedAt else some clk.wall
      updatedAt := clk.wall }

def observerScanDeadlineSeconds : Int := 120

/-- `GREATEST(COALESCE(deadline_at, '-infinity'), available_at + d, clock_timestamp() + d)`. -/
def extendedScanDeadline (clk : Clock) (row : TaskRow) : Int :=
  let floor := max (row.availableAt + seconds observerScanDeadlineSeconds)
    (clk.wall + seconds observerScanDeadlineSeconds)
  (row.deadlineAt.map (max · floor)).getD floor

def extendScheduledScan (clk : Clock) (row : TaskRow) : Option TaskRow :=
  update (row.taskType == .observerScan && row.status.queued && row.cancelRequestedAt.isNone)
    { row with deadlineAt := some (extendedScanDeadline clk row), updatedAt := clk.wall }

def promoteObserverScan (clk : Clock) (row : TaskRow) : Option TaskRow :=
  update (row.taskType == .observerScan && row.status.queued && row.cancelRequestedAt.isNone)
    { row with
      lane := .interactive
      priority := max row.priority 75
      deadlineAt := some (extendedScanDeadline clk row)
      updatedAt := clk.wall }

/-- `released` says that no task the scan waits for is still open. -/
def releaseScanDependencies (clk : Clock) (released : Bool) (row : TaskRow) : Option TaskRow :=
  update (row.taskType == .observerScan && row.status.queued &&
      Obj.text row.payload "dependency_state" == some "waiting" && released)
    { row with
      availableAt := clk.wall
      deadlineAt := some (clk.wall + seconds observerScanDeadlineSeconds)
      payload := Obj.merge row.payload
        [("dependency_state", .str "ready"), ("dependencies_released_at", .num clk.wall 0)]
      updatedAt := clk.wall }

end StopBot.Tasks
