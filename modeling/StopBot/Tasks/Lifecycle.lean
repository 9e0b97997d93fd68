import StopBot.Tasks.Operations

/-!
# The life of a row

What any statement can do to a row, said once: it annotates the row without
moving it, closes an open row, or puts a running row back in the queue. The
identity columns and the fencing token are kept in every case. Terminal states
are absorbing and rows stay well formed because of this.
-/

namespace StopBot.Tasks

open Lib

theorem update_eq_some {guard : Bool} {new row' : TaskRow} :
    update guard new = some row' ↔ guard = true ∧ new = row' := by
  cases guard <;> simp [update]

@[grind =] theorem heldBy_iff {row : TaskRow} {clk : Clock} {f : Fence} :
    row.heldBy clk f = true ↔
      row.status = .running ∧ row.fencedBy f = true ∧ row.leaseLive clk.wall = true := by
  simp [TaskRow.heldBy, and_assoc]

-- ------------------------------------------------------------
-- Effects
-- ------------------------------------------------------------

/-- The columns no statement after the insert changes, and `max_attempts`,
which only grows. The payload of an observer scan may be released. -/
structure Kept (row row' : TaskRow) : Prop where
  taskType : row'.taskType = row.taskType
  idempotencyKey : row'.idempotencyKey = row.idempotencyKey
  requestedBy : row'.requestedBy = row.requestedBy
  createdAt : row'.createdAt = row.createdAt
  correlationId : row'.correlationId = row.correlationId
  leaseToken : row'.leaseToken = row.leaseToken
  maxAttempts : row.maxAttempts ≤ row'.maxAttempts
  payload : row.taskType ≠ .observerScan → row'.payload = row.payload

structure Annotates (row row' : TaskRow) : Prop where
  status : row'.status = row.status
  attemptCount : row'.attemptCount = row.attemptCount
  leaseOwner : row'.leaseOwner = row.leaseOwner
  completedAt : row'.completedAt = row.completedAt ∨
    (row.status = .running ∧ row'.completedAt = none)
  leaseExpiresAt : row'.leaseExpiresAt = row.leaseExpiresAt ∨ row.status = .running

structure Closes (row row' : TaskRow) : Prop where
  wasOpen : row.status.terminal = false
  terminal : row'.status.terminal = true
  completedAt : row'.completedAt.isSome = true
  leaseOwner : row'.leaseOwner = row.leaseOwner ∨ row'.leaseOwner = none

structure Requeues (row row' : TaskRow) : Prop where
  running : row.status = .running
  status : row'.status = .retrying
  completedAt : row'.completedAt = none ∨ row'.completedAt = row.completedAt
  leaseOwner : row'.leaseOwner = none
  leaseExpiresAt : row'.leaseExpiresAt = none

structure Effect (row row' : TaskRow) : Prop where
  kept : Kept row row'
  moves : Annotates row row' ∨ Closes row row' ∨ Requeues row row'

theorem Kept.rfl_of {row row' : TaskRow} (h : row' = { row with
      status := row'.status, result := row'.result, attemptCount := row'.attemptCount
      lastError := row'.lastError, updatedAt := row'.updatedAt, completedAt := row'.completedAt
      externalStartedAt := row'.externalStartedAt, availableAt := row'.availableAt
      deadlineAt := row'.deadlineAt, leaseOwner := row'.leaseOwner
      leaseExpiresAt := row'.leaseExpiresAt, cancelRequestedAt := row'.cancelRequestedAt
      cancelReason := row'.cancelReason
      manualReviewObservation := row'.manualReviewObservation
      manualReviewAt := row'.manualReviewAt, manualReviewBy := row'.manualReviewBy }) :
    Kept row row' := by
  rw [h]
  exact ⟨rfl, rfl, rfl, rfl, rfl, rfl, Int.le_refl _, fun _ => rfl⟩

section
variable {clk : Clock} {f : Fence} {row new row' : TaskRow} {guard : Bool}

theorem Effect.of_annotate (kept : Kept row new) (status : new.status = row.status)
    (attempts : new.attemptCount = row.attemptCount) (owner : new.leaseOwner = row.leaseOwner)
    (completed : new.completedAt = row.completedAt)
    (expires : new.leaseExpiresAt = row.leaseExpiresAt ∨ row.status = .running) :
    Effect row new :=
  ⟨kept, .inl ⟨status, attempts, owner, .inl completed, expires⟩⟩

theorem Effect.of_close (kept : Kept row new) (wasOpen : row.status.terminal = false)
    (terminal : new.status.terminal = true) (completed : new.completedAt.isSome = true)
    (owner : new.leaseOwner = row.leaseOwner ∨ new.leaseOwner = none) : Effect row new :=
  ⟨kept, .inr (.inl ⟨wasOpen, terminal, completed, owner⟩)⟩

theorem Effect.of_requeue (kept : Kept row new) (running : row.status = .running)
    (status : new.status = .retrying)
    (completed : new.completedAt = none ∨ new.completedAt = row.completedAt)
    (owner : new.leaseOwner = none) (expires : new.leaseExpiresAt = none) :
    Effect row new :=
  ⟨kept, .inr (.inr ⟨running, status, completed, owner, expires⟩)⟩

theorem terminal_of_running (h : row.status = .running) : row.status.terminal = false := by
  rw [h]
  rfl

theorem terminal_of_queued (h : row.status.queued = true) : row.status.terminal = false := by
  cases hs : row.status <;> simp_all [Status.queued, Status.terminal]

theorem Effect.of_update (h : update guard new = some row')
    (effect : guard = true → Effect row new) :
    Effect row row' := by
  obtain ⟨hg, rfl⟩ := update_eq_some.mp h
  exact effect hg

-- ------------------------------------------------------------
-- The effect of each statement
-- ------------------------------------------------------------

theorem markSucceeded_effect (h : markSucceeded clk f result row = some row') : Effect row row' :=
  .of_update h fun hg => .of_close (.rfl_of rfl) (terminal_of_running (by grind)) rfl rfl (by simp)

theorem markFailed_effect (h : markFailed clk f error result row = some row') : Effect row row' :=
  .of_update h fun hg => .of_close (.rfl_of rfl) (terminal_of_running (by grind)) rfl rfl (by simp)

theorem markFailedWithCompensation_effect
    (h : markFailedWithCompensation clk f error result task state row = some row') :
    Effect row row' := by
  obtain ⟨failed, hfailed, rfl⟩ := Option.map_eq_some_iff.mp h
  obtain ⟨hg, rfl⟩ := update_eq_some.mp hfailed
  exact .of_close (.rfl_of rfl) (terminal_of_running (by grind)) rfl rfl (by simp)

theorem markCancelled_effect (h : markCancelled clk f reason row = some row') : Effect row row' :=
  .of_update h fun hg => .of_close (.rfl_of rfl) (terminal_of_running (by grind)) rfl rfl (by simp)

theorem markTaskFailedOrCancelled_effect
    (h : markTaskFailedOrCancelled clk f key error result row = some row') : Effect row row' :=
  .of_update h fun hg =>
    .of_close (.rfl_of rfl) (terminal_of_running (by grind)) (by grind) rfl (by simp)

theorem resolveStatusReconciliationNotApplied_effect
    (h : resolveStatusReconciliationNotApplied clk f effective row = some row') :
    Effect row row' := by
  obtain ⟨hg, rfl⟩ := update_eq_some.mp h
  have hrun : row.status = .running := by grind
  refine ⟨.rfl_of rfl, ?_⟩
  by_cases hclosed : (row.cancelRequestedAt.isSome || decide (row.maxAttempts ≤ row.attemptCount)) =
    true
  · exact .inr (.inl ⟨terminal_of_running hrun, by grind, by simp [hclosed], by simp [hclosed]⟩)
  · -- the write is proven not applied and may be sent again: the row stays running
    exact .inl ⟨by grind, rfl, by simp [hclosed], .inr ⟨hrun, by simp [hclosed]⟩, .inr hrun⟩

theorem touchTaskRunning_effect (h : touchTaskRunning clk f leaseSeconds row = some row') :
    Effect row row' :=
  .of_update h fun hg => .of_annotate (.rfl_of rfl) rfl rfl rfl rfl (.inr (by grind))

theorem markExternalCallStarted_effect (h : markExternalCallStarted clk f key row = some row') :
    Effect row row' :=
  .of_update h fun _ => .of_annotate (.rfl_of rfl) rfl rfl rfl rfl (.inl rfl)

theorem requeueForRetry_effect
    (h : requeueForRetry clk f error attempts maxAttempts lane row = some row') :
    Effect row row' := by
  simp only [requeueForRetry] at h
  split at h
  · exact markFailed_effect h
  · exact .of_update h fun hg => .of_requeue (.rfl_of rfl) (by grind) rfl (.inr rfl) rfl rfl

theorem requeueProvenNotCommitted_effect
    (h : requeueProvenNotCommitted clk f key error attempts lane row = some row') :
    Effect row row' := by
  obtain ⟨hg, rfl⟩ := update_eq_some.mp h
  have hrun : row.status = .running := by grind
  by_cases hclosed :
      (row.cancelRequestedAt.isSome || decide (row.maxAttempts ≤ row.attemptCount + 1)) = true
  · exact .of_close (.rfl_of rfl) (terminal_of_running hrun) (by grind) (by simp [hclosed])
      (.inr rfl)
  · exact .of_requeue (.rfl_of rfl) hrun (by grind) (.inl (by simp [hclosed])) rfl rfl

theorem releaseAfterBrowserReadinessRejection_effect
    (h : releaseAfterBrowserReadinessRejection clk f generation error key lane row = some row') :
    Effect row row' := by
  obtain ⟨hg, rfl⟩ := update_eq_some.mp h
  have hrun : row.status = .running := by grind
  by_cases hclosed : (row.cancelRequestedAt.isSome && !row.reconcileRequired ||
      (decide (row.lane = .money) && decide (row.maxAttempts ≤ row.attemptCount + 1))) = true
  · exact .of_close (.rfl_of rfl) (terminal_of_running hrun) (by grind) (by simp [hclosed])
      (.inr rfl)
  · exact .of_requeue (.rfl_of rfl) hrun (by grind) (.inl (by simp [hclosed])) rfl rfl

theorem requeueUnknownForReconciliation_effect
    (h : requeueUnknownForReconciliation clk f error attempts maxAttempts lane already row =
      some row') : Effect row row' := by
  simp only [requeueUnknownForReconciliation] at h
  split at h
  · exact markFailed_effect h
  · exact .of_update h fun hg => .of_requeue (.rfl_of rfl) (by grind) rfl (.inr rfl) rfl rfl

theorem deferUnknownReconciliation_effect
    (h : deferUnknownReconciliation clk f error delay lane row = some row') : Effect row row' :=
  .of_update h fun hg => .of_requeue (.rfl_of rfl) (by grind) rfl (.inr rfl) rfl rfl

theorem deferAutoStopForFreshSnapshot_effect
    (h : deferAutoStopForFreshSnapshot clk f delay row = some row') : Effect row row' :=
  .of_update h fun hg => .of_requeue (.rfl_of rfl) (by grind) rfl (.inr rfl) rfl rfl

theorem checkpointDuplicateAdsetStructure_effect
    (h : checkpointDuplicateAdsetStructure clk f checkpoint row = some row') : Effect row row' :=
  .of_update h fun _ => .of_annotate (.rfl_of rfl) rfl rfl rfl rfl (.inl rfl)

theorem requeueDuplicateRecovery_effect
    (h : requeueDuplicateRecovery clk f checkpoint valid error delay row = some row') :
    Effect row row' :=
  .of_update h fun hg => .of_requeue (.rfl_of rfl) (by grind) rfl (.inr rfl) rfl rfl

theorem prepareStuckDuplicateRecovery_effect
    (h : prepareStuckDuplicateRecovery clk sec row = some row') : Effect row row' :=
  .of_update h fun hg => .of_requeue (.rfl_of rfl) (by grind) rfl (.inr rfl) rfl rfl

theorem failStuckDuplicateWithoutCheckpoint_effect
    (h : failStuckDuplicateWithoutCheckpoint clk sec row = some row') :
    Effect row row' :=
  .of_update h fun hg => .of_close (.rfl_of rfl) (terminal_of_running (by grind)) rfl rfl (by simp)

theorem failStuckCampaignCreate_effect (h : failStuckCampaignCreate clk sec row = some row') :
    Effect row row' :=
  .of_update h fun hg => .of_close (.rfl_of rfl) (terminal_of_running (by grind)) rfl rfl (by simp)

theorem reconcileStuckRunning_effect (h : reconcileStuckRunning clk sec exclude row = some row') :
    Effect row row' := by
  obtain ⟨hg, rfl⟩ := update_eq_some.mp h
  have hrun : row.status = .running := by grind
  by_cases hverify : (row.externalStartedAt.isSome && isStatusAction row) = true
  · exact .of_requeue (.rfl_of rfl) hrun (by simp [hverify]) (.inr (by simp [hverify])) rfl rfl
  · by_cases hclosed : row.maxAttempts ≤ row.attemptCount + 1 ∨ row.externalStartedAt.isSome = true
    · exact .of_close (.rfl_of rfl) (terminal_of_running hrun) (by grind) (by grind) (.inr rfl)
    · exact .of_requeue (.rfl_of rfl) hrun (by grind) (.inr (by grind)) rfl rfl

theorem requestTaskCancel_effect (h : requestTaskCancel clk reason row = some row') :
    Effect row row' := by
  obtain ⟨hg, rfl⟩ := update_eq_some.mp h
  by_cases hunstarted : (row.status.queued && row.externalStartedAt.isNone) = true
  · exact .of_close (.rfl_of rfl) (by grind) (by simp [hunstarted, Status.terminal])
      (by simp [hunstarted]) (.inl rfl)
  · exact .of_annotate (.rfl_of rfl) (by simp [hunstarted]) rfl rfl
      (by simp [hunstarted]) (.inl rfl)

theorem cancelUnstartedAutoPause_effect (h : cancelUnstartedAutoPause clk fbAdId row = some row') :
    Effect row row' := by
  unfold cancelUnstartedAutoPause at h
  split at h
  · cases h
    exact .of_close (.rfl_of rfl) (by grind) rfl rfl (.inr rfl)
  · exact .of_update h fun _ => .of_annotate (.rfl_of rfl) rfl rfl rfl rfl (.inl rfl)

theorem abortCampaignTask_effect (h : abortCampaignTask clk reason row = some row') :
    Effect row row' := by
  unfold abortCampaignTask at h
  split at h
  · rename_i hqueued
    cases h
    exact .of_close (.rfl_of rfl) (terminal_of_queued hqueued.2.1) rfl rfl (.inl rfl)
  · exact .of_update h fun _ => .of_annotate (.rfl_of rfl) rfl rfl rfl rfl (.inl rfl)

theorem expireOverdue_effect (h : expireOverdue clk scope row = some row') : Effect row row' :=
  .of_update h fun hg => .of_close (.rfl_of rfl) (terminal_of_queued (by grind)) rfl rfl (.inl rfl)

theorem recordManualReconciliation_effect
    (h : recordManualReconciliation clk observation reviewedBy row = some row') : Effect row row' :=
  .of_update h fun _ => .of_annotate (.rfl_of rfl) rfl rfl rfl rfl (.inl rfl)

theorem strengthenActiveTask_effect
    (h : strengthenActiveTask clk maxAttempts priority row = some row') : Effect row row' :=
  .of_update h fun _ =>
    .of_annotate ⟨rfl, rfl, rfl, rfl, rfl, rfl, Int.le_max_left _ _, fun _ => rfl⟩
      rfl rfl rfl rfl (.inl rfl)

theorem sweepExhaustedTracker_effect (h : sweepExhaustedTracker clk row = some row') :
    Effect row row' :=
  .of_update h fun hg =>
    .of_close (.rfl_of rfl) (terminal_of_queued (by grind)) rfl (by simp) (.inl rfl)

theorem trackerCancel_effect (h : trackerCancel clk f row = some row') :
    Effect row row' :=
  .of_update h fun hg => .of_close (.rfl_of rfl) (terminal_of_running (by grind)) rfl rfl (by simp)

theorem trackerRetry_effect
    (h : trackerRetry clk f retryAt error row = some row') : Effect row row' :=
  .of_update h fun hg => .of_requeue (.rfl_of rfl) (by grind) rfl (.inr rfl) rfl rfl

theorem trackerSucceed_effect (h : trackerSucceed clk f result row = some row') :
    Effect row row' :=
  .of_update h fun hg => .of_close (.rfl_of rfl) (terminal_of_running (by grind)) rfl rfl (by simp)

theorem finishTaskFailed_effect (h : finishTaskFailed clk f error row = some row') :
    Effect row row' :=
  .of_update h fun hg => .of_close (.rfl_of rfl) (terminal_of_running (by grind)) rfl rfl (by simp)

theorem beginExternal_effect
    (h : beginExternal clk f operation target row = some row') : Effect row row' :=
  .of_update h fun _ => .of_annotate (.rfl_of rfl) rfl rfl rfl rfl (.inl rfl)

theorem recordCreatedIds_effect
    (h : recordCreatedIds clk f result row = some row') : Effect row row' :=
  .of_update h fun _ => .of_annotate (.rfl_of rfl) rfl rfl rfl rfl (.inl rfl)

theorem finalizeRunSucceeded_effect (h : finalizeRunSucceeded clk f runId result row = some row') :
    Effect row row' :=
  .of_update h fun hg => .of_close (.rfl_of rfl) (terminal_of_running (by grind)) rfl rfl (by simp)

theorem finalizeRunFailed_effect (h : finalizeRunFailed clk f runId error result row = some row') :
    Effect row row' :=
  .of_update h fun hg => .of_close (.rfl_of rfl) (terminal_of_running (by grind)) rfl rfl (by simp)

theorem finalizeRunCancelled_effect
    (h : finalizeRunCancelled clk f runId reason result row = some row') :
    Effect row row' :=
  .of_update h fun hg => .of_close (.rfl_of rfl) (terminal_of_running (by grind)) rfl rfl (by simp)

theorem authorizeDuplicateExecutionBoundary_effect
    (h : authorizeDuplicateExecutionBoundary clk f recovery row = some row') : Effect row row' :=
  .of_update h fun _ => .of_annotate (.rfl_of rfl) rfl rfl rfl rfl (.inl rfl)

theorem extendScheduledScan_effect
    (h : extendScheduledScan clk  row = some row') : Effect row row' :=
  .of_update h fun _ => .of_annotate (.rfl_of rfl) rfl rfl rfl rfl (.inl rfl)

theorem promoteObserverScan_effect (h : promoteObserverScan clk row = some row') :
    Effect row row' :=
  .of_update h fun _ =>
    .of_annotate ⟨rfl, rfl, rfl, rfl, rfl, rfl, Int.le_refl _, fun _ => rfl⟩
      rfl rfl rfl rfl (.inl rfl)

theorem releaseScanDependencies_effect (h : releaseScanDependencies clk released row = some row') :
    Effect row row' :=
  .of_update h fun hg =>
    .of_annotate ⟨rfl, rfl, rfl, rfl, rfl, rfl, Int.le_refl _, fun hscan => absurd (by grind) hscan⟩
      rfl rfl rfl rfl (.inl rfl)

theorem RowOp.effect {op : RowOp} (h : op.apply clk row = some row') : Effect row row' := by
  cases op with
  | markSucceeded => exact markSucceeded_effect h
  | markFailed => exact markFailed_effect h
  | markFailedWithCompensation => exact markFailedWithCompensation_effect h
  | markCancelled => exact markCancelled_effect h
  | markTaskFailedOrCancelled => exact markTaskFailedOrCancelled_effect h
  | resolveStatusReconciliationNotApplied => exact resolveStatusReconciliationNotApplied_effect h
  | touchTaskRunning => exact touchTaskRunning_effect h
  | markExternalCallStarted => exact markExternalCallStarted_effect h
  | requeueForRetry => exact requeueForRetry_effect h
  | requeueProvenNotCommitted => exact requeueProvenNotCommitted_effect h
  | releaseAfterBrowserReadinessRejection => exact releaseAfterBrowserReadinessRejection_effect h
  | requeueUnknownForReconciliation => exact requeueUnknownForReconciliation_effect h
  | deferUnknownReconciliation => exact deferUnknownReconciliation_effect h
  | deferAutoStopForFreshSnapshot => exact deferAutoStopForFreshSnapshot_effect h
  | checkpointDuplicateAdsetStructure => exact checkpointDuplicateAdsetStructure_effect h
  | requeueDuplicateRecovery => exact requeueDuplicateRecovery_effect h
  | trackerCancel => exact trackerCancel_effect h
  | trackerRetry => exact trackerRetry_effect h
  | trackerSucceed => exact trackerSucceed_effect h
  | finishTaskFailed => exact finishTaskFailed_effect h
  | beginExternal => exact beginExternal_effect h
  | recordCreatedIds => exact recordCreatedIds_effect h
  | finalizeRunSucceeded => exact finalizeRunSucceeded_effect h
  | finalizeRunFailed => exact finalizeRunFailed_effect h
  | finalizeRunCancelled => exact finalizeRunCancelled_effect h
  | authorizeDuplicateExecutionBoundary => exact authorizeDuplicateExecutionBoundary_effect h
  | prepareStuckDuplicateRecovery => exact prepareStuckDuplicateRecovery_effect h
  | failStuckDuplicateWithoutCheckpoint => exact failStuckDuplicateWithoutCheckpoint_effect h
  | failStuckCampaignCreate => exact failStuckCampaignCreate_effect h
  | reconcileStuckRunning => exact reconcileStuckRunning_effect h
  | requestTaskCancel => exact requestTaskCancel_effect h
  | cancelUnstartedAutoPause => exact cancelUnstartedAutoPause_effect h
  | abortCampaignTask => exact abortCampaignTask_effect h
  | expireOverdue => exact expireOverdue_effect h
  | recordManualReconciliation => exact recordManualReconciliation_effect h
  | strengthenActiveTask => exact strengthenActiveTask_effect h
  | sweepExhaustedTracker => exact sweepExhaustedTracker_effect h
  | extendScheduledScan => exact extendScheduledScan_effect h
  | promoteObserverScan => exact promoteObserverScan_effect h
  | releaseScanDependencies => exact releaseScanDependencies_effect h

end

-- ------------------------------------------------------------
-- Well-formed rows and absorbing states
-- ------------------------------------------------------------

/-- A row is completed exactly when it is terminal, and a queued row has no lease. -/
structure WellFormed (row : TaskRow) : Prop where
  completed : row.completedAt.isSome = row.status.terminal
  unleased : row.status.queued = true → row.leaseOwner = none ∧ row.leaseExpiresAt = none

/-- The columns a terminal row keeps for good. -/
structure Frozen (row row' : TaskRow) : Prop where
  status : row'.status = row.status
  completedAt : row'.completedAt = row.completedAt
  attemptCount : row'.attemptCount = row.attemptCount

theorem NewTask.row_wellFormed {clk : Clock} {task : NewTask} (h : task.status = .pending) :
    WellFormed (task.row clk) := by
  refine ⟨?_, fun _ => ⟨rfl, rfl⟩⟩
  show (none : Option Int).isSome = task.status.terminal
  rw [h]
  rfl

theorem Claims.queued {clk : Clock} {row row' : TaskRow} {worker : Uuid}
    (h : Claims clk row worker row') : row.status.queued = true := by
  cases h with
  | scheduler c h =>
    simp only [claimable, Bool.and_eq_true] at h
    exact h.1.1.1.1.2
  | tracker worker leaseSeconds h =>
    simp only [trackerClaimable, Bool.and_eq_true] at h
    exact h.1.1.1.1.1.2

theorem Claims.spec {clk : Clock} {row row' : TaskRow} {worker : Uuid}
    (h : Claims clk row worker row') :
    row'.status = .running ∧ row'.leaseOwner = some worker ∧
      row'.leaseToken = row.leaseToken + 1 ∧ row'.completedAt = row.completedAt := by
  cases h <;> exact ⟨rfl, rfl, rfl, rfl⟩

theorem Claims.kept {clk : Clock} {row row' : TaskRow} {worker : Uuid}
    (h : Claims clk row worker row') :
    row'.taskType = row.taskType ∧ row'.idempotencyKey = row.idempotencyKey ∧
      row'.requestedBy = row.requestedBy ∧ row'.payload = row.payload ∧
      row'.maxAttempts = row.maxAttempts := by
  cases h <;> exact ⟨rfl, rfl, rfl, rfl, rfl⟩

theorem Effect.wellFormed {row row' : TaskRow} (h : Effect row row') (hrow : WellFormed row) :
    WellFormed row' := by
  obtain ⟨-, hann | hclose | hreq⟩ := h
  · refine ⟨?_, fun hq => ?_⟩
    · rcases hann.completedAt with hc | ⟨hrun, hc⟩
      · rw [hc, hann.status, hrow.completed]
      · rw [hc, hann.status, hrun]
        rfl
    · rw [hann.status] at hq
      obtain ⟨howner, hexpires⟩ := hrow.unleased hq
      refine ⟨hann.leaseOwner.trans howner, ?_⟩
      rcases hann.leaseExpiresAt with he | hrun
      · exact he.trans hexpires
      · rw [hrun] at hq
        cases hq
  · refine ⟨by rw [hclose.completedAt, hclose.terminal], fun hq => ?_⟩
    have hterminal := hclose.terminal
    rw [terminal_of_queued hq] at hterminal
    cases hterminal
  · refine ⟨?_, fun _ => ⟨hreq.leaseOwner, hreq.leaseExpiresAt⟩⟩
    rcases hreq.completedAt with hc | hc
    · rw [hc, hreq.status]
      rfl
    · rw [hc, hrow.completed, hreq.status, hreq.running]
      rfl

theorem Effect.frozen {row row' : TaskRow} (h : Effect row row')
    (hterminal : row.status.terminal = true) : Frozen row row' := by
  have hrunning : row.status ≠ .running := by
    intro hrun
    rw [hrun] at hterminal
    cases hterminal
  obtain ⟨-, hann | hclose | hreq⟩ := h
  · refine ⟨hann.status, ?_, hann.attemptCount⟩
    rcases hann.completedAt with hc | ⟨hrun, -⟩
    · exact hc
    · exact absurd hrun hrunning
  · rw [hclose.wasOpen] at hterminal
    cases hterminal
  · exact absurd hreq.running hrunning

theorem RowStep.wellFormed {clk : Clock} {row row' : TaskRow} (h : RowStep clk row row')
    (hrow : WellFormed row) : WellFormed row' := by
  cases h with
  | stay => exact hrow
  | op op h => exact (RowOp.effect h).wellFormed hrow
  | claim h =>
    obtain ⟨hstatus, -, -, hcompleted⟩ := h.spec
    refine ⟨?_, fun hq => ?_⟩
    · rw [hcompleted, hrow.completed, terminal_of_queued h.queued, hstatus]
      rfl
    · rw [hstatus] at hq
      cases hq

theorem RowStep.frozen {clk : Clock} {row row' : TaskRow} (h : RowStep clk row row')
    (hterminal : row.status.terminal = true) : Frozen row row' := by
  cases h with
  | stay => exact ⟨rfl, rfl, rfl⟩
  | op op h => exact (RowOp.effect h).frozen hterminal
  | claim h =>
    rw [terminal_of_queued h.queued] at hterminal
    cases hterminal

/-- What a row is for does not change; only a scan may have its payload released. -/
theorem RowStep.identity {clk : Clock} {row row' : TaskRow} (h : RowStep clk row row') :
    row'.taskType = row.taskType ∧ row'.idempotencyKey = row.idempotencyKey ∧
      (row.taskType ≠ .observerScan → row'.payload = row.payload) := by
  cases h with
  | stay => exact ⟨rfl, rfl, fun _ => rfl⟩
  | op op h =>
    have hkept := (RowOp.effect h).kept
    exact ⟨hkept.taskType, hkept.idempotencyKey, hkept.payload⟩
  | claim h =>
    obtain ⟨htype, hkey, -, hpayload, -⟩ := h.kept
    exact ⟨htype, hkey, fun _ => hpayload⟩

theorem keyTaken_step {q : Queue} {key : String} (e : Clock × QueueOp) (h : keyTaken q key = true) :
    keyTaken (step q e) key = true := by
  obtain ⟨id, row, hrow, rfl⟩ := keyTaken_iff.mp h
  obtain ⟨row', hrow', hstep⟩ := step_stored e hrow
  exact keyTaken_iff.mpr ⟨id, row', hrow', hstep.identity.2.1⟩

/-- A row that is terminal stays stored, and stays as it is, along every run. -/
theorem run_frozen {q : Queue} {id : Nat} {row : TaskRow} (h : q.rows id = some row)
    (hterminal : row.status.terminal = true) (es : List (Clock × QueueOp)) :
    ∃ row', (run step q es).rows id = some row' ∧ Frozen row row' := by
  refine run_preserves (I := fun q : Queue => ∃ row', q.rows id = some row' ∧ Frozen row row')
    ?_ ⟨row, h, rfl, rfl, rfl⟩ es
  rintro q e ⟨row', h', hfrozen⟩
  obtain ⟨row'', h'', hstep⟩ := step_stored e h'
  have hnext := hstep.frozen (hfrozen.status ▸ hterminal)
  exact ⟨row'', h'', hnext.status.trans hfrozen.status,
    hnext.completedAt.trans hfrozen.completedAt, hnext.attemptCount.trans hfrozen.attemptCount⟩

/-- In a queue that only ever got pending tasks, every row is well formed after
every run of operations, and no later operation touches the status, the
completion instant or the attempts of a row that has become terminal. -/
theorem terminal_absorbing_and_wellFormed (es fs : List (Clock × QueueOp))
    (hpending : ∀ e ∈ es, ∀ task, e.2 = .create task → task.status = .pending) :
    (∀ id row, (run step Table.empty es).rows id = some row → WellFormed row) ∧
    (∀ id row, (run step Table.empty es).rows id = some row → row.status.terminal = true →
      ∃ row', (run step Table.empty (es ++ fs)).rows id = some row' ∧ Frozen row row') := by
  refine ⟨?_, fun id row h hterminal => ?_⟩
  · refine run_rows (C := fun _ e => ∀ task, e.2 = .create task → task.status = .pending)
      (fun _ _ task hc => NewTask.row_wellFormed (hc task rfl))
      (fun _ _ _ _ _ _ _ hrow _ hstep => hstep.wellFormed hrow) (fun _ _ h => by cases h)
      (allSteps_of_forall (fun e he _ => hpending e he) _)
  · rw [run_append]
    exact run_frozen h hterminal fs

-- A concrete run: an automatic pause is created, claimed and confirmed.

def tick (n : Int) : Clock :=
  { now := seconds n, wall := seconds n, host := seconds n }

def autoPause : NewTask :=
  { taskType := .metaApiMutation
    idempotencyKey := "auto:pause_ad:238:7"
    payload := [("mutation_kind", .str "pause_ad"), ("target_id", .str "238"),
      ("ad_account_id", .str "900")]
    requestedBy := "bot_auto_stop"
    maxAttempts := 15 }

def moneyWorker : Consumer :=
  { taskType := .metaApiMutation, lanes := [.money], worker := 1 }

def confirmedRun : List (Clock × QueueOp) :=
  [(tick 0, .create autoPause), (tick 1, .claim moneyWorker true []),
    (tick 2, .onRow 0 (.markSucceeded ⟨some 1, some 1⟩ (some [("outcome", .str "CONFIRMED")])))]

theorem confirmedRun_stays_succeeded :
    ∃ row, (run step Table.empty
        (confirmedRun ++ [(tick 3, .onRow 0 (.requestTaskCancel "too late"))])).rows 0 = some row ∧
      row.status = .succeeded ∧ row.completedAt = some (seconds 2) := by
  have hpending : ∀ e ∈ confirmedRun, ∀ task, e.2 = .create task → task.status = .pending := by
    simp [confirmedRun, autoPause]
  obtain ⟨row, hrow, hfrozen⟩ :=
    (terminal_absorbing_and_wellFormed confirmedRun _ hpending).2 0 _ rfl rfl
  exact ⟨row, hrow, hfrozen.status, hfrozen.completedAt⟩

end StopBot.Tasks
