import StopBot.Tasks.Lifecycle
import Mathlib.Data.Bool.Basic

/-!
# Cancelled rows that no one can claim

Both claim statements skip a row with a cancel marker unless its outcome is
unknown. A queued row that carries the marker without `reconcile_required` is
therefore out of reach, and in the money lane, which expiry leaves alone, for
good. The statements that return a row to the queue treat the marker in
different ways; here is what they must find for no such row to appear.
-/

namespace StopBot.Tasks

open Lib

def ZombieFree (row : TaskRow) : Prop :=
  row.status.queued = true → row.cancelRequestedAt.isSome = true → row.reconcileRequired = true

/-- A row may go back to the queue as it is: no marker, or an unknown outcome. -/
def Requeueable (row : TaskRow) : Prop :=
  row.cancelRequestedAt.isSome = true → row.reconcileRequired = true

/-- What each statement that does not look at the marker must find on a row it
applies to: those that requeue the row find it requeueable, and those that
mark a queued row past its boundary find its outcome unknown. -/
def CancelSafe (clk : Clock) (row : TaskRow) : RowOp → Prop
  | .requeueForRetry f _ attempts maxAttempts _ =>
    row.heldBy clk f = true → attempts + 1 < maxAttempts → Requeueable row
  | .deferAutoStopForFreshSnapshot f _ =>
    row.heldBy clk f = true → row.externalStartedAt = none → Requeueable row
  | .requeueDuplicateRecovery f checkpoint validCheckpoint _ _ =>
    row.heldBy clk f = true → isDuplicate row = true → validCheckpoint = true →
      Requeueable { row with result := some checkpoint }
  | .prepareStuckDuplicateRecovery sec =>
    row.status = .running → row.stuck clk.now sec = true → isDuplicate row = true →
      hasDuplicateCheckpoint row = true → Requeueable row
  | .reconcileStuckRunning sec exclude =>
    row.status = .running → row.stuck clk.now sec = true → row.taskType ≠ .campaignCreate →
      (row.taskType == .metaApiMutation && row.mutationKind.any (exclude.contains ·)) = false →
      row.externalStartedAt = none → row.attemptCount + 1 < row.maxAttempts → Requeueable row
  | .requestTaskCancel _ =>
    row.status.queued = true → row.externalStartedAt.isSome = true → row.reconcileRequired = true
  | .cancelUnstartedAutoPause fbAdId =>
    isAutoPauseOf fbAdId row = true → row.status = .retrying →
      row.externalStartedAt.isSome = true → row.reconcileRequired = true
  | _ => True

/-- The condition on one operation: its statement is safe on every row it runs on. -/
def CancelSafeStep (q : Queue) (e : Clock × QueueOp) : Prop :=
  ∀ id row op, q.rows id = some row → opOn e.2 id = some op → CancelSafe e.1 row op

-- ------------------------------------------------------------
-- One statement
-- ------------------------------------------------------------

section
variable {clk : Clock} {row row' new : TaskRow}

theorem zombieFree_of_not_queued (h : new.status.queued = false) : ZombieFree new := by
  intro hq
  rw [h] at hq
  cases hq

theorem reconcileRequired_congr (h : new.result = row.result) :
    new.reconcileRequired = row.reconcileRequired := by
  simp [TaskRow.reconcileRequired, TaskRow.flag, TaskRow.resultObj, h]

theorem reconcileRequired_of_merge {left right : Obj} (h : new.result = some (left.merge right))
    (hkey : right.get? "reconcile_required" = some (.bool true)) :
    new.reconcileRequired = true := by
  have htext : (left.merge right).text "reconcile_required" = Json.text (.bool true) :=
    Obj.text_merge_of_some hkey
  simp only [TaskRow.reconcileRequired, TaskRow.flag, TaskRow.resultObj, h, Option.getD_some, htext]
  rfl

theorem ZombieFree.congr (hrow : ZombieFree row) (hs : new.status = row.status)
    (hc : new.cancelRequestedAt = row.cancelRequestedAt) (hr : new.result = row.result) :
    ZombieFree new := by
  intro hq hcancel
  rw [reconcileRequired_congr hr]
  exact hrow (hs ▸ hq) (hc ▸ hcancel)

theorem Requeueable.zombieFree (hrow : Requeueable row)
    (hc : new.cancelRequestedAt = row.cancelRequestedAt)
    (hr : row.reconcileRequired = true → new.reconcileRequired = true) : ZombieFree new := by
  intro _ hcancel
  rw [hc] at hcancel
  exact hr (hrow hcancel)

theorem reconcileRequired_of_text {result : Obj} (hr : new.result = some result)
    (ht : Obj.text result "reconcile_required" = some "true") : new.reconcileRequired = true := by
  simp [TaskRow.reconcileRequired, TaskRow.flag, TaskRow.resultObj, hr, ht]

theorem text_of_reconcileRequired (h : row.reconcileRequired = true) :
    Obj.text row.resultObj "reconcile_required" = some "true" := by
  simpa [TaskRow.reconcileRequired, TaskRow.flag] using h

theorem zombieFree_of_held {f : Fence} (h : row.heldBy clk f = true)
    (hs : new.status = row.status) : ZombieFree new := by
  apply zombieFree_of_not_queued
  rw [hs, (heldBy_iff.mp h).1]
  rfl

theorem requeueForRetry_zombieFree {f : Fence}
    (h : requeueForRetry clk f error attempts maxAttempts lane row = some row')
    (hsafe : row.heldBy clk f = true → attempts + 1 < maxAttempts → Requeueable row) :
    ZombieFree row' := by
  simp only [requeueForRetry] at h
  split at h
  · obtain ⟨-, rfl⟩ := update_eq_some.mp h
    exact zombieFree_of_not_queued rfl
  · obtain ⟨hg, rfl⟩ := update_eq_some.mp h
    exact (hsafe (by grind) (by omega)).zombieFree rfl fun hr => hr

/-- A proven pre-send attempt of a cancelled row is closed, not requeued. -/
theorem requeueProvenNotCommitted_zombieFree {f : Fence}
    (h : requeueProvenNotCommitted clk f key error attempts lane row = some row') :
    ZombieFree row' := by
  obtain ⟨-, rfl⟩ := update_eq_some.mp h
  intro hq hcancel
  have hcancelled : row.cancelRequestedAt.isSome = true := hcancel
  simp [hcancelled, Status.queued] at hq

/-- The release closes a cancelled row unless its outcome is unknown, and keeps
the unknown outcome when it requeues. -/
theorem releaseAfterBrowserReadinessRejection_zombieFree {f : Fence}
    (h : releaseAfterBrowserReadinessRejection clk f generation error key lane row = some row') :
    ZombieFree row' := by
  obtain ⟨-, rfl⟩ := update_eq_some.mp h
  intro hq hcancel
  have hcancelled : row.cancelRequestedAt.isSome = true := hcancel
  cases hr : row.reconcileRequired with
  | false => simp [hcancelled, hr, Status.queued] at hq
  | true =>
    have hopen : (decide (row.lane = .money) &&
        decide (row.maxAttempts ≤ row.attemptCount + 1)) = false := by
      apply Bool.eq_false_iff.mpr
      intro hexhausted
      simp [hr, hexhausted, Status.queued] at hq
    refine reconcileRequired_of_text rfl ?_
    have htext := text_of_reconcileRequired hr
    simp only [hopen, Bool.and_false, Bool.not_true, Bool.false_eq_true, if_false,
      Bool.and_true]
    rw [Obj.text_erase_of_ne (by decide), Obj.text_erase_of_ne (by decide)]
    exact htext

theorem requeueUnknownForReconciliation_zombieFree {f : Fence}
    (h : requeueUnknownForReconciliation clk f error attempts maxAttempts lane already row =
      some row') : ZombieFree row' := by
  simp only [requeueUnknownForReconciliation] at h
  split at h
  · obtain ⟨-, rfl⟩ := update_eq_some.mp h
    exact zombieFree_of_not_queued rfl
  · obtain ⟨-, rfl⟩ := update_eq_some.mp h
    exact fun _ _ => reconcileRequired_of_merge rfl rfl

theorem reconcileStuckRunning_zombieFree
    (h : reconcileStuckRunning clk sec exclude row = some row')
    (hsafe : CancelSafe clk row (.reconcileStuckRunning sec exclude)) : ZombieFree row' := by
  obtain ⟨hg, rfl⟩ := update_eq_some.mp h
  cases hstarted : row.externalStartedAt with
  | some instant =>
    -- past the boundary the outcome becomes unknown
    exact fun _ _ => reconcileRequired_of_merge rfl rfl
  | none =>
    by_cases hexhausted : row.maxAttempts ≤ row.attemptCount + 1
    · exact zombieFree_of_not_queued (by simp [hexhausted, Status.queued])
    · have hrequeueable : Requeueable row :=
        hsafe (by grind) (by grind) (by grind) (by grind) hstarted (by omega)
      exact hrequeueable.zombieFree rfl fun hr =>
        (reconcileRequired_congr (by simp [hexhausted])).trans hr

theorem requestTaskCancel_zombieFree (h : requestTaskCancel clk reason row = some row')
    (hsafe : row.status.queued = true → row.externalStartedAt.isSome = true →
      row.reconcileRequired = true) : ZombieFree row' := by
  obtain ⟨-, rfl⟩ := update_eq_some.mp h
  by_cases hunstarted : (row.status.queued && row.externalStartedAt.isNone) = true
  · refine zombieFree_of_not_queued ?_
    simp only [hunstarted, if_true]
    rfl
  · intro hq _
    simp only [hunstarted, if_false, Bool.false_eq_true] at hq
    have hstarted : row.externalStartedAt.isSome = true := by
      simpa [hq, Option.isSome_iff_ne_none] using hunstarted
    exact (reconcileRequired_congr (by simp [hunstarted])).trans (hsafe hq hstarted)

theorem cancelUnstartedAutoPause_zombieFree
    (h : cancelUnstartedAutoPause clk fbAdId row = some row')
    (hsafe : CancelSafe clk row (.cancelUnstartedAutoPause fbAdId)) : ZombieFree row' := by
  unfold cancelUnstartedAutoPause at h
  split at h
  · cases h
    exact zombieFree_of_not_queued rfl
  · obtain ⟨hg, rfl⟩ := update_eq_some.mp h
    intro hq _
    have hretrying : row.status = .retrying := by grind
    exact hsafe (by grind) hretrying (by grind)

/-- Under its condition, every statement keeps the rows free of zombies. -/
theorem RowOp.zombieFree {op : RowOp} (h : op.apply clk row = some row')
    (hsafe : CancelSafe clk row op) (hrow : ZombieFree row) : ZombieFree row' := by
  cases op with
  | requeueForRetry => exact requeueForRetry_zombieFree h hsafe
  | requeueProvenNotCommitted => exact requeueProvenNotCommitted_zombieFree h
  | releaseAfterBrowserReadinessRejection =>
    exact releaseAfterBrowserReadinessRejection_zombieFree h
  | requeueUnknownForReconciliation => exact requeueUnknownForReconciliation_zombieFree h
  | deferUnknownReconciliation =>
    obtain ⟨-, rfl⟩ := update_eq_some.mp h
    exact fun _ _ => reconcileRequired_of_merge rfl rfl
  | reconcileStuckRunning => exact reconcileStuckRunning_zombieFree h hsafe
  | requestTaskCancel => exact requestTaskCancel_zombieFree h hsafe
  | cancelUnstartedAutoPause => exact cancelUnstartedAutoPause_zombieFree h hsafe
  | deferAutoStopForFreshSnapshot =>
    obtain ⟨hg, rfl⟩ := update_eq_some.mp h
    have hunstarted : row.externalStartedAt = none := Option.isNone_iff_eq_none.mp (by grind)
    exact Requeueable.zombieFree (hsafe (by grind) hunstarted) rfl fun hr => hr
  | requeueDuplicateRecovery =>
    obtain ⟨hg, rfl⟩ := update_eq_some.mp h
    exact Requeueable.zombieFree (hsafe (by grind) (by grind) (by grind)) rfl fun hr => hr
  | prepareStuckDuplicateRecovery =>
    obtain ⟨hg, rfl⟩ := update_eq_some.mp h
    have hrequeueable : Requeueable row := hsafe (by grind) (by grind) (by grind) (by grind)
    refine hrequeueable.zombieFree rfl fun hr => ?_
    -- the recovery flags leave the outcome as it is
    cases hresult : row.result with
    | none => simp [TaskRow.reconcileRequired, TaskRow.flag, TaskRow.resultObj, hresult,
        Obj.text] at hr
    | some result =>
      refine reconcileRequired_of_text (by simp; rfl) ?_
      rw [Obj.text_merge_of_none rfl]
      simpa [TaskRow.resultObj, hresult] using text_of_reconcileRequired hr
  | trackerRetry =>
    obtain ⟨hg, rfl⟩ := update_eq_some.mp h
    have hunmarked : row.cancelRequestedAt = none := Option.isNone_iff_eq_none.mp (by grind)
    intro _ hcancel
    simp [hunmarked] at hcancel
  | abortCampaignTask =>
    simp only [RowOp.apply, Tasks.abortCampaignTask] at h
    split at h
    · cases h
      exact zombieFree_of_not_queued rfl
    · obtain ⟨hg, rfl⟩ := update_eq_some.mp h
      exact zombieFree_of_not_queued (by grind)
  | recordManualReconciliation | strengthenActiveTask | extendScheduledScan | promoteObserverScan
  | releaseScanDependencies =>
    obtain ⟨-, rfl⟩ := update_eq_some.mp h
    exact hrow.congr rfl rfl rfl
  | touchTaskRunning f | markExternalCallStarted f | checkpointDuplicateAdsetStructure f
  | beginExternal f | recordCreatedIds f | authorizeDuplicateExecutionBoundary f =>
    obtain ⟨hg, rfl⟩ := update_eq_some.mp h
    have hheld : row.heldBy clk f = true := by grind
    exact zombieFree_of_held hheld rfl
  | markFailedWithCompensation =>
    obtain ⟨failed, hfailed, rfl⟩ := Option.map_eq_some_iff.mp h
    obtain ⟨-, rfl⟩ := update_eq_some.mp hfailed
    exact zombieFree_of_not_queued rfl
  | markTaskFailedOrCancelled | resolveStatusReconciliationNotApplied =>
    obtain ⟨-, rfl⟩ := update_eq_some.mp h
    exact zombieFree_of_not_queued (by grind)
  | markSucceeded | markFailed | markCancelled | trackerCancel | trackerSucceed
  | finishTaskFailed | finalizeRunSucceeded | finalizeRunFailed | finalizeRunCancelled
  | failStuckDuplicateWithoutCheckpoint | failStuckCampaignCreate | expireOverdue
  | sweepExhaustedTracker =>
    obtain ⟨-, rfl⟩ := update_eq_some.mp h
    exact zombieFree_of_not_queued rfl

end

-- ------------------------------------------------------------
-- Runs
-- ------------------------------------------------------------

theorem NewTask.row_zombieFree (clk : Clock) (task : NewTask) : ZombieFree (task.row clk) := by
  intro _ hcancel
  cases hcancel

theorem step_zombieFree {q : Queue} {e : Clock × QueueOp} {id : Nat} {row row' : TaskRow}
    (h : q.rows id = some row) (hsafe : CancelSafeStep q e) (hrow : ZombieFree row)
    (h' : (step q e).rows id = some row') : ZombieFree row' := by
  obtain ⟨row'', h'', hstep⟩ := step_claimOf e h
  rw [h'] at h''
  cases h''
  rcases hstep with ⟨worker, -, hclaim⟩ | ⟨-, rfl | ⟨op, hon, happly⟩⟩
  · refine zombieFree_of_not_queued ?_
    rw [hclaim.spec.1]
    rfl
  · exact hrow
  · exact RowOp.zombieFree happly (hsafe id row op h hon) hrow

/-- A queued row without a zombie's marks can be claimed as soon as it is
available, or its wait is over and expiry closes it. -/
theorem ZombieFree.reachable {row : TaskRow} (hrow : ZombieFree row)
    (hqueued : row.status.queued = true) {t : Int} (host : Int) (havailable : row.availableAt ≤ t) :
    claimable ⟨t, t, host⟩ row.taskType [row.lane] row = true ∨
      (row.lane ≠ .money ∧ ∃ row', expireOverdue ⟨t, t, host⟩ none row = some row') := by
  have hmarker : (row.cancelRequestedAt.isNone || row.reconcileRequired) = true := by
    cases hc : row.cancelRequestedAt with
    | none => rfl
    | some instant => simpa using hrow hqueued (by simp [hc])
  by_cases hmoney : row.lane = .money
  · left
    simp [claimable, hqueued, havailable, hmarker, hmoney]
  · cases hd : row.deadlineAt with
    | none =>
      left
      simp [claimable, hqueued, havailable, hmarker, hd]
    | some deadline =>
      by_cases hover : deadline ≤ t
      · right
        exact ⟨hmoney, _, if_pos (by simp [hqueued, hmoney, hd, hover])⟩
      · left
        simp [claimable, hqueued, havailable, hmarker, hd, Int.not_le.mp hover]

/-- In every state reached by operations that meet the condition, a queued row
with a cancel marker is there for reconciliation, and at every instant after
it became available a queued row is claimable or, outside the money lane,
closed by expiry. -/
theorem no_cancelled_zombie (es : List (Clock × QueueOp))
    (hsafe : AllSteps step CancelSafeStep Table.empty es) :
    ∀ id row, (run step Table.empty es).rows id = some row → row.status.queued = true →
      (row.cancelRequestedAt.isSome = true → row.reconcileRequired = true) ∧
      ∀ t host, row.availableAt ≤ t →
        claimable ⟨t, t, host⟩ row.taskType [row.lane] row = true ∨
          (row.lane ≠ .money ∧ ∃ row', expireOverdue ⟨t, t, host⟩ none row = some row') := by
  intro id row h hqueued
  have hfree : ZombieFree row :=
    run_rows (P := fun _ row => ZombieFree row) (fun _ clk task _ => task.row_zombieFree clk)
      (fun _ _ _ _ _ h hc hrow h' _ => step_zombieFree h hc hrow h') (fun _ _ h => by cases h)
      hsafe id row h
  exact ⟨hfree hqueued, fun t host havailable => hfree.reachable hqueued host havailable⟩

/-- An automatic pause that is retried after a transport error before its boundary. -/
def retriedRun : List (Clock × QueueOp) :=
  [(tick 0, .create autoPause), (tick 1, .claim moneyWorker true []),
    (tick 2, .onRow 0 (.requeueForRetry ⟨some 1, some 1⟩ "timeout" 0 15 .money))]

theorem retriedRun_claimable :
    ∃ row, (run step Table.empty retriedRun).rows 0 = some row ∧ row.status = .retrying ∧
      ∀ t, seconds 62 ≤ t → claimable ⟨t, t, t⟩ .metaApiMutation [.money] row = true := by
  have hsafe : AllSteps step CancelSafeStep Table.empty retriedRun := by
    refine ⟨?_, ?_, ?_, trivial⟩
    · intro id row op h hon
      cases hon
    · intro id row op h hon
      cases hon
      trivial
    · intro id row op h hon
      by_cases hid : id = 0
      · subst hid
        cases hon
        cases h
        intro _ _ hcancel
        cases hcancel
      · simp [opOn, hid] at hon
  refine ⟨_, rfl, rfl, fun t ht => ?_⟩
  rcases (no_cancelled_zombie retriedRun hsafe 0 _ rfl rfl).2 t t ht with hclaim | ⟨hlane, -⟩
  · exact hclaim
  · exact absurd rfl hlane

def cancelledRetryRun : List (Clock × QueueOp) :=
  [(tick 0, .create autoPause), (tick 1, .claim moneyWorker true []),
    (tick 2, .onRow 0 (.requestTaskCancel "operator")),
    (tick 3, .onRow 0 (.requeueForRetry ⟨some 1, some 1⟩ "timeout" 0 15 .money))]

theorem cancelledRetryRun_stranded :
    ∃ row, (run step Table.empty cancelledRetryRun).rows 0 = some row ∧
      row.status = .retrying ∧ row.cancelRequestedAt.isSome = true ∧
      row.reconcileRequired = false ∧
      ∀ clk taskType lanes scope, claimable clk taskType lanes row = false ∧
        expireOverdue clk scope row = none := by
  refine ⟨_, rfl, rfl, rfl, rfl, fun clk taskType lanes scope => ⟨?_, ?_⟩⟩
  · exact Bool.and_false _
  · rfl

end StopBot.Tasks
