import StopBot.Lib.Runs
import StopBot.Lib.Sql
import StopBot.Lib.Table
import StopBot.Tasks.Writers

/-!
# The queue as a state machine

`RowOp` names every statement that writes a stored row, with its parameters.
The queue itself is the table; its operations insert, claim, and run a
statement on one row or on every row that its `WHERE` clause selects. Workers,
reconciler and operator are whoever issues the next operation, so a list of
operations is an interleaving of all of them.
-/

namespace StopBot.Tasks

open Lib

inductive RowOp
  | markSucceeded (f : Fence) (result : Option Obj)
  | markFailed (f : Fence) (error : String) (result : Option Obj)
  | markFailedWithCompensation (f : Fence) (error : String) (result : Obj)
      (compensationTaskId : Int) (compensationState : String)
  | markCancelled (f : Fence) (reason : String)
  | markTaskFailedOrCancelled (f : Fence) (targetLockKey error : String) (result : Option Obj)
  | resolveStatusReconciliationNotApplied (f : Fence) (effectiveStatus : String)
  | touchTaskRunning (f : Fence) (leaseSeconds : Int)
  | markExternalCallStarted (f : Fence) (targetLockKey : String)
  | requeueForRetry (f : Fence) (error : String) (attemptCount maxAttempts : Int) (lane : Lane)
  | requeueProvenNotCommitted (f : Fence) (targetLockKey error : String) (attemptCount : Int)
      (lane : Lane)
  | releaseAfterBrowserReadinessRejection (f : Fence) (generation : Option Int) (error : String)
      (targetLockKey : Option String) (lane : Lane)
  | requeueUnknownForReconciliation (f : Fence) (error : String) (attemptCount maxAttempts : Int)
      (lane : Lane) (alreadyReconciling : Bool)
  | deferUnknownReconciliation (f : Fence) (error : String) (delaySeconds : Int) (lane : Lane)
  | deferAutoStopForFreshSnapshot (f : Fence) (delaySeconds : Int)
  | checkpointDuplicateAdsetStructure (f : Fence) (checkpoint : Obj)
  | requeueDuplicateRecovery (f : Fence) (checkpoint : Obj) (validCheckpoint : Bool)
      (error : String) (delaySeconds : Int)
  | trackerCancel (f : Fence)
  | trackerRetry (f : Fence) (retryAt : Int) (error : String)
  | trackerSucceed (f : Fence) (result : Obj)
  | finishTaskFailed (f : Fence) (error : String)
  | beginExternal (f : Fence) (operation target : String)
  | recordCreatedIds (f : Fence) (result : Obj)
  | finalizeRunSucceeded (f : Fence) (runId : String) (result : Obj)
  | finalizeRunFailed (f : Fence) (runId error : String) (result : Obj)
  | finalizeRunCancelled (f : Fence) (runId reason : String) (result : Obj)
  | authorizeDuplicateExecutionBoundary (f : Fence) (recovery : Bool)
  | prepareStuckDuplicateRecovery (stuckAfterSeconds : Int)
  | failStuckDuplicateWithoutCheckpoint (stuckAfterSeconds : Int)
  | failStuckCampaignCreate (stuckAfterSeconds : Int)
  | reconcileStuckRunning (stuckAfterSeconds : Int) (excludeKinds : List String)
  | requestTaskCancel (reason : String)
  | cancelUnstartedAutoPause (fbAdId : String)
  | abortCampaignTask (reason : String)
  | expireOverdue (scope : Option (TaskType × List Lane))
  | recordManualReconciliation (observation reviewedBy : String)
  | strengthenActiveTask (maxAttempts priority : Int)
  | sweepExhaustedTracker
  | extendScheduledScan
  | promoteObserverScan
  | releaseScanDependencies (released : Bool)
  deriving Repr

def RowOp.apply (clk : Clock) : RowOp → TaskRow → Option TaskRow
  | .markSucceeded f result => Tasks.markSucceeded clk f result
  | .markFailed f error result => Tasks.markFailed clk f error result
  | .markFailedWithCompensation f error result task state =>
    Tasks.markFailedWithCompensation clk f error result task state
  | .markCancelled f reason => Tasks.markCancelled clk f reason
  | .markTaskFailedOrCancelled f key error result =>
    Tasks.markTaskFailedOrCancelled clk f key error result
  | .resolveStatusReconciliationNotApplied f effective =>
    Tasks.resolveStatusReconciliationNotApplied clk f effective
  | .touchTaskRunning f leaseSeconds => Tasks.touchTaskRunning clk f leaseSeconds
  | .markExternalCallStarted f key => Tasks.markExternalCallStarted clk f key
  | .requeueForRetry f error attempts maxAttempts lane =>
    Tasks.requeueForRetry clk f error attempts maxAttempts lane
  | .requeueProvenNotCommitted f key error attempts lane =>
    Tasks.requeueProvenNotCommitted clk f key error attempts lane
  | .releaseAfterBrowserReadinessRejection f generation error key lane =>
    Tasks.releaseAfterBrowserReadinessRejection clk f generation error key lane
  | .requeueUnknownForReconciliation f error attempts maxAttempts lane already =>
    Tasks.requeueUnknownForReconciliation clk f error attempts maxAttempts lane already
  | .deferUnknownReconciliation f error delay lane =>
    Tasks.deferUnknownReconciliation clk f error delay lane
  | .deferAutoStopForFreshSnapshot f delay => Tasks.deferAutoStopForFreshSnapshot clk f delay
  | .checkpointDuplicateAdsetStructure f checkpoint =>
    Tasks.checkpointDuplicateAdsetStructure clk f checkpoint
  | .requeueDuplicateRecovery f checkpoint valid error delay =>
    Tasks.requeueDuplicateRecovery clk f checkpoint valid error delay
  | .trackerCancel f => Tasks.trackerCancel clk f
  | .trackerRetry f retryAt error => Tasks.trackerRetry clk f retryAt error
  | .trackerSucceed f result => Tasks.trackerSucceed clk f result
  | .finishTaskFailed f error => Tasks.finishTaskFailed clk f error
  | .beginExternal f operation target => Tasks.beginExternal clk f operation target
  | .recordCreatedIds f result => Tasks.recordCreatedIds clk f result
  | .finalizeRunSucceeded f runId result => Tasks.finalizeRunSucceeded clk f runId result
  | .finalizeRunFailed f runId error result => Tasks.finalizeRunFailed clk f runId error result
  | .finalizeRunCancelled f runId reason result =>
    Tasks.finalizeRunCancelled clk f runId reason result
  | .authorizeDuplicateExecutionBoundary f recovery =>
    Tasks.authorizeDuplicateExecutionBoundary clk f recovery
  | .prepareStuckDuplicateRecovery sec => Tasks.prepareStuckDuplicateRecovery clk sec
  | .failStuckDuplicateWithoutCheckpoint sec => Tasks.failStuckDuplicateWithoutCheckpoint clk sec
  | .failStuckCampaignCreate sec => Tasks.failStuckCampaignCreate clk sec
  | .reconcileStuckRunning sec exclude => Tasks.reconcileStuckRunning clk sec exclude
  | .requestTaskCancel reason => Tasks.requestTaskCancel clk reason
  | .cancelUnstartedAutoPause fbAdId => Tasks.cancelUnstartedAutoPause clk fbAdId
  | .abortCampaignTask reason => Tasks.abortCampaignTask clk reason
  | .expireOverdue scope => Tasks.expireOverdue clk scope
  | .recordManualReconciliation observation reviewedBy =>
    Tasks.recordManualReconciliation clk observation reviewedBy
  | .strengthenActiveTask maxAttempts priority =>
    Tasks.strengthenActiveTask clk maxAttempts priority
  | .sweepExhaustedTracker => Tasks.sweepExhaustedTracker clk
  | .extendScheduledScan => Tasks.extendScheduledScan clk
  | .promoteObserverScan => Tasks.promoteObserverScan clk
  | .releaseScanDependencies released => Tasks.releaseScanDependencies clk released

/-- The lease pair a statement is issued with; the others carry no fence. -/
def RowOp.fence? : RowOp → Option Fence
  | .markSucceeded f _ | .markFailed f _ _ | .markFailedWithCompensation f _ _ _ _
  | .markCancelled f _ | .markTaskFailedOrCancelled f _ _ _
  | .resolveStatusReconciliationNotApplied f _ | .touchTaskRunning f _
  | .markExternalCallStarted f _ | .requeueForRetry f _ _ _ _
  | .requeueProvenNotCommitted f _ _ _ _ | .releaseAfterBrowserReadinessRejection f _ _ _ _
  | .requeueUnknownForReconciliation f _ _ _ _ _ | .deferUnknownReconciliation f _ _ _
  | .deferAutoStopForFreshSnapshot f _ | .checkpointDuplicateAdsetStructure f _
  | .requeueDuplicateRecovery f _ _ _ _ | .trackerCancel f | .trackerRetry f _ _
  | .trackerSucceed f _ | .finishTaskFailed f _ | .beginExternal f _ _ | .recordCreatedIds f _
  | .finalizeRunSucceeded f _ _ | .finalizeRunFailed f _ _ _ | .finalizeRunCancelled f _ _ _
  | .authorizeDuplicateExecutionBoundary f _ => some f
  | .prepareStuckDuplicateRecovery _ | .failStuckDuplicateWithoutCheckpoint _
  | .failStuckCampaignCreate _ | .reconcileStuckRunning _ _ | .requestTaskCancel _
  | .cancelUnstartedAutoPause _ | .abortCampaignTask _ | .expireOverdue _
  | .recordManualReconciliation _ _ | .strengthenActiveTask _ _ | .sweepExhaustedTracker
  | .extendScheduledScan | .promoteObserverScan | .releaseScanDependencies _ => none

-- ------------------------------------------------------------
-- The queue
-- ------------------------------------------------------------

abbrev Queue := Table TaskRow

/-- `ORDER BY priority DESC, available_at, created_at, id`. -/
def precedes (a b : Nat × TaskRow) : Bool :=
  if a.2.priority ≠ b.2.priority then b.2.priority < a.2.priority
  else if a.2.availableAt ≠ b.2.availableAt then a.2.availableAt < b.2.availableAt
  else if a.2.createdAt ≠ b.2.createdAt then a.2.createdAt < b.2.createdAt
  else a.1 < b.1

/-- The first row that `eligible` selects, without those another transaction
has locked (`FOR UPDATE SKIP LOCKED LIMIT 1`). -/
def candidate (q : Queue) (eligible : TaskRow → Bool) (locked : List Nat) :
    Option (Nat × TaskRow) :=
  Sql.first precedes (q.entries.filter fun entry => eligible entry.2 && !locked.contains entry.1)

/-- Who claims: the parameters of one `claim_next_task` call. -/
structure Consumer where
  taskType : TaskType
  lanes : List Lane
  worker : Uuid
  leaseSeconds : Int := 30 * 60
  deriving DecidableEq, Repr

/-- `gateOpen` is the part of a claim that no row decides: no browser
maintenance and, for browser work, a ready channel. A batch of tracker claims
is a run of single ones; its sweep is `onAll sweepExhaustedTracker`. -/
inductive QueueOp
  | create (task : NewTask)
  | claim (consumer : Consumer) (gateOpen : Bool) (locked : List Nat)
  | claimEvent (worker : Uuid) (leaseSeconds : Int) (locked : List Nat)
  | onRow (id : Nat) (op : RowOp)
  | onAll (op : RowOp)
  deriving Repr

def keyTaken (q : Queue) (key : String) : Bool :=
  q.entries.any fun entry => entry.2.idempotencyKey == key

def step (q : Queue) (e : Clock × QueueOp) : Queue :=
  let clk := e.1
  match e.2 with
  | .create task => if keyTaken q task.idempotencyKey then q else q.insert (task.row clk)
  | .claim c gateOpen locked =>
    match if gateOpen then candidate q (claimable clk c.taskType c.lanes) locked else none with
    | some (id, _) => q.updateAt id fun row => some (claimRow clk c.worker c.leaseSeconds row)
    | none => q.update fun _ => expireOverdue clk (some (c.taskType, c.lanes))
  | .claimEvent worker leaseSeconds locked =>
    match candidate q (trackerClaimable clk) locked with
    | some (id, _) => q.updateAt id fun row => some (trackerClaimRow clk worker leaseSeconds row)
    | none => q
  | .onRow id op => q.updateAt id (op.apply clk)
  | .onAll op => q.update fun _ => op.apply clk

theorem keyTaken_iff {q : Queue} {key : String} :
    keyTaken q key = true ↔ ∃ id row, q.rows id = some row ∧ row.idempotencyKey = key := by
  have hany := @Table.entries_any _ q fun row : TaskRow => row.idempotencyKey == key
  simpa [keyTaken] using hany

inductive Claims (clk : Clock) (row : TaskRow) : Uuid → TaskRow → Prop
  | scheduler (c : Consumer) (h : claimable clk c.taskType c.lanes row = true) :
      Claims clk row c.worker (claimRow clk c.worker c.leaseSeconds row)
  | tracker (worker : Uuid) (leaseSeconds : Int) (h : trackerClaimable clk row = true) :
      Claims clk row worker (trackerClaimRow clk worker leaseSeconds row)

inductive RowStep (clk : Clock) (row : TaskRow) : TaskRow → Prop
  | stay : RowStep clk row row
  | claim {worker : Uuid} {row' : TaskRow} (h : Claims clk row worker row') : RowStep clk row row'
  | op {row' : TaskRow} (op : RowOp) (h : op.apply clk row = some row') : RowStep clk row row'

def claimOf (q : Queue) (e : Clock × QueueOp) : Option (Nat × Uuid) :=
  match e.2 with
  | .claim c gateOpen locked =>
    (if gateOpen then candidate q (claimable e.1 c.taskType c.lanes) locked else none).map
      fun entry => (entry.1, c.worker)
  | .claimEvent worker _ locked =>
    (candidate q (trackerClaimable e.1) locked).map fun entry => (entry.1, worker)
  | _ => none

/-- The statement an operation runs on the row `id`, if any; a claim without a
candidate runs the expiry of its consumer. -/
def opOn : QueueOp → Nat → Option RowOp
  | .claim c _ _, _ => some (.expireOverdue (some (c.taskType, c.lanes)))
  | .onRow i op, id => if id = i then some op else none
  | .onAll op, _ => some op
  | .create _, _ | .claimEvent _ _ _, _ => none

theorem candidate_spec {q : Queue} {eligible : TaskRow → Bool} {locked : List Nat}
    {id : Nat} {row : TaskRow} (h : candidate q eligible locked = some (id, row)) :
    q.rows id = some row ∧ eligible row = true := by
  have hmem := Sql.first_mem h
  rw [List.mem_filter, Table.mem_entries] at hmem
  refine ⟨hmem.1, ?_⟩
  simp only [Bool.and_eq_true] at hmem
  exact hmem.2.1

/-- The effect of an operation on a stored row: it is claimed, or a statement
ran on it, or nothing happened to it. -/
theorem step_claimOf {q : Queue} {id : Nat} {row : TaskRow} (e : Clock × QueueOp)
    (h : q.rows id = some row) :
    ∃ row', (step q e).rows id = some row' ∧
      ((∃ worker, claimOf q e = some (id, worker) ∧ Claims e.1 row worker row') ∨
        ((∀ worker, claimOf q e ≠ some (id, worker)) ∧
          (row' = row ∨ ∃ op, opOn e.2 id = some op ∧ op.apply e.1 row = some row'))) := by
  have hop : ∀ op : RowOp, opOn e.2 id = some op → (op.apply e.1 row).getD row = row ∨
      ∃ op', opOn e.2 id = some op' ∧ op'.apply e.1 row = some ((op.apply e.1 row).getD row) := by
    intro op hon
    cases ha : op.apply e.1 row with
    | none => exact .inl rfl
    | some row' => exact .inr ⟨op, hon, ha⟩
  obtain ⟨clk, e⟩ := e
  cases e with
  | create task =>
    refine ⟨row, ?_, .inr ⟨by simp [claimOf], .inl rfl⟩⟩
    simp only [step]
    split
    · exact h
    · have hne : id ≠ q.next := Nat.ne_of_lt (Table.lt_next_of_rows h)
      rw [Table.insert_rows, if_neg hne, h]
  | claim c gateOpen locked =>
    simp only [step, claimOf]
    cases hc : if gateOpen then candidate q (claimable clk c.taskType c.lanes) locked else none with
    | none =>
      exact ⟨_, by simp [h, RowOp.apply], .inr ⟨by simp,
        hop (.expireOverdue (some (c.taskType, c.lanes))) rfl⟩⟩
    | some entry =>
      obtain ⟨i, r⟩ := entry
      have hcand : candidate q (claimable clk c.taskType c.lanes) locked = some (i, r) := by
        cases gateOpen <;> simp_all
      obtain ⟨hr, hel⟩ := candidate_spec hcand
      by_cases hid : id = i
      · subst hid
        rw [h] at hr
        cases hr
        exact ⟨_, by simp [Table.updateAt, h], .inl ⟨c.worker, by simp, .scheduler c hel⟩⟩
      · exact ⟨row, by simp [Table.updateAt, h, hid],
          .inr ⟨by simp [Ne.symm hid], .inl rfl⟩⟩
  | claimEvent worker leaseSeconds locked =>
    simp only [step, claimOf]
    cases hc : candidate q (trackerClaimable clk) locked with
    | none => exact ⟨row, h, .inr ⟨by simp, .inl rfl⟩⟩
    | some entry =>
      obtain ⟨i, r⟩ := entry
      obtain ⟨hr, hel⟩ := candidate_spec hc
      by_cases hid : id = i
      · subst hid
        rw [h] at hr
        cases hr
        exact ⟨_, by simp [Table.updateAt, h],
          .inl ⟨worker, by simp, .tracker worker leaseSeconds hel⟩⟩
      · exact ⟨row, by simp [Table.updateAt, h, hid],
          .inr ⟨by simp [Ne.symm hid], .inl rfl⟩⟩
  | onRow i op =>
    by_cases hid : id = i
    · subst hid
      exact ⟨_, by simp [step, Table.updateAt, h], .inr ⟨by simp [claimOf], hop op (if_pos rfl)⟩⟩
    · exact ⟨row, by simp [step, Table.updateAt, h, hid], .inr ⟨by simp [claimOf], .inl rfl⟩⟩
  | onAll op => exact ⟨_, by simp [step, h], .inr ⟨by simp [claimOf], hop op rfl⟩⟩

theorem step_stored {q : Queue} {id : Nat} {row : TaskRow} (e : Clock × QueueOp)
    (h : q.rows id = some row) :
    ∃ row', (step q e).rows id = some row' ∧ RowStep e.1 row row' := by
  obtain ⟨row', h', ⟨worker, -, hclaim⟩ | ⟨-, rfl | ⟨op, -, hop⟩⟩⟩ := step_claimOf e h
  · exact ⟨row', h', .claim hclaim⟩
  · exact ⟨row', h', .stay⟩
  · exact ⟨row', h', .op op hop⟩

theorem step_created {q : Queue} {id : Nat} {row' : TaskRow} (e : Clock × QueueOp)
    (h : q.rows id = none) (h' : (step q e).rows id = some row') :
    ∃ task, e.2 = .create task ∧ id = q.next ∧ row' = task.row e.1 := by
  obtain ⟨clk, e⟩ := e
  cases e with
  | create task =>
    simp only [step] at h'
    split at h'
    · rw [h] at h'
      cases h'
    · rw [Table.insert_rows] at h'
      split at h'
      · exact ⟨task, rfl, by assumption, (Option.some.inj h').symm⟩
      · rw [h] at h'
        cases h'
  | claim c gateOpen locked =>
    simp only [step] at h'
    split at h' <;> simp [Table.updateAt, h] at h'
  | claimEvent worker leaseSeconds locked =>
    simp only [step] at h'
    split at h' <;> simp [Table.updateAt, h] at h'
  | onRow i op => simp [step, Table.updateAt, h] at h'
  | onAll op => simp [step, h] at h'

/-- A property of single rows that creation establishes and every row step
keeps holds of all rows after every run that meets the condition `C`. -/
theorem run_rows {P : Nat → TaskRow → Prop} {C : Queue → Clock × QueueOp → Prop}
    (hnew : ∀ q clk task, C q (clk, .create task) → P q.next (task.row clk))
    (hkeep : ∀ q e id row row', q.rows id = some row → C q e → P id row →
      (step q e).rows id = some row' → RowStep e.1 row row' → P id row')
    {q : Queue} {es : List (Clock × QueueOp)} (hq : ∀ id row, q.rows id = some row → P id row)
    (hc : AllSteps step C q es) :
    ∀ id row, (run step q es).rows id = some row → P id row := by
  refine run_invariant (I := fun q => ∀ id row, q.rows id = some row → P id row) ?_ hq hc
  intro q e hq hc id row' h'
  cases h : q.rows id with
  | none =>
    obtain ⟨clk, op⟩ := e
    obtain ⟨task, rfl, rfl, rfl⟩ := step_created _ h h'
    exact hnew q clk task hc
  | some row =>
    obtain ⟨row'', h'', hstep⟩ := step_stored e h
    rw [h'] at h''
    cases h''
    exact hkeep q e id row row' h hc (hq id row h) h' hstep

end StopBot.Tasks
