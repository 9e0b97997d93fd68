import StopBot.Duplicates.Process
import StopBot.Tasks.Fencing
import StopBot.Worker.Steps

/-!
# Rows with a checkpoint

Once a row carries a checkpoint with a requested recovery, it is to stay open
until a pass over the checkpoint has paused every object, or until the
checkpoint turns out not to fit its plan, and the created ids are to stay in
the result. Here: what the statements without a lease do to such a row, what
its worker may hold to be true, and which last statements are right for it.
-/

namespace StopBot.Duplicates

open Lib Tasks
open Worker (MetaMutationPayload Raised Readings Scope Parses)

variable {lib : Stdlib} {clk : Clock} {row row' : TaskRow} {passes : List Pass} {s : Session}

-- ------------------------------------------------------------
-- What a row carries
-- ------------------------------------------------------------

/-- The row carries a checkpoint with a requested recovery. -/
def requested (row : TaskRow) : Bool :=
  isDuplicateRecovery row.result

def createdIds (row : TaskRow) (key : String) : Option Json :=
  (Obj.get? row.resultObj "created_ids").bind fun ids => Obj.get? (fieldsOf ids) key

/-- The two ends a recovery may come to: a pass of the row's own worker left no
failure, or the checkpoint does not fit the plan. -/
def ClosedRight (lib : Stdlib) (passes : List Pass) (row row' : TaskRow) : Prop :=
  (Obj.text row'.resultObj "phase" = some "recovery_paused" ∧
      { token := row.leaseToken, failures := [] } ∈ passes) ∨
    (Obj.text row'.resultObj "phase" = some "recovery_checkpoint_invalid" ∧
      ∃ payload error, MetaMutationPayload.fromDict row.payload = .ok payload ∧
        validateRecovery lib payload row.resultObj = .error error)

structure RecoveryKept (lib : Stdlib) (passes : List Pass) (row row' : TaskRow) : Prop where
  stays : requested row' = true
  ids : ∀ key, createdIds row' key = createdIds row key
  closed : row.status.terminal = false → row'.status.terminal = true →
    ClosedRight lib passes row row'

theorem RecoveryKept.of_result (hr : requested row = true) (hresult : row'.result = row.result)
    (hopen : row.status.terminal = false → row'.status.terminal = false) :
    RecoveryKept lib passes row row' := by
  refine ⟨?_, fun key => ?_, fun h h' => ?_⟩
  · rw [requested, hresult]
    exact hr
  · simp [createdIds, TaskRow.resultObj, hresult]
  · rw [hopen h] at h'
    cases h'

-- ------------------------------------------------------------
-- The row
-- ------------------------------------------------------------

/-- A row of this kind; while it is open, a checkpoint stands behind its
boundary and a requested recovery has a checkpoint. -/
structure RowOk (row : TaskRow) : Prop where
  taskType : row.taskType = .metaApiMutation
  kind : isDuplicate row = true
  started : row.status.terminal = false → hasDuplicateCheckpoint row = true →
    row.externalStartedAt.isSome = true ∧ Parses row
  checkpointed : row.status.terminal = false → requested row = true →
    hasDuplicateCheckpoint row = true

structure Same (row row' : TaskRow) : Prop where
  taskType : row'.taskType = row.taskType
  payload : row'.payload = row.payload
  result : row'.result = row.result
  boundary : row'.externalStartedAt = row.externalStartedAt
  leaseOwner : row'.leaseOwner = row.leaseOwner
  leaseToken : row'.leaseToken = row.leaseToken

theorem Same.refl (row : TaskRow) : Same row row := ⟨rfl, rfl, rfl, rfl, rfl, rfl⟩

theorem Same.requested_eq (h : Same row row') : requested row' = requested row := by
  rw [requested, h.result, ← requested]

theorem Same.checkpoint (h : Same row row') :
    hasDuplicateCheckpoint row' = hasDuplicateCheckpoint row := by
  simp [hasDuplicateCheckpoint, TaskRow.resultObj, h.result]

theorem Same.parses (h : Same row row') (hp : Parses row) : Parses row' := by
  obtain ⟨payload, hp⟩ := hp
  exact ⟨payload, by rw [h.payload, hp]⟩

theorem RowOk.rekind (hok : RowOk row) (htype : row'.taskType = row.taskType)
    (hpayload : row'.payload = row.payload) :
    row'.taskType = .metaApiMutation ∧ isDuplicate row' = true := by
  refine ⟨htype.trans hok.taskType, ?_⟩
  rw [isDuplicate, TaskRow.mutationKind, hpayload]
  exact hok.kind

theorem RowOk.same (hok : RowOk row) (h : Same row row')
    (hopen : row'.status.terminal = false → row.status.terminal = false) : RowOk row' := by
  obtain ⟨htype, hkind⟩ := hok.rekind h.taskType h.payload
  refine ⟨htype, hkind, fun ht hcp => ?_, fun ht hr => ?_⟩
  · rw [h.checkpoint] at hcp
    obtain ⟨hstarted, hparses⟩ := hok.started (hopen ht) hcp
    exact ⟨by rw [h.boundary, hstarted], h.parses hparses⟩
  · rw [h.requested_eq] at hr
    rw [h.checkpoint]
    exact hok.checkpointed (hopen ht) hr

theorem RowOk.closed (hok : RowOk row) (htype : row'.taskType = row.taskType)
    (hpayload : row'.payload = row.payload) (hterminal : row'.status.terminal = true) :
    RowOk row' := by
  obtain ⟨htype, hkind⟩ := hok.rekind htype hpayload
  refine ⟨htype, hkind, fun ht => ?_, fun ht => ?_⟩
  · rw [hterminal] at ht
    cases ht
  · rw [hterminal] at ht
    cases ht

theorem RowOk.bare (hok : RowOk row) (htype : row'.taskType = row.taskType)
    (hpayload : row'.payload = row.payload)
    (hbare : Obj.get? row'.resultObj "checkpoint_type" = none) : RowOk row' := by
  obtain ⟨htype, hkind⟩ := hok.rekind htype hpayload
  have hcheckpoint : hasDuplicateCheckpoint row' = false := by
    simp [hasDuplicateCheckpoint, Obj.text, hbare]
  have hrequested : requested row' = false := by
    cases hresult : row'.result with
    | none => simp [requested, isDuplicateRecovery, hresult]
    | some cp =>
      have hcp : Obj.get? cp "checkpoint_type" = none := by
        rw [TaskRow.resultObj, hresult] at hbare
        exact hbare
      simp [requested, isDuplicateRecovery, hresult, hcp]
  refine ⟨htype, hkind, fun _ h => ?_, fun _ h => ?_⟩
  · rw [hcheckpoint] at h
    cases h
  · rw [hrequested] at h
    cases h

theorem RowOk.withCheckpoint (hok : RowOk row) (htype : row'.taskType = row.taskType)
    (hpayload : row'.payload = row.payload) (hcheckpoint : hasDuplicateCheckpoint row' = true)
    (hstarted : row'.externalStartedAt.isSome = true) (hparses : Parses row) : RowOk row' := by
  obtain ⟨htype, hkind⟩ := hok.rekind htype hpayload
  obtain ⟨payload, hparses⟩ := hparses
  exact ⟨htype, hkind, fun _ _ => ⟨hstarted, payload, by rw [hpayload, hparses]⟩,
    fun _ _ => hcheckpoint⟩

theorem RowOk.notAuto (hok : RowOk row) (fbAdId : String) : isAutoPauseOf fbAdId row = false := by
  have hkind := hok.kind
  simp only [isDuplicate, beq_iff_eq] at hkind
  simp [isAutoPauseOf, hkind]

theorem merge_requested {cp fields : Obj} (htype : fields.get? "checkpoint_type" = none)
    (hreq : fields.get? "recovery_requested" = none ∨
      fields.get? "recovery_requested" = some (.bool true))
    (h : isDuplicateRecovery (some cp) = true) :
    isDuplicateRecovery (some (Obj.merge cp fields)) = true := by
  simp only [isDuplicateRecovery, Option.any_some, Bool.and_eq_true] at h ⊢
  obtain ⟨hcp, hr⟩ := h
  refine ⟨by simpa [htype] using hcp, ?_⟩
  rcases hreq with hreq | hreq
  · simpa [hreq] using hr
  · simp [hreq, Json.isTrue]

theorem merge_createdIds {cp fields : Obj} (h : fields.get? "created_ids" = none)
    (hrow : row.resultObj = cp) (hrow' : row'.result = some (Obj.merge cp fields)) (key : String) :
    createdIds row' key = createdIds row key := by
  have hobj : row'.resultObj = Obj.merge cp fields := by rw [TaskRow.resultObj, hrow']; rfl
  simp [createdIds, hrow, hobj, h]

theorem hasDuplicateCheckpoint_of {cp raw : Obj} (hresult : row.result = some cp)
    (htype : cp.get? "checkpoint_type" = some (.str mutationKind))
    (hids : cp.get? "created_ids" = some (.obj raw)) : hasDuplicateCheckpoint row = true := by
  have hobj : row.resultObj = cp := by rw [TaskRow.resultObj, hresult]; rfl
  simp [hasDuplicateCheckpoint, hobj, Obj.text, htype, hids, Json.text, Json.typeName, mutationKind]

theorem checkpoint_type_of_requested (h : requested row = true) :
    Obj.get? row.resultObj "checkpoint_type" = some (.str mutationKind) := by
  cases hresult : row.result with
  | none => simp [requested, isDuplicateRecovery, hresult] at h
  | some cp =>
    simp only [requested, isDuplicateRecovery, hresult, Option.any_some, Bool.and_eq_true,
      beq_iff_eq, Option.bind_eq_some_iff] at h
    obtain ⟨⟨value, hvalue, htext⟩, -⟩ := h
    cases value <;> simp only [Json.asStr?, reduceCtorEq, Option.some.injEq] at htext
    rw [TaskRow.resultObj, hresult, ← htext]
    exact hvalue

theorem resultObj_of_requested (h : requested row = true) : row.result = some row.resultObj := by
  cases hresult : row.result with
  | none => simp [requested, isDuplicateRecovery, hresult] at h
  | some cp => simp [TaskRow.resultObj, hresult]

-- ------------------------------------------------------------
-- The statements without a lease
-- ------------------------------------------------------------

inductive Outside (clk : Clock) (op : RowOp) (row row' : TaskRow) : Prop
  | marks (same : Same row row') (status : row'.status = row.status)
  | cancels (unstarted : row.externalStartedAt = none) (wasOpen : row.status.terminal = false)
      (terminal : row'.status.terminal = true)
  | expires (scope : Option (TaskType × List Lane)) (isExpiry : op = .expireOverdue scope)
      (applies : expireOverdue clk scope row = some row') (terminal : row'.status.terminal = true)
  | prepares (running : row.status = .running) (checkpoint : hasDuplicateCheckpoint row = true)
      (status : row'.status = .retrying) (boundary : row'.externalStartedAt = row.externalStartedAt)
      (result : row'.result = row.result.map fun result => Obj.merge result
        [("recovery_requested", .bool true), ("phase", .str "recovery_pending")])
  | fails (wasOpen : row.status.terminal = false) (bare : hasDuplicateCheckpoint row = false)
      (terminal : row'.status.terminal = true)

theorem outside_of_apply {op : RowOp} (hok : RowOk row) (hissued : issued op = true)
    (h : op.apply clk row = some row') : Outside clk op row row' := by
  have htype := hok.taskType
  have hkind := hok.kind
  simp only [isDuplicate, beq_iff_eq] at hkind
  simp only [issued, Bool.and_eq_true, Option.isNone_iff_eq_none] at hissued
  obtain ⟨hfence, hargs⟩ := hissued
  cases op <;> simp only [RowOp.fence?, reduceCtorEq] at hfence <;> simp only [RowOp.apply] at h
  case prepareStuckDuplicateRecovery sec =>
    obtain ⟨hg, rfl⟩ := update_eq_some.mp h
    simp only [Bool.and_eq_true, beq_iff_eq] at hg
    exact .prepares hg.1.1.1.2 hg.2 rfl rfl rfl
  case failStuckDuplicateWithoutCheckpoint sec =>
    obtain ⟨hg, rfl⟩ := update_eq_some.mp h
    simp only [Bool.and_eq_true, beq_iff_eq, Bool.not_eq_true'] at hg
    exact .fails (terminal_of_running hg.1.1.1.2) hg.2 rfl
  case failStuckCampaignCreate sec =>
    have hg := (update_eq_some.mp h).1
    simp [htype] at hg
  case reconcileStuckRunning sec excludeKinds =>
    -- the reconciler's own list names this kind
    have hg := (update_eq_some.mp h).1
    simp only [beq_iff_eq] at hargs
    subst hargs
    simp [htype, hkind, irreversibleMutationKinds, mutationKind] at hg
  case requestTaskCancel reason =>
    obtain ⟨hg, rfl⟩ := update_eq_some.mp h
    by_cases hunstarted : (row.status.queued && row.externalStartedAt.isNone) = true
    · obtain ⟨hqueued, hnone⟩ := Bool.and_eq_true_iff.mp hunstarted
      exact .cancels (Option.isNone_iff_eq_none.mp hnone) (terminal_of_queued hqueued)
        (by simp [hunstarted, Status.terminal])
    · exact .marks ⟨rfl, rfl, by simp [hunstarted], rfl, rfl, rfl⟩ (by simp [hunstarted])
  case cancelUnstartedAutoPause fbAdId =>
    simp [Tasks.cancelUnstartedAutoPause, hok.notAuto, update] at h
  case abortCampaignTask reason =>
    simp [Tasks.abortCampaignTask, htype, update] at h
  case expireOverdue scope =>
    refine .expires scope rfl h ?_
    obtain ⟨-, rfl⟩ := update_eq_some.mp h
    rfl
  case recordManualReconciliation observation reviewedBy =>
    obtain ⟨-, rfl⟩ := update_eq_some.mp h
    exact .marks ⟨rfl, rfl, rfl, rfl, rfl, rfl⟩ rfl
  case strengthenActiveTask maxAttempts priority =>
    obtain ⟨-, rfl⟩ := update_eq_some.mp h
    exact .marks ⟨rfl, rfl, rfl, rfl, rfl, rfl⟩ rfl
  case sweepExhaustedTracker =>
    have hg := (update_eq_some.mp h).1
    simp [isTrackerEvent, htype] at hg
  case extendScheduledScan | promoteObserverScan | releaseScanDependencies =>
    have hg := (update_eq_some.mp h).1
    simp [htype] at hg

theorem Outside.rowOk {op : RowOp} (h : Outside clk op row row') (hok : RowOk row)
    (hkept : Kept row row') : RowOk row' := by
  have hpayload : row'.payload = row.payload := hkept.payload (by rw [hok.taskType]; decide)
  cases h with
  | marks same status => exact hok.same same (by rw [status]; exact id)
  | cancels _ _ terminal | expires _ _ _ terminal | fails _ _ terminal =>
    exact hok.closed hkept.taskType hpayload terminal
  | prepares running checkpoint status boundary result =>
    have hopen := terminal_of_running running
    obtain ⟨hstarted, payload, hparses⟩ := hok.started hopen checkpoint
    have hobj : ∃ cp, row.result = some cp := by
      cases hresult : row.result with
      | none => simp [hasDuplicateCheckpoint, TaskRow.resultObj, hresult, Obj.text] at checkpoint
      | some cp => exact ⟨cp, rfl⟩
    obtain ⟨cp, hcp⟩ := hobj
    have hcheckpoint : hasDuplicateCheckpoint row' = true := by
      rw [hasDuplicateCheckpoint, TaskRow.resultObj, hcp] at checkpoint
      simp only [hasDuplicateCheckpoint, TaskRow.resultObj, result, hcp, Option.map_some,
        Option.getD_some]
      rw [Obj.text_merge_of_none (by simp)]
      simpa using checkpoint
    exact hok.withCheckpoint hkept.taskType hpayload hcheckpoint (by rw [boundary, hstarted])
      ⟨payload, hparses⟩

/-- Only an expiry closes a requested recovery without its worker. -/
theorem Outside.kept {op : RowOp} (h : Outside clk op row row') (hok : RowOk row)
    (hr : requested row = true)
    (hsafe : ∀ scope, op = .expireOverdue scope → expireOverdue clk scope row = none) :
    RecoveryKept lib passes row row' := by
  cases h with
  | marks same status => exact .of_result hr same.result (by rw [status]; exact id)
  | cancels unstarted wasOpen _ =>
    have hstarted := (hok.started wasOpen (hok.checkpointed wasOpen hr)).1
    rw [unstarted] at hstarted
    cases hstarted
  | expires scope isExpiry applies _ =>
    rw [hsafe scope isExpiry] at applies
    cases applies
  | prepares running _ status _ result =>
    have hcp := resultObj_of_requested hr
    rw [hcp, Option.map_some] at result
    refine ⟨?_, merge_createdIds (by simp) rfl result, fun _ hterminal => ?_⟩
    · rw [requested, result]
      refine merge_requested (by simp) (.inr (by simp)) ?_
      rw [← hcp]
      exact hr
    · rw [status] at hterminal
      cases hterminal
  | fails wasOpen bare _ =>
    rw [hok.checkpointed wasOpen hr] at bare
    cases bare

-- ------------------------------------------------------------
-- The worker of the row
-- ------------------------------------------------------------

def current (s : Session) (row : TaskRow) : Bool :=
  row.status == .running && row.leaseToken == s.task.leaseToken

def PcFenced (f : Fence) : Pc → Prop
  | .last op _ => op.fence? = some f
  | _ => True

structure Moves (lib : Stdlib) (passes : List Pass) (row row' : TaskRow) : Prop where
  ok : RowOk row'
  kept : requested row = true → RecoveryKept lib passes row row'

/-- The last statement is right for the row as it is now, whatever else is
written to the columns that the recovery does not read. -/
def LastOk (lib : Stdlib) (passes : List Pass) (row : TaskRow) (op : RowOp) : Prop :=
  ∀ clk row₁ row', Same row row₁ → RowOk row₁ → op.apply clk row₁ = some row' →
    Moves lib passes row₁ row'

/-- What holds at each point: a recovery has the checkpoint of the row, a
creation has a row without a requested recovery. -/
def PcOk (lib : Stdlib) (passes : List Pass) (row : TaskRow) (task : TaskRow) : Pc → Prop
  | .start => task.result = row.result
  | .recoveryPreflight | .recoveryBoundary | .recovering =>
    task.result = row.result ∧ requested row = true ∧ Parses row
  | .gates | .preflight | .boundary => requested row = false ∧ Parses row
  | .loading =>
    row.result = none ∧ row.externalStartedAt.isSome = true ∧ Parses row
  | .creating =>
    requested row = false ∧ row.externalStartedAt.isSome = true ∧ Parses row
  | .last op scope => LastOk lib passes row op ∧ (scope ≠ .bare → requested row = false)

structure Coherent (lib : Stdlib) (passes : List Pass) (row : TaskRow) (s : Session) : Prop where
  payload : s.task.payload = row.payload
  pc : PcOk lib passes row s.task s.pc

theorem Same.trans {row₁ : TaskRow} (h : Same row row₁) (h' : Same row₁ row') : Same row row' :=
  ⟨h'.taskType.trans h.taskType, h'.payload.trans h.payload, h'.result.trans h.result,
    h'.boundary.trans h.boundary, h'.leaseOwner.trans h.leaseOwner,
    h'.leaseToken.trans h.leaseToken⟩

theorem Coherent.same (hc : Coherent lib passes row s) (h : Same row row') :
    Coherent lib passes row' s := by
  obtain ⟨hpayload, hpc⟩ := hc
  refine ⟨hpayload.trans h.payload.symm, ?_⟩
  cases hp : s.pc <;> rw [hp] at hpc
  case start => exact hpc.trans h.result.symm
  case recoveryPreflight | recoveryBoundary | recovering =>
    exact ⟨hpc.1.trans h.result.symm, h.requested_eq.trans hpc.2.1, h.parses hpc.2.2⟩
  case gates | preflight | boundary => exact ⟨h.requested_eq.trans hpc.1, h.parses hpc.2⟩
  case loading => exact ⟨h.result.trans hpc.1, by rw [h.boundary, hpc.2.1], h.parses hpc.2.2⟩
  case creating =>
    exact ⟨h.requested_eq.trans hpc.1, by rw [h.boundary, hpc.2.1], h.parses hpc.2.2⟩
  case last op scope =>
    exact ⟨fun clk row₁ row₂ hsame => hpc.1 clk row₁ row₂ (h.trans hsame),
      fun hscope => h.requested_eq.trans (hpc.2 hscope)⟩

theorem RecoveryKept.mono {passes' : List Pass} (h : RecoveryKept lib passes row row')
    (hsub : passes ⊆ passes') : RecoveryKept lib passes' row row' := by
  refine ⟨h.stays, h.ids, fun hopen hclosed => ?_⟩
  exact (h.closed hopen hclosed).imp_left fun hpaused => ⟨hpaused.1, hsub hpaused.2⟩

theorem Coherent.mono {passes' : List Pass} (hc : Coherent lib passes row s)
    (hsub : passes ⊆ passes') : Coherent lib passes' row s := by
  obtain ⟨hpayload, hpc⟩ := hc
  refine ⟨hpayload, ?_⟩
  cases hp : s.pc <;> rw [hp] at hpc
  case last op scope =>
    refine ⟨fun clk row₁ row₂ hsame hok happly => ?_, hpc.2⟩
    obtain ⟨hok', hkept⟩ := hpc.1 clk row₁ row₂ hsame hok happly
    exact ⟨hok', fun hr => (hkept hr).mono hsub⟩
  all_goals exact hpc

-- ------------------------------------------------------------
-- Last statements
-- ------------------------------------------------------------

theorem running_of_fence {op : RowOp} {f : Fence} (hf : op.fence? = some f)
    (h : op.apply clk row = some row') : row.status = .running :=
  (heldBy_iff.mp (RowOp.heldBy_of_fence hf h)).1

/-- Without a requested recovery the worker may close the row as it likes. -/
theorem LastOk.close {op : RowOp} (hr : requested row = false)
    (hclose : ∀ clk row row', op.apply clk row = some row' → row'.status.terminal = true) :
    LastOk lib passes row op := by
  intro clk row₁ row' hsame hok happly
  have hkept := (RowOp.effect happly).kept
  refine ⟨hok.closed hkept.taskType (hkept.payload (by rw [hok.taskType]; decide))
    (hclose clk row₁ row' happly), fun hr' => ?_⟩
  rw [hsame.requested_eq, hr] at hr'
  cases hr'

theorem markFailed_terminal {f : Fence} {error : String} {result : Option Obj}
    (h : (RowOp.markFailed f error result).apply clk row = some row') :
    row'.status.terminal = true := by
  obtain ⟨-, rfl⟩ := update_eq_some.mp h
  rfl

theorem LastOk.fail {error : String} {result : Obj} (hr : requested row = false) :
    LastOk lib passes row (s.base.fail error result) :=
  .close hr fun _ _ _ h => markFailed_terminal h

theorem LastOk.failOrCancel {error : String} {result : Obj} (hr : requested row = false) :
    LastOk lib passes row (s.base.failOrCancel error result) := by
  refine .close hr fun clk row row' h => ?_
  obtain ⟨-, rfl⟩ := update_eq_some.mp h
  cases row.cancelRequestedAt <;> rfl

theorem requested_of_none (h : row.result = none) : requested row = false := by
  simp [requested, isDuplicateRecovery, h]

theorem LastOk.bare {op : RowOp} (hnone : row.result = none)
    (hbare : ∀ clk row row', row.result = none → op.apply clk row = some row' →
      row'.status.terminal = true ∨ Obj.get? row'.resultObj "checkpoint_type" = none) :
    LastOk lib passes row op := by
  intro clk row₁ row' hsame hok happly
  have hkept := (RowOp.effect happly).kept
  have hpayload : row'.payload = row₁.payload := hkept.payload (by rw [hok.taskType]; decide)
  refine ⟨?_, fun hr' => ?_⟩
  · rcases hbare clk row₁ row' (hsame.result.trans hnone) happly with hterminal | hbare
    · exact hok.closed hkept.taskType hpayload hterminal
    · exact hok.bare hkept.taskType hpayload hbare
  · rw [hsame.requested_eq, requested_of_none hnone] at hr'
    cases hr'

theorem LastOk.provenNotCommitted {error : String} (hnone : row.result = none) :
    LastOk lib passes row (s.base.requeueTaskProvenNotCommitted error) := by
  refine .bare hnone fun clk row row' hnone h => ?_
  obtain ⟨-, rfl⟩ := update_eq_some.mp h
  cases hcancel : row.cancelRequestedAt with
  | some instant => exact .inl (by simp [Status.terminal])
  | none =>
    by_cases hexhausted : row.maxAttempts ≤ row.attemptCount + 1
    · exact .inl (by simp [hexhausted, Status.terminal])
    · exact .inr (by simp [hexhausted, TaskRow.resultObj, hnone])

theorem LastOk.release {error : String} (hnone : row.result = none) :
    LastOk lib passes row (s.base.release error) := by
  refine .bare hnone fun clk row row' hnone h => ?_
  obtain ⟨-, rfl⟩ := update_eq_some.mp h
  refine .inr ?_
  simp only [TaskRow.resultObj, hnone, Option.getD_none, Option.getD_some]
  split
  · simp
  · split
    · simp
    · split <;> simp

theorem LastOk.requeueTask {error : String} (hr : requested row = false) :
    LastOk lib passes row (s.base.requeueTask error) := by
  intro clk row₁ row' hsame hok happly
  have hkept := (RowOp.effect happly).kept
  have hpayload : row'.payload = row₁.payload := hkept.payload (by rw [hok.taskType]; decide)
  refine ⟨?_, fun hr' => ?_⟩
  · simp only [Worker.Session.requeueTask, RowOp.apply, requeueForRetry] at happly
    split at happly
    · exact hok.closed hkept.taskType hpayload (markFailed_terminal happly)
    · obtain ⟨hg, rfl⟩ := update_eq_some.mp happly
      have hrun : row₁.status = .running := by grind
      exact ⟨hok.taskType, hok.kind, fun _ => hok.started (terminal_of_running hrun),
        fun _ => hok.checkpointed (terminal_of_running hrun)⟩
  · rw [hsame.requested_eq, hr] at hr'
    cases hr'

theorem LastOk.markCancelled {f : Fence} {reason : String} (hr : requested row = true) :
    LastOk lib passes row (.markCancelled f reason) := by
  intro clk row₁ row' hsame hok happly
  have hopen := terminal_of_running (running_of_fence (f := f) rfl happly)
  have hcheckpoint := hok.checkpointed hopen (hsame.requested_eq.trans hr)
  have hstarted := (hok.started hopen hcheckpoint).1
  have hg := (update_eq_some.mp happly).1
  simp only [Bool.and_eq_true, Option.isNone_iff_eq_none] at hg
  rw [hg.2] at hstarted
  cases hstarted

-- ------------------------------------------------------------
-- The statements of a recovery
-- ------------------------------------------------------------

theorem checkpoint_eq (h : s.task.result = row.result) : s.checkpoint = row.resultObj := by
  rw [Session.checkpoint, h, TaskRow.resultObj]

theorem payload_eq (h : s.task.payload = row.payload) {payload : MetaMutationPayload}
    (hp : MetaMutationPayload.fromDict row.payload = .ok payload) : s.payload = payload := by
  rw [Session.payload, Worker.Session.payload, show s.base.task.payload = row.payload from h, hp]

theorem Same.resultObj (h : Same row row') : row'.resultObj = row.resultObj := by
  rw [TaskRow.resultObj, h.result, TaskRow.resultObj]

theorem recovered_requested {created : Created} {attempt : Int} {failures : List CleanupFailure}
    {checkedAt : String} {fields : Obj} (h : s.task.result = row.result) (hr : requested row = true)
    (htype : fields.get? "checkpoint_type" = none)
    (hreq : fields.get? "recovery_requested" = none) :
    isDuplicateRecovery
      (some (Obj.merge (s.recoveredResult created attempt failures checkedAt) fields)) = true := by
  refine merge_requested htype (.inl hreq) (merge_requested (by simp) (.inr (by simp)) ?_)
  rw [checkpoint_eq h, ← resultObj_of_requested hr]
  exact hr

theorem recovered_createdIds {created : Created} {attempt : Int} {failures : List CleanupFailure}
    {checkedAt : String} {fields : Obj} (hids : fields.get? "created_ids" = none)
    (hcreated : createdIdsFromCheckpoint row.resultObj = .ok created)
    (hrow' : row'.result =
      some (Obj.merge (s.recoveredResult created attempt failures checkedAt) fields))
    (key : String) : createdIds row' key = createdIds row key := by
  obtain ⟨raw, hraw, hkeys⟩ := createdIdsFromCheckpoint_toJson hcreated
  have hobj : Obj.get? row'.resultObj "created_ids" = some created.toJson := by
    rw [TaskRow.resultObj, hrow']
    simp [hids, Session.recoveredResult]
  simp only [createdIds, hobj, hraw, Option.bind_some]
  exact hkeys key

theorem validateRecovery_created {payload : MetaMutationPayload} {checkpoint : Obj} {plan : Plan}
    {created : Created} (h : validateRecovery lib payload checkpoint = .ok (plan, created)) :
    createdIdsFromCheckpoint checkpoint = .ok created := by
  unfold validateRecovery at h
  obtain ⟨plan', -, h⟩ := bind_eq_ok.mp h
  obtain ⟨created', hcreated, h⟩ := bind_eq_ok.mp h
  obtain ⟨-, -, h⟩ := bind_eq_ok.mp h
  cases h
  exact hcreated

section
variable {created : Created} {attempt : Int} {failures : List CleanupFailure} {checkedAt : String}

theorem LastOk.recoveryPaused (hresult : s.task.result = row.result) (hr : requested row = true)
    (hcreated : createdIdsFromCheckpoint row.resultObj = .ok created)
    (hpass : { token := row.leaseToken, failures := [] } ∈ passes) :
    LastOk lib passes row
      (s.recoveryPaused (s.recoveredResult created attempt failures checkedAt)) := by
  intro clk row₁ row' hsame hok happly
  have hterminal := markFailed_terminal happly
  have hkept := (RowOp.effect happly).kept
  obtain ⟨-, rfl⟩ := update_eq_some.mp happly
  refine ⟨hok.closed hkept.taskType (hkept.payload (by rw [hok.taskType]; decide)) hterminal,
    fun _ => ⟨?_, ?_, fun _ _ => .inl ⟨?_, ?_⟩⟩⟩
  · exact recovered_requested hresult hr (by simp) (by simp)
  · rw [← hsame.resultObj] at hcreated
    exact recovered_createdIds (by simp) hcreated rfl
  · simp [TaskRow.resultObj, Obj.text, Json.text]
  · rw [hsame.leaseToken]
    exact hpass

theorem LastOk.deferRecovery (hresult : s.task.result = row.result) (hr : requested row = true)
    (hcreated : createdIdsFromCheckpoint row.resultObj = .ok created) :
    LastOk lib passes row
      (s.deferRecovery (s.recoveredResult created attempt failures checkedAt) failures) := by
  intro clk row₁ row' hsame hok happly
  have hopen := terminal_of_running (running_of_fence (f := s.fence) rfl happly)
  have hcheckpoint := hok.checkpointed hopen (hsame.requested_eq.trans hr)
  obtain ⟨hstarted, hparses⟩ := hok.started hopen hcheckpoint
  have hkept := (RowOp.effect happly).kept
  obtain ⟨-, rfl⟩ := update_eq_some.mp happly
  refine ⟨hok.withCheckpoint hkept.taskType (hkept.payload (by rw [hok.taskType]; decide)) ?_
    hstarted hparses, fun _ => ⟨?_, ?_, fun _ hterminal => by cases hterminal⟩⟩
  · refine hasDuplicateCheckpoint_of rfl ?_ (by simp [Session.recoveredResult, Created.toJson]; rfl)
    simp [Session.recoveredResult, checkpoint_eq hresult, checkpoint_type_of_requested hr]
  · exact recovered_requested hresult hr (by simp) (by simp)
  · rw [← hsame.resultObj] at hcreated
    exact recovered_createdIds (by simp) hcreated rfl

end

theorem LastOk.checkpointInvalid {error : String} {payload : MetaMutationPayload}
    (hresult : s.task.result = row.result) (hr : requested row = true)
    (hp : MetaMutationPayload.fromDict row.payload = .ok payload)
    (hinvalid : ∃ error, validateRecovery lib payload row.resultObj = .error error) :
    LastOk lib passes row (s.checkpointInvalid error) := by
  intro clk row₁ row' hsame hok happly
  have hterminal := markFailed_terminal happly
  have hkept := (RowOp.effect happly).kept
  obtain ⟨-, rfl⟩ := update_eq_some.mp happly
  refine ⟨hok.closed hkept.taskType (hkept.payload (by rw [hok.taskType]; decide)) hterminal,
    fun _ => ⟨?_, ?_, fun _ _ => .inr ⟨?_, payload, ?_⟩⟩⟩
  · refine merge_requested (by simp) (.inl (by simp)) ?_
    rw [checkpoint_eq hresult, ← resultObj_of_requested hr]
    exact hr
  · refine merge_createdIds (by simp) ?_ rfl
    rw [checkpoint_eq hresult, hsame.resultObj]
  · simp [TaskRow.resultObj, Obj.text, Json.text]
  · obtain ⟨error, hinvalid⟩ := hinvalid
    exact ⟨error, by rw [hsame.payload, hp], by rw [hsame.resultObj, hinvalid]⟩

theorem LastOk.partialFailed {created : Created} {step error : String}
    {failures : List CleanupFailure} (hr : requested row = false)
    (hstarted : row.externalStartedAt.isSome = true) (hparses : Parses row) :
    LastOk lib passes row (s.partialFailed created step error failures) := by
  unfold Session.partialFailed
  split
  · exact .fail hr
  · intro clk row₁ row' hsame hok happly
    have hkept := (RowOp.effect happly).kept
    obtain ⟨-, rfl⟩ := update_eq_some.mp happly
    refine ⟨hok.withCheckpoint hkept.taskType (hkept.payload (by rw [hok.taskType]; decide)) ?_
      ?_ (hsame.parses hparses), fun hr' => ?_⟩
    · exact hasDuplicateCheckpoint_of rfl (by simp) (by simp [Created.toJson]; rfl)
    · rw [← hsame.boundary] at hstarted
      exact hstarted
    · rw [hsame.requested_eq, hr] at hr'
      cases hr'

end StopBot.Duplicates
