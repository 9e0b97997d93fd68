import StopBot.Campaigns.Process
import StopBot.Tasks.Fencing

/-!
# What a transaction does to a task and its run

Every transaction of the system changes one task and the run it belongs to. Said
once for each of them: the task is annotated, the run moves while its task is
running, both are closed together, or the task goes back to the queue. A release
is the only one that takes the boundary away.
-/

namespace StopBot.Campaigns

open Lib Tasks

-- ------------------------------------------------------------
-- Tasks and runs by id
-- ------------------------------------------------------------

theorem runText_injective {a b : Nat} (h : runText a = runText b) : a = b := by
  unfold runText at h
  exact PyText.toString_nat_inj (congrArg String.toList h)

theorem ofRun_unique {a b : Nat} {row : TaskRow} (ha : ofRun (runText a) row = true)
    (hb : ofRun (runText b) row = true) : a = b := by
  simp only [ofRun, beq_iff_eq] at ha hb
  rw [ha] at hb
  exact runText_injective (Option.some.inj hb)

theorem ofRun_congr {r : String} {row row' : TaskRow} (h : row'.payload = row.payload) :
    ofRun r row' = ofRun r row := by
  simp only [ofRun, h]

theorem updateAt_rows_of {α : Type} {t : Table α} {id : Nat} {old new : α}
    (h : t.rows id = some old) (i : Nat) :
    (t.updateAt id fun _ => some new).rows i = if i = id then some new else t.rows i := by
  rw [Table.updateAt_rows]
  by_cases hi : i = id
  · subst hi
    simp [h]
  · cases hr : t.rows i <;> simp [hi]

-- ------------------------------------------------------------
-- Moves
-- ------------------------------------------------------------

def Coherent (run : RunStatus) (task : Status) : Prop :=
  (run.terminal = true ↔ task.terminal = true) ∧ (run = .succeeded ↔ task = .succeeded)

/-- The columns of a task that no transaction changes; its token only grows. -/
structure TaskKept (row row' : TaskRow) : Prop where
  payload : row'.payload = row.payload
  taskType : row'.taskType = row.taskType
  lane : row'.lane = row.lane
  leaseToken : row.leaseToken ≤ row'.leaseToken

theorem TaskKept.refl (row : TaskRow) : TaskKept row row := ⟨rfl, rfl, rfl, Nat.le_refl _⟩

inductive Move (row : TaskRow) (run : CampaignRun) : TaskRow → CampaignRun → Prop
  | note {row' : TaskRow} (status : row'.status = row.status)
      (boundary : row.externalStartedAt.isSome = true → row'.externalStartedAt.isSome = true)
      (frozen : row.status.terminal = true →
        row'.result = row.result ∧ row'.externalStartedAt = row.externalStartedAt) :
      Move row run row' run
  | work {run' : CampaignRun} (running : row.status = .running)
      (active : run'.status.terminal = false)
      (created : run'.createdMetaIds = run.createdMetaIds) : Move row run row run'
  | close {row' : TaskRow} {run' : CampaignRun} (wasOpen : row.status.terminal = false)
      (terminal : row'.status.terminal = true)
      (together : run.status.terminal = false → Coherent run'.status row'.status)
      (boundary : row'.externalStartedAt = row.externalStartedAt) : Move row run row' run'
  | requeue {row' : TaskRow} (running : row.status = .running)
      (status : row'.status = .retrying)
      (boundary : row'.externalStartedAt = row.externalStartedAt) : Move row run row' run

structure Released (row : TaskRow) (run : CampaignRun) (row' : TaskRow) (run' : CampaignRun) :
    Prop where
  running : row.status = .running
  boundary : row'.externalStartedAt = none
  status : row'.status.queued = true ∨ row'.status.terminal = true
  together : Coherent run'.status row'.status
  created : run'.createdMetaIds = run.createdMetaIds

structure MovedAt (M : TaskRow → CampaignRun → TaskRow → CampaignRun → Prop) (st st' : Store)
    (task r : Nat) (row row' : TaskRow) (run run' : CampaignRun) : Prop where
  storedRow : st.queue.rows task = some row
  storedRun : st.runs.rows r = some run
  of : ofRun (runText r) row = true
  rows : ∀ i, st'.queue.rows i = if i = task then some row' else st.queue.rows i
  runs : ∀ i, st'.runs.rows i = if i = r then some run' else st.runs.rows i
  queueNext : st'.queue.next = st.queue.next
  runsNext : st'.runs.next = st.runs.next
  seq : st'.seq = st.seq
  ledger : st'.ledger = st.ledger
  kept : TaskKept row row'
  config : run'.config = run.config
  key : run'.idempotencyKey = run.idempotencyKey
  move : M row run row' run'

section
variable {st st' : Store} {clk : Clock} {f : Fence} {task r : Nat} {row row' : TaskRow}
  {run run' : CampaignRun} {M : TaskRow → CampaignRun → TaskRow → CampaignRun → Prop}

theorem movedAt_both (hrow : st.queue.rows task = some row) (hrun : st.runs.rows r = some run)
    (hof : ofRun (runText r) row = true) (hkept : TaskKept row row')
    (hconfig : run'.config = run.config) (hkey : run'.idempotencyKey = run.idempotencyKey)
    (hmove : M row run row' run') :
    MovedAt M st ((st.putTask task row').putRun r run') task r row row' run run' where
  storedRow := hrow
  storedRun := hrun
  of := hof
  rows := updateAt_rows_of hrow
  runs := updateAt_rows_of hrun
  queueNext := rfl
  runsNext := rfl
  seq := rfl
  ledger := rfl
  kept := hkept
  config := hconfig
  key := hkey
  move := hmove

theorem movedAt_task (hrow : st.queue.rows task = some row) (hrun : st.runs.rows r = some run)
    (hof : ofRun (runText r) row = true) (hkept : TaskKept row row') (hmove : M row run row' run) :
    MovedAt M st (st.putTask task row') task r row row' run run where
  storedRow := hrow
  storedRun := hrun
  of := hof
  rows := updateAt_rows_of hrow
  runs := by
    intro i
    by_cases hi : i = r
    · subst hi
      simp [Store.putTask, hrun]
    · simp [Store.putTask, hi]
  queueNext := rfl
  runsNext := rfl
  seq := rfl
  ledger := rfl
  kept := hkept
  config := rfl
  key := rfl
  move := hmove

theorem movedAt_run (hrow : st.queue.rows task = some row) (hrun : st.runs.rows r = some run)
    (hof : ofRun (runText r) row = true) (hconfig : run'.config = run.config)
    (hkey : run'.idempotencyKey = run.idempotencyKey) (hmove : M row run row run') :
    MovedAt M st (st.putRun r run') task r row row run run' where
  storedRow := hrow
  storedRun := hrun
  of := hof
  rows := by
    intro i
    by_cases hi : i = task
    · subst hi
      simp [Store.putRun, hrow]
    · simp [Store.putRun, hi]
  runs := updateAt_rows_of hrun
  queueNext := rfl
  runsNext := rfl
  seq := rfl
  ledger := rfl
  kept := .refl row
  config := hconfig
  key := hkey
  move := hmove

-- ------------------------------------------------------------
-- Terminalization
-- ------------------------------------------------------------

def terminalized (clk : Clock) (phase : Phase) (row : TaskRow) (run : CampaignRun) : CampaignRun :=
  if run.status.terminal then run
  else
    { run with
      status := if phase = .cancelled then .cancelled else .failed
      error := some <|
        match run.error with
        | some error => if error = "" then campaignRunTerminalReason phase row.resultObj else error
        | none => campaignRunTerminalReason phase row.resultObj
      updatedAt := clk.now }

theorem terminalize_runs {phase : Phase} (hrun : st.runs.rows r = some run)
    (hof : ofRun (runText r) row = true) (i : Nat) :
    (terminalizeCampaignRun clk phase row st).runs.rows i =
      if i = r then some (terminalized clk phase row run) else st.runs.rows i := by
  simp only [terminalizeCampaignRun, Table.update_rows]
  by_cases hi : i = r
  · subst hi
    cases ht : run.status.terminal with
    | true => simp [hrun, ht, terminalized]
    | false =>
      cases he : run.error <;> simp [hrun, hof, ht, he, terminalized]
  · cases hr : st.runs.rows i with
    | none => simp [hi]
    | some other =>
      have hne : ofRun (runText i) row = false := by
        rw [Bool.eq_false_iff]
        intro hi'
        exact hi (ofRun_unique hi' hof)
      simp [hi, hne]

@[simp] theorem terminalized_config (clk : Clock) (phase : Phase) (row : TaskRow)
    (run : CampaignRun) : (terminalized clk phase row run).config = run.config := by
  unfold terminalized
  split <;> rfl

@[simp] theorem terminalized_key (clk : Clock) (phase : Phase) (row : TaskRow)
    (run : CampaignRun) :
    (terminalized clk phase row run).idempotencyKey = run.idempotencyKey := by
  unfold terminalized
  split <;> rfl

theorem terminalized_coherent {phase : Phase} {status : Status}
    (hrun : run.status.terminal = false) (hstatus : status = .failed ∨ status = .cancelled) :
    Coherent (terminalized clk phase row run).status status := by
  have hterm : (terminalized clk phase row run).status = .cancelled ∨
      (terminalized clk phase row run).status = .failed := by
    by_cases hp : phase = .cancelled <;> simp [terminalized, hrun, hp]
  obtain h | h := hterm <;> obtain rfl | rfl := hstatus <;> rw [h] <;>
    simp [Coherent, RunStatus.terminal, Status.terminal]

/-- A task that is closed outside of the worker takes its run along. -/
theorem MovedAt.terminalize {M' : TaskRow → CampaignRun → TaskRow → CampaignRun → Prop}
    {phase : Phase} (h : MovedAt M st st' task r row row' run run')
    (hmove : M' row run row' (terminalized clk phase row' run')) :
    MovedAt M' st (terminalizeCampaignRun clk phase row' st') task r row row' run
      (terminalized clk phase row' run') where
  storedRow := h.storedRow
  storedRun := h.storedRun
  of := h.of
  rows := h.rows
  runs := by
    intro i
    have hrun' : st'.runs.rows r = some run' := by rw [h.runs, if_pos rfl]
    have hof' : ofRun (runText r) row' = true := by rw [ofRun_congr h.kept.payload, h.of]
    rw [terminalize_runs hrun' hof', h.runs]
    split <;> rfl
  queueNext := h.queueNext
  runsNext := h.runsNext
  seq := h.seq
  ledger := h.ledger
  kept := h.kept
  config := (terminalized_config ..).trans h.config
  key := (terminalized_key ..).trans h.key
  move := hmove

-- ------------------------------------------------------------
-- Statements of the queue
-- ------------------------------------------------------------

/-- A statement on a task that is closed, if at all, as failed or cancelled. -/
structure Statement (row row' : TaskRow) : Prop where
  kept : TaskKept row row'
  boundary : row'.externalStartedAt = row.externalStartedAt
  moves : (row'.status = row.status ∧ (row.status.terminal = true → row'.result = row.result)) ∨
    (row.status.terminal = false ∧ (row'.status = .failed ∨ row'.status = .cancelled)) ∨
    (row.status = .running ∧ row'.status = .retrying)

theorem taskKept_of_effect (h : Effect row row') (htype : row.taskType = .campaignCreate)
    (hlane : row'.lane = row.lane) : TaskKept row row' where
  payload := h.kept.payload (by rw [htype]; decide)
  taskType := h.kept.taskType
  lane := hlane
  leaseToken := Nat.le_of_eq h.kept.leaseToken.symm

theorem statement_of_unfenced {op : RowOp} (h : op.apply clk row = some row')
    (hfence : op.fence? = none) (htype : row.taskType = .campaignCreate) : Statement row row' := by
  have hkept := fun hlane => taskKept_of_effect (RowOp.effect h) htype hlane
  cases op <;> simp only [RowOp.fence?, reduceCtorEq] at hfence <;>
    simp only [RowOp.apply, Tasks.cancelUnstartedAutoPause, Tasks.abortCampaignTask] at h
  case cancelUnstartedAutoPause =>
    simp [isAutoPauseOf, htype, update_eq_some] at h
  case abortCampaignTask =>
    split at h
    · cases h
      refine ⟨hkept rfl, rfl, .inr (.inl ⟨?_, .inr rfl⟩)⟩
      exact terminal_of_queued (by simp_all)
    · obtain ⟨hg, rfl⟩ := update_eq_some.mp h
      exact ⟨hkept rfl, rfl, .inl ⟨rfl, fun _ => rfl⟩⟩
  case requestTaskCancel =>
    obtain ⟨hg, rfl⟩ := update_eq_some.mp h
    refine ⟨hkept rfl, rfl, ?_⟩
    by_cases hq : (row.status.queued && row.externalStartedAt.isNone) = true
    · exact .inr (.inl ⟨by simpa using hg, .inr (by simp [hq])⟩)
    · exact .inl ⟨by simp [hq], fun ht => by simp [ht] at hg⟩
  case strengthenActiveTask =>
    obtain ⟨hg, rfl⟩ := update_eq_some.mp h
    exact ⟨hkept rfl, rfl, .inl ⟨rfl, fun _ => rfl⟩⟩
  all_goals
    obtain ⟨hg, rfl⟩ := update_eq_some.mp h
    simp only [htype, Bool.and_eq_true, beq_iff_eq, isTrackerEvent, reduceCtorEq, false_and,
      bne_self_eq_false, and_false, Bool.false_eq_true] at hg
  case failStuckCampaignCreate =>
    exact ⟨hkept rfl, rfl, .inr (.inl ⟨terminal_of_running hg.1.2, .inl rfl⟩)⟩
  case expireOverdue =>
    exact ⟨hkept rfl, rfl, .inr (.inl ⟨terminal_of_queued hg.1.1.1, .inl rfl⟩)⟩
  case recordManualReconciliation => exact ⟨hkept rfl, rfl, .inl ⟨rfl, fun _ => rfl⟩⟩

theorem statement_of_markFailed {error : String} {result : Option Obj}
    (h : markFailed clk f error result row = some row') : Statement row row' := by
  obtain ⟨hg, rfl⟩ := update_eq_some.mp h
  simp only [Bool.and_eq_true, heldBy_iff] at hg
  exact ⟨⟨rfl, rfl, rfl, Nat.le_refl _⟩, rfl, .inr (.inl ⟨terminal_of_running hg.2.1, .inl rfl⟩)⟩

theorem statement_of_requeue {error : String} {attempts maxAttempts : Int} {lane : Lane}
    (h : requeueForRetry clk f error attempts maxAttempts lane row = some row') :
    Statement row row' := by
  simp only [requeueForRetry] at h
  split at h
  · exact statement_of_markFailed h
  · obtain ⟨hg, rfl⟩ := update_eq_some.mp h
    simp only [Bool.and_eq_true, heldBy_iff] at hg
    exact ⟨⟨rfl, rfl, rfl, Nat.le_refl _⟩, rfl, .inr (.inr ⟨hg.2.1, rfl⟩)⟩

theorem statement_of_recordCreatedIds {result : Obj}
    (h : recordCreatedIds clk f result row = some row') : Statement row row' := by
  obtain ⟨hg, rfl⟩ := update_eq_some.mp h
  rw [heldBy_iff] at hg
  refine ⟨⟨rfl, rfl, rfl, Nat.le_refl _⟩, rfl, .inl ⟨rfl, fun ht => ?_⟩⟩
  rw [terminal_of_running hg.1] at ht
  cases ht

theorem onTask_moved {op : RowOp} {force : Option Phase}
    (h : onTask clk task op force st = some st') (hrow : st.queue.rows task = some row)
    (hrun : st.runs.rows r = some run) (hof : ofRun (runText r) row = true)
    (hop : ∀ row', op.apply clk row = some row' → Statement row row') :
    ∃ row' run', op.apply clk row = some row' ∧ MovedAt Move st st' task r row row' run run' := by
  simp only [onTask, hrow] at h
  obtain ⟨row', happly, hst⟩ := Option.map_eq_some_iff.mp h
  obtain ⟨hkept, hboundary, hmoves⟩ := hop row' happly
  split at hst
  next hclosed =>
    simp only [Bool.and_eq_true, Bool.not_eq_true', Bool.or_eq_true, beq_iff_eq] at hclosed
    obtain ⟨hopen, hstatus⟩ := hclosed
    subst hst
    have htask := movedAt_task (M := fun _ _ _ _ => True) hrow hrun hof hkept trivial
    refine ⟨row', _, happly, htask.terminalize ?_⟩
    refine .close hopen ?_ (fun hactive => terminalized_coherent hactive hstatus) hboundary
    obtain hs | hs := hstatus <;> rw [hs] <;> rfl
  next hclosed =>
    subst hst
    refine ⟨row', run, happly, movedAt_task hrow hrun hof hkept ?_⟩
    obtain ⟨hs, hres⟩ | ⟨hopen, hs⟩ | ⟨hrunning, hs⟩ := hmoves
    · exact .note hs (by rw [hboundary]; exact id) fun ht => ⟨hres ht, hboundary⟩
    · simp [hopen, hs] at hclosed
    · exact .requeue hrunning hs hboundary

-- ------------------------------------------------------------
-- Transactions of the worker
-- ------------------------------------------------------------

theorem setRunStatus_moved {status : RunStatus} {progress : Option Obj}
    {expect : Option RunStatus} (h : setRunStatus clk f task r status progress expect st = some st')
    (hstatus : status.terminal = false) :
    ∃ row run run', row.heldBy clk f = true ∧ MovedAt Move st st' task r row row run run' := by
  unfold setRunStatus at h
  split at h
  next row run hrow hrun =>
    split at h
    next hg =>
      simp only [Bool.and_eq_true] at hg
      obtain ⟨⟨⟨⟨hheld, -⟩, -⟩, hof⟩, -⟩ := hg
      cases h
      refine ⟨row, run, _, hheld, movedAt_run hrow hrun hof rfl rfl ?_⟩
      exact .work (heldBy_iff.mp hheld).1 hstatus rfl
    · cases h
  · cases h

theorem onBoth_moved {changeTask : TaskRow → Option TaskRow}
    {changeRun : TaskRow → CampaignRun → CampaignRun}
    (h : onBoth task r changeTask changeRun st = some st') (hrow : st.queue.rows task = some row)
    (hrun : st.runs.rows r = some run) (hof : ofRun (runText r) row = true)
    (hchange : ∀ row', changeTask row = some row' →
      TaskKept row row' ∧ M row run row' (changeRun row' run) ∧
        (changeRun row' run).config = run.config ∧
        (changeRun row' run).idempotencyKey = run.idempotencyKey) :
    ∃ row', changeTask row = some row' ∧
      MovedAt M st st' task r row row' run (changeRun row' run) := by
  simp only [onBoth, hrow, hrun] at h
  obtain ⟨row', hrow', rfl⟩ := Option.map_eq_some_iff.mp h
  obtain ⟨hkept, hmove, hconfig, hkey⟩ := hchange row' hrow'
  exact ⟨row', hrow', movedAt_both hrow hrun hof hkept hconfig hkey hmove⟩

theorem onBoth_closes {changeTask : TaskRow → Option TaskRow}
    {changeRun : TaskRow → CampaignRun → CampaignRun}
    (h : onBoth task r changeTask changeRun st = some st') (hrow : st.queue.rows task = some row)
    (hrun : st.runs.rows r = some run) (hof : ofRun (runText r) row = true)
    (hchange : ∀ row', changeTask row = some row' →
      row.heldBy clk f = true ∧ TaskKept row row' ∧
        row'.externalStartedAt = row.externalStartedAt ∧ row'.status.terminal = true ∧
        Coherent (changeRun row' run).status row'.status)
    (hconfig : ∀ row', (changeRun row' run).config = run.config)
    (hkey : ∀ row', (changeRun row' run).idempotencyKey = run.idempotencyKey) :
    row.heldBy clk f = true ∧ ∃ row' run', MovedAt Move st st' task r row row' run run' := by
  obtain ⟨row', hrow', hmoved⟩ := onBoth_moved (M := Move) h hrow hrun hof fun row' hrow' => by
    obtain ⟨hheld, hkept, hboundary, hterminal, htogether⟩ := hchange row' hrow'
    have hopen := terminal_of_running (heldBy_iff.mp hheld).1
    exact ⟨hkept, .close hopen hterminal (fun _ => htogether) hboundary, hconfig row', hkey row'⟩
  exact ⟨(hchange row' hrow').1, row', _, hmoved⟩

/-- What a transaction that stops the work on a task leaves behind: only a
release takes the boundary away, and a success is reported with its run. -/
theorem Tx.apply_moved {s : Session} {tx : Tx} (h : tx.apply clk task s st = some st')
    (hrow : st.queue.rows task = some row) (hrun : st.runs.rows r = some run)
    (hof : ofRun (runText r) row = true) (hs : s.run = some r) :
    row.heldBy clk s.fence = true ∧
      ((∃ row' run', MovedAt Move st st' task r row row' run run') ∨
        (∃ result, tx = .markSucceeded result) ∨ ∃ error, tx = .release error) := by
  cases tx with
  | succeed created =>
    simp only [Tx.apply, hs, Option.bind_some, finalizeSucceeded] at h
    have hclosed := onBoth_closes h hrow hrun hof (fun row' hrow' => by
      obtain ⟨hg, rfl⟩ := update_eq_some.mp hrow'
      simp only [Bool.and_eq_true] at hg
      exact ⟨hg.1, ⟨rfl, rfl, rfl, Nat.le_refl _⟩, rfl, rfl, by simp [Coherent, RunStatus.terminal,
        Status.terminal]⟩) (fun _ => rfl) fun _ => rfl
    exact ⟨hclosed.1, .inl hclosed.2⟩
  | fail error created result progress =>
    simp only [Tx.apply, hs, Option.bind_some, finalizeFailed] at h
    have hclosed := onBoth_closes h hrow hrun hof (fun row' hrow' => by
      obtain ⟨hg, rfl⟩ := update_eq_some.mp hrow'
      simp only [Bool.and_eq_true] at hg
      exact ⟨hg.1, ⟨rfl, rfl, rfl, Nat.le_refl _⟩, rfl, rfl, by simp [Coherent, RunStatus.terminal,
        Status.terminal]⟩) (fun _ => rfl) fun _ => rfl
    exact ⟨hclosed.1, .inl hclosed.2⟩
  | cancel reason =>
    simp only [Tx.apply, hs, Option.bind_some, finalizeCancelled] at h
    have hclosed := onBoth_closes h hrow hrun hof (fun row' hrow' => by
      obtain ⟨hg, rfl⟩ := update_eq_some.mp hrow'
      simp only [Bool.and_eq_true] at hg
      exact ⟨hg.1.1, ⟨rfl, rfl, rfl, Nat.le_refl _⟩, rfl,
        rfl, by simp [Coherent, RunStatus.terminal,
        Status.terminal]⟩) (fun _ => rfl) fun _ => rfl
    exact ⟨hclosed.1, .inl hclosed.2⟩
  | markFailed error result =>
    obtain ⟨row', run', happly, hmoved⟩ := onTask_moved h hrow hrun hof
      fun row' h' => statement_of_markFailed h'
    exact ⟨RowOp.heldBy_of_fence rfl happly, .inl ⟨row', run', hmoved⟩⟩
  | markSucceeded result =>
    simp only [Tx.apply, onTask, hrow] at h
    obtain ⟨row', happly, -⟩ := Option.map_eq_some_iff.mp h
    exact ⟨RowOp.heldBy_of_fence rfl happly, .inr (.inl ⟨result, rfl⟩)⟩
  | release error =>
    simp only [Tx.apply, hs, Option.bind_some, releaseRun] at h
    obtain ⟨st'', h, -⟩ := Option.map_eq_some_iff.mp h
    simp only [onBoth, hrow, hrun] at h
    obtain ⟨row', happly, -⟩ := Option.map_eq_some_iff.mp h
    obtain ⟨hg, -⟩ := update_eq_some.mp happly
    simp only [Bool.and_eq_true] at hg
    exact ⟨hg.2, .inr (.inr ⟨error, rfl⟩)⟩
  | requeue error =>
    obtain ⟨row', run', happly, hmoved⟩ := onTask_moved h hrow hrun hof
      fun row' h' => statement_of_requeue h'
    exact ⟨RowOp.heldBy_of_fence rfl happly, .inl ⟨row', run', hmoved⟩⟩

def readied (clk : Clock) (row' : TaskRow) (run : CampaignRun) : CampaignRun :=
  let status : RunStatus := if row'.status = .cancelled then .cancelled else .queued
  { run with
    status
    progress := [("stage", .str status.text), ("reason", .str "browser_readiness_rejected")]
    updatedAt := clk.wall }

theorem release_status {generation : Option Int} {error : String} {key : Option String}
    {lane : Lane}
    (h : releaseAfterBrowserReadinessRejection clk f generation error key lane row = some row') :
    row'.status = .cancelled ∨ row'.status = .failed ∨ row'.status = .retrying := by
  obtain ⟨-, rfl⟩ := update_eq_some.mp h
  show (if _ then Status.cancelled else if _ then Status.failed else Status.retrying) = _ ∨ _
  split
  · exact .inl rfl
  · split
    · exact .inr (.inl rfl)
    · exact .inr (.inr rfl)

theorem releaseRun_moved {generation : Option Int} {error : String} {lane : Lane}
    (h : releaseRun clk f generation error lane task r st = some st')
    (hrow : st.queue.rows task = some row) (hrun : st.runs.rows r = some run)
    (hof : ofRun (runText r) row = true) :
    ∃ row' run', releaseAfterBrowserReadinessRejection clk f generation error none lane row =
      some row' ∧ MovedAt Released st st' task r row row' run run' := by
  simp only [releaseRun, onBoth, hrow, hrun, Option.map_map] at h
  obtain ⟨row', happly, hst⟩ := Option.map_eq_some_iff.mp h
  have hrunning : row.status = .running := by
    obtain ⟨hg, -⟩ := update_eq_some.mp happly
    simp only [Bool.and_eq_true, heldBy_iff] at hg
    exact hg.2.1
  have hkept : TaskKept row row' := by
    obtain ⟨-, rfl⟩ := update_eq_some.mp happly
    exact ⟨rfl, rfl, rfl, Nat.le_refl _⟩
  have hboundary : row'.externalStartedAt = none := by
    obtain ⟨-, rfl⟩ := update_eq_some.mp happly
    rfl
  have hboth : MovedAt (fun _ _ _ _ => True) st
      ((st.putTask task row').putRun r (readied clk row' run)) task r row row' run
      (readied clk row' run) := movedAt_both hrow hrun hof hkept rfl rfl trivial
  have hstored := hboth.rows task
  rw [if_pos rfl] at hstored
  rw [Function.comp_apply] at hst
  split at hst
  case h_2 hnone => cases hstored.symm.trans hnone
  rename_i _ row'' hsome
  obtain rfl : row' = row'' := Option.some.inj (hstored.symm.trans hsome)
  simp only [Bool.or_eq_true, beq_iff_eq] at hst
  obtain hs | hs | hs := release_status happly
  · rw [if_pos (.inr hs)] at hst
    subst hst
    refine ⟨row', _, happly, hboth.terminalize ⟨hrunning, hboundary, .inr ?_, ?_, ?_⟩⟩
    · rw [hs]
      rfl
    · simp [terminalized, readied, hs, Coherent, RunStatus.terminal, Status.terminal]
    · simp [terminalized, readied, hs, RunStatus.terminal]
  · rw [if_pos (.inl hs)] at hst
    subst hst
    have hactive : (readied clk row' run).status.terminal = false := by
      simp [readied, hs, RunStatus.terminal]
    refine ⟨row', _, happly, hboth.terminalize ⟨hrunning, hboundary, .inr ?_,
      terminalized_coherent hactive (.inl hs), ?_⟩⟩
    · rw [hs]
      rfl
    · simp [terminalized, readied, hs, RunStatus.terminal]
  · rw [if_neg (by simp [hs])] at hst
    subst hst
    refine ⟨row', _, happly, { hboth with move := ⟨hrunning, hboundary, .inl ?_, ?_, rfl⟩ }⟩
    · rw [hs]
      rfl
    · simp [readied, hs, Coherent, RunStatus.terminal, Status.terminal]

-- ------------------------------------------------------------
-- The claim, the boundary and the abort
-- ------------------------------------------------------------

structure Claimed (row : TaskRow) (run : CampaignRun) (row' : TaskRow) (run' : CampaignRun) :
    Prop where
  queued : row.status.queued = true
  running : row'.status = .running
  boundary : row'.externalStartedAt = row.externalStartedAt
  token : row'.leaseToken = row.leaseToken + 1
  run : run' = run

theorem claim_moved {c : Consumer} (hrow : st.queue.rows task = some row)
    (hrun : st.runs.rows r = some run) (hof : ofRun (runText r) row = true)
    (h : claimable clk .campaignCreate c.lanes row = true) :
    MovedAt Claimed st (st.putTask task (claimRow clk c.worker c.leaseSeconds row)) task r row
      (claimRow clk c.worker c.leaseSeconds row) run run := by
  have hqueued : row.status.queued = true := by
    simp only [claimable, Bool.and_eq_true] at h
    simp_all
  exact movedAt_task hrow hrun hof ⟨rfl, rfl, rfl, Nat.le_succ _⟩ ⟨hqueued, rfl, rfl, rfl, rfl⟩

theorem begin_crossed {operation target : String}
    (h : begin clk f operation target (st.queue.rows task) = .crossed row') :
    ∃ row, st.queue.rows task = some row ∧ row.heldBy clk f = true ∧
      beginExternal clk f operation target row = some row' := by
  unfold begin at h
  split at h
  · cases h
  next row hrow =>
    split at h
    next hheld =>
      split at h
      · cases h
      · split at h
        next row'' happly =>
          cases h
          exact ⟨row, hrow, hheld, happly⟩
        · cases h
    · cases h

theorem begin_moved {operation target : String}
    (h : beginExternal clk f operation target row = some row') :
    TaskKept row row' ∧ row'.status = row.status ∧ row'.externalStartedAt.isSome = true ∧
      Move row run row' run := by
  obtain ⟨hg, rfl⟩ := update_eq_some.mp h
  simp only [Bool.and_eq_true, heldBy_iff] at hg
  have hmarked : (row.externalStartedAt <|> some clk.wall).isSome = true := by
    cases row.externalStartedAt <;> rfl
  refine ⟨⟨rfl, rfl, rfl, Nat.le_refl _⟩, rfl, hmarked, .note rfl (fun _ => hmarked) fun ht => ?_⟩
  rw [terminal_of_running hg.1.1.2.1] at ht
  cases ht

theorem mem_latest {st : Store} {r task : Nat} {row : TaskRow}
    (h : st.latestTask r = some (task, row)) :
    st.queue.rows task = some row ∧ ofRun (runText r) row = true := by
  have hmem := List.mem_of_getLast? h
  rw [List.mem_filter, Table.mem_entries] at hmem
  simp only [Bool.and_eq_true] at hmem
  exact ⟨hmem.1, hmem.2.2⟩

theorem abortCampaignTask_cases {reason : String}
    (h : abortCampaignTask clk reason row = some row') :
    row.taskType = .campaignCreate ∧
      ((row.status.queued = true ∧ row'.status = .cancelled) ∨
        (row.status = .running ∧ row'.status = row.status)) := by
  unfold abortCampaignTask at h
  split at h
  next hqueued =>
    cases h
    exact ⟨hqueued.1, .inl ⟨hqueued.2.1, rfl⟩⟩
  · obtain ⟨hg, rfl⟩ := update_eq_some.mp h
    simp only [Bool.and_eq_true, beq_iff_eq] at hg
    exact ⟨hg.1, .inr ⟨hg.2, rfl⟩⟩

theorem abortRun_moved {actor : String} (h : abortRun clk r actor st = .ok st') :
    ∃ task row row' run run', MovedAt Move st st' task r row row' run run' := by
  unfold abortRun at h
  split at h
  · cases h
  · cases h
  next run task row hrun hlatest =>
    obtain ⟨hrow, hof⟩ := mem_latest hlatest
    simp only at h
    split at h
    · cases h
    next hactive =>
      split at h
      · cases h
      next hopen =>
        split at h
        · cases h
        · split at h
          · cases h
          next row' happly =>
            obtain ⟨htype, hstatus⟩ := abortCampaignTask_cases happly
            obtain ⟨hkept, hboundary, -⟩ : Statement row row' :=
              statement_of_unfenced (show (RowOp.abortCampaignTask _).apply clk row = _ from happly)
                rfl htype
            split at h
            next hqueued =>
              cases h
              refine ⟨task, row, row', run, _, movedAt_both hrow hrun hof hkept rfl rfl ?_⟩
              have hs : row'.status = .cancelled := by
                obtain ⟨-, hs⟩ | ⟨hrunning, -⟩ := hstatus
                · exact hs
                · rw [hrunning] at hqueued
                  cases hqueued
              refine .close (by simpa using hopen) (by rw [hs]; rfl) (fun _ => ?_) hboundary
              simp [hs, Coherent, RunStatus.terminal, Status.terminal]
            next hqueued =>
              cases h
              refine ⟨task, row, row', run, run, movedAt_task hrow hrun hof hkept ?_⟩
              obtain ⟨hq, -⟩ | ⟨hrunning, hs⟩ := hstatus
              · exact absurd hq hqueued
              · refine .note hs (by rw [hboundary]; exact id) fun ht => ?_
                rw [terminal_of_running hrunning] at ht
                cases ht

end

end StopBot.Campaigns
