import StopBot.Worker.Unknown

/-!
# Admission and authority

A claim admits a row; every call of the worker then asks
`_LIVE_OPERATION_AUTHORITY_SQL` whether the claim still stands. The claim takes
a cancelled row whose outcome is to be reconciled, the authority refuses every
cancelled row. Over all runs of the queue: a claimed row is granted its calls
exactly as long as nothing claims or marks a cancelled one.
-/

namespace StopBot.Worker

open Lib Tasks

-- ------------------------------------------------------------
-- The authority query
-- ------------------------------------------------------------

/-- The row of `_LIVE_OPERATION_AUTHORITY_SQL`; instants in whole seconds. -/
structure LiveAuthority where
  taskType : TaskType
  lane : Lane
  requestedBy : String
  payload : Obj
  result : Option Obj
  dbNowEpoch : Int
  leaseExpiresEpoch : Int
  deadlineEpoch : Int
  boundAdAccountId : Option String
  deriving Repr

/-- `FLOOR(EXTRACT(EPOCH FROM …))`. -/
def epoch (t : Int) : Int := t / 1000000

/-- `accountOf` is `config#>>'{account,act_id}'` of the joined `campaign_run`. -/
def boundAdAccountId (accountOf : String → Option String) (row : TaskRow) : Option String :=
  match row.taskType with
  | .metaApiMutation => Obj.text row.payload "ad_account_id"
  | .campaignCreate => (Obj.text row.payload "run_id").bind accountOf
  | _ => none

def liveOperationAuthority (accountOf : String → Option String) (clk : Clock) (f : Fence)
    (row : TaskRow) : Option LiveAuthority :=
  match row.leaseExpiresAt, row.deadlineAt with
  | some lease, some deadline =>
    if row.status = .running ∧ row.fencedBy f = true ∧ clk.wall < lease ∧
        row.cancelRequestedAt = none ∧ clk.wall < deadline then
      some {
        taskType := row.taskType
        lane := row.lane
        requestedBy := row.requestedBy
        payload := row.payload
        result := row.result
        dbNowEpoch := epoch clk.wall
        leaseExpiresEpoch := epoch lease
        deadlineEpoch := epoch deadline
        boundAdAccountId := boundAdAccountId accountOf row }
    else none
  | _, _ => none

variable {accountOf : String → Option String} {clk : Clock} {row row' : TaskRow} {f : Fence}

theorem liveOperationAuthority_isSome :
    (liveOperationAuthority accountOf clk f row).isSome = true ↔
      row.heldBy clk f = true ∧ row.cancelRequestedAt = none ∧
        ∃ deadline, row.deadlineAt = some deadline ∧ clk.wall < deadline := by
  cases hlease : row.leaseExpiresAt with
  | none => simp [liveOperationAuthority, TaskRow.heldBy, TaskRow.leaseLive, hlease]
  | some lease =>
    cases hdeadline : row.deadlineAt with
    | none => simp [liveOperationAuthority, hlease, hdeadline]
    | some deadline =>
      simp only [liveOperationAuthority, hlease, hdeadline, heldBy_iff, TaskRow.leaseLive]
      split
      · rename_i hall
        simp [hall]
      · rename_i hnot
        simp only [Option.isSome_none, Bool.false_eq_true, decide_eq_true_eq, Option.some.injEq,
          exists_eq_left', false_iff]
        rintro ⟨⟨hrun, hfence, hlive⟩, hcancel, hbefore⟩
        exact hnot ⟨hrun, hfence, hlive, hcancel, hbefore⟩

theorem authorized_eq : authorized clk f row =
    (liveOperationAuthority accountOf clk f row).isSome := by
  rw [Bool.eq_iff_iff, liveOperationAuthority_isSome]
  simp [authorized, Option.any_eq_true, and_assoc]

-- ------------------------------------------------------------
-- What a claim grants
-- ------------------------------------------------------------

def marksCancel (op : RowOp) (row : TaskRow) : Bool :=
  row.status == .running &&
    match op with
    | .requestTaskCancel _ => true
    | .cancelUnstartedAutoPause fbAdId =>
      isAutoPauseOf fbAdId row && row.externalStartedAt.isSome
    | .abortCampaignTask _ => row.taskType == .campaignCreate
    | _ => false

structure Granted (row : TaskRow) : Prop where
  owner : row.leaseOwner.isSome = true
  lease : row.leaseExpiresAt.isSome = true
  deadline : row.deadlineAt.isSome = true

theorem RowOp.keepsGrant {op : RowOp} (h : op.apply clk row = some row')
    (hrun : row'.status = .running) :
    row'.deadlineAt = row.deadlineAt ∧
      (row'.leaseExpiresAt = row.leaseExpiresAt ∨
        row'.leaseExpiresAt.isSome = true ∧ row.leaseLive clk.wall = true) ∧
      (row'.cancelRequestedAt = row.cancelRequestedAt ∨ marksCancel op row = true) := by
  have hwas : row.status = .running := (RowOp.effect h).running hrun
  cases op <;> simp only [RowOp.apply] at h
  case markFailedWithCompensation =>
    obtain ⟨failed, hfailed, rfl⟩ := Option.map_eq_some_iff.mp h
    obtain ⟨-, rfl⟩ := update_eq_some.mp hfailed
    cases hrun
  case requeueForRetry =>
    simp only [Tasks.requeueForRetry, Tasks.markFailed] at h
    split at h <;> obtain ⟨-, rfl⟩ := update_eq_some.mp h <;> cases hrun
  case requeueUnknownForReconciliation =>
    simp only [Tasks.requeueUnknownForReconciliation, Tasks.markFailed] at h
    split at h <;> obtain ⟨-, rfl⟩ := update_eq_some.mp h <;> cases hrun
  case cancelUnstartedAutoPause =>
    unfold Tasks.cancelUnstartedAutoPause at h
    split at h
    · cases h
      cases hrun
    · obtain ⟨hg, rfl⟩ := update_eq_some.mp h
      exact ⟨rfl, .inl rfl, .inr (by simp_all [marksCancel])⟩
  case abortCampaignTask =>
    unfold Tasks.abortCampaignTask at h
    split at h
    · cases h
      cases hrun
    · obtain ⟨hg, rfl⟩ := update_eq_some.mp h
      exact ⟨rfl, .inl rfl, .inr (by simp_all [marksCancel])⟩
  case requestTaskCancel =>
    obtain ⟨hg, rfl⟩ := update_eq_some.mp h
    exact ⟨rfl, .inl rfl, .inr (by simp [marksCancel, hwas])⟩
  case resolveStatusReconciliationNotApplied =>
    obtain ⟨-, rfl⟩ := update_eq_some.mp h
    refine ⟨rfl, .inl ?_, .inl rfl⟩
    dsimp only at hrun ⊢
    split at hrun
    · cases hrun
    · split at hrun
      · cases hrun
      · rename_i hcancel hbudget
        simp [hcancel, hbudget]
  case requeueProvenNotCommitted =>
    obtain ⟨-, rfl⟩ := update_eq_some.mp h
    grind
  case releaseAfterBrowserReadinessRejection =>
    obtain ⟨-, rfl⟩ := update_eq_some.mp h
    grind
  case reconcileStuckRunning =>
    obtain ⟨-, rfl⟩ := update_eq_some.mp h
    grind
  case extendScheduledScan | promoteObserverScan | releaseScanDependencies =>
    -- only queued scans are touched
    have hg := (update_eq_some.mp h).1
    simp [hwas, Status.queued] at hg
  all_goals
    obtain ⟨hg, rfl⟩ := update_eq_some.mp h
    first
      | exact ⟨rfl, .inl rfl, .inl rfl⟩
      | exact ⟨rfl, .inr ⟨rfl, by grind⟩, .inl rfl⟩
      | cases hrun

theorem Granted.rowStep (hg : row.status = .running → Granted row) (h : RowStep clk row row')
    (hrun : row'.status = .running) : Granted row' := by
  cases h with
  | stay => exact hg hrun
  | claim h =>
    cases h with
    | scheduler c h => exact ⟨rfl, rfl, rfl⟩
    | tracker worker leaseSeconds h => exact ⟨rfl, rfl, by simp [trackerClaimRow]⟩
  | op op h =>
    have heffect := RowOp.effect h
    obtain ⟨howner, hlease, hdeadline⟩ := hg (heffect.running hrun)
    obtain ⟨hd, hl, -⟩ := RowOp.keepsGrant h hrun
    refine ⟨?_, ?_, hd ▸ hdeadline⟩
    · rcases heffect.moves with hann | hclose | hreq
      · rw [hann.leaseOwner, howner]
      · have hterminal := hclose.terminal
        rw [hrun] at hterminal
        cases hterminal
      · have hstatus := hreq.status
        rw [hrun] at hstatus
        cases hstatus
    · rcases hl with hl | ⟨hl, -⟩
      · rw [hl, hlease]
      · exact hl

theorem run_granted {es : List (Clock × QueueOp)}
    (hpending : ∀ e ∈ es, ∀ task, e.2 = .create task → task.status = .pending) {id : Nat}
    (h : (run Tasks.step Table.empty es).rows id = some row) (hrun : row.status = .running) :
    Granted row := by
  refine run_rows (P := fun _ row => row.status = .running → Granted row)
    (C := fun _ e => ∀ task, e.2 = .create task → task.status = .pending) ?_ ?_
      (fun _ _ h => by cases h)
    (allSteps_of_forall (fun e he _ => hpending e he) _) id row h hrun
  · intro q clk task hc hrun
    rw [show (task.row clk).status = task.status from rfl, hc task rfl] at hrun
    cases hrun
  · exact fun _ _ _ _ _ _ _ hg _ hstep => Granted.rowStep hg hstep

-- ------------------------------------------------------------
-- Runs of the queue
-- ------------------------------------------------------------

/-- Every claimed mutation is granted its calls while its lease and its deadline last. -/
def Authorizable (q : Queue) : Prop :=
  ∀ id row, q.rows id = some row → row.taskType = .metaApiMutation → row.status = .running →
    ∀ accountOf clk, row.leaseLive clk.wall = true →
      (∀ deadline, row.deadlineAt = some deadline → clk.wall < deadline) →
      (liveOperationAuthority accountOf clk ⟨row.leaseOwner, some row.leaseToken⟩ row).isSome = true

/-- The operation claims a cancelled mutation, or records a cancellation on a
claimed one. -/
def cancelsClaimed (q : Queue) (e : Clock × QueueOp) : Bool :=
  q.entries.any fun entry => entry.2.taskType == .metaApiMutation &&
    ((claimOf q e).any (fun claim => claim.1 == entry.1 && entry.2.cancelRequestedAt.isSome) ||
      (opOn e.2 entry.1).any fun op => marksCancel op entry.2)

theorem cancelsClaimed_iff {q : Queue} {e : Clock × QueueOp} :
    cancelsClaimed q e = true ↔ ∃ id row, q.rows id = some row ∧ row.taskType = .metaApiMutation ∧
      ((∃ worker, claimOf q e = some (id, worker) ∧ row.cancelRequestedAt.isSome = true) ∨
        ∃ op, opOn e.2 id = some op ∧ marksCancel op row = true) := by
  simp only [cancelsClaimed, List.any_eq_true, Prod.exists, Table.mem_entries, Bool.and_eq_true,
    Bool.or_eq_true, Option.any_eq_true, beq_iff_eq]
  constructor
  · rintro ⟨id, row, hrow, htype, ⟨_, worker, hclaim, rfl, hcancel⟩ | hop⟩
    · exact ⟨_, row, hrow, htype, .inl ⟨worker, hclaim, hcancel⟩⟩
    · exact ⟨id, row, hrow, htype, .inr hop⟩
  · rintro ⟨id, row, hrow, htype, ⟨worker, hclaim, hcancel⟩ | hop⟩
    · exact ⟨id, row, hrow, htype, .inl ⟨id, worker, hclaim, rfl, hcancel⟩⟩
    · exact ⟨id, row, hrow, htype, .inr hop⟩

def Uncancelled (row : TaskRow) : Prop :=
  row.taskType = .metaApiMutation → row.status = .running → row.cancelRequestedAt = none

theorem run_uncancelled {es : List (Clock × QueueOp)}
    (hsafe : AllSteps Tasks.step (fun q e => cancelsClaimed q e = false) Table.empty es) {id : Nat}
    (h : (run Tasks.step Table.empty es).rows id = some row) : Uncancelled row := by
  refine run_rows (P := fun _ row => Uncancelled row)
    (C := fun q e => cancelsClaimed q e = false) ?_ ?_ (fun _ _ h => by cases h) hsafe id row h
  · intro q clk task _ _ _
    rfl
  · intro q e id row row' hrow hsafe hu hrow' _ htype hrun
    rw [Bool.eq_false_iff, Ne, cancelsClaimed_iff] at hsafe
    obtain ⟨row'', hrow'', ⟨worker, hclaim, hclaims⟩ | ⟨-, rfl | ⟨op, hon, hop⟩⟩⟩ :=
      step_claimOf e hrow
    all_goals rw [hrow'] at hrow''; cases hrow''
    · have htype' : row.taskType = .metaApiMutation := hclaims.kept.1 ▸ htype
      have hcancel : row'.cancelRequestedAt = row.cancelRequestedAt := by cases hclaims <;> rfl
      rw [hcancel, ← Option.not_isSome_iff_eq_none]
      exact fun hsome => hsafe ⟨id, row, hrow, htype', .inl ⟨worker, hclaim, hsome⟩⟩
    · exact hu htype hrun
    · have heffect := RowOp.effect hop
      have htype' : row.taskType = .metaApiMutation := heffect.kept.taskType ▸ htype
      obtain ⟨-, -, hcancel | hmarks⟩ := RowOp.keepsGrant hop hrun
      · rw [hcancel]
        exact hu htype' (heffect.running hrun)
      · exact absurd ⟨id, row, hrow, htype', .inr ⟨op, hon, hmarks⟩⟩ hsafe

theorem marksCancel_apply {op : RowOp} (htype : row.taskType = .metaApiMutation)
    (h : marksCancel op row = true) :
    ((op.apply clk row).getD row).status = .running ∧
      ((op.apply clk row).getD row).taskType = .metaApiMutation ∧
      ((op.apply clk row).getD row).cancelRequestedAt.isSome = true := by
  simp only [marksCancel, Bool.and_eq_true, beq_iff_eq] at h
  obtain ⟨hrun, h⟩ := h
  cases op with
  | requestTaskCancel reason =>
    simp [RowOp.apply, requestTaskCancel, update, hrun, Status.terminal, Status.queued, htype]
  | cancelUnstartedAutoPause fbAdId =>
    obtain ⟨hauto, hstarted⟩ := Bool.and_eq_true_iff.mp h
    have hnone : row.externalStartedAt.isNone = false := by simpa using hstarted
    cases hcancel : row.cancelRequestedAt with
    | none =>
      simp [RowOp.apply, cancelUnstartedAutoPause, update, hauto, hrun, Status.terminal, hnone,
        hstarted, hcancel, htype]
    | some t =>
      simp [RowOp.apply, cancelUnstartedAutoPause, update, hauto, hrun, Status.terminal, hnone,
        hcancel, htype]
  | abortCampaignTask reason => simp [htype] at h
  | _ => simp at h

theorem step_marked {q : Queue} {e : Clock × QueueOp} {id : Nat} {op : RowOp}
    (hrow : q.rows id = some row) (hon : opOn e.2 id = some op)
    (hmarks : marksCancel op row = true) :
    (Tasks.step q e).rows id = some ((op.apply e.1 row).getD row) := by
  obtain ⟨clk, e⟩ := e
  cases e with
  | create task => cases hon
  | claimEvent worker leaseSeconds locked => cases hon
  | claim c gateOpen locked =>
    cases hon
    simp [marksCancel] at hmarks
  | onRow i op' =>
    simp only [opOn] at hon
    split at hon
    · cases hon
      rename_i hid
      subst hid
      simp [Tasks.step, hrow]
    · cases hon
  | onAll op' =>
    cases hon
    simp [Tasks.step, hrow]

theorem cancelsClaimed_leaves {q : Queue} {e : Clock × QueueOp} (h : cancelsClaimed q e = true) :
    ∃ id row', (Tasks.step q e).rows id = some row' ∧ row'.taskType = .metaApiMutation ∧
      row'.status = .running ∧ row'.cancelRequestedAt.isSome = true := by
  obtain ⟨id, row, hrow, htype, ⟨worker, hclaim, hcancel⟩ | ⟨op, hon, hmarks⟩⟩ :=
    cancelsClaimed_iff.mp h
  · obtain ⟨row', hrow', ⟨worker', -, hclaims⟩ | ⟨hnot, -⟩⟩ := step_claimOf e hrow
    · have hkeep : row'.cancelRequestedAt = row.cancelRequestedAt := by cases hclaims <;> rfl
      exact ⟨id, row', hrow', hclaims.kept.1.trans htype, hclaims.spec.1, hkeep ▸ hcancel⟩
    · exact absurd hclaim (hnot worker)
  · have hrow' := step_marked hrow hon hmarks
    obtain ⟨hrun, htype', hcancel⟩ := marksCancel_apply htype hmarks
    exact ⟨id, _, hrow', htype', hrun, hcancel⟩

theorem Granted.live (h : Granted row) :
    ∃ clk : Clock, row.leaseLive clk.wall = true ∧
      ∀ deadline, row.deadlineAt = some deadline → clk.wall < deadline := by
  obtain ⟨lease, hlease⟩ := Option.isSome_iff_exists.mp h.lease
  obtain ⟨deadline, hdeadline⟩ := Option.isSome_iff_exists.mp h.deadline
  refine ⟨⟨0, min lease deadline - 1, 0⟩, ?_, ?_⟩
  · simp only [TaskRow.leaseLive, hlease, decide_eq_true_eq]
    omega
  · intro d hd
    rw [hdeadline] at hd
    cases hd
    dsimp only
    omega

theorem Granted.authority (h : Granted row) (hrun : row.status = .running)
    (hlive : row.leaseLive clk.wall = true)
    (hdeadline : ∀ deadline, row.deadlineAt = some deadline → clk.wall < deadline) :
    (liveOperationAuthority accountOf clk ⟨row.leaseOwner, some row.leaseToken⟩ row).isSome = true ↔
      row.cancelRequestedAt = none := by
  obtain ⟨owner, howner⟩ := Option.isSome_iff_exists.mp h.owner
  obtain ⟨deadline, hd⟩ := Option.isSome_iff_exists.mp h.deadline
  have hheld : row.heldBy clk ⟨row.leaseOwner, some row.leaseToken⟩ = true :=
    heldBy_iff.mpr ⟨hrun, fencedBy_iff.mpr ⟨owner, by rw [howner], howner⟩, hlive⟩
  rw [liveOperationAuthority_isSome]
  constructor
  · exact fun h => h.2.1
  · exact fun hcancel => ⟨hheld, hcancel, deadline, hd, hdeadline deadline hd⟩

theorem authorizable_iff {es : List (Clock × QueueOp)}
    (hpending : ∀ e ∈ es, ∀ task, e.2 = .create task → task.status = .pending) :
    (∀ n, Authorizable (run Tasks.step Table.empty (es.take n))) ↔
      AllSteps Tasks.step (fun q e => cancelsClaimed q e = false) Table.empty es := by
  have htake : ∀ n, ∀ e ∈ es.take n, ∀ task, e.2 = .create task → task.status = .pending :=
    fun n e he => hpending e (List.mem_of_mem_take he)
  constructor
  · intro h
    refine allSteps_of_states (P := fun q => Authorizable q ∧
      ∀ id row, q.rows id = some row → row.status = .running → Granted row) ?_
      fun n => ⟨h n, fun id row hrow => run_granted (htake n) hrow⟩
    rintro q e ⟨hauth, hgranted⟩
    rw [Bool.eq_false_iff]
    intro hcancels
    obtain ⟨id, row, hrow, htype, hrun, hcancel⟩ := cancelsClaimed_leaves hcancels
    obtain ⟨clk, hlive, hdeadline⟩ := (hgranted id row hrow hrun).live
    have hnone := ((hgranted id row hrow hrun).authority hrun hlive hdeadline).mp
      (hauth id row hrow htype hrun (fun _ => none) clk hlive hdeadline)
    rw [hnone] at hcancel
    cases hcancel
  · intro hsafe n id row hrow htype hrun accountOf clk hlive hdeadline
    exact ((run_granted (htake n) hrow hrun).authority hrun hlive hdeadline).mpr
      (run_uncancelled (hsafe.take n) hrow htype hrun)

-- ------------------------------------------------------------
-- The reconciliation read
-- ------------------------------------------------------------

def Owned (s : Sys) : Prop :=
  ∀ token session, s.sessions token = some session → current session s.row = true →
    session.task.leaseOwner = s.row.leaseOwner

theorem current_before {session : Session} (h : RowStep clk row row')
    (htoken : session.task.leaseToken ≤ row.leaseToken) (hcur : current session row' = true) :
    current session row = true ∧ row'.leaseOwner = row.leaseOwner := by
  obtain ⟨hrun, hsame⟩ := current_iff.mp hcur
  cases h with
  | stay => exact ⟨hcur, rfl⟩
  | claim h =>
    have hnext := h.spec.2.2.1
    omega
  | op op h =>
    have heffect := RowOp.effect h
    refine ⟨current_iff.mpr ⟨heffect.running hrun, heffect.kept.leaseToken ▸ hsame⟩, ?_⟩
    rcases heffect.moves with hann | hclose | hreq
    · exact hann.leaseOwner
    · have hterminal := hclose.terminal
      rw [hrun] at hterminal
      cases hterminal
    · have hstatus := hreq.status
      rw [hrun] at hstatus
      cases hstatus

theorem Owned.step {s : Sys} (ho : Owned s) (hinv : Inv s) (e : Clock × Label) :
    Owned (s.step e) := by
  -- a session that was there before keeps what it was claimed under
  have hold : ∀ token session session', s.sessions token = some session →
      session'.fence = session.fence → current session' (s.step e).row = true →
      session'.task.leaseOwner = (s.step e).row.leaseOwner := by
    intro token session session' hs hfence hcur
    simp only [Session.fence, Fence.mk.injEq, Option.some.injEq] at hfence
    obtain ⟨howner, htoken⟩ := hfence
    obtain ⟨hown, hle⟩ := hinv.tokens token session hs
    obtain ⟨hbefore, hkeep⟩ := current_before (step_rowStep s e) (by omega) hcur
    have hcur' : current session s.row = true := by
      rw [current_iff] at hbefore ⊢
      exact ⟨hbefore.1, by omega⟩
    rw [howner, hkeep]
    exact ho token session hs hcur'
  intro token session' hs hcur
  obtain ⟨clk, label⟩ := e
  cases label with
  | claim c generation =>
    by_cases hclaim : claimable clk c.taskType c.lanes s.row = true
    · simp only [Sys.step, hclaim, if_true, Sys.set] at hs
      split at hs
      · cases hs
        simp only [Sys.step, hclaim, if_true]
        rfl
      · exact hold token session' session' hs rfl hcur
    · simp only [Sys.step, hclaim] at hs
      exact hold token session' session' hs rfl hcur
  | outside op =>
    refine hold token session' session' ?_ rfl hcur
    simp only [Sys.step] at hs
    split at hs <;> exact hs
  | touch token' leaseSeconds =>
    refine hold token session' session' ?_ rfl hcur
    simp only [Sys.step] at hs
    split at hs <;> exact hs
  | crash token' =>
    simp only [Sys.step, Sys.set] at hs
    split at hs
    · cases hs
    · exact hold token session' session' hs rfl hcur
  | work token' answer =>
    cases hw : s.sessions token' with
    | none =>
      simp only [Sys.step, hw] at hs
      exact hold token session' session' hs rfl hcur
    | some worker =>
      simp only [Sys.step, hw, Sys.set] at hs
      split at hs
      · have hsame : SameWorker worker (advance clk worker answer s.row) :=
          advance_sameWorker (hinv.fenced token' worker hw) answer
        have hsame := hsame session' hs
        exact hold token' worker session' hw hsame.1 hcur
      · exact hold token session' session' hs rfl hcur

theorem run_owned {task : NewTask} (h : AdCommand task) (clk : Clock) (es : List (Clock × Label)) :
    Owned (run Sys.step (Sys.init clk task) es) := by
  refine (run_preserves (I := fun s => Inv s ∧ Owned s) ?_ ⟨init_inv h, ?_⟩ es).2
  · exact fun s e hs => ⟨step_inv hs.1 e, hs.2.step hs.1 e⟩
  · intro token session hs
    cases hs

theorem run_row_granted {task : NewTask} (h : AdCommand task) (clk : Clock)
    (es : List (Clock × Label))
    (hrun : (run Sys.step (Sys.init clk task) es).row.status = .running) :
    Granted (run Sys.step (Sys.init clk task) es).row := by
  refine run_preserves (I := fun s : Sys => s.row.status = .running → Granted s.row)
    (fun s e hg => Granted.rowStep hg (step_rowStep s e)) ?_ es hrun
  intro hrun
  rw [show (Sys.init clk task).row.status = task.status from rfl, h.status] at hrun
  cases hrun

theorem read_sent {s : Sys} {token : Nat} {session : Session} (hs : s.sessions token = some session)
    (hpc : session.pc = .reconcile) :
    ((s.step (clk, .work token .send)).sessions token).map Session.pc =
      some (if authorized clk session.fence s.row then .observing
        else session.routeRead preDispatchRejected) := by
  simp only [Sys.step, hs, advance, hpc, atReconcile, Sys.set, if_true]
  split <;> rfl

/-- In every state of a run of the queue each claimed mutation is granted its
calls, exactly when no operation of the run claims a cancelled mutation or
records a cancellation on a claimed one. A worker that stands at its
reconciliation read, within its lease and deadline, gets to read the ad exactly
when the row carries no cancellation; otherwise it requeues the unknown
outcome. -/
theorem claimed_call_authorized_iff (es : List (Clock × QueueOp))
    (hpending : ∀ e ∈ es, ∀ task, e.2 = .create task → task.status = .pending)
    (start : Clock) (task : NewTask) (hcommand : AdCommand task) (labels : List (Clock × Label)) :
    ((∀ n, Authorizable (run Tasks.step Table.empty (es.take n))) ↔
      AllSteps Tasks.step (fun q e => cancelsClaimed q e = false) Table.empty es) ∧
    ∀ s, s = run Sys.step (Sys.init start task) labels → ∀ token session,
      s.sessions token = some session → session.pc = .reconcile → current session s.row = true →
      ∀ clk, s.row.leaseLive clk.wall = true →
        (∀ deadline, s.row.deadlineAt = some deadline → clk.wall < deadline) →
        ((s.step (clk, .work token .send)).sessions token).map Session.pc =
          some (if s.row.cancelRequestedAt = none then .observing
            else .last (session.requeueUnknown
              ("status reconciliation unavailable: " ++ preDispatchRejected.repr))
              .reconciliation) := by
  refine ⟨authorizable_iff hpending, ?_⟩
  rintro s rfl token session hs hpc hcur clk hlive hdeadline
  obtain ⟨hrun, htoken⟩ := current_iff.mp hcur
  have hgranted := run_row_granted hcommand start labels hrun
  have hfence : session.fence = ⟨(run Sys.step (Sys.init start task) labels).row.leaseOwner,
      some (run Sys.step (Sys.init start task) labels).row.leaseToken⟩ := by
    rw [Session.fence, run_owned hcommand start labels token session hs hcur, htoken]
  rw [read_sent hs hpc, hfence, @authorized_eq fun _ => none]
  by_cases hcancel : (run Sys.step (Sys.init start task) labels).row.cancelRequestedAt = none
  · rw [if_pos hcancel, if_pos ((hgranted.authority hrun hlive hdeadline).mpr hcancel)]
  · rw [if_neg hcancel, if_neg fun h => hcancel ((hgranted.authority hrun hlive hdeadline).mp h)]
    rfl

-- An uncancelled pause whose response was lost: the second claim reads the ad.

def pauseRun : List (Clock × QueueOp) :=
  [(tick 0, .create autoPause), (tick 1, .claim moneyWorker true []),
    (tick 2, .onRow 0 (.markExternalCallStarted ⟨some 1, some 1⟩ "238")),
    (tick 3, .onRow 0 (.requeueUnknownForReconciliation ⟨some 1, some 1⟩ "lost" 0 15 .money false)),
    (tick 5, .claim moneyWorker true [])]

theorem claimed_call_authorized_iff_pauseRun :
    Authorizable (run Tasks.step Table.empty pauseRun) ∧
    ((Sys.step (run Sys.step (Sys.init (tick 0) autoPause) ambiguousRun)
      (tick 9, .work 2 .send)).sessions 2).map Session.pc = some .observing := by
  have hsafe : AllSteps Tasks.step (fun q e => cancelsClaimed q e = false) Table.empty
      pauseRun := by
    decide +kernel
  have hclaimed : ((run Sys.step (Sys.init (tick 0) autoPause) ambiguousRun).sessions 2).isSome =
      true := by
    decide +kernel
  obtain ⟨session, hs⟩ := Option.isSome_iff_exists.mp hclaimed
  have hat : ((run Sys.step (Sys.init (tick 0) autoPause) ambiguousRun).sessions 2).all
      (fun session =>
      current session (run Sys.step (Sys.init (tick 0) autoPause) ambiguousRun).row &&
        match session.pc with
        | .reconcile => true
        | _ => false) = true := by
    decide +kernel
  rw [hs, Option.all_some, Bool.and_eq_true_iff] at hat
  have hpc : session.pc = .reconcile := by
    have hmatch := hat.2
    split at hmatch
    · assumption
    · cases hmatch
  have hdeadline : (run Sys.step (Sys.init (tick 0) autoPause) ambiguousRun).row.deadlineAt.all
      (fun deadline => decide ((tick 9).wall < deadline)) = true := by
    decide +kernel
  obtain ⟨hqueue, hworker⟩ := claimed_call_authorized_iff pauseRun
    (by simp [pauseRun, autoPause]) (tick 0) autoPause autoPause_adCommand ambiguousRun
  refine ⟨hqueue.mpr hsafe pauseRun.length, ?_⟩
  rw [hworker _ rfl 2 session hs hpc hat.1 (tick 9) (by decide +kernel)
    (fun deadline hd => by simpa [hd] using hdeadline), if_pos (by decide +kernel)]

-- The operator cancels while the outcome is unknown. The claim still takes the
-- row to read the ad, and the read is refused: it is requeued as unknown again.

def cancelledPauseRun : List (Clock × QueueOp) :=
  pauseRun.take 4 ++
    ([(tick 4, .onRow 0 (.requestTaskCancel "operator")), (tick 5, .claim moneyWorker true [])] :
      List (Clock × QueueOp))

def refusedReadRun : List (Clock × Label) :=
  ambiguousRun.take 8 ++
    ([(tick 6, .outside (.requestTaskCancel "operator")), (tick 7, .claim moneyWorker (some 1)),
      (tick 8, .work 2 .ok), (tick 9, .work 2 .send), (tick 10, .work 2 .ok)] :
      List (Clock × Label))

theorem cancelled_unknown_refused :
    (∃ row, (run Tasks.step Table.empty cancelledPauseRun).rows 0 = some row ∧
      row.taskType = .metaApiMutation ∧ row.status = .running ∧ row.reconcileRequired = true ∧
      row.leaseLive (tick 6).wall = true ∧ row.deadlineAt.any (fun d => (tick 6).wall < d) = true ∧
      (liveOperationAuthority (fun _ => none) (tick 6) ⟨row.leaseOwner, some row.leaseToken⟩
        row).isNone =
        true) ∧
    ∃ row, (run Sys.step (Sys.init (tick 0) autoPause) refusedReadRun).row = row ∧
      row.status = .retrying ∧ row.outcome = some "UNKNOWN" ∧ row.reconcileRequired = true ∧
      row.cancelRequestedAt.isSome = true := by
  refine ⟨⟨_, rfl, ?_⟩, ⟨_, rfl, ?_⟩⟩ <;> decide +kernel

end StopBot.Worker
