import StopBot.Campaigns.Executor
import StopBot.Tasks.Operations

/-!
# `campaign_run` and the transactions over a run and its task

The rows of `campaign_run`, and every transaction that writes one: the worker's
status and finalizers (`apps/campaign_creator_worker/__init__.py`), the generic
terminalization of `core/tasks/queue.py`, and the abort and the resume of
`core/commands/campaign_runs.py`. The store holds the `campaign_create` rows of
the queue; rows of other types have no run. Replays of a bound command key read
only, so the receipts are left out.
-/

namespace StopBot.Campaigns

open Lib Tasks

inductive RunStatus
  | queued
  | uniquifying
  | uploading
  | creating
  | succeeded
  | failed
  | cancelled
  deriving DecidableEq, Repr

/-- `_TERMINAL_RUN_STATUSES`; the others are the active ones. -/
def RunStatus.terminal : RunStatus → Bool
  | .succeeded | .failed | .cancelled => true
  | .queued | .uniquifying | .uploading | .creating => false

def RunStatus.text : RunStatus → String
  | .queued => "queued"
  | .uniquifying => "uniquifying"
  | .uploading => "uploading"
  | .creating => "creating"
  | .succeeded => "succeeded"
  | .failed => "failed"
  | .cancelled => "cancelled"

structure CampaignRun where
  status : RunStatus
  config : CampaignConfig
  idempotencyKey : String
  createdMetaIds : Obj := []
  progress : Obj := []
  error : Option String := none
  updatedAt : Int
  deriving Repr

/-- `id::text`. -/
def runText (id : Nat) : String := toString id

/-- The tables: the runs, their tasks, the counter of each offer and the
creative ledger with offer and code. -/
structure Store where
  runs : Table CampaignRun
  queue : Queue
  seq : String → Option Nat
  ledger : List (String × String)

namespace Store

def putTask (st : Store) (id : Nat) (row : TaskRow) : Store :=
  { st with queue := st.queue.updateAt id fun _ => some row }

def putRun (st : Store) (id : Nat) (run : CampaignRun) : Store :=
  { st with runs := st.runs.updateAt id fun _ => some run }

def latestTask (st : Store) (run : Nat) : Option (Nat × TaskRow) :=
  (st.queue.entries.filter fun entry =>
    entry.2.taskType == .campaignCreate && ofRun (runText run) entry.2).getLast?

end Store

-- ------------------------------------------------------------
-- Generic terminalization
-- ------------------------------------------------------------

inductive Phase
  | failed
  | cancelled
  | unknown
  deriving DecidableEq, Repr

def campaignRunTerminalReason (phase : Phase) (result : Obj) : String :=
  match phase with
  | .cancelled => "Залив отменён до завершения."
  | .unknown => "Залив прерван, подтверждение Facebook не получено — нужна сверка кабинета."
  | .failed =>
    let reason := payloadText result "reason"
    if reason = "queue_wait_limit_exceeded" then
      "Залив так и не начался: истёк предельный срок ожидания в очереди. " ++
        "В Facebook не уходило ничего — залив можно запустить заново."
    else if reason = "absolute_deadline_exceeded" then
      "Срок задачи истёк, и воркер её так и не начал — залив не выполнялся."
    else "Задача залива завершилась отказом."

/-- `_TERMINALIZE_CAMPAIGN_RUN_SQL`, on the run that the payload names. -/
def terminalizeCampaignRun (clk : Clock) (phase : Phase) (row : TaskRow) (st : Store) : Store :=
  { st with runs := st.runs.update fun id run =>
      if ofRun (runText id) row && !run.status.terminal then
        some { run with
          status := if phase = .cancelled then .cancelled else .failed
          error := some <|
            match run.error with
            | some error =>
              if error = "" then campaignRunTerminalReason phase row.resultObj else error
            | none => campaignRunTerminalReason phase row.resultObj
          updatedAt := clk.now }
      else none }

def phaseOf (row : TaskRow) : Phase :=
  if row.status = .cancelled then .cancelled
  else if Obj.text row.resultObj "outcome" = some "UNKNOWN" ∨
      (Obj.get? row.resultObj "reconcile_required").any Json.isTrue then .unknown
  else .failed

/-- A statement of the queue on one task, with the projection of its terminal
rows in the same transaction. `force` is the phase the caller insists on. -/
def onTask (clk : Clock) (task : Nat) (op : RowOp) (force : Option Phase) (st : Store) :
    Option Store :=
  match st.queue.rows task with
  | none => none
  | some row =>
    (op.apply clk row).map fun row' =>
      if !row.status.terminal && (row'.status == .failed || row'.status == .cancelled) then
        terminalizeCampaignRun clk (force.getD (phaseOf row')) row' (st.putTask task row')
      else st.putTask task row'

-- ------------------------------------------------------------
-- The worker's transactions
-- ------------------------------------------------------------

/-- `set_run_status`: the run is written while the task is held, neither
cancelled nor past its deadline. -/
def setRunStatus (clk : Clock) (f : Fence) (task run : Nat) (status : RunStatus)
    (progress : Option Obj) (expect : Option RunStatus) (st : Store) : Option Store :=
  match st.queue.rows task, st.runs.rows run with
  | some row, some r =>
    if row.heldBy clk f && row.cancelRequestedAt.isNone &&
        (row.deadlineAt.all fun deadline => clk.now < deadline) && ofRun (runText run) row &&
        expect.all (r.status == ·) then
      some (st.putRun run { r with
        status, progress := progress.getD r.progress, updatedAt := clk.now })
    else none
  | _, _ => none

/-- Two statements of one transaction, on a task and on its run: rolled back
unless both match. The run sees the task as it was just written. -/
def onBoth (task run : Nat) (changeTask : TaskRow → Option TaskRow)
    (changeRun : TaskRow → CampaignRun → CampaignRun) (st : Store) : Option Store :=
  match st.queue.rows task, st.runs.rows run with
  | some row, some r =>
    (changeTask row).map fun row' => (st.putTask task row').putRun run (changeRun row' r)
  | _, _ => none

def finalizeSucceeded (clk : Clock) (f : Fence) (task run : Nat) (created : CreatedIds)
    (st : Store) : Option Store :=
  onBoth task run
    (finalizeRunSucceeded clk f (runText run)
      (Obj.merge [("outcome", .str "CONFIRMED"), ("run_id", .str (runText run))] created.toObj))
    (fun _ r => { r with
      status := .succeeded
      createdMetaIds := created.toObj
      progress := Obj.merge [("stage", .str "succeeded")] created.toObj
      error := none
      updatedAt := clk.now }) st

/-- `created` and `progress` are written when they are given. -/
def finalizeFailed (clk : Clock) (f : Fence) (task run : Nat) (error : String)
    (created : Option CreatedIds) (result : Obj) (progress : Option Obj) (st : Store) :
    Option Store :=
  let payload := match created, Obj.get? result "created_ids" with
    | some ids, none => result ++ [("created_ids", .obj ids.toObj)]
    | _, _ => result
  onBoth task run (finalizeRunFailed clk f (runText run) error payload)
    (fun _ r => { r with
      status := .failed
      error := some (clipError error)
      createdMetaIds := (created.map CreatedIds.toObj).getD r.createdMetaIds
      progress := progress.getD r.progress
      updatedAt := clk.now }) st

def finalizeCancelled (clk : Clock) (f : Fence) (task run : Nat) (reason : String) (st : Store) :
    Option Store :=
  onBoth task run
    (finalizeRunCancelled clk f (runText run) reason
      [("outcome", .str "REJECTED"), ("operation", .str "campaign_create"),
        ("run_id", .str (runText run)), ("reason", .str "cancel_requested_before_external_call")])
    (fun _ r => { r with
      status := .cancelled
      error := some (clipError reason)
      progress := [("stage", .str "cancelled"), ("outcome", .str "REJECTED")]
      updatedAt := clk.now }) st

/-- The release of a live-identity rejection, with `reset_run_for_readiness` as
its transactional effect. -/
def releaseRun (clk : Clock) (f : Fence) (generation : Option Int) (error : String) (lane : Lane)
    (task run : Nat) (st : Store) : Option Store :=
  let released := onBoth task run
    (releaseAfterBrowserReadinessRejection clk f generation error none lane)
    (fun row' r =>
      let status : RunStatus := if row'.status = .cancelled then .cancelled else .queued
      { r with
        status
        progress := [("stage", .str status.text), ("reason", .str "browser_readiness_rejected")]
        updatedAt := clk.wall }) st
  released.map fun st' =>
    match st'.queue.rows task with
    | some row' =>
      if row'.status == .failed || row'.status == .cancelled then
        terminalizeCampaignRun clk (phaseOf row') row' st'
      else st'
    | none => st'

-- ------------------------------------------------------------
-- Abort
-- ------------------------------------------------------------

def statusText : Status → String
  | .pending => "pending"
  | .running => "running"
  | .succeeded => "succeeded"
  | .failed => "failed"
  | .retrying => "retrying"
  | .cancelled => "cancelled"

/-- `CampaignRunCommandService.abort`, under the locks of the run and of its
latest task. -/
def abortRun (clk : Clock) (run : Nat) (actor : String) (st : Store) : Except String Store :=
  match st.runs.rows run, st.latestTask run with
  | none, _ => .error "campaign_run_not_found"
  | some _, none => .error "campaign_task_missing"
  | some r, some (task, row) =>
    let reason := PyText.clip 8000 ("operator abort requested by " ++ actor)
    if r.status.terminal then .error ("run_already_" ++ r.status.text)
    else if row.status.terminal then
      .error ("campaign_task_already_" ++ statusText row.status)
    else if row.status.queued && (r.status != .queued || row.externalStartedAt.isSome) then
      .error "run_task_state_inconsistent"
    else
      match abortCampaignTask clk reason row with
      | none => .error "run_task_state_changed"
      | some row' =>
        if row.status.queued then
          .ok ((st.putTask task row').putRun run { r with
            status := .cancelled
            progress := [("stage", .str "cancelled"), ("outcome", .str "REJECTED"),
              ("reason", .str "campaign_run_abort_before_execution"),
              ("checkpoint", .str "pre_external")]
            error := some reason
            updatedAt := clk.wall })
        else .ok (st.putTask task row')

-- ------------------------------------------------------------
-- Resume
-- ------------------------------------------------------------

def resumableReasons : List String :=
  ["absolute_deadline_exceeded_before_external_call", "campaign_run_abort_before_execution",
    "cancel_requested_before_external_call", "creator_dependencies_unavailable",
    "pre_external_attempts_exhausted", "queue_wait_limit_exceeded",
    "run_cancelled_before_external_call"]

mutual
def containsCreatedObject : Json → Bool
  | .null => false
  | .obj fields => fieldsContainCreated fields
  | .arr items => itemsContainCreated items
  | .str s => PyText.strip s != ""
  | .bool b => b
  | .num m _ => m != 0
def fieldsContainCreated : List (String × Json) → Bool
  | [] => false
  | (_, value) :: fields => containsCreatedObject value || fieldsContainCreated fields
def itemsContainCreated : List Json → Bool
  | [] => false
  | item :: items => containsCreatedObject item || itemsContainCreated items
end

/-- `resume_unavailable_reason`; `media` is what the check of the uploaded files
says. -/
def resumeUnavailableReason (run : CampaignRun) (task : Option TaskRow) (media : Option String) :
    Option String :=
  if run.status != .failed && run.status != .cancelled then
    some (if run.status = .succeeded then "run_already_succeeded" else "run_not_terminal")
  else
    match task with
    | none => some "campaign_task_missing"
    | some row =>
      if row.status != .failed && row.status != .cancelled then some "campaign_task_not_terminal"
      else if row.externalStartedAt.isSome then some "external_boundary_crossed"
      else if containsCreatedObject (.obj run.createdMetaIds) then
        some "created_meta_objects_present"
      else if outcomeUpper row != "REJECTED" ||
          (Obj.get? row.resultObj "reconcile_required").any Json.isTrue then
        some "terminal_outcome_not_rejected"
      else if (Obj.get? row.resultObj "created_ids").any containsCreatedObject then
        some "created_meta_objects_present"
      else if !resumableReasons.contains (payloadText row.resultObj "reason") then
        some "checkpoint_reason_not_resumable"
      else media

/-- `int(payload.get("resume_generation") or 0)`; other values raise. -/
def previousGeneration (payload : Obj) : Option Int :=
  match payload.get? "resume_generation" with
  | some (.num m 0) => some m
  | some value => if value.truthy then none else some 0
  | none => some 0

def contextPayload (config : CampaignConfig) : Obj :=
  [("account_id", .str config.account.actNum), ("currency", .str config.account.currency),
    ("currency_exponent", int config.account.currencyExponent),
    ("cabinet_timezone", .str config.account.timezoneName),
    ("account_context_observed_at", .str config.account.accountContextObservedAt)]

def resumeKey (run task : Nat) : String :=
  "campaign:resume:" ++ runText run ++ ":" ++ toString task

def resumeTask (run previous : Nat) (generation : Int) (config : CampaignConfig) (actor : String)
    (chat : Option Int) (correlation : Uuid) : NewTask :=
  { taskType := .campaignCreate
    idempotencyKey := resumeKey run previous
    payload :=
      [("run_id", .str (runText run)), ("resume_of_task_id", int previous),
        ("resume_generation", int generation), ("checkpoint", .str "pre_external")] ++
      contextPayload config
    requestedBy := actor
    createdByChatId := chat
    lane := some .bulk
    correlationId := correlation }

def resumeRun (clk : Clock) (run : Nat) (actor : String) (chat : Option Int) (correlation : Uuid)
    (media : Option String) (st : Store) : Except String Store :=
  match st.runs.rows run with
  | none => .error "campaign_run_not_found"
  | some r =>
    match resumeUnavailableReason r ((st.latestTask run).map Prod.snd) media, st.latestTask run with
    | some reason, _ => .error reason
    | none, none => .error "campaign_task_missing"
    | none, some (previous, row) =>
      match previousGeneration row.payload with
      | none => .error "invalid_resume_generation_checkpoint"
      | some generation =>
        let account := r.config.account
        let task := resumeTask run previous (generation + 1) r.config actor chat correlation
        if account.actNum = "" ∨ account.currency = "" ∨ account.timezoneName = "" ∨
            account.accountContextObservedAt = "" then
          .error "invalid_account_context_checkpoint"
        else if keyTaken st.queue task.idempotencyKey then
          .error "resume_task_idempotency_inconsistent"
        else
          .ok ({ st with queue := st.queue.insert (task.row clk) }.putRun run { r with
            status := .queued
            progress := [("stage", .str "queued"), ("checkpoint", .str "pre_external"),
              ("resumed_from_task_id", int previous), ("resume_generation", int (generation + 1))]
            error := none
            updatedAt := clk.wall })

end StopBot.Campaigns
