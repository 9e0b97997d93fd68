import StopBot.Campaigns.Launches
import StopBot.Lib.Runs
import StopBot.Worker.Process

/-!
# The campaign creator and its system

`process_one_task` of `apps/campaign_creator_worker/main.py` on a claimed
`campaign_create` task, cut at its awaits, with the control of
`core/tasks/irreversible_control.py`. A step is labelled with what the database,
the disk, the browser or the clock does to the worker. The system adds the
launches, the commands of the operator, the reconciler and crashes; the requests
that were let out are logged, for the statements only.
-/

namespace StopBot.Campaigns

open Lib Tasks

-- ------------------------------------------------------------
-- Control
-- ------------------------------------------------------------

/-- How `CreatorTaskControl.check` ends; `external` is what it read of the
boundary. -/
inductive Check
  | lost
  | abort (reason : String) (external : Bool)
  | clear (external : Bool)
  deriving DecidableEq, Repr

def controlReason (clk : Clock) (row : TaskRow) : Option String :=
  if row.cancelRequestedAt.isSome then some "cancel_requested"
  else if row.deadlineAt.any fun deadline => deadline ≤ clk.host then some "deadline_exceeded"
  else none

def check (clk : Clock) (f : Fence) (row : Option TaskRow) : Check :=
  match row with
  | none => .lost
  | some row =>
    if row.heldBy clk f then
      match controlReason clk row with
      | some reason => .abort reason row.externalStartedAt.isSome
      | none => .clear row.externalStartedAt.isSome
    else .lost

/-- How `begin_external` ends: the boundary is written, or the request is not
made. -/
inductive Begin
  | lost
  | abort (reason : String) (external : Bool)
  | crossed (row : TaskRow)

def begin (clk : Clock) (f : Fence) (operation target : String) (row : Option TaskRow) : Begin :=
  match row with
  | none => .lost
  | some row =>
    if row.heldBy clk f then
      match controlReason clk row with
      | some reason => .abort reason row.externalStartedAt.isSome
      | none =>
        match beginExternal clk f operation target row with
        | some row' => .crossed row'
        | none => .lost
    else .lost

-- ------------------------------------------------------------
-- Results
-- ------------------------------------------------------------

def optionalField {α : Type} (key : String) (value : Option α) (toJson : α → Json) : Obj :=
  (value.map fun v => (key, toJson v)).toList

/-- `_campaign_unknown_result`, without the texts for the operator. -/
def unknownResult (task : TaskRow) (runId reason : String) (created : Option CreatedIds)
    (failedStep : Option String) (preDispatch : Option Bool) (reasonCode : Option String) : Obj :=
  [("outcome", .str "UNKNOWN"), ("reconcile_required", .bool true),
    ("manual_review_required", .bool true), ("operation", .str "campaign_create"),
    ("run_id", .str runId), ("reason", .str reason)] ++
  optionalField "created_ids" created (fun ids => .obj ids.toObj) ++
  optionalField "failed_step" failedStep .str ++ optionalField "pre_dispatch" preDispatch .bool ++
  optionalField "pre_dispatch_reason_code" reasonCode .str ++
  [("correlation_id", .str (toString task.correlationId))]

/-- `_campaign_rejected_result`, without the texts for the operator. -/
def rejectedResult (runId reason : String) (reasonCode : Option String) : Obj :=
  [("outcome", .str "REJECTED"), ("operation", .str "campaign_create"), ("run_id", .str runId),
    ("reason", .str reason)] ++
  optionalField "pre_dispatch" (reasonCode.map fun _ => true) .bool ++
  optionalField "pre_dispatch_reason_code" reasonCode .str

def failedProgress (outcome reason : String) (failedStep : Option String) : Obj :=
  [("stage", .str "failed"), ("outcome", .str outcome), ("reason", .str reason)] ++
    optionalField "failed_step" failedStep .str

def partialResult (created : CreatedIds) (failedStep : String) (preDispatch : Option Bool)
    (reasonCode : Option String) : Obj :=
  [("outcome", .str "UNKNOWN"), ("reconcile_required", .bool true),
    ("manual_review_required", .bool true), ("operation", .str "campaign_create"),
    ("partial_fail", .bool true), ("failed_step", .str failedStep),
    ("created_ids", .obj created.toObj)] ++
  optionalField "pre_dispatch" preDispatch .bool ++
  optionalField "pre_dispatch_reason_code" reasonCode .str

-- ------------------------------------------------------------
-- Sessions
-- ------------------------------------------------------------

inductive Tx
  | succeed (created : CreatedIds)
  | fail (error : String) (created : Option CreatedIds) (result : Obj) (progress : Option Obj)
  | cancel (reason : String)
  | markFailed (error : String) (result : Obj)
  | markSucceeded (result : Obj)
  | release (error : String)
  | requeue (error : String)
  deriving Repr

abbrev Program := Calls Await Answer (Except Failure CreatedIds × ExecState)

/-- How far the current await of the executor is: not begun, out in the world,
a progress report that was not applied, a ledger entry after its check. -/
inductive AwaitPhase
  | ready
  | inFlight
  | refused
  | checked
  deriving DecidableEq, Repr

inductive Pc
  | load
  | created
  | control
  | prepare
  | start (program : Program)
  | recheck
  | enter (program : Program)
  | executing (program : Program) (phase : AwaitPhase)
  | persist (payload : Obj) (next : Tx)
  | reset (next : Tx)
  | last (tx : Tx)
  | crashed

/-- A worker on a task: its snapshot of the row, the run that the payload names,
what it remembers of the boundary, and the stage it last reported. -/
structure Session where
  task : TaskRow
  generation : Option Int
  run : Option Nat
  config : Option CampaignConfig := none
  external : Bool := false
  lastStage : String := "uniquifying"
  pc : Pc := .load

/-- An exception of the database driver; it is of none of the classes of the
Graph client, and neither is what it was raised from. -/
structure DatabaseError where
  name : String
  repr : String
  deriving DecidableEq, Repr

def DatabaseError.raised (e : DatabaseError) : Raised :=
  { cls := .other, name := e.name, repr := e.repr }

/-- What happens to the worker at its await. A transaction that fails may have
been applied. -/
inductive Reply
  | go
  | databaseError (applied : Bool) (exc : DatabaseError)
  | unavailable
  | invalid (error : String)
  | resolved
  | answered (answer : Answer)
  | poll (stale : Bool)
  | pollError (exc : DatabaseError)
  | timeout

namespace Session

def fence (s : Session) : Fence := ⟨s.task.leaseOwner, some s.task.leaseToken⟩

def goto (s : Session) (pc : Pc) : Session := { s with pc }

def runId (s : Session) : String := (s.run.map runText).getD ""

def unknown (s : Session) (error reason : String) : Tx :=
  .fail error none (unknownResult s.task s.runId reason none none none none)
    (some (failedProgress "UNKNOWN" reason none))

def rejected (s : Session) (error reason : String) : Tx :=
  .fail error none (rejectedResult s.runId reason none) none

/-- `_finalize_campaign_control_abort`; `created` is given once the executor
runs. -/
def controlAbort (s : Session) (reason : String) (external : Bool)
    (created : Option CreatedIds) : Pc :=
  let failedStep := created.map fun _ => s.lastStage
  if external || s.external then
    let tx := .fail ("campaign creation interrupted after external boundary: " ++ reason) created
      (unknownResult s.task s.runId reason created failedStep none none)
      (some (failedProgress "UNKNOWN" reason none))
    match created with
    | some ids => .persist (partialResult ids (failedStep.getD reason) none none) tx
    | none => .last tx
  else if reason = "cancel_requested" then
    .last (.cancel (s.task.cancelReason.getD "campaign creation cancelled before external call"))
  else
    .last (.fail "absolute task deadline exceeded before first Meta call" none
      (rejectedResult s.runId "absolute_deadline_exceeded_before_external_call" none)
      (some (failedProgress "REJECTED" reason none)))

/-- The `except` clause of the absolute deadline. -/
def timedOut (s : Session) (created : CreatedIds) : Pc :=
  if s.external then
    .persist (partialResult created s.lastStage none none)
      (.fail "campaign creation exceeded absolute deadline after external boundary" (some created)
        (unknownResult s.task s.runId "absolute_deadline_exceeded" (some created)
          (some s.lastStage) none none)
        (some (failedProgress "UNKNOWN" "absolute_deadline_exceeded" (some s.lastStage))))
  else
    .last (s.rejected "absolute task deadline exceeded before first Meta call"
      "absolute_deadline_exceeded_before_external_call")

/-- The other `except` clauses, in their order. -/
def route (s : Session) (failure : Failure) : Pc :=
  match failure with
  | .partialCreate created failedStep preDispatch reasonCode cause =>
    let reason := if created.hasCreated then "partial_confirmed" else "ack_lost_nothing_confirmed"
    let error :=
      if created.hasCreated then
        "partial_fail (step=" ++ failedStep ++ "): проверь Meta вручную: cause=" ++ cause.name
      else
        "ack_lost (step=" ++ failedStep ++ "): ответ Meta потерян после POST кампании: " ++
          "чистить нечего, нужна сверка, повтор запрещён. cause=" ++ cause.name
    .persist (partialResult created failedStep (some preDispatch) reasonCode)
      (.fail error (some created)
        (unknownResult s.task s.runId reason (some created) (some failedStep) (some preDispatch)
          reasonCode)
        (some (failedProgress "UNKNOWN" reason (some failedStep))))
  | .execution .. | .plain _ =>
    if failure.browserReadinessRejection then .last (.release failure.repr)
    else if s.external && !failure.provenPreDispatch then
      .last (s.unknown "ambiguous failure after external boundary" "external_result_ambiguous")
    else
      match failure.unretryableBrowserRejection with
      | some code =>
        .last (.fail
          ("browser rejected the request before send and a retry cannot fix it: " ++ code) none
          (rejectedResult s.runId "browser_rejection_not_retryable" (some code)) none)
      | none =>
        if failure.transient then
          if s.task.maxAttempts ≤ s.task.attemptCount + 1 then
            .last (s.rejected ("transient exhausted before external call: " ++ failure.repr)
              "pre_external_attempts_exhausted")
          else .reset (.requeue failure.repr)
        else
          .last (s.rejected ("permanent before external call: " ++ failure.repr)
            "permanent_pre_external_failure")

end Session

def findRun (st : Store) (row : TaskRow) : Option Nat :=
  (st.runs.entries.find? fun entry => ofRun (runText entry.1) row).map Prod.fst

def hasCreatedMetaIds (created : Obj) : Bool :=
  created.any fun field =>
    match field.2 with
    | .arr items => !items.isEmpty
    | _ => false

/-- A closing transaction; the ones over a run need the run. -/
def Tx.apply (clk : Clock) (task : Nat) (s : Session) (tx : Tx) (st : Store) : Option Store :=
  match tx with
  | .succeed created =>
    s.run.bind fun run => finalizeSucceeded clk s.fence task run created st
  | .fail error created result progress =>
    s.run.bind fun run => finalizeFailed clk s.fence task run error created result progress st
  | .cancel reason => s.run.bind fun run => finalizeCancelled clk s.fence task run reason st
  | .markFailed error result => onTask clk task (.markFailed s.fence error (some result)) none st
  | .markSucceeded result => onTask clk task (.markSucceeded s.fence (some result)) none st
  | .release error =>
    s.run.bind fun run =>
      releaseRun clk s.fence s.generation error s.task.lane task run st
  | .requeue error =>
    onTask clk task
      (.requeueForRetry s.fence error s.task.attemptCount s.task.maxAttempts s.task.lane) none st

-- ------------------------------------------------------------
-- One step of a worker
-- ------------------------------------------------------------

structure Issue where
  run : Nat
  task : Nat
  token : Nat
  request : Request
  proven : Bool := false
  deriving Repr

/-- What a step leaves; `issue` is a request it lets out, `settled` an answer
that proves the last one undispatched. -/
structure Outcome where
  store : Store
  session : Option Session
  issue : Option Request := none
  settled : Bool := false

def Outcome.leave (st : Store) : Outcome := { store := st, session := none }

def Outcome.goto (st : Store) (s : Session) (pc : Pc) : Outcome :=
  { store := st, session := some (s.goto pc) }

/-- The branches before the executor, for the run that was loaded. -/
def loadRun (s : Session) (st : Store) : Pc :=
  if payloadText s.task.payload "run_id" = "" then
    .last (.markFailed "invalid payload: нет run_id"
      [("outcome", .str "REJECTED"), ("reason", .str "missing_run_id")])
  else
    match s.run.bind st.runs.rows with
    | none =>
      .last (.markFailed
        ("campaign_run " ++ payloadText s.task.payload "run_id" ++ " не найден")
        (rejectedResult (payloadText s.task.payload "run_id") "run_not_found" none))
    | some run =>
      match run.status with
      | .succeeded =>
        .last (.markSucceeded [("outcome", .str "CONFIRMED"), ("run_id", .str s.runId)])
      | .failed | .cancelled =>
        .last (.markFailed ("run уже " ++ run.status.text)
          (rejectedResult s.runId ("run_already_" ++ run.status.text) none))
      | .uniquifying | .uploading | .creating =>
        .last (s.unknown "run уже в работе/с созданными объектами"
          "preexisting_in_progress_or_created_objects")
      | .queued => .created

def atLoad (s : Session) (reply : Reply) (st : Store) : Outcome :=
  match reply with
  | .go =>
    .goto st { s with config := (s.run.bind st.runs.rows).map CampaignRun.config } (loadRun s st)
  | .databaseError _ _ => .goto st s .crashed
  | _ => .goto st s .load

def atCreated (s : Session) (reply : Reply) (st : Store) : Outcome :=
  match reply with
  | .go =>
    if ((s.run.bind st.runs.rows).map CampaignRun.createdMetaIds).any hasCreatedMetaIds then
      .goto st s (.last (s.unknown "run уже в работе/с созданными объектами"
        "preexisting_in_progress_or_created_objects"))
    else .goto st s .control
  | .databaseError _ _ => .goto st s .crashed
  | _ => .goto st s .created

def atControl (clk : Clock) (task : Nat) (s : Session) (reply : Reply) (st : Store) : Outcome :=
  match reply with
  | .go =>
    match check clk s.fence (st.queue.rows task) with
    | .lost => .leave st
    | .abort reason external => .goto st s (s.controlAbort reason external none)
    | .clear true =>
      .goto st s (.last (s.unknown "task was claimed with a pre-existing external boundary"
        "preexisting_external_boundary"))
    | .clear false => .goto st s .prepare
  | .databaseError _ _ => .goto st s .crashed
  | _ => .goto st s .control

def atPrepare (utcOffset : String → String → String) (s : Session) (reply : Reply) (st : Store) :
    Outcome :=
  match reply with
  | .unavailable =>
    .goto st s (.last (s.rejected "MetaApiClient/MediaUploader не доступен (Vision?)"
      "creator_dependencies_unavailable"))
  | .invalid error =>
    .goto st s (.last (s.rejected ("invalid config: " ++ error) "invalid_config"))
  | .resolved =>
    match s.config with
    | none => .goto st s (.last (s.rejected "invalid config: " "invalid_config"))
    | some cfg =>
      match buildCampaignSpec utcOffset cfg with
      | .error error =>
        .goto st s (.last (s.rejected ("invalid config: " ++ error) "invalid_config"))
      | .ok specs =>
        .goto st s (.start (executeCampaignSpec cfg specs (resolveConceptsFromConfig cfg) {}))
  | _ => .goto st s .prepare

/-- `queued → uniquifying`, before anything else. -/
def atStart (clk : Clock) (task : Nat) (s : Session) (program : Program) (reply : Reply)
    (st : Store) : Outcome :=
  let moved := s.run.bind fun run =>
    setRunStatus clk s.fence task run .uniquifying (some [("stage", .str "uniquifying")])
      (some .queued) st
  match reply with
  | .go =>
    match moved with
    | some st' => .goto st' s (.enter program)
    | none => .goto st s .recheck
  | .databaseError applied _ => .goto (if applied then moved.getD st else st) s .crashed
  | _ => .goto st s (.start program)

def atRecheck (clk : Clock) (task : Nat) (s : Session) (reply : Reply) (st : Store) : Outcome :=
  match reply with
  | .go =>
    match check clk s.fence (st.queue.rows task) with
    | .lost => .leave st
    | .abort reason external => .goto st s (s.controlAbort reason external none)
    | .clear _ =>
      .goto st s (.last (.markFailed "run отменён до старта (cancel-гонка) — пропуск без создания"
        (rejectedResult s.runId "run_cancelled_before_external_call" none)))
  | .databaseError _ _ => .goto st s .crashed
  | _ => .goto st s .recheck

def atEnter (clk : Clock) (task : Nat) (s : Session) (program : Program) (reply : Reply)
    (st : Store) : Outcome :=
  match reply with
  | .go =>
    match check clk s.fence (st.queue.rows task) with
    | .lost => .leave st
    | .abort reason external => .goto st s (s.controlAbort reason external (some {}))
    | .clear external => .goto st { s with external } (.executing program .ready)
  | .databaseError _ exc => .goto st s (s.route (.plain exc.raised))
  | _ => .goto st s (.enter program)

-- ------------------------------------------------------------
-- The executor's awaits
-- ------------------------------------------------------------

/-- The operation that the boundary is written with; `none` stays on the host. -/
def Request.operation (act : String) : Request → Option String
  | .graph edge _ => some ("Meta POST /" ++ act ++ "/" ++ edge.text)
  | .uploadImage _ => some "MediaUploader.upload_image"
  | .uploadVideo _ => some "MediaUploader.upload_video_from_bytes"
  | .waitVideoReady _ => some "MediaUploader.wait_video_ready"
  | .videoThumbnail _ => some "MediaUploader.get_video_thumbnail_url"
  | .progress _ | .uniquify | .record .. => none

/-- The answer proves that the request did not leave: the transport says so, or
the exception is of the family that does. -/
def Answer.undispatched : Answer → Bool
  | .raised exc notDispatched => notDispatched || exc.cls.preDispatch
  | .done | .object _ | .value _ => false

def Stage.runStatus : Stage → RunStatus
  | .uniquifying => .uniquifying
  | .uploading => .uploading
  | .creating | .queued | .succeeded => .creating

/-- A `CreatorTaskStop` ends the executor and is routed with what is created. -/
def stopped (s : Session) (created : CreatedIds) (outcome : Check) (st : Store) (clear : Outcome) :
    Outcome :=
  match outcome with
  | .lost => .leave st
  | .abort reason external => .goto st s (s.controlAbort reason external (some created))
  | .clear _ => clear

/-- `on_progress`. Whatever the database raises here is dropped by the executor. -/
def atProgress (clk : Clock) (task : Nat) (s : Session) (created : CreatedIds)
    (progress : ProgressState) (next : Answer → Program) (phase : AwaitPhase) (reply : Reply)
    (st : Store) : Outcome :=
  let s := { s with lastStage := progress.stage.text }
  let moved := s.run.bind fun run =>
    setRunStatus clk s.fence task run progress.stage.runStatus (some progress.snapshot) none st
  match phase, reply with
  | .ready, .go =>
    match moved with
    | some st' => .goto st' s (.executing (next .done) .ready)
    | none =>
      .goto st s (.executing (.call ⟨created, .progress progress⟩ next) .refused)
  | .ready, .databaseError applied exc =>
    .goto (if applied then moved.getD st else st) s
      (.executing (next (.raised exc.raised false)) .ready)
  | .refused, .go =>
    stopped s created (check clk s.fence (st.queue.rows task)) st (.leave st)
  | .refused, .databaseError _ exc =>
    .goto st s (.executing (next (.raised exc.raised false)) .ready)
  | _, _ => .goto st s (.executing (.call ⟨created, .progress progress⟩ next) phase)

/-- `_record`: a check, then the entry; its own failures are logged and dropped. -/
def atRecord (clk : Clock) (task : Nat) (s : Session) (created : CreatedIds) (code : String)
    (kind : MediaKind) (creativeId : String) (next : Answer → Program) (phase : AwaitPhase)
    (reply : Reply) (st : Store) : Outcome :=
  let offer := (s.config.map CampaignConfig.offerCode).getD ""
  match phase, reply with
  | .ready, .go =>
    stopped s created (check clk s.fence (st.queue.rows task)) st
      (.goto st s (.executing (.call ⟨created, .record code kind creativeId⟩ next) .checked))
  | .checked, .go =>
    .goto (recordCreative offer code st) s (.executing (next .done) .ready)
  | .checked, .databaseError true _ =>
    .goto (recordCreative offer code st) s (.executing (next .done) .ready)
  | _, .databaseError _ _ => .goto st s (.executing (next .done) .ready)
  | _, _ => .goto st s (.executing (.call ⟨created, .record code kind creativeId⟩ next) phase)

/-- A fenced external call: the boundary first, then the request, then its
answer. -/
def atExternal (clk : Clock) (task : Nat) (s : Session) (await : Await) (operation : String)
    (next : Answer → Program) (phase : AwaitPhase) (reply : Reply) (st : Store) : Outcome :=
  let begun := begin clk s.fence operation s.runId (st.queue.rows task)
  match phase, reply with
  | .ready, .go =>
    match begun with
    | .lost => .leave st
    | .abort reason external => .goto st s (s.controlAbort reason external (some await.created))
    | .crossed row' =>
      { store := st.putTask task row'
        session := some { s with external := true, pc := .executing (.call await next) .inFlight }
        issue := some await.request }
  | .ready, .databaseError applied exc =>
    let st' := match applied, begun with
      | true, .crossed row' => st.putTask task row'
      | _, _ => st
    .goto st' s (.executing (next (.raised exc.raised false)) .ready)
  | .inFlight, .answered answer =>
    { store := st, session := some (s.goto (.executing (next answer) .ready))
      settled := answer.undispatched }
  | _, _ => .goto st s (.executing (.call await next) phase)

def atAwait (clk : Clock) (task : Nat) (s : Session) (await : Await) (next : Answer → Program)
    (phase : AwaitPhase) (reply : Reply) (st : Store) : Outcome :=
  match await.request with
  | .progress progress => atProgress clk task s await.created progress next phase reply st
  | .record code kind creativeId =>
    atRecord clk task s await.created code kind creativeId next phase reply st
  | .uniquify =>
    match reply with
    | .answered answer => .goto st s (.executing (next answer) .ready)
    | _ => .goto st s (.executing (.call await next) phase)
  | .graph .. | .uploadImage _ | .uploadVideo _ | .waitVideoReady _ | .videoThumbnail _ =>
    let act := (s.config.map fun cfg => cfg.account.act).getD ""
    atExternal clk task s await ((await.request.operation act).getD "") next phase reply st

def createdSoFar : Program → CreatedIds
  | .call await _ => await.created
  | .ret (_, s) => s.created
  | .raise _ => {}

/-- The monitor beside the executor. A poll that read the row before a boundary
was committed remembers none. -/
def atPoll (clk : Clock) (task : Nat) (s : Session) (program : Program) (phase : AwaitPhase)
    (stale : Bool) (st : Store) : Outcome :=
  match check clk s.fence (st.queue.rows task) with
  | .lost => .leave st
  | .abort reason external =>
    .goto st s (s.controlAbort reason external (some (createdSoFar program)))
  | .clear external =>
    .goto st { s with external := external && !stale } (.executing program phase)

def atExecuting (clk : Clock) (task : Nat) (s : Session) (program : Program) (phase : AwaitPhase)
    (reply : Reply) (st : Store) : Outcome :=
  match program, reply with
  | .ret (.error failure, _), _ => .goto st s (s.route failure)
  | .raise _, _ => .leave st
  | _, .poll stale => atPoll clk task s program phase stale st
  | _, .pollError exc => .goto st s (s.route (.plain exc.raised))
  | _, .timeout =>
    if s.task.deadlineAt.any fun deadline => deadline ≤ clk.host then
      .goto st s (s.timedOut (createdSoFar program))
    else .goto st s (.executing program phase)
  | .ret (.ok created, _), _ => .goto st s (.last (.succeed created))
  | .call await next, reply => atAwait clk task s await next phase reply st

-- ------------------------------------------------------------
-- Closing
-- ------------------------------------------------------------

def atPersist (clk : Clock) (task : Nat) (s : Session) (payload : Obj) (next : Tx) (reply : Reply)
    (st : Store) : Outcome :=
  let written := onTask clk task (.recordCreatedIds s.fence payload) none st
  match reply with
  | .go => .goto (written.getD st) s (.last next)
  | .databaseError applied _ => .goto (if applied then written.getD st else st) s (.last next)
  | _ => .goto st s (.persist payload next)

def atReset (clk : Clock) (task : Nat) (s : Session) (next : Tx) (reply : Reply) (st : Store) :
    Outcome :=
  let moved := s.run.bind fun run => setRunStatus clk s.fence task run .queued none none st
  match reply with
  | .go =>
    match moved with
    | some st' => .goto st' s (.last next)
    | none => .leave st
  | .databaseError applied _ => .goto (if applied then moved.getD st else st) s .crashed
  | _ => .goto st s (.reset next)

def atLast (clk : Clock) (task : Nat) (s : Session) (tx : Tx) (reply : Reply) (st : Store) :
    Outcome :=
  match reply with
  | .go => .leave ((tx.apply clk task s st).getD st)
  | .databaseError applied _ =>
    .goto (if applied then (tx.apply clk task s st).getD st else st) s .crashed
  | _ => .goto st s (.last tx)

/-- The `except` clause of `task_loop`. -/
def crashTx (s : Session) : Tx :=
  if s.run.isSome then
    s.unknown "unexpected campaign creator worker crash" "unexpected_worker_crash"
  else
    .markFailed "unexpected campaign creator worker crash"
      [("outcome", .str "UNKNOWN"), ("reconcile_required", .bool true),
        ("manual_review_required", .bool true), ("reason", .str "unexpected_worker_crash")]

def atCrashed (clk : Clock) (task : Nat) (s : Session) (reply : Reply) (st : Store) : Outcome :=
  match reply with
  | .go => .leave (((crashTx s).apply clk task s st).getD st)
  | .databaseError applied _ =>
    .leave (if applied then ((crashTx s).apply clk task s st).getD st else st)
  | _ => .goto st s .crashed

def advance (utcOffset : String → String → String) (clk : Clock) (task : Nat) (s : Session)
    (reply : Reply) (st : Store) : Outcome :=
  match s.pc with
  | .load => atLoad s reply st
  | .created => atCreated s reply st
  | .control => atControl clk task s reply st
  | .prepare => atPrepare utcOffset s reply st
  | .start program => atStart clk task s program reply st
  | .recheck => atRecheck clk task s reply st
  | .enter program => atEnter clk task s program reply st
  | .executing program phase => atExecuting clk task s program phase reply st
  | .persist payload next => atPersist clk task s payload next reply st
  | .reset next => atReset clk task s next reply st
  | .last tx => atLast clk task s tx reply st
  | .crashed => atCrashed clk task s reply st

-- ------------------------------------------------------------
-- The system
-- ------------------------------------------------------------

/-- The tables, the launches in progress, the workers by task and token, and the
requests that were let out, latest first. -/
structure Sys where
  store : Store
  launches : Launches
  sessions : Nat → Nat → Option Session
  log : List Issue

/-- `outside` is a statement that carries no lease: expiry, the reconciler, a
cancellation, a review. -/
inductive Label
  | beginLaunch (config : CampaignConfig) (key : String)
  | launch (id : Nat) (correlation : Uuid)
  | rollback (id : Nat)
  | claim (task : Nat) (consumer : Consumer) (generation : Option Int)
  | outside (task : Nat) (op : RowOp)
  | abort (run : Nat) (actor : String)
  | resume (run : Nat) (actor : String) (chat : Option Int) (correlation : Uuid)
      (media : Option String)
  | work (task token : Nat) (reply : Reply)
  | crash (task token : Nat)

def issued (op : RowOp) : Bool :=
  op.fence?.isNone &&
    match op with
    | .abortCampaignTask _ => false
    | _ => true

/-- The stuck sweep insists on an unknown outcome. -/
def forcedPhase : RowOp → Option Phase
  | .failStuckCampaignCreate _ => some .unknown
  | _ => none

def Sys.set (s : Sys) (task token : Nat) (session : Option Session) : Nat → Nat → Option Session :=
  fun t k => if t = task ∧ k = token then session else s.sessions t k

def settle (task token : Nat) : List Issue → List Issue
  | [] => []
  | issue :: rest =>
    if issue.task = task ∧ issue.token = token then { issue with proven := true } :: rest
    else issue :: settle task token rest

def Sys.worked (s : Sys) (task token : Nat) (session : Session) (o : Outcome) : Sys :=
  let log := if o.settled then settle task token s.log else s.log
  { s with
    store := o.store
    sessions := s.set task token o.session
    log := (o.issue.map fun request =>
      { run := session.run.getD 0, task, token, request : Issue }).toList ++ log }

def Sys.step (utcOffset : String → String → String) (s : Sys) (e : Clock × Label) : Sys :=
  let clk := e.1
  match e.2 with
  | .beginLaunch config key =>
    let (store, launches) := beginLaunch config key s.store s.launches
    { s with store, launches }
  | .launch id correlation =>
    let (store, launches) := stepLaunch clk correlation id s.store s.launches
    { s with store, launches }
  | .rollback id =>
    let (store, launches) := rollbackLaunch id s.store s.launches
    { s with store, launches }
  | .claim task c generation =>
    match s.store.queue.rows task with
    | some row =>
      if claimable clk .campaignCreate c.lanes row then
        let row' := claimRow clk c.worker c.leaseSeconds row
        { s with
          store := s.store.putTask task row'
          sessions := s.set task row'.leaseToken (some
            { task := Worker.snapshot row', generation, run := findRun s.store row' }) }
      else s
    | none => s
  | .outside task op =>
    if issued op then { s with store := (onTask clk task op (forcedPhase op) s.store).getD s.store }
    else s
  | .abort run actor =>
    match abortRun clk run actor s.store with
    | .ok store => { s with store }
    | .error _ => s
  | .resume run actor chat correlation media =>
    match resumeRun clk run actor chat correlation media s.store with
    | .ok store => { s with store }
    | .error _ => s
  | .work task token reply =>
    match s.sessions task token with
    | some session =>
      s.worked task token session (advance utcOffset clk task session reply s.store)
    | none => s
  | .crash task token => { s with sessions := s.set task token none }

def Sys.init : Sys :=
  { store := { runs := .empty, queue := .empty, seq := fun _ => none, ledger := [] }
    launches := fun _ => none, sessions := fun _ _ => none, log := [] }

end StopBot.Campaigns
