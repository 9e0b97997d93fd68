import StopBot.Tasks.Operations

/-!
# Publication of observer scans

`core/observer/scan_tasks.py` and the scan retry of the command service. The
scheduler and the operator publish under one advisory lock, after looking for a
scan that is already runnable; `enqueue_observer_scan` itself takes no lock and
looks for nothing, and the stale-snapshot deferral calls it directly.

Each publisher under the lock is two steps, its look and its insert, since
other transactions commit in between; every other transaction is one step.
-/

namespace StopBot.Observer

open Lib Tasks

-- ------------------------------------------------------------
-- Reading the queue
-- ------------------------------------------------------------

/-- `COALESCE(payload->>'dependency_state', '') <> 'waiting'` and the rest of the
active-task check. -/
def runnable (row : TaskRow) : Bool :=
  row.taskType == .observerScan && !row.status.terminal && row.cancelRequestedAt.isNone &&
    Obj.text row.payload "dependency_state" != some "waiting"

/-- `ORDER BY CASE status WHEN 'running' THEN 0 ELSE 1 END, priority DESC, created_at, id`. -/
def scanBefore (a b : Nat × TaskRow) : Bool :=
  let rank (row : TaskRow) : Nat := if row.status = .running then 0 else 1
  if rank a.2 ≠ rank b.2 then rank a.2 < rank b.2
  else if a.2.priority ≠ b.2.priority then b.2.priority < a.2.priority
  else if a.2.createdAt ≠ b.2.createdAt then a.2.createdAt < b.2.createdAt
  else a.1 < b.1

def runnableScans (q : Queue) : List (Nat × TaskRow) :=
  q.entries.filter fun entry => runnable entry.2

-- ------------------------------------------------------------
-- `enqueue_observer_scan`
-- ------------------------------------------------------------

structure ScanRequest where
  requestedBy : String
  reason : String
  idempotencyKey : String
  availableAt : Option Int := none
  dependencyTaskIds : List Int := []
  lane : Lane := .interactive
  priority : Int := 75
  deriving Repr

structure ScanReceipt where
  taskId : Nat
  created : Bool
  deriving DecidableEq, Repr

def barrierParkDays : Int := 36500

/-- `tuple(sorted({…}))`. -/
def sortedIds (ids : List Int) : List Int :=
  (ids.mergeSort fun a b => Decidable.decide (a ≤ b)).eraseDups

def scanPayload (reason : String) (dependencies : List Int) : Obj :=
  [("reason", .str reason)] ++
    if dependencies.isEmpty then []
    else [("dependency_task_ids", .arr (dependencies.map fun id => .num id 0)),
      ("dependency_state", .str "waiting")]

def ScanRequest.validate (r : ScanRequest) : Except String Unit :=
  if PyText.strip r.requestedBy = "" then .error "requested_by must not be empty"
  else if PyText.strip r.reason = "" then .error "reason must not be empty"
  else if r.idempotencyKey = "" ∨ 128 < r.idempotencyKey.length then
    .error "idempotency_key must contain 1..128 characters"
  else if r.lane ≠ .interactive ∧ r.lane ≠ .background then
    .error "observer scan lane must be interactive or background"
  else if (sortedIds r.dependencyTaskIds).any (· ≤ 0) then
    .error "observer scan dependency task ids must be positive"
  else if ¬ (sortedIds r.dependencyTaskIds).isEmpty ∧ r.availableAt.isSome then
    .error "dependency-gated observer scans cannot set available_at"
  else .ok ()

def ScanRequest.task (r : ScanRequest) (clk : Clock) : NewTask :=
  let dependencies := sortedIds r.dependencyTaskIds
  let availableAt :=
    if dependencies.isEmpty then r.availableAt.getD clk.host
    else clk.host + Tasks.seconds (barrierParkDays * 86400)
  { taskType := .observerScan
    idempotencyKey := r.idempotencyKey
    payload := scanPayload (PyText.clip 256 (PyText.strip r.reason)) dependencies
    requestedBy := PyText.clip 64 (PyText.strip r.requestedBy)
    maxAttempts := 1
    lane := some r.lane
    priority := some r.priority
    availableAt := some availableAt
    deadlineAt := some (max clk.host availableAt + Tasks.seconds observerScanDeadlineSeconds) }

def taskIdOf : Json → Option Int
  | .num id 0 => some id
  | _ => none

/-- `tuple(sorted(int(task_id) for task_id in raw))`. -/
def storedDependencies (payload : Obj) : Option (List Int) :=
  match (payload.get? "dependency_task_ids").getD (.arr []) with
  | .arr items =>
    (items.mapM taskIdOf).map fun ids => ids.mergeSort fun a b => Decidable.decide (a ≤ b)
  | _ => none

/-- `_load_existing`: the key resolves to the stored scan if it is the same one. -/
def ScanRequest.loadExisting (r : ScanRequest) (q : Queue) : Except String ScanReceipt :=
  match q.entries.find? fun entry => entry.2.idempotencyKey == r.idempotencyKey with
  | none => .error "observer scan idempotency row disappeared"
  | some (id, row) =>
    if row.taskType ≠ .observerScan then
      .error "observer scan idempotency key is bound to another task type"
    else if Obj.text row.payload "reason" ≠ some (PyText.clip 256 (PyText.strip r.reason)) then
      .error "observer scan idempotency key is bound to another reason"
    else if row.lane ≠ r.lane ∨ row.priority ≠ r.priority then
      .error "observer scan idempotency key is bound to another scheduling class"
    else
      match storedDependencies row.payload with
      | none => .error "observer scan dependency payload is malformed"
      | some stored =>
        if stored ≠ sortedIds r.dependencyTaskIds then
          .error "observer scan idempotency key is bound to other dependencies"
        else .ok { taskId := id, created := false }

def enqueueObserverScan (q : Queue) (clk : Clock) (r : ScanRequest) :
    Except String (Queue × ScanReceipt) := do
  r.validate
  if keyTaken q r.idempotencyKey then
    let receipt ← r.loadExisting q
    return (q, receipt)
  else
    return (q.insert ((r.task clk).row clk), { taskId := q.next, created := true })

-- ------------------------------------------------------------
-- Publishers under the lock
-- ------------------------------------------------------------

/-- Who holds `pg_advisory_xact_lock`: the adaptive scheduler with the key of its
tick, or an operator's retry. -/
inductive Publisher
  | scheduler (idempotencyKey : String)
  | operator (requestedBy reason idempotencyKey : String)
  deriving Repr

def Publisher.request : Publisher → ScanRequest
  | .scheduler key =>
    { requestedBy := "observer_scheduler", reason := "adaptive_schedule", idempotencyKey := key
      lane := .background, priority := 10 }
  | .operator requestedBy reason key =>
    { requestedBy := PyText.strip requestedBy, reason, idempotencyKey := PyText.strip key }

/-- The check of its arguments by `enqueue_scan_retry`. -/
def Publisher.accepts : Publisher → Bool
  | .scheduler _ => true
  | .operator requestedBy _ key =>
    let by' := PyText.strip requestedBy
    let key' := PyText.strip key
    by' != "" && by'.length ≤ 64 && key' != "" && key'.length ≤ 128

def Publisher.scheduled : Publisher → Bool
  | .scheduler _ => true
  | .operator _ _ _ => false

def multipleRunnable : String :=
  "multiple runnable observer scans violate the singleton contract"

def invalidSchedulingClass : String :=
  "outstanding scheduled observer scan has an invalid scheduling class"

def isScheduled (row : TaskRow) : Bool :=
  row.requestedBy == "observer_scheduler" &&
    Obj.text row.payload "reason" == some "adaptive_schedule"

def scheduledClassValid (row : TaskRow) : Bool :=
  (row.lane == .background && row.priority == 10) ||
    (row.lane == .interactive && Decidable.decide (75 ≤ row.priority))

/-- What the look of a publisher comes to; the rows found stay locked, so the
statement on them is part of it. -/
inductive Look
  | clear
  | reuse (receipt : ScanReceipt) (q : Queue)
  | raises (error : String)

def lookScheduled (q : Queue) (clk : Clock) : Look :=
  match Sql.first scanBefore (runnableScans q) with
  | none => .clear
  | some (id, row) =>
    if 1 < (runnableScans q).length then .raises multipleRunnable
    else if isScheduled row && !scheduledClassValid row then .raises invalidSchedulingClass
    else
      .reuse { taskId := id, created := false }
        (if isScheduled row && row.status.queued then
          Tasks.step q (clk, .onRow id .extendScheduledScan)
        else q)

def lookOperator (q : Queue) (clk : Clock) : Look :=
  match Sql.first scanBefore (runnableScans q) with
  | none => .clear
  | some (id, row) =>
    .reuse { taskId := id, created := false }
      (if row.status.queued then Tasks.step q (clk, .onRow id .promoteObserverScan) else q)

def Publisher.look (p : Publisher) (q : Queue) (clk : Clock) : Look :=
  match p with
  | .scheduler _ => lookScheduled q clk
  | .operator _ _ _ => lookOperator q clk

-- ------------------------------------------------------------
-- Dependencies
-- ------------------------------------------------------------

/-- The children of a waiting scan that are stored and still open. A child that
is gone does not hold the barrier. -/
def openChildren (q : Queue) (ids : List Json) : List Json :=
  ids.filter fun id => (taskIdOf id).any fun n =>
    Decidable.decide (0 ≤ n) && (q.rows n.toNat).any fun child => !child.status.terminal

/-- `dependency_task_ids` is a non-empty array without an open child. -/
def dependenciesDone (q : Queue) (row : TaskRow) : Bool :=
  match row.payload.get? "dependency_task_ids" with
  | some (.arr ids) => !ids.isEmpty && (openChildren q ids).isEmpty
  | _ => false

def releaseDependencies (q : Queue) (clk : Clock) : Queue :=
  q.update fun _ row => releaseScanDependencies clk (dependenciesDone q row) row

-- ------------------------------------------------------------
-- The system
-- ------------------------------------------------------------

/-- `cleared` is the publisher that found nothing runnable and has not inserted yet. -/
structure Holder where
  publisher : Publisher
  cleared : Bool
  deriving Repr

/-- The committed queue, the holder of the publication lock, and what looking
under the lock has raised. -/
structure ScanSys where
  queue : Queue
  holder : Option Holder
  raised : List String

def ScanSys.init : ScanSys :=
  { queue := Table.empty, holder := none, raised := [] }

def publishesScan : QueueOp → Bool
  | .create task => task.taskType == .observerScan
  | .onRow _ (.releaseScanDependencies _) | .onAll (.releaseScanDependencies _) => true
  | _ => false

structure Elsewhere where
  op : QueueOp
  foreign : publishesScan op = false

/-- `direct` is a call of `enqueue_observer_scan` without the lock; `defer` is the
deferral of an automatic pause, which makes such a call in its transaction. -/
inductive ScanLabel
  | lock (p : Publisher) (scanningEnabled : Bool)
  | look
  | publish
  | crash
  | direct (r : ScanRequest)
  | defer (taskId : Nat) (f : Fence) (delaySeconds : Int)
  | release
  | queue (op : Elsewhere)

/-- `observer_scan_idempotency_key("auto-stop-refresh", str(task_id))`; `digest` is
the first half of the hexadecimal SHA-256. -/
def autoStopRefresh (digest : String → String) (taskId : Nat) : ScanRequest :=
  { requestedBy := "meta_api_worker", reason := "auto_stop_requires_fresh_meta"
    idempotencyKey := "observer-scan:auto-stop-refresh:" ++ digest (toString taskId) }

def ScanSys.commit (s : ScanSys) (outcome : Except String (Queue × ScanReceipt)) : ScanSys :=
  match outcome with
  | .ok (q, _) => { s with queue := q }
  | .error _ => s

def ScanSys.step (digest : String → String) (s : ScanSys) (e : Clock × ScanLabel) : ScanSys :=
  let clk := e.1
  match e.2 with
  | .lock p scanningEnabled =>
    -- a paused scheduler publishes nothing, and a held lock makes everyone else wait
    if s.holder.isSome || !p.accepts || (p.scheduled && !scanningEnabled) then s
    else { s with holder := some { publisher := p, cleared := false } }
  | .look =>
    match s.holder with
    | some { publisher, cleared := false } =>
      match publisher.look s.queue clk with
      | .clear => { s with holder := some { publisher, cleared := true } }
      | .reuse _ q => { s with queue := q, holder := none }
      | .raises error => { s with holder := none, raised := error :: s.raised }
    | _ => s
  | .publish =>
    match s.holder with
    | some { publisher, cleared := true } =>
      { s with holder := none }.commit (enqueueObserverScan s.queue clk publisher.request)
    | _ => s
  | .crash => { s with holder := none }
  | .direct r => s.commit (enqueueObserverScan s.queue clk r)
  | .defer taskId f delaySeconds =>
    let deferred := Tasks.step s.queue
      (clk, .onRow taskId (.deferAutoStopForFreshSnapshot f delaySeconds))
    if ((s.queue.rows taskId).bind (deferAutoStopForFreshSnapshot clk f delaySeconds)).isSome then
      s.commit (enqueueObserverScan deferred clk (autoStopRefresh digest taskId))
    else s
  | .release => { s with queue := releaseDependencies s.queue clk }
  | .queue op => { s with queue := Tasks.step s.queue (clk, op.op) }

end StopBot.Observer
