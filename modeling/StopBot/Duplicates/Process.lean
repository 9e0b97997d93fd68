import StopBot.Duplicates.Handler
import StopBot.Lib.PyNumber
import StopBot.Lib.Runs
import StopBot.Worker.Process

/-!
# `process_one_task` for a duplicated ad-set structure

The worker of `apps/meta_api_worker/main.py` on a claimed
`duplicate_adset_structure` task, cut at its awaits. A task whose result is a
checkpoint with a requested recovery is recovered, every other one is created;
what the database, the receipts and the Graph calls answer is the label of a
step. The creation is given by what it persists and how it ends, the recovery
by the answers to its calls.
-/

namespace StopBot.Duplicates

open Lib Tasks
open Worker (MetaMutationPayload Raised Readings Scope operatorReason)

def irreversibleMutationKinds : List String := [mutationKind]

def isDuplicateRecovery (result : Option Obj) : Bool :=
  result.any fun checkpoint =>
    (checkpoint.get? "checkpoint_type").bind Json.asStr? == some mutationKind &&
      (checkpoint.get? "recovery_requested").any Json.isTrue

-- ------------------------------------------------------------
-- Sessions
-- ------------------------------------------------------------

/-- Where a worker stands: on the way to a recovery, or to a creation. `last`
is the statement after which it returns. -/
inductive Pc
  | start
  | recoveryPreflight
  | recoveryBoundary
  | recovering
  | gates
  | preflight
  | boundary
  | loading
  | creating
  | last (op : RowOp) (scope : Scope)
  deriving Repr

structure Session where
  task : TaskRow
  generation : Option Int
  pc : Pc
  deriving Repr

/-- What an await is answered with. The creation reports its checkpoints, the
partial failure it ends in, or what it returns; it may be interrupted by the
control of the task. -/
inductive Answer
  | ok
  | read (readings : Readings)
  | receipts (integrityError : Option String)
  | graph (replies : List Reply) (checkedAt : String)
  | loaded
  | progress (phase step checkpointedAt : String) (created : Created)
      (cleanupFailures : Option (List CleanupFailure))
  | partialFailure (created : Created) (step error : String)
      (cleanupFailures : List CleanupFailure)
  | returned (body : Json)
  | interrupted (repr : String)
  | raised (exc : Raised)

def CleanupFailure.toJson (failure : CleanupFailure) : Json :=
  .obj [("id", .str failure.id), ("error", .str failure.error)]

def failuresJson (failures : List CleanupFailure) : Json :=
  .arr (failures.map CleanupFailure.toJson)

def assessMutationResult (result : Json) : Worker.Assessment :=
  match result with
  | .obj fields =>
    match Obj.get? fields "success" with
    | some (.bool acknowledged) =>
      match (Obj.get? fields "modified_ids").getD (.arr []) with
      | .arr items =>
        match Worker.idTexts? items with
        | none => ⟨.invalid, "handler_modified_ids_invalid"⟩
        | some ids =>
          if ¬ ids.Nodup then ⟨.invalid, "handler_modified_ids_not_unique"⟩
          else if acknowledged = false then
            if ids.isEmpty then ⟨.rejected, "handler_explicit_rejection"⟩
            else ⟨.invalid, "handler_rejection_contains_modified_ids"⟩
          else if ids.isEmpty then ⟨.invalid, "irreversible_handler_has_no_modified_ids"⟩
          else ⟨.confirmed, "handler_confirmed"⟩
      | _ => ⟨.invalid, "handler_modified_ids_invalid"⟩
    | _ => ⟨.invalid, "handler_success_not_boolean"⟩
  | _ => ⟨.invalid, "handler_result_not_object"⟩

/-- `int(checkpoint.get("recovery_attempt") or 0)`; none when it raises. -/
def recoveryAttempt (checkpoint : Obj) : Option Int :=
  (((checkpoint.get? "recovery_attempt").getD .null).orElse (.num 0 0)).pyInt?

namespace Session

/-- The same worker, for the statements that every kind issues alike. -/
def base (s : Session) : Worker.Session :=
  { task := s.task, generation := s.generation, pc := .start }

def fence (s : Session) : Fence := s.base.fence

def payload (s : Session) : MetaMutationPayload := s.base.payload

/-- `dict(task.result or {})`. -/
def checkpoint (s : Session) : Obj := s.task.result.getD []

/-- The parse of the payload, and the choice between recovery and creation. An
unknown outcome without a recovery is left to the operator. -/
def begin (s : Session) : Pc :=
  match MetaMutationPayload.fromDict s.task.payload with
  | .error error =>
    .last (s.base.fail ("invalid payload: " ++ error) [("outcome", .str "REJECTED"),
      ("reason", .str "invalid_payload"), ("operator_reason", operatorReason "invalid_payload")])
      .bare
  | .ok _ =>
    if isDuplicateRecovery s.task.result then .recoveryPreflight
    else if Worker.alreadyReconciling s.task.result then
      .last (s.base.fail "ambiguous external result requires manual reconciliation"
        [("outcome", .str "UNKNOWN"), ("reconcile_required", .bool true)]) .bare
    else .gates

/-- The gates before a creation; an activating kind is never requeued for its owner. -/
def gate (s : Session) (r : Readings) : Pc :=
  if ¬ r.scanningEnabled then
    .last (s.base.requeueTask
      "scanning_paused: активирующая mutation отложена до снятия паузы") .bare
  else if ¬ r.ownershipAllowed then
    .last (s.base.fail ("owner_scoping_reject: " ++ r.ownershipReason)
      [("outcome", .str "REJECTED"), ("reason", .str "owner_scoping"),
        ("operator_reason", operatorReason "owner_scoping")]) .bare
  else .preflight

/-- `_cross_external_mutation_boundary`, up to the receipts. -/
def cross (s : Session) (clk : Clock) (row : TaskRow) (scope : Scope) (next : Pc) : Pc :=
  match s.base.preflightTaskControl clk row with
  | some "cancel_requested" =>
    .last (.markCancelled s.fence "cancelled before external call") scope
  | some reason =>
    .last (s.base.fail ("command rejected before external call: " ++ reason)
      [("outcome", .str "REJECTED"), ("reason", .str reason)]) scope
  | none => next

def integrityRejected (s : Session) (error : String) (recovery : Bool) : RowOp :=
  s.base.fail ("duplicate plan integrity rejected: " ++ error) <|
    if recovery then
      Obj.merge s.checkpoint
        [("outcome", .str "UNKNOWN"), ("reconcile_required", .bool true),
          ("manual_review_required", .bool true), ("phase", .str "recovery_checkpoint_invalid"),
          ("recovery_integrity_error", .str error)]
    else [("outcome", .str "REJECTED"), ("reason", .str "duplicate_plan_integrity")]

-- ------------------------------------------------------------
-- Recovery
-- ------------------------------------------------------------

def checkpointInvalid (s : Session) (error : String) : RowOp :=
  s.base.fail ("duplicate recovery checkpoint invalid: " ++ error)
    (Obj.merge s.checkpoint
      [("phase", .str "recovery_checkpoint_invalid"), ("recovery_error", .str error)])

def recoveredResult (s : Session) (created : Created) (attempt : Int)
    (failures : List CleanupFailure) (checkedAt : String) : Obj :=
  Obj.merge s.checkpoint
    [("created_ids", created.toJson), ("recovery_requested", .bool true),
      ("recovery_attempt", .num (attempt + 1) 0), ("cleanup_failures", failuresJson failures),
      ("recovery_checked_at", .str checkedAt)]

def deferRecovery (s : Session) (recovered : Obj) (failures : List CleanupFailure) : RowOp :=
  let checkpoint := Obj.merge recovered [("phase", .str "recovery_retrying")]
  .requeueDuplicateRecovery s.fence checkpoint (createdIdsFromCheckpoint checkpoint).toOption.isSome
    ("duplicate crash recovery PAUSE incomplete: cleanup_failures=" ++
      (failuresJson failures).render)
    60

def recoveryPaused (s : Session) (recovered : Obj) : RowOp :=
  s.base.fail "duplicate_adset_structure crash recovery completed: all checkpointed IDs PAUSED"
    (Obj.merge recovered
      [("phase", .str "recovery_paused"), ("recovered_after_crash", .bool true)])

def pass (lib : Stdlib) (s : Session) (replies : List Reply) :
    Except String (Created × List CleanupFailure) :=
  ((recoverCheckpoint lib s.payload s.checkpoint).run silence replies).1

/-- `_recover_duplicate_task`, once `recover_checkpoint` is over; `none` when
the worker dies on its own bookkeeping. -/
def recovered (lib : Stdlib) (s : Session) (replies : List Reply) (checkedAt : String) :
    Option RowOp :=
  match s.pass lib replies with
  | .error error => some (s.checkpointInvalid error)
  | .ok (created, failures) =>
    (recoveryAttempt s.checkpoint).map fun attempt =>
      let result := s.recoveredResult created attempt failures checkedAt
      if failures.isEmpty then s.recoveryPaused result else s.deferRecovery result failures

-- ------------------------------------------------------------
-- Creation
-- ------------------------------------------------------------

def progressCheckpoint (phase step checkpointedAt : String) (created : Created)
    (cleanupFailures : Option (List CleanupFailure)) : Obj :=
  [("checkpoint_type", .str mutationKind), ("checkpoint_version", .num 2 0),
    ("phase", .str phase), ("step", .str step), ("created_ids", created.toJson),
    ("checkpointed_at", .str checkpointedAt)] ++
    (cleanupFailures.map fun failures => ("cleanup_failures", failuresJson failures)).toList

/-- A `DuplicateAdsetStructurePartialError`: known objects that could not be
paused are recovered, otherwise the task is closed. -/
def partialFailed (s : Session) (created : Created) (step error : String)
    (failures : List CleanupFailure) : RowOp :=
  let failedSteps := Json.arr [.obj [("step", .str step), ("error", .str error)]]
  let text := PyText.clip 2000 ("duplicate_adset_structure_partial_fail: created_ids=" ++
    created.toJson.render ++ " failed=" ++ failedSteps.render ++ " cleanup_failures=" ++
    (failuresJson failures).render)
  let result : Obj :=
    [("outcome", .str "UNKNOWN"), ("reconcile_required", .bool true),
      ("manual_review_required", .bool true), ("checkpoint_type", .str mutationKind),
      ("checkpoint_version", .num 2 0),
      ("phase", .str (if failures.isEmpty then "failed_cleanup" else "recovery_retrying")),
      ("partial_fail", .bool true), ("created_ids", created.toJson), ("failed_steps", failedSteps),
      ("cleanup_failures", failuresJson failures),
      ("recovery_requested", .bool (!failures.isEmpty))]
  if failures.isEmpty then s.base.fail text result
  else
    .requeueDuplicateRecovery s.fence result (createdIdsFromCheckpoint result).toOption.isSome
      text 60

def failIrreversible (s : Session) (exc : Raised) (reason : String) : RowOp :=
  s.base.fail
    ("irreversible_no_retry (" ++ reason ++
      "): проверь Meta вручную — возможен дубль: " ++ exc.repr)
    [("outcome", .str "UNKNOWN"), ("reconcile_required", .bool true),
      ("manual_review_required", .bool true), ("operation", .str s.payload.mutationKind),
      ("target_id", .str s.payload.targetId), ("reason", .str reason),
      ("operator_reason", .str ("Связь с Meta прервалась, но необратимая команда уже была " ++
        "отправлена. Повторный запуск может создать дубль (например, двойной бюджет), операция " ++
        "заморожена. Проверьте результат вручную непосредственно в рекламном кабинете Meta."))]

def failUnknown (s : Session) (error reason : String) : RowOp :=
  s.base.fail error
    [("outcome", .str "UNKNOWN"), ("reconcile_required", .bool true),
      ("manual_review_required", .bool true), ("operation", .str s.payload.mutationKind),
      ("target_id", .str s.payload.targetId), ("reason", .str reason)]

def route (s : Session) (crossed : Bool) (exc : Raised) : RowOp :=
  match exc.cls with
  | .ambiguousResultError =>
    s.failUnknown ("ambiguous irreversible/non-status result: " ++ exc.repr) "ambiguous_result"
  | .permanent _ => s.base.route crossed exc
  | .temporaryError =>
    if crossed then
      s.failUnknown ("ambiguous temporary error after external boundary: " ++ exc.repr)
        "temporary_after_external_boundary"
    else s.failIrreversible exc "temporary"
  | .sessionUnavailableError | .browserReadinessRejectedError => s.base.route crossed exc
  | .valueError => s.failIrreversible exc "value_error_postprocess"
  | .other =>
    if crossed then
      s.failUnknown ("ambiguous unclassified post-call error: " ++ exc.repr)
        "unclassified_after_external_boundary"
    else s.failIrreversible exc "unknown"

def finalize (s : Session) (body : Json) : RowOp :=
  let assessment := assessMutationResult body
  match assessment.state with
  | .invalid =>
    s.base.fail ("mutation handler contract violated: " ++ assessment.reason)
      [("outcome", .str "UNKNOWN"), ("reconcile_required", .bool true),
        ("manual_review_required", .bool true), ("reason", .str "handler_contract_violation"),
        ("contract_error", .str assessment.reason),
        ("operation", .str s.payload.mutationKind), ("target_id", .str s.payload.targetId)]
  | .rejected =>
    s.base.fail (PyText.clip 500
        ("mutation_logical_fail: handler вернул провал без exception result=" ++ body.render))
      (Obj.merge (fieldsOf body) [("outcome", .str "REJECTED"), ("reason", .str assessment.reason)])
  | .confirmed =>
    .markSucceeded s.fence (some (Obj.merge (fieldsOf body) [("outcome", .str "CONFIRMED")]))

end Session

-- ------------------------------------------------------------
-- One step of a worker
-- ------------------------------------------------------------

/-- A pass of `recover_checkpoint` that returned, under the token it ran with. -/
structure Pass where
  token : Nat
  failures : List CleanupFailure
  deriving DecidableEq, Repr

structure Outcome where
  row : TaskRow
  session : Option Session
  pass : Option Pass := none

def Outcome.goto (row : TaskRow) (s : Session) (pc : Pc) : Outcome :=
  { row, session := some { s with pc } }

def Outcome.stay (row : TaskRow) (s : Session) : Outcome :=
  { row, session := some s }

def Outcome.leave (row : TaskRow) : Outcome :=
  { row, session := none }

/-- The database raised; it knows no error of Meta. -/
def databaseRaised (s : Session) (crossed : Bool) (exc : Raised) (row : TaskRow) : Outcome :=
  if exc.cls.database then .goto row s (.last (s.route crossed exc) .bare) else .stay row s

def atStart (s : Session) (answer : Answer) (row : TaskRow) : Outcome :=
  match answer with
  | .ok => .goto row s s.begin
  | _ => .stay row s

-- Around a recovery there is no `except` clause.

def atRecoveryPreflight (clk : Clock) (s : Session) (answer : Answer) (row : TaskRow) : Outcome :=
  match answer with
  | .ok => .goto row s (s.cross clk row .bare .recoveryBoundary)
  | .raised _ => .leave row
  | _ => .stay row s

def atRecoveryBoundary (clk : Clock) (s : Session) (answer : Answer) (row : TaskRow) : Outcome :=
  match answer with
  | .receipts (some error) => .goto row s (.last (s.integrityRejected error true) .bare)
  | .receipts none =>
    match authorizeDuplicateExecutionBoundary clk s.fence true row with
    | some row' => .goto row' s .recovering
    | none => .leave row
  | .raised _ => .leave row
  | _ => .stay row s

def atRecovering (lib : Stdlib) (s : Session) (answer : Answer) (row : TaskRow) : Outcome :=
  match answer with
  | .graph replies checkedAt =>
    { row
      session := (s.recovered lib replies checkedAt).map fun op => { s with pc := .last op .bare }
      pass := (s.pass lib replies).toOption.map fun returned =>
        { token := s.task.leaseToken, failures := returned.2 } }
  | .raised _ => .leave row
  | _ => .stay row s

def atGates (s : Session) (answer : Answer) (row : TaskRow) : Outcome :=
  match answer with
  | .read r => .goto row s (s.gate r)
  | .raised _ => .leave row
  | _ => .stay row s

def atPreflight (clk : Clock) (s : Session) (answer : Answer) (row : TaskRow) : Outcome :=
  match answer with
  | .ok => .goto row s (s.cross clk row .boundary .boundary)
  | .raised exc => databaseRaised s false exc row
  | _ => .stay row s

def atBoundary (clk : Clock) (s : Session) (answer : Answer) (row : TaskRow) : Outcome :=
  match answer with
  | .receipts (some error) => .goto row s (.last (s.integrityRejected error false) .boundary)
  | .receipts none =>
    match authorizeDuplicateExecutionBoundary clk s.fence false row with
    | some row' => .goto row' s .loading
    | none =>
      if row.externalStartedAt.isNone && row.result.isSome then
        .goto row s (.last
          (s.integrityRejected "create task has an unexpected durable checkpoint" false) .boundary)
      else .leave row
  | .raised exc => databaseRaised s false exc row
  | _ => .stay row s

def atLoading (s : Session) (answer : Answer) (row : TaskRow) : Outcome :=
  match answer with
  | .loaded => .goto row s .creating
  | .raised exc => .goto row s (.last (s.route true exc) .bare)
  | .interrupted repr =>
    .goto row s (.last (s.route true { cls := .ambiguousResultError, repr }) .bare)
  | _ => .stay row s

/-- The creation proper: whatever goes wrong comes out as a partial failure. -/
def atCreating (clk : Clock) (s : Session) (answer : Answer) (row : TaskRow) : Outcome :=
  match answer with
  | .progress phase step checkpointedAt created failures =>
    .stay ((checkpointDuplicateAdsetStructure clk s.fence
      (Session.progressCheckpoint phase step checkpointedAt created failures) row).getD row) s
  | .partialFailure created step error failures =>
    .goto row s (.last (s.partialFailed created step error failures) .bare)
  | .returned body => .goto row s (.last (s.finalize body) .call)
  | .interrupted repr =>
    .goto row s (.last (s.route true { cls := .ambiguousResultError, repr }) .bare)
  | _ => .stay row s

def atLast (clk : Clock) (s : Session) (op : RowOp) (scope : Scope) (answer : Answer)
    (row : TaskRow) : Outcome :=
  match answer with
  | .ok => .leave ((op.apply clk row).getD row)
  | .raised exc =>
    match scope with
    | .bare | .reconciliation => .leave row
    | .boundary => databaseRaised s false exc row
    | .call => databaseRaised s true exc row
  | _ => .stay row s

def advance (lib : Stdlib) (clk : Clock) (s : Session) (answer : Answer) (row : TaskRow) :
    Outcome :=
  match s.pc with
  | .start => atStart s answer row
  | .recoveryPreflight => atRecoveryPreflight clk s answer row
  | .recoveryBoundary => atRecoveryBoundary clk s answer row
  | .recovering => atRecovering lib s answer row
  | .gates => atGates s answer row
  | .preflight => atPreflight clk s answer row
  | .boundary => atBoundary clk s answer row
  | .loading => atLoading s answer row
  | .creating => atCreating clk s answer row
  | .last op scope => atLast clk s op scope answer row

-- ------------------------------------------------------------
-- The system
-- ------------------------------------------------------------

/-- The row, the workers by the token they claimed it under, and the passes
that returned, latest first. -/
structure Sys where
  row : TaskRow
  sessions : Nat → Option Session
  passes : List Pass

inductive Label
  | claim (consumer : Consumer) (generation : Option Int)
  | outside (op : RowOp)
  | touch (token : Nat) (leaseSeconds : Int)
  | crash (token : Nat)
  | work (token : Nat) (answer : Answer)

/-- The statements without a lease, as their callers issue them: the reconciler
leaves the irreversible kinds out. -/
def issued (op : RowOp) : Bool :=
  op.fence?.isNone &&
    match op with
    | .reconcileStuckRunning _ excludeKinds => excludeKinds == irreversibleMutationKinds
    | _ => true

def Sys.set (s : Sys) (token : Nat) (session : Option Session) : Nat → Option Session :=
  fun t => if t = token then session else s.sessions t

def Sys.step (lib : Stdlib) (s : Sys) (e : Clock × Label) : Sys :=
  let clk := e.1
  match e.2 with
  | .claim c generation =>
    if claimable clk c.taskType c.lanes s.row then
      let row := claimRow clk c.worker c.leaseSeconds s.row
      { s with
        row
        sessions := s.set row.leaseToken
          (some { task := Worker.snapshot row, generation, pc := .start }) }
    else s
  | .outside op => if issued op then { s with row := (op.apply clk s.row).getD s.row } else s
  | .touch token leaseSeconds =>
    match s.sessions token with
    | some session =>
      { s with row := (touchTaskRunning clk session.fence leaseSeconds s.row).getD s.row }
    | none => s
  | .crash token => { s with sessions := s.set token none }
  | .work token answer =>
    match s.sessions token with
    | some session =>
      let o := advance lib clk session answer s.row
      { row := o.row, sessions := s.set token o.session, passes := o.pass.toList ++ s.passes }
    | none => s

def Sys.init (clk : Clock) (task : NewTask) : Sys :=
  { row := task.row clk, sessions := fun _ => none, passes := [] }

structure DuplicateCommand (task : NewTask) : Prop where
  taskType : task.taskType = .metaApiMutation
  kind : Obj.text task.payload "mutation_kind" = some mutationKind
  status : task.status = .pending

end StopBot.Duplicates
