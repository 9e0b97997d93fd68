import StopBot.Lib.Runs
import StopBot.Lib.Traces
import StopBot.Worker.Mutation

/-!
# `process_one_task` for the status of one ad

The worker of `apps/meta_api_worker/main.py` on a claimed `pause_ad` or
`activate_ad` task, cut at its awaits: every statement and every external call
is one step, and what the database, the browser and the other tables answer is
the label of the step. The system below runs it on one row, with any number of
workers that hold or once held its lease, and with everything else that writes
the row in between.
-/

namespace StopBot.Worker

open Lib Tasks

-- ------------------------------------------------------------
-- Sessions
-- ------------------------------------------------------------

/-- The `except` clauses around a statement: none, those of the reconciliation,
and those of the mutation before and after `external_boundary_crossed`. -/
inductive Scope
  | bare
  | reconciliation
  | boundary
  | call
  deriving DecidableEq, Repr

/-- Where a worker stands. `last` is the statement after which it returns. -/
inductive Pc
  | start
  | reconcile
  | observing
  | resolving (configured : String)
  | confirmed (configured effective : String)
  | gates
  | preflight
  | boundary
  | crossed
  | inFlight
  | last (op : RowOp) (scope : Scope)
  deriving Repr

structure Session where
  task : TaskRow
  generation : Option Int
  pc : Pc
  deriving Repr

structure Readings where
  scanningEnabled : Bool := true
  ownershipAllowed : Bool := true
  ownershipNotFound : Bool := false
  ownershipReason : String := ""
  snapshotFresh : Bool := true
  graceUnsafe : Option String := none
  compensationTaskId : Int := 0
  compensationState : String := "pending"
  deriving Repr

inductive Answer
  | ok
  | read (readings : Readings)
  | send
  | reply (body : Json)
  | raised (exc : Raised)
  deriving Repr

/-- What a run is judged by: writes issued, writes whose end is ambiguous, and
reconciliation reads that returned another status than the desired one. -/
inductive Event
  | write
  | ambiguous
  | readDifferent
  deriving DecidableEq, Repr

/-- The `Task` a claim returns: a zero `max_attempts` reads as five. -/
def snapshot (row : TaskRow) : TaskRow :=
  { row with maxAttempts := if row.maxAttempts = 0 then 5 else row.maxAttempts }

def alreadyReconciling (result : Option Obj) : Bool :=
  ((result.getD []).get? "reconcile_required").any Json.isTrue

namespace Session

def fence (s : Session) : Fence := ⟨s.task.leaseOwner, some s.task.leaseToken⟩

def payload (s : Session) : MetaMutationPayload :=
  match MetaMutationPayload.fromDict s.task.payload with
  | .ok payload => payload
  | .error _ => ⟨"", "", "", []⟩

-- The statements a session issues, with its own snapshot as their arguments.

def fail (s : Session) (error : String) (result : Obj) : RowOp :=
  .markFailed s.fence error (some result)

def failOrCancel (s : Session) (error : String) (result : Obj) : RowOp :=
  .markTaskFailedOrCancelled s.fence s.payload.targetId error (some result)

def requeueTask (s : Session) (error : String) : RowOp :=
  .requeueForRetry s.fence error s.task.attemptCount s.task.maxAttempts s.task.lane

def requeueTaskProvenNotCommitted (s : Session) (error : String) : RowOp :=
  .requeueProvenNotCommitted s.fence s.payload.targetId error s.task.attemptCount s.task.lane

def release (s : Session) (error : String) : RowOp :=
  .releaseAfterBrowserReadinessRejection s.fence s.generation error (some s.payload.targetId)
    s.task.lane

def requeueUnknown (s : Session) (error : String) : RowOp :=
  .requeueUnknownForReconciliation s.fence error s.task.attemptCount s.task.maxAttempts
    s.task.lane (alreadyReconciling s.task.result)

def deferUnknown (s : Session) (error : String) : RowOp :=
  .deferUnknownReconciliation s.fence error 5 s.task.lane

-- ------------------------------------------------------------
-- Reconciliation
-- ------------------------------------------------------------

def begin (s : Session) : Pc :=
  match MetaMutationPayload.fromDict s.task.payload with
  | .error error =>
    .last (s.fail ("invalid payload: " ++ error) [("outcome", .str "REJECTED"),
      ("reason", .str "invalid_payload"), ("operator_reason", operatorReason "invalid_payload")])
      .bare
  | .ok _ => if alreadyReconciling s.task.result then .reconcile else .gates

def routeRead (s : Session) (exc : Raised) : Pc :=
  match exc.cls with
  | .browserReadinessRejectedError =>
    .last (s.release ("status reconciliation browser readiness rejected: " ++ exc.repr))
      .reconciliation
  | .ambiguousResultError | .temporaryError | .sessionUnavailableError =>
    .last (s.requeueUnknown ("status reconciliation unavailable: " ++ exc.repr)) .reconciliation
  | .permanent _ | .valueError | .other =>
    .last (s.fail ("status reconciliation failed: " ++ exc.repr)
      [("outcome", .str "UNKNOWN"), ("reconcile_required", .bool true)]) .reconciliation

def unreadable (s : Session) (error : String) : Pc × Option Event :=
  (.last (s.requeueUnknown error) .reconciliation, none)

def compare (s : Session) (configured effective : String) : Pc × Option Event :=
  if configured ≠ desiredStatus s.payload then (.resolving configured, some .readDifferent)
  else (.confirmed configured effective, none)

def observe (s : Session) (body : Json) : Pc × Option Event :=
  match body with
  | .obj fields =>
    match Obj.get? fields "status" with
    | some (.str raw) =>
      let configured := PyText.upper (PyText.strip raw)
      if configuredMetaStatusValues.contains configured then
        match (Obj.get? fields "effective_status").getD .null with
        | .null => s.compare configured ""
        | .str effective => s.compare configured (PyText.upper (PyText.strip effective))
        | _ => s.unreadable "status reconciliation returned a non-string effective status"
      else s.unreadable "status reconciliation returned an unsupported configured status"
    | _ => s.unreadable "status reconciliation returned a non-string configured status"
  | _ => s.unreadable "status reconciliation returned a non-object response"

def resolved (s : Session) (configured : String) : Session :=
  { s with
    task := { s.task with
      result := some (Obj.merge
        (Obj.erase (Obj.erase (s.task.result.getD []) "outcome") "reconcile_required")
        [("reconciled_not_applied", .bool true), ("effective_status", .str configured)])
      externalStartedAt := none }
    pc := .gates }

/-- `_prepare_enable_grace_for_payload`: the text of the error it raises. -/
def prepareEnableGrace (s : Session) (r : Readings) : Option String :=
  let malformed := "enable_grace requires only an absolute spend_cap"
  if s.payload.mutationKind ≠ "activate_ad" then none
  else
    match (Obj.get? s.payload.params "enable_grace").getD .null with
    | .null => none
    | .obj fields =>
      if !fields.isEmpty && fields.all (fun field => field.1 == "spend_cap") then r.graceUnsafe
      else some malformed
    | _ => some malformed

/-- The desired status was read back: confirm, or compensate an activation that
has no grace any more. -/
def conclude (s : Session) (configured effective : String) (r : Readings) : RowOp :=
  match s.prepareEnableGrace r with
  | none => .markSucceeded s.fence (some [("outcome", .str "CONFIRMED"),
      ("reconciled_after_unknown", .bool true), ("status", .str configured),
      ("effective_status", if effective = "" then .null else .str effective)])
  | some error => .markFailedWithCompensation s.fence
      ("confirmed activation lacked durable grace; PAUSE queued: " ++ error)
      [("outcome", .str "UNKNOWN"), ("reconcile_required", .bool false),
        ("reason", .str "enable_grace_compensation_pending"),
        ("external_outcome", .str "CONFIRMED"), ("external_status", .str configured),
        ("compensation_action", .str "pause_ad")] r.compensationTaskId r.compensationState

-- ------------------------------------------------------------
-- The mutation
-- ------------------------------------------------------------

/-- The gates between the claim and the boundary, in their order. -/
def gate (s : Session) (r : Readings) : Pc :=
  if isActivatingMutation s.payload ∧ ¬ r.scanningEnabled then
    .last (s.requeueTask "scanning_paused: активирующая mutation отложена до снятия паузы") .bare
  else if ¬ r.ownershipAllowed then
    if r.ownershipNotFound ∧ ¬ isActivatingMutation s.payload then
      .last (s.requeueTask ("owner_scoping_not_found: " ++ r.ownershipReason)) .bare
    else
      .last (s.fail ("owner_scoping_reject: " ++ r.ownershipReason)
        [("outcome", .str "REJECTED"), ("reason", .str "owner_scoping"),
          ("operator_reason", operatorReason "owner_scoping")]) .bare
  else if s.payload.mutationKind = "pause_ad" ∧ s.task.requestedBy = autoStopRequestedBy ∧
      ¬ isSafetyCompensation s.payload ∧ ¬ r.snapshotFresh then
    .last (.deferAutoStopForFreshSnapshot s.fence 15) .bare
  else
    match s.prepareEnableGrace r with
    | some error =>
      .last (s.fail ("enable_grace_precondition: " ++ error)
        [("outcome", .str "REJECTED"), ("reason", .str "enable_grace_precondition"),
          ("operator_reason", operatorReason "enable_grace_precondition")]) .bare
    | none => .preflight

/-- `_preflight_task_control`, on the clock of the process. -/
def preflightTaskControl (s : Session) (clk : Clock) (row : TaskRow) : Option String :=
  if !(row.fencedBy s.fence && row.status == .running) then some "lease_lost"
  else if row.leaseExpiresAt.all (fun expires => expires ≤ clk.host) then some "lease_expired"
  else if row.cancelRequestedAt.isSome then some "cancel_requested"
  else if row.deadlineAt.any (fun deadline => deadline ≤ clk.host) then some "deadline_exceeded"
  else none

/-- `_cross_external_mutation_boundary`, up to the boundary itself. -/
def cross (s : Session) (clk : Clock) (row : TaskRow) : Pc :=
  match s.preflightTaskControl clk row with
  | some "cancel_requested" =>
    .last (.markCancelled s.fence "cancelled before external call") .boundary
  | some reason =>
    .last (s.fail ("command rejected before external call: " ++ reason)
      [("outcome", .str "REJECTED"), ("reason", .str reason)]) .boundary
  | none => .boundary

def finalize (s : Session) (body : Json) : RowOp :=
  let assessment := assessMutationResult s.payload body
  let fields := match body with
    | .obj fields => fields
    | _ => []
  match assessment.state with
  | .invalid =>
    s.fail ("mutation handler contract violated: " ++ assessment.reason)
      [("outcome", .str "UNKNOWN"), ("reconcile_required", .bool true),
        ("manual_review_required", .bool true), ("reason", .str "handler_contract_violation"),
        ("contract_error", .str assessment.reason),
        ("operation", .str s.payload.mutationKind), ("target_id", .str s.payload.targetId)]
  | .rejected =>
    s.fail (PyText.clip 500
        ("mutation_logical_fail: handler вернул провал без exception result=" ++ body.render))
      (Obj.merge fields [("outcome", .str "REJECTED"), ("reason", .str assessment.reason)])
  | .confirmed => .markSucceeded s.fence (some (Obj.merge fields [("outcome", .str "CONFIRMED")]))

def route (s : Session) (crossed : Bool) (exc : Raised) : RowOp :=
  match exc.cls with
  | .ambiguousResultError => s.requeueUnknown ("ambiguous external result: " ++ exc.repr)
  | .permanent cls =>
    s.failOrCancel exc.repr
      ([("outcome", .str "REJECTED"), ("reason", .str cls.name),
          ("operator_reason", operatorReason cls.name)] ++
        match cls with
        | .loginRequiredError => [("requires_facebook_login", .bool true)]
        | .tokenInvalidError => [("requires_meta_reauth", .bool true)]
        | _ => [])
  | .temporaryError | .sessionUnavailableError | .browserReadinessRejectedError =>
    if crossed && !exc.cls.knownNotCommitted then
      s.requeueUnknown ("ambiguous temporary error after external boundary: " ++ exc.repr)
    else if exc.cls = .browserReadinessRejectedError then s.release exc.repr
    else
      match unretryableBrowserRejection exc with
      | some code =>
        s.failOrCancel
          ("browser rejected the request before send and a retry cannot fix it: " ++ code)
          ([("outcome", .str "REJECTED"), ("reason", .str "browser_rejection_not_retryable"),
              ("pre_dispatch", .bool true), ("pre_dispatch_reason_code", .str code)] ++
            ((browserRejectionNotRetryableReason code).map
              fun text => ("operator_reason", Json.str text)).toList)
      | none =>
        if exc.cls.knownNotCommitted then s.requeueTaskProvenNotCommitted exc.repr
        else s.requeueTask exc.repr
  | .valueError =>
    if crossed then s.requeueUnknown ("ambiguous post-call value error: " ++ exc.repr)
    else s.requeueTask ("unexpected_value_error: " ++ exc.repr)
  | .other =>
    if crossed then s.requeueUnknown ("ambiguous unclassified post-call error: " ++ exc.repr)
    else s.requeueTask exc.repr

end Session

-- ------------------------------------------------------------
-- One step of a worker
-- ------------------------------------------------------------

/-- The live authority an external call is issued and consumed under. -/
def authorized (clk : Clock) (f : Fence) (row : TaskRow) : Bool :=
  row.heldBy clk f && row.cancelRequestedAt.isNone &&
    row.deadlineAt.any fun deadline => clk.wall < deadline

def preDispatchRejected : Raised :=
  { cls := .sessionUnavailableError
    repr := "task lease is stale, cancelled, expired, or past its deadline" }

/-- The classes that say nothing about what Meta did with the call. -/
def ExceptionClass.ambiguous : ExceptionClass → Bool
  | .ambiguousResultError | .temporaryError | .valueError | .other => true
  | .permanent _ | .sessionUnavailableError | .browserReadinessRejectedError => false

def ExceptionClass.database : ExceptionClass → Bool
  | .valueError | .other => true
  | _ => false

def current (s : Session) (row : TaskRow) : Bool :=
  row.status == .running && row.leaseToken == s.task.leaseToken

structure Outcome where
  row : TaskRow
  session : Option Session
  event : Option Event := none

def Outcome.goto (row : TaskRow) (s : Session) (pc : Pc) (event : Option Event := none) : Outcome :=
  { row, session := some { s with pc }, event }

/-- The call or its finalization raised after the boundary. A session that
already lost the row has lost its call with it: that end is the lease loss. -/
def callRaised (s : Session) (row : TaskRow) (exc : Raised) : Outcome :=
  .goto row s (.last (s.route true exc) .bare)
    (if exc.cls.ambiguous && current s row then some .ambiguous else none)

/-- A statement or a gate of the reconciliation raised: the outcome stays
unknown and the read is tried again. -/
def lifecycleFailed (s : Session) (row : TaskRow) (exc : Raised) : Outcome :=
  .goto row s (.last (s.deferUnknown ("reconciliation lifecycle failed: " ++ exc.repr)) .bare)

def boundaryRaised (s : Session) (row : TaskRow) (exc : Raised) : Outcome :=
  if exc.cls.database then .goto row s (.last (s.route false exc) .bare)
  else { row, session := some s }

/-- A call that was sent does not end in a proof that it was not. -/
def sentRaised (s : Session) (row : TaskRow) (exc : Raised) : Outcome :=
  if exc.cls.knownNotCommitted then { row, session := some s } else callRaised s row exc

-- The step at each point; an answer that fits no await changes nothing.

def atStart (s : Session) (answer : Answer) (row : TaskRow) : Outcome :=
  match answer with
  | .ok => .goto row s s.begin
  | _ => { row, session := some s }

def atReconcile (clk : Clock) (s : Session) (answer : Answer) (row : TaskRow) : Outcome :=
  match answer with
  | .send =>
    if authorized clk s.fence row then .goto row s .observing
    else .goto row s (s.routeRead preDispatchRejected)
  | .raised exc => .goto row s (s.routeRead exc)
  | _ => { row, session := some s }

def atObserving (s : Session) (answer : Answer) (row : TaskRow) : Outcome :=
  match answer with
  | .reply body => .goto row s (s.observe body).1 (s.observe body).2
  | .raised exc => .goto row s (s.routeRead exc)
  | _ => { row, session := some s }

def atResolving (clk : Clock) (s : Session) (configured : String) (answer : Answer)
    (row : TaskRow) : Outcome :=
  match answer with
  | .ok =>
    match resolveStatusReconciliationNotApplied clk s.fence configured row with
    | some row' =>
      { row := row'
        session := if row'.status = .running then some (s.resolved configured) else none }
    | none => { row, session := none }
  | .raised exc => lifecycleFailed s row exc
  | _ => { row, session := some s }

def atConfirmed (s : Session) (configured effective : String) (answer : Answer) (row : TaskRow) :
    Outcome :=
  match answer with
  | .read r => .goto row s (.last (s.conclude configured effective r) .reconciliation)
  | .raised exc => lifecycleFailed s row exc
  | _ => { row, session := some s }

def atGates (s : Session) (answer : Answer) (row : TaskRow) : Outcome :=
  match answer with
  | .read r => .goto row s (s.gate r)
  | _ => { row, session := some s }

def atPreflight (clk : Clock) (s : Session) (answer : Answer) (row : TaskRow) : Outcome :=
  match answer with
  | .ok => .goto row s (s.cross clk row)
  | .raised exc => boundaryRaised s row exc
  | _ => { row, session := some s }

def atBoundary (clk : Clock) (s : Session) (answer : Answer) (row : TaskRow) : Outcome :=
  match answer with
  | .ok =>
    match markExternalCallStarted clk s.fence s.payload.targetId row with
    | some row' => .goto row' s .crossed
    | none => { row, session := none }
  | .raised exc => boundaryRaised s row exc
  | _ => { row, session := some s }

def atCrossed (clk : Clock) (s : Session) (answer : Answer) (row : TaskRow) : Outcome :=
  match answer with
  | .send =>
    if authorized clk s.fence row then .goto row s .inFlight (some .write)
    else callRaised s row preDispatchRejected
  | .raised exc => callRaised s row exc
  | _ => { row, session := some s }

def atInFlight (s : Session) (answer : Answer) (row : TaskRow) : Outcome :=
  match answer with
  | .reply body => .goto row s (.last (s.finalize body) .call)
  | .raised exc => sentRaised s row exc
  | _ => { row, session := some s }

def lastRaised (s : Session) (scope : Scope) (row : TaskRow) (exc : Raised) : Outcome :=
  match scope with
  | .bare => { row, session := none }
  | .reconciliation => lifecycleFailed s row exc
  | .boundary => boundaryRaised s row exc
  | .call => sentRaised s row exc

def atLast (clk : Clock) (s : Session) (op : RowOp) (scope : Scope) (answer : Answer)
    (row : TaskRow) : Outcome :=
  match answer with
  | .ok => { row := (op.apply clk row).getD row, session := none }
  | .raised exc => lastRaised s scope row exc
  | _ => { row, session := some s }

def advance (clk : Clock) (s : Session) (answer : Answer) (row : TaskRow) : Outcome :=
  match s.pc with
  | .start => atStart s answer row
  | .reconcile => atReconcile clk s answer row
  | .observing => atObserving s answer row
  | .resolving configured => atResolving clk s configured answer row
  | .confirmed configured effective => atConfirmed s configured effective answer row
  | .gates => atGates s answer row
  | .preflight => atPreflight clk s answer row
  | .boundary => atBoundary clk s answer row
  | .crossed => atCrossed clk s answer row
  | .inFlight => atInFlight s answer row
  | .last op scope => atLast clk s op scope answer row

-- ------------------------------------------------------------
-- The system
-- ------------------------------------------------------------

/-- A task row, the workers by the token they claimed it under, and the trace,
latest event first. -/
structure Sys where
  row : TaskRow
  sessions : Nat → Option Session
  trace : List Event

/-- `outside` is everything that writes the row without a lease: cancellation,
the tracker, expiry, the reconciler, the command service, manual review. -/
inductive Label
  | claim (consumer : Consumer) (generation : Option Int)
  | outside (op : RowOp)
  | touch (token : Nat) (leaseSeconds : Int)
  | crash (token : Nat)
  | work (token : Nat) (answer : Answer)
  deriving Repr

def Sys.set (s : Sys) (token : Nat) (session : Option Session) : Nat → Option Session :=
  fun t => if t = token then session else s.sessions t

def leaseLost (row row' : TaskRow) : Bool :=
  row.status == .running && row.externalStartedAt.isSome && row'.status != .running

def Sys.step (s : Sys) (e : Clock × Label) : Sys :=
  let clk := e.1
  match e.2 with
  | .claim c generation =>
    if claimable clk c.taskType c.lanes s.row then
      let row := claimRow clk c.worker c.leaseSeconds s.row
      { s with
        row
        sessions := s.set row.leaseToken
          (some { task := snapshot row, generation, pc := .start }) }
    else s
  | .outside op =>
    match op.fence?, op.apply clk s.row with
    | none, some row' =>
      { s with
        row := row'
        trace := if leaseLost s.row row' then .ambiguous :: s.trace else s.trace }
    | _, _ => s
  | .touch token leaseSeconds =>
    match s.sessions token with
    | some session =>
      { s with row := (touchTaskRunning clk session.fence leaseSeconds s.row).getD s.row }
    | none => s
  | .crash token => { s with sessions := s.set token none }
  | .work token answer =>
    match s.sessions token with
    | some session =>
      let o := advance clk session answer s.row
      { row := o.row, sessions := s.set token o.session, trace := o.event.toList ++ s.trace }
    | none => s

def Sys.init (clk : Clock) (task : NewTask) : Sys :=
  { row := task.row clk, sessions := fun _ => none, trace := [] }

structure AdCommand (task : NewTask) : Prop where
  taskType : task.taskType = .metaApiMutation
  kind : Obj.text task.payload "mutation_kind" = some "pause_ad" ∨
    Obj.text task.payload "mutation_kind" = some "activate_ad"
  status : task.status = .pending
  maxAttempts : 1 ≤ task.maxAttempts

end StopBot.Worker
