import StopBot.Tracker.Events

/-!
# The projection of a click

`process_event_task`: one claimed task projects its event, and everything the
inbox knows about the same click, to `tracker_click_state`. The row is rebuilt
from the events and then merged into the stored one, with a rule per column.
-/

namespace StopBot.Tracker

open Lib Tasks

/-- Confirmation time is order-independent and requires both events. -/
def confirmedDepositAt (registrationAt ftdAt : Option Int) : Option Int :=
  match registrationAt, ftdAt with
  | some r, some f => some (max r f)
  | _, _ => none

-- ------------------------------------------------------------
-- Aggregates over the events of a click
-- ------------------------------------------------------------

def ofClick (source clickId : String) (row : PostbackRow) : Bool :=
  row.source == source && row.clickId == clickId

/-- The events `_rebuild_click_state` aggregates. -/
def countedFor (source clickId : String) (adId : Option Uuid) (row : PostbackRow) : Bool :=
  ofClick source clickId row && !row.isDuplicate && row.attributionStatus != "ambiguous" &&
    row.fbAdFk == adId

/-- `occurred_at` of the events of one type. -/
def times (events : List PostbackRow) (kind : EventType) : List Int :=
  (events.filter fun row => row.eventType == kind).map (·.occurredAt)

/-- `(ARRAY_AGG(raw_json->>key ORDER BY received_at DESC) FILTER (…))[1]`. -/
def latestRaw (events : List PostbackRow) (key : String) : Option String :=
  (Sql.first (fun a b => decide (b.receivedAt < a.receivedAt))
    (events.filter fun row => (Obj.text row.rawJson key).isSome)).bind
      fun row => Obj.text row.rawJson key

def countryOf (events : List PostbackRow) : Option String :=
  ((["country", "country_code", "geo"].findSome? (latestRaw events)).map PyText.upper).filter
    fun country => country.length == 2

def least : Option Int → Option Int → Option Int
  | some a, some b => some (min a b)
  | some a, none => some a
  | none, b => b

/-- The row that `VALUES (…)` proposes; an aggregate over no event has no
`last_event_at` and the insert fails. -/
def proposed (events : List PostbackRow) (attribution : AttributionResult) :
    Option ClickState := do
  let lastEventAt ← (events.map (·.receivedAt)).max?
  let registrationAt := (times events .registration).min?
  let ftdAt := (times events .ftd).min?
  let confirmedAt := confirmedDepositAt registrationAt ftdAt
  return {
    adId := attribution.adId
    fbAdId := attribution.fbAdId
    country := countryOf events
    attributionStatus := attribution.status
    registration := registrationAt.isSome
    ftd := ftdAt.isSome
    confirmedDeposit := confirmedAt.isSome
    registrationAt
    ftdAt
    confirmedDepositAt := confirmedAt
    redeposits := (times events .redeposit).length
    lastEventAt
    version := 1 }

/-- `ON CONFLICT ON CONSTRAINT uq_tracker_click_state_source_click DO UPDATE`. -/
def mergeClick (stored new : ClickState) : ClickState :=
  { adId := new.adId <|> stored.adId
    fbAdId := new.fbAdId <|> stored.fbAdId
    country := new.country <|> stored.country
    attributionStatus :=
      if (new.adId <|> stored.adId).isSome then new.attributionStatus else stored.attributionStatus
    registration := stored.registration || new.registration
    ftd := stored.ftd || new.ftd
    confirmedDeposit := stored.confirmedDeposit || new.confirmedDeposit
    registrationAt :=
      least stored.registrationAt new.registrationAt <|> stored.registrationAt <|>
        new.registrationAt
    ftdAt := least stored.ftdAt new.ftdAt <|> stored.ftdAt <|> new.ftdAt
    confirmedDepositAt := stored.confirmedDepositAt <|> new.confirmedDepositAt
    redeposits := new.redeposits
    lastEventAt := max stored.lastEventAt new.lastEventAt
    version := stored.version + 1 }

def rebuildClickState (db : Db) (source clickId : String) (attribution : AttributionResult) :
    Option ClickState :=
  (proposed ((db.events.entries.map (·.2)).filter (countedFor source clickId attribution.adId))
    attribution).map fun new =>
      match db.clicks source clickId with
      | some stored => mergeClick stored new
      | none => new

-- ------------------------------------------------------------
-- One processing pass
-- ------------------------------------------------------------

structure ProcessResult where
  eventId : Nat
  processed : Bool
  attributionStatus : String
  fbAdId : Option String := none
  cancelledTaskIds : List Nat := []
  deriving Repr

/-- `int(payload["event_id"])`. -/
def eventIdOf (row : TaskRow) : Option Nat :=
  match row.payload.get? "event_id" with
  | some (.num m 0) => if 0 ≤ m then some m.toNat else none
  | _ => none

def inheritedAttribution (db : Db) (event : PostbackRow) : AttributionResult :=
  let attribution := resolveEventAttribution db.ads event
  match attribution.adId, (db.clicks event.source event.clickId).bind fun st =>
      st.adId.map fun ad => (ad, st.fbAdId) with
  | none, some (ad, fbAdId) => { adId := some ad, fbAdId, status := "matched_click" }
  | _, _ => attribution

def existingAttribution (db : Db) (source clickId : String) :
    List (Option Uuid × Option String) :=
  let attributed (ad : Option Uuid) (fb : Option String) := ad.isSome || fb.isSome
  ((db.events.entries.map (·.2)).filter fun row =>
      ofClick source clickId row && !row.isDuplicate && attributed row.fbAdFk row.fbAdId &&
        row.attributionStatus != "ambiguous").map (fun row => (row.fbAdFk, row.fbAdId)) ++
    ((db.clicks source clickId).toList.filter fun st => attributed st.adId st.fbAdId).map
      fun st => (st.adId, st.fbAdId)

def conflicting (db : Db) (event : PostbackRow) (attribution : AttributionResult) : Bool :=
  let existing := existingAttribution db event.source event.clickId
  attributionConflicts attribution.adId (existing.map (·.1)) ||
    attributionConflicts ((event.fbAdId.bind nonEmpty) <|> attribution.fbAdId) (existing.map (·.2))

def spreadAttribution (eventId : Nat) (event : PostbackRow) (attribution : AttributionResult)
    (id : Nat) (row : PostbackRow) : Option PostbackRow :=
  if attribution.adId.isSome && ofClick event.source event.clickId row && row.fbAdFk.isNone &&
      row.attributionStatus != "ambiguous" then
    some { row with
      fbAdFk := attribution.adId
      fbAdId := attribution.fbAdId
      attributionStatus := if id = eventId then attribution.status else "matched_click" }
  else none

def retryAt (clk : Clock) (attemptCount : Int) : Int :=
  clk.host + seconds (min (30 * 2 ^ (max 0 (attemptCount - 1)).toNat) 300)

/-- A fenced statement on the task; one that matches no row is a raise. -/
def onTask (db : Db) (clk : Clock) (taskId : Nat) (op : RowOp) : Option Db :=
  if ((db.queue.rows taskId).bind (op.apply clk)).isSome then
    some { db with queue := Tasks.step db.queue (clk, .onRow taskId op) }
  else none

def onEvent (db : Db) (eventId : Nat) (change : PostbackRow → PostbackRow) : Db :=
  { db with events := db.events.updateAt eventId fun row => some (change row) }

def deferUnattributed (db : Db) (clk : Clock) (taskId : Nat) (f : Fence) (task : TaskRow)
    (eventId : Nat) (attribution : AttributionResult) : Option Db :=
  let exhausted := decide (task.maxAttempts ≤ task.attemptCount)
  let due := retryAt clk task.attemptCount
  let error := s!"attribution_{attribution.status}"
  onTask (onEvent db eventId fun row => { row with
      attributionStatus := attribution.status
      attemptCount := row.attemptCount + 1
      lastError := some error
      nextRetryAt := if exhausted then none else some due })
    clk taskId (if exhausted then .finishTaskFailed f error else .trackerRetry f due error)

def finishAttributed (db : Db) (clk : Clock) (taskId : Nat) (f : Fence) (eventId : Nat)
    (event : PostbackRow) (attribution : AttributionResult) (state : ClickState)
    (cancelled : List Nat) : Option Db :=
  onTask (onEvent db eventId fun row => { row with
      fbAdFk := attribution.adId
      fbAdId := attribution.fbAdId
      attributionStatus := attribution.status
      attemptCount := row.attemptCount + 1
      lastError := none
      nextRetryAt := none
      processedAt := some clk.now })
    clk taskId (.trackerSucceed f
      [("event_id", .num eventId 0), ("source", .str event.source),
        ("click_id", .str event.clickId), ("state_version", .num state.version 0),
        ("confirmed_deposit", .bool state.confirmedDeposit),
        ("cancelled_task_ids", .arr (cancelled.map fun id => .num (Int.ofNat id) 0))])

def rejectConflicting (db : Db) (clk : Clock) (taskId : Nat) (f : Fence) (eventId : Nat) :
    Option Db :=
  onTask (onEvent db eventId fun row => { row with
      attributionStatus := "ambiguous"
      attemptCount := row.attemptCount + 1
      lastError := some "conflicting_ad_attribution"
      nextRetryAt := none
      processedAt := some clk.now })
    clk taskId (.finishTaskFailed f "conflicting_ad_attribution")

def cancelPauses (db : Db) (clk : Clock) (event : PostbackRow) (attribution : AttributionResult) :
    Db × List Nat :=
  match attribution.fbAdId.bind nonEmpty with
  | some fbAdId =>
    if event.eventType = .redeposit then (db, [])
    else
      ({ db with queue := Tasks.step db.queue (clk, .onAll (.cancelUnstartedAutoPause fbAdId)) },
        (db.queue.entries.filter fun entry => isAutoPauseOf fbAdId entry.2 &&
          !entry.2.status.terminal && entry.2.externalStartedAt.isNone).map (·.1))
  | none => (db, [])

/-- The pass over an event that was found, under the lock of its click. -/
def projectEvent (db : Db) (clk : Clock) (taskId : Nat) (f : Fence) (task : TaskRow)
    (eventId : Nat) (event : PostbackRow) : Option (Db × ProcessResult) :=
  let attribution := inheritedAttribution db event
  if conflicting db event attribution then
    (rejectConflicting db clk taskId f eventId).map fun db' =>
      (db', { eventId, processed := false, attributionStatus := "ambiguous"
              fbAdId := (event.fbAdId.bind nonEmpty) <|> attribution.fbAdId })
  else do
    let spread :=
      { db with events := db.events.update (spreadAttribution eventId event attribution) }
    let state ← rebuildClickState spread event.source event.clickId attribution
    let rebuilt := { spread with
      clicks := fun s c =>
        if s = event.source ∧ c = event.clickId then some state else spread.clicks s c }
    let (cleared, cancelled) := cancelPauses rebuilt clk event attribution
    match attribution.adId with
    | none =>
      let db' ← deferUnattributed cleared clk taskId f task eventId attribution
      return (db', { eventId, processed := false, attributionStatus := attribution.status
                     fbAdId := attribution.fbAdId })
    | some _ =>
      let db' ← finishAttributed cleared clk taskId f eventId event attribution state cancelled
      return (db', { eventId, processed := true, attributionStatus := attribution.status
                     fbAdId := attribution.fbAdId, cancelledTaskIds := cancelled })

/-- `process_event_task`; `none` is a raise, which rolls everything back: a lost
lease, a payload without its keys, a projection without events. -/
def processEventTask (isoformat : Int → String) (db : Db) (clk : Clock) (taskId : Nat)
    (f : Fence) : Option (Db × ProcessResult) := do
  let task ← db.queue.rows taskId
  guard (isTrackerEvent task && task.heldBy clk f)
  let eventId ← eventIdOf task
  if task.cancelRequestedAt.isSome then
    let db' ← onTask db clk taskId (.trackerCancel f)
    return (db', { eventId, processed := false, attributionStatus := "cancelled" })
  else
    match (db.events.rows eventId).filter fun event =>
        Obj.text task.payload "received_at" == some (isoformat event.receivedAt) with
    | none =>
      let db' ← onTask db clk taskId (.finishTaskFailed f "tracker event is missing")
      return (db', { eventId, processed := false, attributionStatus := "missing_event" })
    | some event => projectEvent db clk taskId f task eventId event

-- ------------------------------------------------------------
-- Runs
-- ------------------------------------------------------------

def createsTrackerTask : QueueOp → Bool
  | .create task => task.taskType == .trackerEventProcess
  | _ => false

/-- An operation of the queue by anyone else: only the inbox inserts tracker tasks. -/
structure Elsewhere where
  op : QueueOp
  foreign : createsTrackerTask op = false

inductive Label
  | ingest (clk : Clock) (event : PostbackEvent) (recordDuplicate : Bool)
  | process (clk : Clock) (taskId : Nat) (f : Fence)
  | queue (clk : Clock) (op : Elsewhere)
  | catalog (ads : String → Option Uuid)

/-- A raise leaves the database as it was. -/
def step (isoformat : Int → String) (db : Db) : Label → Db
  | .ingest clk event recordDuplicate =>
    ((ingestPostback isoformat db clk event recordDuplicate).toOption.map (·.1)).getD db
  | .process clk taskId f => ((processEventTask isoformat db clk taskId f).map (·.1)).getD db
  | .queue clk op => { db with queue := Tasks.step db.queue (clk, op.op) }
  | .catalog ads => { db with ads }

end StopBot.Tracker
