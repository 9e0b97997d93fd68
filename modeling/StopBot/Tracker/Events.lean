import StopBot.Tasks.Operations
import StopBot.Worker.Mutation

/-!
# Tracker events

The durable inbox of postbacks (`core/adset_pro/ingest.py`) and their
projection to one row per click (`core/adset_pro/processing.py`). Both run in
one transaction each: an ingest under the lock of its dedupe key, a projection
under the lock of its click and the lease of its task.

`fb_ads.fb_ad_id` is unique, so the catalog is a partial function from it.
-/

namespace StopBot.Tracker

open Lib Tasks

inductive EventType
  | registration
  | ftd
  | redeposit
  deriving DecidableEq, Repr

/-- A row of `adsetpro_postback_events`, without the columns that only audits read. -/
structure PostbackRow where
  receivedAt : Int
  occurredAt : Int
  source : String
  providerEventId : Option String
  clickId : String
  fbAdId : Option String
  fbAdFk : Option Uuid
  eventType : EventType
  rawJson : Obj
  isDuplicate : Bool
  attributionStatus : String
  attemptCount : Int := 0
  lastError : Option String := none
  nextRetryAt : Option Int := none
  processedAt : Option Int := none
  deriving Repr

structure ClickState where
  adId : Option Uuid
  fbAdId : Option String
  country : Option String
  attributionStatus : String
  registration : Bool
  ftd : Bool
  confirmedDeposit : Bool
  registrationAt : Option Int
  ftdAt : Option Int
  confirmedDepositAt : Option Int
  redeposits : Nat
  lastEventAt : Int
  version : Nat
  deriving Repr

structure PostbackEvent where
  clickId : Option String
  fbAdId : Option String
  eventType : Option String
  receivedAt : Int
  raw : Obj := []
  source : Option String := some "adsetpro"
  providerEventId : Option String := none
  occurredAt : Option Int := none
  deriving Repr

structure AttributionResult where
  adId : Option Uuid
  fbAdId : Option String
  status : String
  deriving DecidableEq, Repr

structure Db where
  queue : Queue
  events : Table PostbackRow
  clicks : String → String → Option ClickState
  ads : String → Option Uuid

def Db.empty : Db :=
  { queue := Table.empty, events := Table.empty, clicks := fun _ _ => none, ads := fun _ => none }

-- ------------------------------------------------------------
-- Reading a postback
-- ------------------------------------------------------------

def sourceAdsetpro : String := "adsetpro"

def eventAliases : List (String × EventType) :=
  [("reg", .registration), ("registration", .registration), ("signup", .registration),
    ("hold", .registration), ("cpa_hold", .registration), ("ftd", .ftd), ("first_deposit", .ftd),
    ("first-deposit", .ftd), ("accept", .ftd), ("cpa_accept", .ftd), ("redeposit", .redeposit),
    ("redep", .redeposit), ("cpa_redep", .redeposit)]

def canonicalEventType (value : Option String) : Option EventType :=
  eventAliases.lookup
    (PyText.replace ' ' '_' (PyText.lower (PyText.strip (value.getD ""))))

def providerIdRawKeys : List String :=
  ["provider_event_id", "event_id", "transaction_id", "transactionId", "txn_id",
    "conversion_id", "postback_id"]

/-- `text or None`. -/
def nonEmpty (text : String) : Option String :=
  if text = "" then none else some text

/-- The first key with a value that is neither null nor `""`, stripped. -/
def firstValue (raw : Obj) (keys : List String) : Option String :=
  match keys.findSome? fun key => (raw.get? key).filter fun value =>
      match value with
      | .null => false
      | .str s => s != ""
      | _ => true with
  | some value => nonEmpty (PyText.strip (Worker.pyStr value))
  | none => none

def providerEventIdFromRaw (raw : Obj) : Option String :=
  firstValue raw providerIdRawKeys

def secretKeys : List String := ["token", "secret", "postback_secret"]

def sanitizedRaw (payload : Obj) : Obj :=
  secretKeys.foldl Obj.erase payload

structure Accepted where
  eventType : EventType
  clickId : String
  source : String
  providerEventId : Option String
  occurredAt : Int
  deriving Repr

def PostbackEvent.accept (event : PostbackEvent) : Except String Accepted :=
  match canonicalEventType event.eventType with
  | none => .error s!"unsupported AdSet.pro event_type: {reprStr event.eventType}"
  | some eventType =>
    let clickId := PyText.strip (event.clickId.getD "")
    let source := PyText.lower (PyText.strip ((event.source.bind nonEmpty).getD sourceAdsetpro))
    let providerEventId :=
      nonEmpty (PyText.strip (event.providerEventId.getD "")) <|> providerEventIdFromRaw event.raw
    if clickId = "" then .error "click_id is required for supported AdSet.pro events"
    else if eventType = .redeposit ∧ providerEventId = none then
      .error "redeposit requires provider_event_id"
    else
      .ok { eventType, clickId, source := (nonEmpty source).getD sourceAdsetpro, providerEventId
            occurredAt := event.occurredAt.getD event.receivedAt }

-- ------------------------------------------------------------
-- Attribution
-- ------------------------------------------------------------

def resolveAttribution (ads : String → Option Uuid) (fbAdId : Option String) (raw : Obj) :
    AttributionResult :=
  let direct := PyText.strip
    (((fbAdId.bind nonEmpty) <|> firstValue raw ["sub8", "ext_sub8"]).getD "")
  if direct = "" then { adId := none, fbAdId := none, status := "unmatched" }
  else
    match ads direct with
    | some ad => { adId := some ad, fbAdId := some direct, status := "matched_direct" }
    | none => { adId := none, fbAdId := some direct, status := "unmatched" }

/-- `_resolve_event_attribution`: a stored attribution is kept. -/
def resolveEventAttribution (ads : String → Option Uuid) (event : PostbackRow) :
    AttributionResult :=
  match event.fbAdFk with
  | some ad =>
    { adId := some ad, fbAdId := event.fbAdId
      status := (nonEmpty event.attributionStatus).getD "matched_direct" }
  | none => resolveAttribution ads event.fbAdId event.rawJson

def attributionConflicts [DecidableEq α] (candidate : Option α) (existing : List (Option α)) :
    Bool :=
  let known := (existing.filterMap id).eraseDups
  1 < known.length || candidate.any fun ad => !known.isEmpty && !known.contains ad

-- ------------------------------------------------------------
-- Ingest
-- ------------------------------------------------------------

def storedProviderId (row : PostbackRow) : Option String :=
  row.providerEventId <|>
    providerIdRawKeys.findSome? fun key => (Obj.text row.rawJson key).bind nonEmpty

/-- The rows a new event is a duplicate of: by provider id for a redeposit, by
click and type for the one-shot events. -/
def duplicates (a : Accepted) (row : PostbackRow) : Bool :=
  row.source == a.source && !row.isDuplicate &&
    if a.eventType = .redeposit then
      a.providerEventId.isSome && storedProviderId row == a.providerEventId
    else row.clickId == a.clickId && row.eventType == a.eventType

def latestBy (t : Table PostbackRow) (p : PostbackRow → Bool) : Option (Nat × PostbackRow) :=
  Sql.first (fun a b => decide (b.2.receivedAt < a.2.receivedAt))
    (t.entries.filter fun entry => p entry.2)

def dedupTaken (t : Table PostbackRow) (a : Accepted) (receivedAt : Int) : Bool :=
  t.entries.any fun entry => entry.2.clickId == a.clickId && entry.2.eventType == a.eventType &&
    entry.2.receivedAt == receivedAt

structure IngestResult where
  inserted : Bool
  isDuplicate : Bool
  eventId : Option Nat
  fbAdFk : Option Uuid
  attributionStatus : String := "unmatched"
  taskId : Option Nat := none
  deriving Repr

def newRow (event : PostbackEvent) (a : Accepted) (fbAdId : Option String) (fbAdFk : Option Uuid)
    (isDuplicate : Bool) (attributionStatus : String) : PostbackRow :=
  { receivedAt := event.receivedAt
    occurredAt := a.occurredAt
    source := a.source
    providerEventId := a.providerEventId
    clickId := a.clickId
    fbAdId, fbAdFk
    eventType := a.eventType
    rawJson := sanitizedRaw event.raw
    isDuplicate, attributionStatus }

def trackerTask (isoformat : Int → String) (clk : Clock) (a : Accepted) (eventId : Nat)
    (receivedAt : Int) : NewTask :=
  let iso := isoformat receivedAt
  { taskType := .trackerEventProcess
    idempotencyKey := PyText.clip 128 s!"tracker:event:{a.source}:{eventId}:{iso}"
    payload := [("event_id", .num eventId 0), ("received_at", .str iso), ("source", .str a.source),
      ("click_id", .str a.clickId)]
    requestedBy := "adsetpro_postback"
    maxAttempts := 10080
    lane := some .background
    priority := some 0
    availableAt := some clk.wall
    deadlineAt := some (clk.wall + seconds (24 * 60 * 60)) }

/-- The audit row of a duplicate (`ON CONFLICT … DO NOTHING`); it is never projected. -/
def ingestDuplicate (db : Db) (clk : Clock) (event : PostbackEvent) (a : Accepted)
    (recordDuplicate : Bool) (existing : Nat × PostbackRow) : Db × IngestResult :=
  let status := (nonEmpty existing.2.attributionStatus).getD "unmatched"
  let result := { inserted := false, isDuplicate := true, eventId := some existing.1
                  fbAdFk := existing.2.fbAdFk, attributionStatus := status : IngestResult }
  if !recordDuplicate || dedupTaken db.events a event.receivedAt then (db, result)
  else
    let row := { newRow event a event.fbAdId existing.2.fbAdFk true status with
      processedAt := some clk.now
      lastError := some s!"duplicate_of:{existing.1}" }
    ({ db with events := db.events.insert row }, { result with eventId := some db.events.next })

/-- The event and its `tracker_event_process` task in one transaction; a raise
leaves nothing behind. -/
def storeEvent (isoformat : Int → String) (db : Db) (clk : Clock) (event : PostbackEvent)
    (a : Accepted) : Except String (Db × IngestResult) :=
  let attribution := resolveAttribution db.ads event.fbAdId event.raw
  let task := trackerTask isoformat clk a db.events.next event.receivedAt
  if dedupTaken db.events a event.receivedAt then
    .error "duplicate key value violates unique constraint uq_adsetpro_postback_dedup"
  else if keyTaken db.queue task.idempotencyKey then
    .error "failed to create durable tracker_event_process task"
  else
    .ok ({ db with
            events := db.events.insert
              (newRow event a attribution.fbAdId attribution.adId false attribution.status)
            queue := db.queue.insert (task.row clk) },
      { inserted := true, isDuplicate := false, eventId := some db.events.next
        fbAdFk := attribution.adId, attributionStatus := attribution.status
        taskId := some db.queue.next })

def ingestPostback (isoformat : Int → String) (db : Db) (clk : Clock) (event : PostbackEvent)
    (recordDuplicate : Bool) : Except String (Db × IngestResult) := do
  let a ← event.accept
  match latestBy db.events (duplicates a) with
  | some existing => return ingestDuplicate db clk event a recordDuplicate existing
  | none => storeEvent isoformat db clk event a

end StopBot.Tracker
