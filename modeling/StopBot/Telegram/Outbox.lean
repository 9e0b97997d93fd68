import StopBot.Lib.Jsonb
import StopBot.Lib.PyInt
import StopBot.Lib.Runs
import StopBot.Lib.Sql
import StopBot.Lib.Table

/-!
# The notification outbox

`core/telegram/notifications.py`: events, their deliveries to recipients, and
the incidents the events are about. Action and navigation tokens and the replies
to commands, which the same transactions also write, belong to other tables and
are left out, and so is the text of a card.
-/

namespace StopBot.Telegram

open Lib

-- ------------------------------------------------------------
-- Incidents and events
-- ------------------------------------------------------------

inductive IncidentStatus
  | opened
  | acknowledged
  | executing
  | resolved
  | failed
  deriving DecidableEq, Repr

structure Incident where
  incidentKey : String
  generation : Int
  status : IncidentStatus
  deriving DecidableEq, Repr

/-- `status IN ('open','acknowledged','executing')`. -/
def IncidentStatus.active : IncidentStatus → Bool
  | .opened | .acknowledged | .executing => true
  | .resolved | .failed => false

inductive Severity
  | ok
  | warning
  | critical
  | unknown
  deriving DecidableEq, Repr

inductive Audience
  | owners
  | all
  | explicit
  deriving DecidableEq, Repr

inductive Role
  | owner
  | recipient
  deriving DecidableEq, Repr

/-- What an action of a card binds; the label and the lifetime only reach the token. -/
structure ActionSpec where
  kind : String
  targetType : String
  targetId : String
  targetPayload : Obj := []
  deriving Repr

/-- The keys of `dedupe_key`. Those of reissues and of the authorization
incident are only made here; the keys of other callers are kept apart. -/
inductive DedupeKey
  | text (key : String)
  | reissue (sourceEvent recipient : Nat)
  | authOpen (incident : Nat) (generation : Int)
  | authResolved (incident : Nat) (generation : Int)
  deriving DecidableEq, Repr

/-- `NotificationEventSpec`; of the facts the identity of the snapshot. -/
structure EventSpec where
  eventType : String
  severity : Severity
  audience : Audience := .owners
  incidentGeneration : Option Int := none
  incidentStatus : Option IncidentStatus := none
  actions : List ActionSpec := []
  incidentId : Option Nat := none
  scheduledAt : Option Int := none
  explicitRecipientIds : List Nat := []
  deriving Repr

structure Event where
  spec : EventSpec
  dedupeKey : DedupeKey
  createdAt : Int
  deriving Repr

-- ------------------------------------------------------------
-- Does an event match its incident
-- ------------------------------------------------------------

/-- The part of the match that reads the type of the event, the same in the
claim statement and in `_event_matches_incident_state`. -/
def EventSpec.stateMatches (e : EventSpec) (generation : Int) (status : IncidentStatus) : Bool :=
  if e.eventType ∈ ["incident_recovered", "action_confirmed"] then status == .resolved
  else if e.eventType ∈ ["action_failed", "action_unknown", "action_cancelled"] then
    status == .failed
  else if e.eventType = "action_executing" then status == .executing
  else if e.eventType = "incident_acknowledged" then status == .acknowledged
  else if e.eventType = "incident_warning_growth" then
    status == .opened || status == .acknowledged
  else if e.eventType ∈ ["incident_snapshot_reissued", "incident_snapshot_updated"] then
    e.incidentGeneration == some generation && e.incidentStatus == some status
  else status == .opened

/-- `~ '^[1-9][0-9]*$'`, then `::bigint`. -/
def sqlGeneration (payload : Obj) : Option Int :=
  match Obj.text payload "generation" with
  | some text =>
    if PyText.isNumeral text.toList then some (Nat.ofDigitChars 10 text.toList 0 : Nat) else none
  | none => none

/-- `int(target_payload.get("generation"))`; none when it raises. -/
def pyGeneration (payload : Obj) : Option Int :=
  match payload.get? "generation" with
  | some (.bool b) => some (if b then 1 else 0)
  | some (.num m e) => some (if 0 ≤ e then m * 10 ^ e.toNat else m.tdiv (10 ^ (-e).toNat))
  | some (.str s) => PyText.int? s
  | _ => none

def ActionSpec.bindsAck (a : ActionSpec) (incidentId : Nat) (generation : Int)
    (read : Obj → Option Int) : Bool :=
  a.kind != "ack_incident" ||
    (a.targetType == "incident" && a.targetId == toString incidentId &&
      read a.targetPayload == some generation)

def EventSpec.claimMatches (e : EventSpec) (incidentId : Nat) (i : Incident) : Bool :=
  e.stateMatches i.generation i.status &&
    e.actions.all fun a => a.bindsAck incidentId i.generation sqlGeneration

def EventSpec.matchesIncidentState (e : EventSpec) (incidentId : Nat) (i : Incident) : Bool :=
  e.stateMatches i.generation i.status &&
    e.actions.all fun a => a.bindsAck incidentId i.generation pyGeneration

-- ------------------------------------------------------------
-- Recipients and their preferences
-- ------------------------------------------------------------

/-- Quiet hours are times of day in microseconds. -/
structure Recipient where
  chatId : Int
  role : Role := .owner
  revoked : Bool := false
  isEnabled : Bool := true
  timezone : String := "Europe/Kaliningrad"
  minSeverity : String := "warning"
  categories : Obj := []
  quietHoursStart : Option Int := none
  quietHoursEnd : Option Int := none
  deriving Repr

def severityRank : Severity → Nat
  | .ok => 0
  | .warning => 1
  | .critical | .unknown => 2

def severityOf : String → Option Severity
  | "ok" => some .ok
  | "warning" => some .warning
  | "critical" => some .critical
  | "unknown" => some .unknown
  | _ => none

/-- `text in event_type`. -/
def containsText (text value : String) : Bool :=
  value.toList.tails.any fun suffix => text.toList.isPrefixOf suffix

def notificationCategory (eventType : String) (incidentId : Option Nat) : String :=
  if incidentId.isSome then "incidents"
  else if eventType.startsWith "incident_" then "incidents"
  else if eventType.startsWith "action_" then "actions"
  else if containsText "digest" eventType then "digests"
  else if containsText "recommend" eventType || eventType.startsWith "enable_" then
    "recommendations"
  else "system"

def configuredThreshold (categories : Obj) (eventType category : String) : Option Json :=
  (categories.get? eventType <|> categories.get? category) <|> categories.get? "*"

/-- `_preference_threshold`; none when the category is switched off, and where it raises. -/
def preferenceThreshold (categories : Obj) (eventType category : String) (standard : Severity) :
    Option Severity :=
  match configuredThreshold categories eventType category with
  | some (.bool false) | some (.arr _) | some (.obj _) => none
  | some (.str value) => if value = "off" then none else some ((severityOf value).getD standard)
  | _ => some standard

/-- `configured in {None, "inherit"}` raises for what has no hash. -/
def Recipient.unhashable (r : Recipient) (spec : EventSpec) : Bool :=
  match configuredThreshold r.categories spec.eventType
      (notificationCategory spec.eventType spec.incidentId) with
  | some (.arr _) | some (.obj _) => true
  | _ => false

/-- The zone data behind `ZoneInfo`: the offset of an instant, and the instant of
a local time; an unknown name is UTC. -/
structure Zones where
  utcOffset : String → Int → Int
  ofLocal : String → Int → Int

def dayMicros : Int := 86400 * 1000000

def slotOnlyEvents : List String := ["incident_acknowledged", "incident_recovered"]

def quietHoursBypassEvents : List String :=
  ["action_cancelled", "action_confirmed", "action_executing", "action_failed", "action_unknown",
    "incident_acknowledged", "incident_recovered", "incident_snapshot_reissued"]

structure Presence where
  hasIncidentSlot : Bool
  hasIncidentInFlight : Bool
  hasIncidentDelivery : Bool
  deriving DecidableEq, Repr

def quietShift (zones : Zones) (r : Recipient) (base : Int) : Int :=
  match r.quietHoursStart, r.quietHoursEnd with
  | some start, some stop =>
    if start = stop then base
    else
      let shown := base + zones.utcOffset r.timezone base
      let clock := shown % dayMicros
      let wraps : Bool := stop < start
      let quiet : Bool :=
        if wraps then start ≤ clock || clock < stop else start ≤ clock && clock < stop
      if quiet then
        let day := shown / dayMicros + if wraps && start ≤ clock then 1 else 0
        zones.ofLocal r.timezone (day * dayMicros + stop)
      else base
  | _, _ => base

def recipientDeliverySchedule (zones : Zones) (spec : EventSpec) (r : Recipient) (p : Presence)
    (now : Int) : Option Int :=
  let base := spec.scheduledAt.getD now
  let category := notificationCategory spec.eventType spec.incidentId
  let standard := (severityOf r.minSeverity).getD .warning
  match preferenceThreshold r.categories spec.eventType category standard with
  | none => none
  | some threshold =>
    let suppressed : Bool :=
      if spec.eventType ∈ slotOnlyEvents then
        spec.incidentId.isSome && !p.hasIncidentSlot && !p.hasIncidentInFlight &&
          (spec.eventType == "incident_recovered" || !p.hasIncidentDelivery)
      else
        !spec.eventType.startsWith "action_" && spec.eventType != "incident_snapshot_reissued" &&
          severityRank spec.severity < severityRank threshold
    if suppressed then none
    else if spec.severity = .critical ∨ spec.eventType ∈ quietHoursBypassEvents then some base
    else some (quietShift zones r base)

-- ------------------------------------------------------------
-- Deliveries
-- ------------------------------------------------------------

inductive DeliveryState
  | pending
  | leased
  | retry
  | sent
  | dead
  | superseded
  | unknown
  deriving DecidableEq, Repr

inductive OperationKind
  | send
  | edit
  deriving DecidableEq, Repr

/-- A row of `notification_deliveries`; its id is the key it is stored under. -/
structure Delivery where
  eventId : Nat
  recipientId : Nat
  botGeneration : Int
  state : DeliveryState := .pending
  attemptCount : Int := 0
  maxAttempts : Int := 8
  scheduledAt : Int
  leaseOwner : Option String := none
  leaseToken : Option Nat := none
  leaseExpiresAt : Option Int := none
  externalStartedAt : Option Int := none
  externalOperationKind : Option OperationKind := none
  telegramChatId : Int
  telegramMessageId : Option Int := none
  sentAt : Option Int := none
  completedAt : Option Int := none
  lastErrorCode : Option String := none
  lastErrorDetail : Option String := none
  deriving Repr

/-- `state IN ('pending','retry')`. -/
def Delivery.queued (d : Delivery) : Bool :=
  d.state == .pending || d.state == .retry

/-- Work that has not crossed the external boundary. -/
def Delivery.unstarted (d : Delivery) : Bool :=
  d.queued || (d.state == .leased && d.externalStartedAt.isNone)

def Delivery.leasedBy (d : Delivery) (token : Nat) : Bool :=
  d.state == .leased && d.leaseToken == some token

/-- `lease_owner = NULL, lease_token = NULL, lease_expires_at = NULL`. -/
def Delivery.unleased (d : Delivery) : Delivery :=
  { d with leaseOwner := none, leaseToken := none, leaseExpiresAt := none }

/-- The row is closed for good; a detail that is not set is kept. -/
def Delivery.supersede (d : Delivery) (now : Int) (code : String) (detail : Option String) :
    Delivery :=
  { d.unleased with
    state := .superseded
    completedAt := some now
    lastErrorCode := some code
    lastErrorDetail := detail <|> d.lastErrorDetail }

structure Slot where
  lastEventId : Nat
  chatId : Int
  messageId : Int
  incidentGeneration : Int
  deriving DecidableEq, Repr

structure Config where
  isEnabled : Bool := false
  botToken : String := ""
  fingerprint : Option String := none
  webhookOperation : String := "configure"
  webhookState : String := "configured"
  appliedGeneration : Int := 0
  generation : Int := 0
  deriving DecidableEq, Repr

def Config.active (c : Config) : Bool :=
  c.isEnabled && c.botToken != "" && c.fingerprint.isSome && c.webhookOperation == "configure"

def Config.authorizes (c : Config) (generation : Int) (fingerprint : String) : Bool :=
  c.isEnabled && c.botToken != "" && c.fingerprint == some fingerprint &&
    c.webhookOperation == "configure" && c.webhookState == "configured" &&
    c.appliedGeneration == c.generation && c.generation == generation

/-- `ClaimedNotificationDelivery`; the lease token is the key it is stored under. -/
structure Claim where
  deliveryId : Nat
  botGeneration : Int
  attemptCount : Int
  maxAttempts : Int
  recipientId : Nat
  chatId : Int
  eventId : Nat
  event : EventSpec
  incidentGeneration : Option Int
  incidentStatus : Option IncidentStatus
  slotMessageId : Option Int
  deriving Repr

def Claim.incidentId (c : Claim) : Option Nat := c.event.incidentId

structure Outbox where
  now : Int
  incidents : Table Incident
  events : Table Event
  deliveries : Table Delivery
  recipients : Table Recipient
  config : Config
  slots : Nat → Nat → Option Slot
  claims : Table Claim

def Outbox.init : Outbox :=
  { now := 0
    incidents := Table.empty
    events := Table.empty
    deliveries := Table.empty
    recipients := Table.empty
    config := {}
    slots := fun _ _ => none
    claims := Table.empty }

end StopBot.Telegram
