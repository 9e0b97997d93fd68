import StopBot.Telegram.Outbox

/-!
# Enqueue, claim and finalize

The transactions of the outbox, each a step on its tables at the time `now()`
of the transaction. A function that raises is `none` and leaves nothing behind.
A list of operations is an interleaving of writers, delivery workers, the
reconciler and the authorization probe: the transactions are serial, and `now()`
follows the order in which they commit. A change of the configuration leaves the
deliveries alone; that a rotation binds the open ones to its generation is left out.
-/

namespace StopBot.Telegram

open Lib

def unauthorizedCode : String := "telegram_unauthorized"

namespace Outbox

def eventOf (s : Outbox) (d : Delivery) : Option Event :=
  s.events.rows d.eventId

def incidentOf (s : Outbox) (d : Delivery) : Option Nat :=
  (s.eventOf d).bind fun e => e.spec.incidentId

def isCard (s : Outbox) (incident recipient : Nat) (d : Delivery) : Bool :=
  s.incidentOf d == some incident && d.recipientId == recipient

def amend (s : Outbox) (id : Nat) (change : Delivery → Option Delivery) : Outbox :=
  { s with deliveries := s.deliveries.updateAt id change }

-- ------------------------------------------------------------
-- Enqueue
-- ------------------------------------------------------------

def eventWith (s : Outbox) (key : DedupeKey) : Option Nat :=
  (s.events.entries.find? fun entry => entry.2.dedupeKey == key).map fun entry => entry.1

def includes (spec : EventSpec) (id : Nat) (r : Recipient) : Bool :=
  !r.revoked && 0 < r.chatId &&
    match spec.audience with
    | .explicit => spec.explicitRecipientIds.contains id
    | .owners => r.role == .owner
    | .all => true

def addressed (s : Outbox) (spec : EventSpec) : List (Nat × Recipient) :=
  if s.config.active && 0 < s.config.generation then
    s.recipients.entries.filter fun entry => includes spec entry.1 entry.2
  else []

def cards (s : Outbox) (incident : Option Nat) (recipient : Nat) : List (Nat × Delivery) :=
  match incident with
  | some i => s.deliveries.entries.filter fun entry => s.isCard i recipient entry.2
  | none => []

def presence (s : Outbox) (incident : Option Nat) (recipient : Nat) : Presence :=
  let cards := s.cards incident recipient
  { hasIncidentSlot := incident.any fun i => (s.slots i recipient).isSome
    hasIncidentInFlight := cards.any fun entry =>
      entry.2.state == .leased && entry.2.externalStartedAt.isSome
    hasIncidentDelivery := cards.any fun entry => entry.2.queued || entry.2.state == .leased }

/-- The rows an event is delivered by, before `ON CONFLICT DO NOTHING`. -/
def scheduled (zones : Zones) (s : Outbox) (eventId : Nat) (spec : EventSpec) : List Delivery :=
  (s.addressed spec).filterMap fun (id, r) =>
    if r.isEnabled then
      (recipientDeliverySchedule zones spec r (s.presence spec.incidentId id) s.now).map fun at_ =>
        { eventId, recipientId := id, botGeneration := s.config.generation, scheduledAt := at_
          telegramChatId := r.chatId }
    else none

def delivered (s : Outbox) (eventId recipient : Nat) : Bool :=
  s.deliveries.entries.any fun entry =>
    entry.2.eventId == eventId && entry.2.recipientId == recipient

def insertDelivery (s : Outbox) (d : Delivery) : Outbox :=
  if s.delivered d.eventId d.recipientId then s
  else { s with deliveries := s.deliveries.insert d }

/-- The row of an older snapshot that has not crossed the boundary, as it gives
way to the new event. -/
def giveWay (s : Outbox) (incident eventId : Nat) (recipients : List Nat) (d : Delivery) :
    Option Delivery :=
  match s.eventOf d, s.events.rows eventId with
  | some older, some new =>
    if older.spec.incidentId = some incident ∧ d.eventId ≠ eventId ∧ d.recipientId ∈ recipients ∧
        d.unstarted = true ∧ older.createdAt ≤ new.createdAt then
      some (d.supersede s.now "newer_incident_snapshot" none)
    else none
  | _, _ => none

def supersedeOlder (s : Outbox) (incident eventId : Nat) (recipients : List Nat) : Outbox :=
  { s with deliveries := s.deliveries.update fun _ => s.giveWay incident eventId recipients }

def eventFor (s : Outbox) (key : DedupeKey) (spec : EventSpec) : Outbox × Nat × Bool :=
  match s.eventWith key with
  | some id => (s, id, false)
  | none => ({ s with events := s.events.insert ⟨spec, key, s.now⟩ }, s.events.next, true)

/-- `enqueue_notification_in_transaction`. The event of an incident that is not
stored violates the foreign key. -/
def enqueue (zones : Zones) (s : Outbox) (key : DedupeKey) (spec : EventSpec) : Option Outbox :=
  if (spec.audience == .explicit) != !spec.explicitRecipientIds.isEmpty then none
  else if (s.eventWith key).isNone && spec.incidentId.any fun i => (s.incidents.rows i).isNone then
    none
  else if (s.addressed spec).any fun entry => entry.2.isEnabled && entry.2.unhashable spec then none
  else
    let (s, eventId, created) := s.eventFor key spec
    let audience := (s.addressed spec).map fun entry => entry.1
    let s := (scheduled zones s eventId spec).foldl insertDelivery s
    match spec.incidentId, created with
    | some incident, true => some (s.supersedeOlder incident eventId audience)
    | _, _ => some s

def reissueSpec (source : EventSpec) (recipient incident : Nat) (generation : Option Int)
    (status : Option IncidentStatus) : EventSpec :=
  { eventType := "incident_snapshot_reissued"
    severity := source.severity
    audience := .explicit
    incidentGeneration := generation
    incidentStatus := status
    actions := source.actions
    incidentId := some incident
    explicitRecipientIds := [recipient] }

/-- An explicitly named replacement for a card whose fate is not known; a
reissue is not itself reissued here. -/
def reissue (zones : Zones) (s : Outbox) (sourceEvent : Nat) (source : EventSpec)
    (recipient : Nat) (generation : Option Int) (status : Option IncidentStatus) :
    Option Outbox :=
  match source.incidentId with
  | some incident =>
    s.enqueue zones (.reissue sourceEvent recipient)
      (reissueSpec source recipient incident generation status)
  | none => some s

-- ------------------------------------------------------------
-- Incidents
-- ------------------------------------------------------------

def authIncidentKey : String := "telegram:bot-auth"

def activeIncident (s : Outbox) (key : String) : Option Nat :=
  (s.incidents.entries.find? fun entry =>
    entry.2.incidentKey == key && entry.2.status.active).map fun entry => entry.1

/-- A transition and its lifecycle event, in one transaction. The unique index
allows one active incident of a key. -/
def transition (zones : Zones) (s : Outbox) (incident : Nat) (generation : Int)
    (status : IncidentStatus) (key : DedupeKey) (spec : EventSpec) : Option Outbox :=
  match s.incidents.rows incident with
  | none => none
  | some was =>
    if status.active && (s.activeIncident was.incidentKey).any fun other => other != incident then
      none
    else
      let moved := { s with
        incidents := s.incidents.updateAt incident fun i =>
          some { i with generation := generation, status := status } }
      moved.enqueue zones key { spec with incidentId := some incident }

def openIncident (zones : Zones) (s : Outbox) (i : Incident) (key : DedupeKey)
    (spec : EventSpec) : Option Outbox :=
  if i.status.active && (s.activeIncident i.incidentKey).isSome then none
  else
    let opened := { s with incidents := s.incidents.insert i }
    opened.enqueue zones key { spec with incidentId := some s.incidents.next }

/-- `COALESCE(MAX(generation) + 1, 1)`. -/
def nextGeneration (s : Outbox) (key : String) : Int :=
  (s.incidents.entries.filter fun entry => entry.2.incidentKey == key).foldl
    (fun best entry => max best (entry.2.generation + 1)) 1

/-- `open_telegram_auth_incident_in_transaction`; an active incident only gets new facts. -/
def openAuthIncident (zones : Zones) (s : Outbox) : Option Outbox :=
  if (s.activeIncident authIncidentKey).isSome then some s
  else
    let generation := s.nextGeneration authIncidentKey
    s.openIncident zones ⟨authIncidentKey, generation, .opened⟩
      (.authOpen s.incidents.next generation)
      { eventType := "incident_telegram_auth_failed", severity := .critical, audience := .all
        incidentGeneration := some generation, incidentStatus := some .opened }

def authRecovered (generation : Int) : EventSpec :=
  { eventType := "incident_recovered", severity := .ok, audience := .all
    incidentGeneration := some generation, incidentStatus := some .resolved }

def resolveAuthIncident (zones : Zones) (s : Outbox) : Option Outbox :=
  match s.activeIncident authIncidentKey with
  | none => some s
  | some id =>
    match s.incidents.rows id with
    | none => some s
    | some i =>
      s.transition zones id i.generation .resolved (.authResolved id i.generation)
        (authRecovered i.generation)

-- ------------------------------------------------------------
-- Claim
-- ------------------------------------------------------------

structure ClaimRequest where
  workerId : String
  gatewayGeneration : Int
  fingerprint : String
  leaseSeconds : Int := 60
  deriving DecidableEq, Repr

def retireStaleGeneration (s : Outbox) : Outbox :=
  { s with deliveries := s.deliveries.update fun _ d =>
      if d.queued && !(s.config.active && s.config.generation == d.botGeneration) then
        some (d.supersede s.now "stale_bot_generation"
          (some "Telegram bot generation is no longer authoritative"))
      else none }

def older (s : Outbox) (a b : Nat × Delivery) : Bool :=
  match s.eventOf a.2, s.eventOf b.2 with
  | some ea, some eb => ea.createdAt < eb.createdAt || (ea.createdAt == eb.createdAt && a.1 < b.1)
  | _, _ => false

def matchesNow (s : Outbox) (d : Delivery) : Bool :=
  (s.eventOf d).any fun e =>
    match e.spec.incidentId with
    | none => true
    | some i => (s.incidents.rows i).any fun incident => e.spec.claimMatches i incident

def receives (s : Outbox) (d : Delivery) : Bool :=
  (s.recipients.rows d.recipientId).any fun r =>
    !r.revoked && 0 < r.chatId && r.isEnabled &&
      (s.eventOf d).any fun e => e.spec.audience != .owners || r.role == .owner

/-- No card of the incident is in flight to the recipient, and none waits before this one. -/
def inTurn (s : Outbox) (id : Nat) (d : Delivery) : Bool :=
  match s.incidentOf d with
  | none => true
  | some i => !s.deliveries.entries.any fun entry =>
      s.isCard i d.recipientId entry.2 &&
        (entry.2.state == .leased || (entry.2.queued && s.older entry (id, d)))

def claimable (s : Outbox) (gatewayGeneration : Int) (entry : Nat × Delivery) : Bool :=
  entry.2.queued && entry.2.scheduledAt ≤ s.now && entry.2.botGeneration == gatewayGeneration &&
    s.receives entry.2 && s.matchesNow entry.2 && (s.activeIncident authIncidentKey).isNone &&
    s.inTurn entry.1 entry.2

/-- `ORDER BY d.scheduled_at, d.id`. -/
def dueBefore (a b : Nat × Delivery) : Bool :=
  if a.2.scheduledAt ≠ b.2.scheduledAt then a.2.scheduledAt < b.2.scheduledAt else a.1 < b.1

def leaseRow (req : ClaimRequest) (token : Nat) (now : Int) (d : Delivery) : Delivery :=
  { d with
    state := .leased
    leaseOwner := some (PyText.clip 96 req.workerId)
    leaseToken := some token
    leaseExpiresAt := some (now + req.leaseSeconds * 1000000)
    attemptCount := d.attemptCount + 1
    externalStartedAt := none
    externalOperationKind := none }

def claimOf (s : Outbox) (id : Nat) (d : Delivery) (e : Event) : Claim :=
  let incident := e.spec.incidentId.bind s.incidents.rows
  { deliveryId := id
    botGeneration := d.botGeneration
    attemptCount := d.attemptCount + 1
    maxAttempts := d.maxAttempts
    recipientId := d.recipientId
    chatId := ((s.recipients.rows d.recipientId).map fun r => r.chatId).getD 0
    eventId := d.eventId
    event := e.spec
    incidentGeneration := incident.map fun i => i.generation
    incidentStatus := incident.map fun i => i.status
    slotMessageId :=
      (e.spec.incidentId.bind fun i => s.slots i d.recipientId).map fun slot => slot.messageId }

/-- The row a claim takes; `locked` are the rows of other transactions. -/
def candidate (s : Outbox) (req : ClaimRequest) (locked : List Nat) : Option (Nat × Delivery) :=
  if s.config.authorizes req.gatewayGeneration req.fingerprint then
    Sql.first dueBefore (s.deliveries.entries.filter fun entry =>
      s.claimable req.gatewayGeneration entry && !locked.contains entry.1)
  else none

/-- `claim_notification_delivery`; the lease token is the key of the new claim. -/
def claim (s : Outbox) (req : ClaimRequest) (locked : List Nat) : Option Outbox :=
  if req.workerId = "" ∨ req.leaseSeconds < 5 ∨ req.gatewayGeneration ≤ 0 then none
  else
    let s := s.retireStaleGeneration
    match s.candidate req locked with
    | none => some s
    | some (id, d) =>
      match s.eventOf d with
      | none => some s
      | some e =>
        let leased := s.amend id fun row => some (leaseRow req s.claims.next s.now row)
        some { leased with claims := s.claims.insert (s.claimOf id d e) }

-- ------------------------------------------------------------
-- Boundary
-- ------------------------------------------------------------

inductive Started
  | ready
  | superseded
  | lost
  deriving DecidableEq, Repr

def heldRow (s : Outbox) (token : Nat) (c : Claim) : Option Delivery :=
  (s.deliveries.rows c.deliveryId).filter fun d => d.leasedBy token

/-- The event still matches, as Python reads it; without an incident there is nothing to match. -/
def isCurrent (s : Outbox) (c : Claim) : Bool :=
  match c.incidentId with
  | none => true
  | some i => (s.incidents.rows i).any fun incident => c.event.matchesIncidentState i incident

def externalStarted (s : Outbox) (token : Nat) (c : Claim) (kind : OperationKind)
    (gatewayGeneration : Int) (fingerprint : String) : Outbox × Started :=
  let row := s.heldRow token c
  if !s.isCurrent c then
    match row with
    | some _ =>
      (s.amend c.deliveryId fun d => some (d.supersede s.now "stale_incident_snapshot"
        (some "Incident changed before Telegram boundary")), .superseded)
    | none =>
      let superseded := (s.deliveries.rows c.deliveryId).any fun d => d.state == .superseded
      (s, if superseded then .superseded else .lost)
  else if !(s.config.authorizes gatewayGeneration fingerprint &&
      s.config.generation == c.botGeneration) then
    if row.any fun d => d.externalStartedAt.isNone then
      (s.amend c.deliveryId fun d => some (d.supersede s.now "stale_bot_generation"
        (some "Telegram credential changed before external boundary")), .superseded)
    else (s, .lost)
  else if row.any fun d => d.leaseExpiresAt.any fun expires => s.now < expires then
    (s.amend c.deliveryId fun d => some
      { d with
        externalStartedAt := d.externalStartedAt <|> some s.now
        externalOperationKind := some kind }, .ready)
  else (s, .lost)

-- ------------------------------------------------------------
-- Finalizers
-- ------------------------------------------------------------

def sent (s : Outbox) (token : Nat) (c : Claim) (messageId : Int) : Option Outbox :=
  if messageId ≤ 0 then none
  else if (s.heldRow token c).any fun d => d.externalStartedAt.isSome then
    let closed := s.amend c.deliveryId fun d => some
      { d.unleased with
        state := .sent
        telegramChatId := c.chatId
        telegramMessageId := some messageId
        sentAt := some s.now
        completedAt := some s.now
        lastErrorCode := none
        lastErrorDetail := none }
    some { closed with
      slots := fun i r =>
        if c.incidentId = some i ∧ r = c.recipientId then
          some ⟨c.eventId, c.chatId, messageId, c.incidentGeneration.getD 1⟩
        else s.slots i r }
  else some s

inductive FailureKind
  | rateLimited
  | unauthorized
  | forbidden
  | invalidRequest
  | notFound
  | transient
  | unknown
  deriving DecidableEq, Repr

def FailureKind.value : FailureKind → String
  | .rateLimited => "rate_limited"
  | .unauthorized => "unauthorized"
  | .forbidden => "forbidden"
  | .invalidRequest => "invalid_request"
  | .notFound => "not_found"
  | .transient => "transient"
  | .unknown => "unknown"

/-- `TelegramGatewayError`; `retry_after` is in microseconds. -/
structure GatewayError where
  method : String
  kind : FailureKind
  retryAfter : Option Int := none
  description : String := ""
  deriving DecidableEq, Repr

structure FailureDecision where
  state : DeliveryState
  scheduledAt : Option Int := none
  errorCode : String
  disableRecipientDelivery : Bool := false
  deriving DecidableEq, Repr

def decideDeliveryFailure (error : GatewayError) (attemptCount maxAttempts now : Int) :
    FailureDecision :=
  let code := "telegram_" ++ error.kind.value
  match error.kind with
  | .unknown => { state := .unknown, errorCode := code }
  | .forbidden => { state := .dead, errorCode := code, disableRecipientDelivery := true }
  | .unauthorized =>
    { state := .retry, scheduledAt := some (now + 5 * 60 * 1000000), errorCode := code }
  | .invalidRequest | .notFound => { state := .dead, errorCode := code }
  | .rateLimited =>
    { state := .retry, scheduledAt := some (now + error.retryAfter.getD 5000000),
      errorCode := code }
  | .transient =>
    if maxAttempts ≤ attemptCount then
      { state := .dead, errorCode := "telegram_attempts_exhausted" }
    else
      let delay := min (5 * 2 ^ (attemptCount - 1).toNat) 900
      { state := .retry, scheduledAt := some (now + delay * 1000000), errorCode := code }

def failureDetail (error : GatewayError) : String :=
  PyText.clip 500 (if error.description = "" then error.kind.value else error.description)

/-- The row of a failed attempt. -/
def Delivery.fail (d : Delivery) (now : Int) (decision : FailureDecision) (detail : String) :
    Delivery :=
  { d.unleased with
    state := decision.state
    scheduledAt := decision.scheduledAt.getD d.scheduledAt
    completedAt :=
      if decision.state = .dead ∨ decision.state = .unknown then some now else none
    lastErrorCode := some decision.errorCode
    lastErrorDetail := some detail }

def retireBacklog (s : Outbox) (recipient : Nat) (code detail : String) : Outbox :=
  { s with deliveries := s.deliveries.update fun _ d =>
      if d.recipientId == recipient && d.unstarted then some (d.supersede s.now code (some detail))
      else none }

def disableRecipientDelivery (s : Outbox) (recipient : Nat) : Outbox :=
  { s with recipients := s.recipients.updateAt recipient fun r => some { r with isEnabled := false }
    }.retireBacklog recipient "recipient_delivery_forbidden"
      "Telegram recipient blocked delivery; operator access is preserved"

/-- What a 401 prepares before its row is written: the authorization incident,
or, when the credential is no longer the current one, nothing. -/
def prepareFailure (zones : Zones) (s : Outbox) (c : Claim) (error : GatewayError)
    (fingerprint : Option String) : Option (Outbox × FailureDecision × String) :=
  let decision := decideDeliveryFailure error c.attemptCount c.maxAttempts s.now
  if error.kind = .unauthorized then
    if 0 < c.botGeneration && fingerprint.any fun f => s.config.authorizes c.botGeneration f then
      (s.openAuthIncident zones).map fun opened => (opened, decision, failureDetail error)
    else
      some (s, { state := .dead, errorCode := "stale_bot_generation" },
        "Telegram credential changed before 401 persistence")
  else some (s, decision, failureDetail error)

def staleAfterFailure (s : Outbox) (c : Claim) (error : GatewayError) (decision : FailureDecision) :
    Bool :=
  c.incidentId.isSome && decision.state == .retry && error.kind != .unauthorized && !s.isCurrent c

def reissuesAfterFailure (c : Claim) (error : GatewayError) (decision : FailureDecision) : Bool :=
  decision.state == .unknown && c.event.eventType != "incident_snapshot_reissued" &&
    ["sendMessage", "finalizeDelivery"].contains error.method

def reissueAfterFailure (zones : Zones) (s : Outbox) (c : Claim) (error : GatewayError)
    (decision : FailureDecision) : Option Outbox :=
  if reissuesAfterFailure c error decision then
    s.reissue zones c.eventId c.event c.recipientId c.incidentGeneration c.incidentStatus
  else some s

/-- `mark_delivery_failure`. Without the lease nothing is written, what a 401
prepared included. -/
def failure (zones : Zones) (s : Outbox) (token : Nat) (c : Claim) (error : GatewayError)
    (fingerprint : Option String) : Option Outbox :=
  (s.prepareFailure zones c error fingerprint).bind fun (prepared, decision, detail) =>
    if (s.heldRow token c).isNone then some s
    else if s.staleAfterFailure c error decision then
      some (s.amend c.deliveryId fun d => some (d.supersede s.now
        "stale_incident_snapshot_after_failure" (some detail)))
    else
      let failed := prepared.amend c.deliveryId fun d =>
        some (Delivery.fail d s.now decision detail)
      (failed.reissueAfterFailure zones c error decision).map fun reissued =>
        if decision.disableRecipientDelivery then reissued.disableRecipientDelivery c.recipientId
        else reissued

/-- `mark_delivery_superseded`, with the reissue of its worker or without. -/
def superseded (zones : Zones) (s : Outbox) (token : Nat) (c : Claim) (reason : String)
    (withReissue : Bool) : Option Outbox :=
  if (s.heldRow token c).isNone then some s
  else
    let closed := s.amend c.deliveryId fun d => some (d.supersede s.now
      "incident_snapshot_reissued" (some (PyText.clip 500 reason)))
    if withReissue then
      closed.reissue zones c.eventId c.event c.recipientId c.incidentGeneration c.incidentStatus
    else some closed

-- ------------------------------------------------------------
-- Recovery
-- ------------------------------------------------------------

def Delivery.expired (d : Delivery) (now : Int) : Bool :=
  d.state == .leased && d.leaseExpiresAt.any fun expires => expires ≤ now

def Delivery.returns (d : Delivery) (now : Int) : Bool :=
  Delivery.expired d now &&
    (d.externalStartedAt.isNone || d.externalOperationKind == some .edit)

/-- The lease ran out after a send had started. -/
def Delivery.ambiguous (d : Delivery) (now : Int) : Bool :=
  Delivery.expired d now && d.externalStartedAt.isSome && d.externalOperationKind == some .send

def expireRow (now : Int) (d : Delivery) : Option Delivery :=
  if Delivery.returns d now then
    some { d.unleased with
      state := .retry
      scheduledAt := now
      lastErrorCode := some "lease_expired_before_external_call" }
  else if Delivery.ambiguous d now then
    some { d.unleased with
      state := .unknown
      completedAt := some now
      lastErrorCode := some "lease_expired_after_external_call"
      lastErrorDetail := some "Delivery result is ambiguous; automatic resend disabled" }
  else none

def reissueExpired (zones : Zones) (s : Outbox) (d : Delivery) : Option Outbox :=
  match s.eventOf d with
  | none => some s
  | some e =>
    if e.spec.eventType = "incident_snapshot_reissued" then some s
    else
      let incident := e.spec.incidentId.bind s.incidents.rows
      s.reissue zones d.eventId e.spec d.recipientId (incident.map fun i => i.generation)
        (incident.map fun i => i.status)

def reconcile (zones : Zones) (s : Outbox) : Option Outbox :=
  let ambiguous := s.deliveries.entries.filter fun entry => Delivery.ambiguous entry.2 s.now
  let expired := { s with deliveries := s.deliveries.update fun _ => expireRow s.now }
  ambiguous.foldlM (fun s entry => s.reissueExpired zones entry.2) expired

/-- `refresh_telegram_auth_gate`, after `getMe` confirmed the credential. -/
def refreshAuthGate (zones : Zones) (s : Outbox) : Option Outbox :=
  (s.resolveAuthIncident zones).map fun s =>
    { s with deliveries := s.deliveries.update fun _ d =>
        if (d.state == .retry || d.state == .dead) &&
            d.lastErrorCode == some "telegram_unauthorized" then
          some { d with
            state := .retry
            scheduledAt := s.now
            completedAt := none
            lastErrorDetail := some "Authentication confirmed; retry enabled" }
        else none }

-- ------------------------------------------------------------
-- Operations
-- ------------------------------------------------------------

inductive Op
  | transition (incident : Nat) (generation : Int) (status : IncidentStatus) (key : String)
      (spec : EventSpec)
  | openIncident (incident : Incident) (key : String) (spec : EventSpec)
  | enqueue (key : String) (spec : EventSpec)
  | claim (req : ClaimRequest) (locked : List Nat)
  | externalStarted (token : Nat) (kind : OperationKind) (gatewayGeneration : Int)
      (fingerprint : String)
  | sent (token : Nat) (messageId : Int)
  | failure (token : Nat) (error : GatewayError) (fingerprint : Option String)
  | superseded (token : Nat) (reason : String) (withReissue : Bool)
  | reconcile
  | refreshAuthGate
  | authProbeFailed
  | addRecipient (r : Recipient)
  | setRecipient (id : Nat) (r : Recipient)
  | retireBacklog (recipient : Nat) (code detail : String)
  | configure (config : Config)
  deriving Repr

/-- An operation of a lease token that was never handed out does nothing. -/
def apply (zones : Zones) (s : Outbox) : Op → Option Outbox
  | .transition incident generation status key spec =>
    s.transition zones incident generation status (.text key) spec
  | .openIncident i key spec => s.openIncident zones i (.text key) spec
  | .enqueue key spec => s.enqueue zones (.text key) spec
  | .claim req locked => s.claim req locked
  | .externalStarted token kind generation fingerprint =>
    (s.claims.rows token).map fun c => (s.externalStarted token c kind generation fingerprint).1
  | .sent token messageId => (s.claims.rows token).bind fun c => s.sent token c messageId
  | .failure token error fingerprint =>
    (s.claims.rows token).bind fun c => s.failure zones token c error fingerprint
  | .superseded token reason withReissue =>
    (s.claims.rows token).bind fun c => s.superseded zones token c reason withReissue
  | .reconcile => s.reconcile zones
  | .refreshAuthGate => s.refreshAuthGate zones
  | .authProbeFailed => s.openAuthIncident zones
  | .addRecipient r => some { s with recipients := s.recipients.insert r }
  | .setRecipient id r => some { s with recipients := s.recipients.updateAt id fun _ => some r }
  | .retireBacklog recipient code detail => some (s.retireBacklog recipient code detail)
  | .configure config => some { s with config := config }

def passes (s : Outbox) (elapsed : Nat) : Outbox :=
  { s with now := s.now + elapsed }

/-- The clock moves and the operation runs; an operation that raises is rolled back. -/
def step (zones : Zones) (s : Outbox) (e : Nat × Op) : Outbox :=
  let s := s.passes e.1
  (s.apply zones e.2).getD s

end Outbox

open Outbox in
theorem decideDeliveryFailure_state (error : GatewayError) (attempts maxAttempts now : Int) :
    let decision := decideDeliveryFailure error attempts maxAttempts now
    decision.state = .retry ∨ decision.state = .unknown ∨
      decision.state = .dead ∧ decision.errorCode ≠ unauthorizedCode := by
  have hcode : ∀ kind : FailureKind, kind ≠ .unauthorized →
      "telegram_" ++ kind.value ≠ unauthorizedCode := by
    intro kind
    cases kind <;> decide
  unfold decideDeliveryFailure
  cases error.kind with
  | transient =>
    dsimp only
    split
    · exact .inr (.inr ⟨rfl, by decide⟩)
    · exact .inl rfl
  | rateLimited => exact .inl rfl
  | unauthorized => exact .inl rfl
  | unknown => exact .inr (.inl rfl)
  | forbidden => exact .inr (.inr ⟨rfl, hcode _ (by decide)⟩)
  | invalidRequest => exact .inr (.inr ⟨rfl, hcode _ (by decide)⟩)
  | notFound => exact .inr (.inr ⟨rfl, hcode _ (by decide)⟩)

end StopBot.Telegram
