import StopBot.Tasks.Row
import StopBot.Telegram.Deliveries

/-!
# Webhook updates and the replies to them

The statements of `core/telegram/update_inbox.py` and `core/telegram/command_replies.py`.
A webhook stores an update under the generation of the bot; a worker leases it,
runs the handler and, in one transaction, stores the replies and finishes the
update. A delivery worker leases each reply, marks the boundary and sends it.
The key of a stored claim is its lease token.
-/

namespace StopBot.Telegram

open Lib
open Tasks (Clock seconds)
open Outbox (FailureKind GatewayError decideDeliveryFailure)

/-- The generation is the one whose webhook is applied. -/
def Config.webhookAt (c : Config) (generation : Int) : Bool :=
  c.isEnabled && c.botToken != "" && c.webhookOperation == "configure" &&
    c.webhookState == "configured" &&
    c.appliedGeneration == c.generation && c.generation == generation

-- ------------------------------------------------------------
-- The inbox
-- ------------------------------------------------------------

inductive UpdateState
  | pending
  | leased
  | retry
  | processed
  | dead
  deriving DecidableEq, Repr

/-- A row of `telegram_updates_inbox`; `(bot_generation, update_id)` is its key. -/
structure UpdateRow where
  botGeneration : Int
  updateId : Int
  payload : Obj
  state : UpdateState := .pending
  attemptCount : Int := 0
  scheduledAt : Int
  leaseToken : Option Nat := none
  leaseExpiresAt : Option Int := none
  processedAt : Option Int := none
  lastErrorCode : Option String := none
  lastErrorDetail : Option String := none
  deriving Repr

def UpdateRow.queued (u : UpdateRow) : Bool :=
  u.state == .pending || u.state == .retry

/-- `state = 'leased' AND lease_token = :lease_token`. -/
def UpdateRow.leasedBy (u : UpdateRow) (token : Nat) : Bool :=
  u.state == .leased && u.leaseToken == some token

def UpdateRow.live (u : UpdateRow) (wall : Int) : Bool :=
  u.leaseExpiresAt.any fun expires => wall < expires

def UpdateRow.expired (u : UpdateRow) (now : Int) : Bool :=
  u.state == .leased && u.leaseExpiresAt.any fun expires => expires ≤ now

def UpdateRow.unleased (u : UpdateRow) : UpdateRow :=
  { u with leaseToken := none, leaseExpiresAt := none }

def UpdateRow.stale (u : UpdateRow) (now : Int) : UpdateRow :=
  { u.unleased with
    state := .dead
    processedAt := some now
    lastErrorCode := some "stale_bot_generation"
    lastErrorDetail := some "Webhook generation is no longer authoritative" }

def UpdateRow.processed (u : UpdateRow) (now : Int) : UpdateRow :=
  { u.unleased with state := .processed, processedAt := some now, lastErrorCode := none,
                    lastErrorDetail := none }

def UpdateRow.lease (u : UpdateRow) (token : Nat) (leaseSeconds now : Int) : UpdateRow :=
  { u with
    state := .leased
    leaseToken := some token
    leaseExpiresAt := some (now + seconds leaseSeconds)
    attemptCount := u.attemptCount + 1 }

def UpdateRow.refresh (u : UpdateRow) (now : Int) : UpdateRow :=
  { u.unleased with
    state := .retry
    scheduledAt := now
    lastErrorCode := some "gateway_generation_mismatch"
    lastErrorDetail := some "Worker gateway refresh required" }

/-- `ClaimedTelegramUpdate`, with the credential of the gateway it was claimed for. -/
structure UpdateClaim where
  row : Nat
  botGeneration : Int
  updateId : Int
  payload : Obj
  attemptCount : Int
  fingerprint : String
  deriving Repr

def updateStored (updates : Table UpdateRow) (generation updateId : Int) : Bool :=
  updates.entries.any fun entry =>
    entry.2.botGeneration == generation && entry.2.updateId == updateId

/-- `persist_telegram_update`; none when the generation is refused. -/
def persistTelegramUpdate (c : Config) (now generation updateId : Int) (payload : Obj)
    (updates : Table UpdateRow) : Option (Table UpdateRow) :=
  if 0 < generation ∧ c.webhookAt generation = true then
    some (if updateStored updates generation updateId then updates
      else updates.insert { botGeneration := generation, updateId, payload, scheduledAt := now })
  else none

def retireQueuedUpdates (c : Config) (now : Int) (updates : Table UpdateRow) : Table UpdateRow :=
  updates.update fun _ u => if u.queued && !c.webhookAt u.botGeneration then
    some (u.stale now) else none

/-- `ORDER BY bot_generation, update_id`. -/
def updateBefore (a b : Nat × UpdateRow) : Bool :=
  if a.2.botGeneration ≠ b.2.botGeneration then a.2.botGeneration < b.2.botGeneration
  else a.2.updateId < b.2.updateId

/-- The update a claim takes; `locked` are the rows of other transactions. -/
def updateCandidate (c : Config) (authIncident : Bool) (now : Int) (locked : List Nat)
    (updates : Table UpdateRow) : Option (Nat × UpdateRow) :=
  Sql.first updateBefore (updates.entries.filter fun entry =>
    entry.2.queued && c.webhookAt entry.2.botGeneration && entry.2.scheduledAt ≤ now &&
      !authIncident &&
      !locked.contains entry.1)

/-- What `mark_telegram_update_failed` decides before its transaction. -/
structure UpdateFailure where
  isDead : Bool
  delay : Int
  errorCode : String
  errorDetail : String
  opensAuthIncident : Bool := false
  deriving DecidableEq, Repr

def updateFailure (attemptCount : Int) (errorCode errorDetail : String)
    (error : Option GatewayError) :
    UpdateFailure :=
  let exhausted := decide (5 ≤ attemptCount)
  let delay := seconds (min (2 ^ (attemptCount - 1).toNat) 60)
  match error with
  | none => { isDead := exhausted, delay, errorCode, errorDetail }
  | some e =>
    let code := "telegram_" ++ e.kind.value
    let detail := if e.description = "" then e.kind.value else e.description
    match e.kind with
    | .rateLimited =>
      { isDead := false, delay := e.retryAfter.getD 5000000, errorCode := code,
        errorDetail := detail }
    | .unauthorized =>
      { isDead := false, delay := seconds 300, errorCode := code, errorDetail := detail
        opensAuthIncident := true }
    | .forbidden | .invalidRequest | .notFound | .unknown =>
      { isDead := true, delay, errorCode := code, errorDetail := detail }
    | .transient => { isDead := exhausted, delay, errorCode := code, errorDetail := detail }

def UpdateFailure.fenced (f : UpdateFailure) (current : Bool) : UpdateFailure :=
  if f.opensAuthIncident && !current then
    { f with isDead := true, errorCode := "stale_bot_generation", opensAuthIncident := false
             errorDetail := "Telegram credential changed before 401 persistence" }
  else f

def UpdateRow.fail (u : UpdateRow) (now : Int) (f : UpdateFailure) : UpdateRow :=
  { u.unleased with
    state := if f.isDead then .dead else .retry
    scheduledAt := if f.isDead then u.scheduledAt else now + f.delay
    processedAt := if f.isDead then some now else none
    lastErrorCode := some (PyText.clip 64 f.errorCode)
    lastErrorDetail := some (PyText.clip 500 f.errorDetail) }

/-- `reconcile_expired_update_leases`, on one row. -/
def UpdateRow.reconcile (c : Config) (now : Int) (u : UpdateRow) : Option UpdateRow :=
  if u.expired now then
    if c.webhookAt u.botGeneration then
      some { u.unleased with state := .retry, scheduledAt := now,
                             lastErrorCode := some "lease_expired" }
    else some (u.stale now)
  else none

/-- `refresh_telegram_auth_gate`, on one row of the inbox. -/
def UpdateRow.reopen (now : Int) (u : UpdateRow) : Option UpdateRow :=
  if (u.state = .retry ∨ u.state = .dead) ∧ u.lastErrorCode = some unauthorizedCode then
    some { u with
      state := .retry, scheduledAt := now, processedAt := none
      lastErrorDetail := some "Authentication confirmed; retry enabled" }
  else none

-- ------------------------------------------------------------
-- The replies
-- ------------------------------------------------------------

/-- `QueuedTelegramCommandReply`; its ordinal is its place in the list. -/
structure QueuedReply where
  chatId : Int
  text : String
  parseMode : Option String := some "HTML"
  replyToMessageId : Option Int := none
  replyMarkup : Option Obj := none
  deriving Repr

inductive ReplyState
  | pending
  | leased
  | retry
  | sent
  | dead
  | unknown
  deriving DecidableEq, Repr

/-- A row of `telegram_command_replies`; its id is the key it is stored under. -/
structure CommandReply where
  botGeneration : Int
  updateId : Int
  ordinal : Nat
  reply : QueuedReply
  state : ReplyState := .pending
  attemptCount : Int := 0
  maxAttempts : Int := 8
  scheduledAt : Int
  leaseToken : Option Nat := none
  leaseExpiresAt : Option Int := none
  externalStartedAt : Option Int := none
  telegramMessageId : Option Int := none
  completedAt : Option Int := none
  lastErrorCode : Option String := none
  lastErrorDetail : Option String := none
  deriving Repr

def CommandReply.queued (d : CommandReply) : Bool :=
  d.state == .pending || d.state == .retry

def CommandReply.leasedBy (d : CommandReply) (token : Nat) : Bool :=
  d.state == .leased && d.leaseToken == some token

def CommandReply.live (d : CommandReply) (wall : Int) : Bool :=
  d.leaseExpiresAt.any fun expires => wall < expires

def CommandReply.unleased (d : CommandReply) : CommandReply :=
  { d with leaseToken := none, leaseExpiresAt := none }

def CommandReply.stale (d : CommandReply) (now : Int) (detail : String) : CommandReply :=
  { d.unleased with
    state := .dead
    completedAt := some now
    lastErrorCode := some "stale_bot_generation"
    lastErrorDetail := some detail }

def CommandReply.lease (d : CommandReply) (token : Nat) (leaseSeconds now : Int) : CommandReply :=
  { d with
    state := .leased
    leaseToken := some token
    leaseExpiresAt := some (now + seconds leaseSeconds)
    attemptCount := d.attemptCount + 1
    externalStartedAt := none }

/-- `ClaimedTelegramCommandReply`, with the gateway it was claimed for. -/
structure ReplyClaim where
  replyId : Nat
  botGeneration : Int
  attemptCount : Int
  maxAttempts : Int
  reply : QueuedReply
  gatewayGeneration : Int
  fingerprint : String
  deriving Repr

def replyStored (replies : Table CommandReply) (generation updateId : Int) (ordinal : Nat) : Bool :=
  replies.entries.any fun entry =>
    entry.2.botGeneration == generation && entry.2.updateId == updateId &&
      entry.2.ordinal == ordinal

/-- `INSERT … ON CONFLICT (bot_generation, update_id, ordinal) DO NOTHING`, from one ordinal on. -/
def insertReplies (now generation updateId : Int) :
    Nat → List QueuedReply → Table CommandReply → Table CommandReply
  | _, [], replies => replies
  | ordinal, reply :: rest, replies =>
    insertReplies now generation updateId (ordinal + 1) rest
      (if replyStored replies generation updateId ordinal then replies
        else replies.insert { botGeneration := generation, updateId, ordinal, reply,
                              scheduledAt := now })

def retireQueuedReplies (c : Config) (now : Int) (replies : Table CommandReply) :
    Table CommandReply :=
  replies.update fun _ d =>
    if d.queued && !c.webhookAt d.botGeneration then
      some (d.stale now "Webhook generation is no longer authoritative")
    else none

/-- `ORDER BY scheduled_at, id`. -/
def replyBefore (a b : Nat × CommandReply) : Bool :=
  if a.2.scheduledAt ≠ b.2.scheduledAt then a.2.scheduledAt < b.2.scheduledAt else a.1 < b.1

def replyCandidate (c : Config) (authIncident : Bool) (gatewayGeneration : Int)
    (fingerprint : String)
    (now : Int) (locked : List Nat) (replies : Table CommandReply) : Option (Nat × CommandReply) :=
  if c.authorizes gatewayGeneration fingerprint then
    Sql.first replyBefore (replies.entries.filter fun entry =>
      entry.2.queued && entry.2.scheduledAt ≤ now && !authIncident &&
        entry.2.botGeneration == gatewayGeneration && !locked.contains entry.1)
  else none

def CommandReply.fail (d : CommandReply) (now : Int) (state : ReplyState) (scheduledAt : Option Int)
    (errorCode errorDetail : String) : CommandReply :=
  { d.unleased with
    state
    scheduledAt := scheduledAt.getD d.scheduledAt
    completedAt := if state = .dead ∨ state = .unknown then some now else none
    lastErrorCode := some errorCode
    lastErrorDetail := some errorDetail }

def CommandReply.sent (d : CommandReply) (now messageId : Int) : CommandReply :=
  { d.unleased with
    state := .sent
    telegramMessageId := some messageId
    completedAt := some now
    lastErrorCode := none
    lastErrorDetail := none }

/-- `reconcile_expired_command_reply_leases`, on one row: before the boundary the
reply goes back to the queue, after it nobody knows. -/
def CommandReply.reconcile (now : Int) (d : CommandReply) : Option CommandReply :=
  if d.state = .leased ∧ (d.leaseExpiresAt.any fun expires => expires ≤ now) = true then
    if d.externalStartedAt = none then
      some { d.unleased with
        state := .retry, scheduledAt := now, lastErrorCode := some "lease_expired_before_send"
        lastErrorDetail := some "Worker lease expired before Telegram boundary" }
    else
      some { d.unleased with
        state := .unknown, completedAt := some now
        lastErrorCode := some "ambiguous_send_after_lease_expiry"
        lastErrorDetail := some "sendMessage may have succeeded; automatic replay is forbidden" }
  else none

/-- `refresh_telegram_auth_gate`, on one reply. -/
def CommandReply.reopen (now : Int) (d : CommandReply) : Option CommandReply :=
  if (d.state = .retry ∨ d.state = .dead) ∧ d.lastErrorCode = some unauthorizedCode then
    some { d with
      state := .retry, scheduledAt := now, completedAt := none
      lastErrorDetail := some "Authentication confirmed; retry enabled" }
  else none

def replyStateOf : DeliveryState → ReplyState
  | .retry => .retry
  | .unknown => .unknown
  | .dead | .pending | .leased | .sent | .superseded => .dead

-- ------------------------------------------------------------
-- The Bot API
-- ------------------------------------------------------------

/-- What comes back of one `sendMessage`. A result that is no object, or has no
positive id, has none. -/
inductive BotAnswer
  | lost
  | unreadable
  | answer (status : Int) (ok : Bool) (errorCode : Option Int) (retryAfter : Option Int)
      (description : String) (messageId : Option Int)
  deriving DecidableEq, Repr

/-- `error_code or status_code`. -/
def effectiveCode (status : Int) (errorCode : Option Int) : Int :=
  match errorCode with
  | some code => if code = 0 then status else code
  | none => status

def failureKind (code : Int) : FailureKind :=
  if code = 429 then .rateLimited
  else if code = 401 then .unauthorized
  else if code = 403 then .forbidden
  else if code = 404 then .notFound
  else if 500 ≤ code then .transient
  else if 400 ≤ code then .invalidRequest
  else .unknown

/-- `send_message` of the gateway: the id of the message, or the error. A
failure that leaves open whether the message was posted is unknown. -/
def sendMessage : BotAnswer → Except GatewayError Int
  | .lost | .unreadable => .error { method := "sendMessage", kind := .unknown }
  | .answer status ok errorCode retryAfter description messageId =>
    if (400 ≤ status ∧ status ≤ 599) ∨ ok = false then
      let kind := failureKind (effectiveCode status errorCode)
      .error { method := "sendMessage", kind := if kind = .transient then .unknown else kind
               retryAfter, description }
    else
      match messageId with
      | some id => if 0 < id then .ok id else .error { method := "sendMessage", kind := .unknown }
      | none => .error { method := "sendMessage", kind := .unknown }

/-- The Bot API says itself that it did not take the request. -/
def BotAnswer.refusal : BotAnswer → Bool
  | .lost | .unreadable => false
  | .answer status ok errorCode _ _ _ =>
    decide ((400 ≤ status ∧ status ≤ 599) ∨ ok = false) &&
      decide (400 ≤ effectiveCode status errorCode ∧ effectiveCode status errorCode < 500)

def Outbox.FailureKind.repeatable : FailureKind → Bool
  | .rateLimited | .unauthorized | .transient => true
  | .forbidden | .invalidRequest | .notFound | .unknown => false

theorem code_of_repeatable {code : Int} (h : (failureKind code).repeatable = true)
    (htransient : failureKind code ≠ .transient) : code = 429 ∨ code = 401 := by
  by_cases hlimited : code = 429
  · exact .inl hlimited
  by_cases hunauthorized : code = 401
  · exact .inr hunauthorized
  by_cases hforbidden : code = 403
  · simp [failureKind, hforbidden, Outbox.FailureKind.repeatable] at h
  by_cases hmissing : code = 404
  · simp [failureKind, hmissing, Outbox.FailureKind.repeatable] at h
  by_cases hserver : 500 ≤ code
  · simp [failureKind, hlimited, hunauthorized, hforbidden, hmissing, hserver] at htransient
  by_cases hclient : 400 ≤ code
  · simp [failureKind, hlimited, hunauthorized, hforbidden, hmissing, hserver, hclient,
      Outbox.FailureKind.repeatable] at h
  · simp [failureKind, hlimited, hunauthorized, hforbidden, hmissing, hserver, hclient,
      Outbox.FailureKind.repeatable] at h

theorem refusal_of_repeatable {answer : BotAnswer} {error : GatewayError}
    (h : sendMessage answer = .error error) (hkind : error.kind.repeatable = true) :
    answer.refusal = true := by
  cases answer with
  | lost | unreadable =>
    obtain rfl := Except.error.inj h
    simp [Outbox.FailureKind.repeatable] at hkind
  | answer status ok errorCode retryAfter description messageId =>
    simp only [sendMessage] at h
    split at h
    · rename_i hfailed
      obtain rfl := Except.error.inj h
      simp only at hkind
      split at hkind
      · simp [Outbox.FailureKind.repeatable] at hkind
      · rename_i htransient
        simp only [BotAnswer.refusal, hfailed, decide_true, Bool.true_and, decide_eq_true_eq]
        obtain hcode | hcode := code_of_repeatable hkind htransient <;> rw [hcode] <;> decide
    · cases messageId with
      | none =>
        obtain rfl := Except.error.inj h
        simp [Outbox.FailureKind.repeatable] at hkind
      | some id =>
        simp only at h
        split at h
        · cases h
        · obtain rfl := Except.error.inj h
          simp [Outbox.FailureKind.repeatable] at hkind

theorem decideDeliveryFailure_retry {error : GatewayError} {attemptCount maxAttempts now : Int}
    (h : replyStateOf (decideDeliveryFailure error attemptCount maxAttempts now).state = .retry) :
    error.kind.repeatable = true := by
  unfold decideDeliveryFailure at h
  cases hkind : error.kind <;> simp [hkind, replyStateOf, Outbox.FailureKind.repeatable] at h ⊢

theorem decideDeliveryFailure_dead {error : GatewayError} {attemptCount maxAttempts now : Int}
    (h : replyStateOf (decideDeliveryFailure error attemptCount maxAttempts now).state = .dead) :
    (decideDeliveryFailure error attemptCount maxAttempts now).errorCode ≠ unauthorizedCode := by
  obtain hretry | hunknown | ⟨-, hcode⟩ :=
    decideDeliveryFailure_state error attemptCount maxAttempts now
  · rw [hretry] at h
    cases h
  · rw [hunknown] at h
    cases h
  · exact hcode

end StopBot.Telegram
