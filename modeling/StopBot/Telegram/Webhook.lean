import StopBot.Lib.Runs
import StopBot.Telegram.Updates

/-!
# The webhook of the bot

`core/telegram/webhook_configuration.py`. The row names the generation that is
wanted; a worker leases it, holds the row while it calls the Bot API, and
publishes what Telegram reported. Workers end anywhere, answers get lost, requests
land late, and a worker may lose its session, and the lock of the row with it, while
its calls go on.
-/

namespace StopBot.Telegram.Webhook

open Lib
open Tasks (Clock seconds)
open Outbox (FailureKind GatewayError)

-- ------------------------------------------------------------
-- Targets
-- ------------------------------------------------------------

/-- Fernet with the key of the process, none when it raises, and SHA-256 of a text. -/
structure Host where
  fernet : String → Option String
  sha256 : String → String

def Host.decrypt (host : Host) (ciphertext : String) : Option String :=
  if ciphertext = "" then some "" else host.fernet ciphertext

/-- The bot of a stored credential; none when there is nothing to call. -/
def Host.bot (host : Host) (botTokenEncrypted : String) : Option String :=
  (host.decrypt botTokenEncrypted).bind fun token =>
    if PyText.strip token = "" then none else some (PyText.strip token)

structure Target where
  url : String
  secretToken : String
  secretDigest : String
  deriving DecidableEq, Repr

/-- `text.rstrip("/")`. -/
def stripSlashes (text : String) : String :=
  String.ofList (text.toList.reverse.dropWhile (· == '/')).reverse

/-- `resolve_webhook_target`; none when it raises. -/
def resolveWebhookTarget (host : Host) (frontendOrigin secretToken : String) : Option Target :=
  let origin := stripSlashes (PyText.strip frontendOrigin)
  let secret := PyText.strip secretToken
  if ¬ "https://".toList.isPrefixOf origin.toList then none
  else if secret = "" then none
  else some { url := origin ++ "/api/v1/integrations/telegram/webhook", secretToken := secret
              secretDigest := host.sha256 secret }

/-- `bind_webhook_generation`; none when it raises. -/
def bindWebhookGeneration (url : String) (generation : Int) : Option String :=
  if generation ≤ 0 then none
  else if '?' ∈ url.toList ∨ '#' ∈ url.toList then none
  else some (url ++ "?bot_generation=" ++ toString generation)

inductive Operation
  | configure
  | delete
  deriving DecidableEq, Repr

def Operation.value : Operation → String
  | .configure => "configure"
  | .delete => "delete"

inductive ConfigState
  | unconfigured
  | pending
  | applying
  | retry
  | configured
  | failed
  deriving DecidableEq, Repr

def ConfigState.value : ConfigState → String
  | .unconfigured => "unconfigured"
  | .pending => "pending"
  | .applying => "applying"
  | .retry => "retry"
  | .configured => "configured"
  | .failed => "failed"

structure ConfigRow where
  botTokenEncrypted : String := ""
  botTokenFingerprint : Option String := none
  isEnabled : Bool := true
  generation : Int := 0
  appliedGeneration : Option Int := none
  operation : Option Operation := none
  desiredUrl : Option String := none
  secretDigest : Option String := none
  state : ConfigState := .unconfigured
  scheduledAt : Option Int := none
  attemptCount : Int := 0
  leaseToken : Option Nat := none
  leaseExpiresAt : Option Int := none
  remoteUrl : Option String := none
  checkedAt : Option Int := none
  configuredAt : Option Int := none
  lastErrorCode : Option String := none
  lastErrorDetail : Option String := none
  deriving DecidableEq, Repr

def ConfigRow.config (r : ConfigRow) : Config :=
  { isEnabled := r.isEnabled, botToken := r.botTokenEncrypted, fingerprint := r.botTokenFingerprint
    webhookOperation := (r.operation.map Operation.value).getD "", webhookState := r.state.value
    appliedGeneration := r.appliedGeneration.getD (-1), generation := r.generation }

def ConfigRow.schedule (r : ConfigRow) (now generation : Int) (operation : Operation)
    (desiredUrl secretDigest : Option String) : ConfigRow :=
  { r with
    generation, operation := some operation, desiredUrl, secretDigest
    state := .pending
    scheduledAt := some now
    attemptCount := 0
    leaseToken := none
    leaseExpiresAt := none
    configuredAt := none
    lastErrorCode := none
    lastErrorDetail := none }

/-- `store_rotated_token_and_schedule_webhook`; none when it raises. -/
def storeRotatedToken (now : Int) (botTokenEncrypted fingerprint : String) (target : Target)
    (row : Option ConfigRow) : Option ConfigRow :=
  let generation := (row.map (·.generation)).getD 0 + 1
  (bindWebhookGeneration target.url generation).map fun url =>
    { (row.getD {}).schedule now generation .configure (some url) (some target.secretDigest) with
      botTokenEncrypted, botTokenFingerprint := some fingerprint, isEnabled := true }

/-- `disable_token_and_schedule_webhook_deletion`. -/
def disableToken (now : Int) : Option ConfigRow → ConfigRow
  | none => { isEnabled := false }
  | some r =>
    if r.botTokenEncrypted = "" then
      { r with
        isEnabled := false, botTokenFingerprint := none, operation := none, state := .unconfigured
        scheduledAt := none, leaseToken := none, leaseExpiresAt := none, lastErrorCode := none
        lastErrorDetail := none }
    else { r.schedule now (r.generation + 1) .delete none none with isEnabled := false }

def needsChange (force : Bool) (target : Target) (expectedUrl : String) (r : ConfigRow) : Bool :=
  force || r.operation != some .configure || r.desiredUrl != some expectedUrl ||
    r.secretDigest != some target.secretDigest ||
      (r.state == .unconfigured || r.state == .failed) ||
    (r.state == .configured && r.appliedGeneration != some r.generation)

/-- `ensure_webhook_configuration_desired`; none when the row stays as it is. -/
def ensureDesired (now : Int) (target : Target) (force : Bool) (r : ConfigRow) :
    Option ConfigRow := do
  if r.isEnabled && r.botTokenEncrypted != "" then
    let expectedUrl ← bindWebhookGeneration target.url r.generation
    if needsChange force target expectedUrl r then
      let url ← bindWebhookGeneration target.url (r.generation + 1)
      some (r.schedule now (r.generation + 1) .configure (some url) (some target.secretDigest))
    else none
  else none

def bootstrapRow (now : Int) (botTokenEncrypted fingerprint : String) (target : Option Target) :
    Option ConfigRow :=
  match target with
  | none => some { botTokenEncrypted, botTokenFingerprint := some fingerprint }
  | some target => (bindWebhookGeneration target.url 1).map fun url =>
    { botTokenEncrypted, botTokenFingerprint := some fingerprint, generation := 1
      operation := some .configure, desiredUrl := some url, secretDigest := some target.secretDigest
      state := .pending, scheduledAt := some now }

/-- `ClaimedTelegramWebhookConfiguration`; the lease token is the key it is stored under. -/
structure Claim where
  generation : Int
  operation : Operation
  desiredUrl : Option String
  secretDigest : Option String
  botTokenEncrypted : String
  attemptCount : Int
  deriving DecidableEq, Repr

def ConfigRow.due (r : ConfigRow) (now : Int) : Bool :=
  r.botTokenEncrypted != "" &&
    (((r.state == .pending || r.state == .retry) && r.scheduledAt.any fun at' => at' ≤ now) ||
      (r.state == .applying && r.leaseExpiresAt.any fun expires => expires ≤ now))

def ConfigRow.lease (r : ConfigRow) (token : Nat) (leaseSeconds now : Int) : ConfigRow :=
  { r with
    state := .applying
    leaseToken := some token
    leaseExpiresAt := some (now + seconds leaseSeconds)
    attemptCount := r.attemptCount + 1 }

def ConfigRow.claim (r : ConfigRow) : Claim :=
  { generation := r.generation, operation := r.operation.getD .configure, desiredUrl := r.desiredUrl
    secretDigest := r.secretDigest, botTokenEncrypted := r.botTokenEncrypted
    attemptCount := r.attemptCount }

/-- The query of `hold_webhook_configuration_authority`. -/
def ConfigRow.authorizes (r : ConfigRow) (token : Nat) (c : Claim) (wall : Int) : Bool :=
  r.generation == c.generation && r.operation == some c.operation && r.state == .applying &&
    r.leaseToken == some token && (r.leaseExpiresAt.any fun expires => wall < expires) &&
    r.botTokenEncrypted == c.botTokenEncrypted

/-- The row as `mark_webhook_configuration_success` leaves it; none when it does not match. -/
def ConfigRow.succeed (r : ConfigRow) (token : Nat) (c : Claim) (now : Int) (url : String) :
    Option ConfigRow :=
  if r.generation = c.generation ∧ r.state = .applying ∧ r.leaseToken = some token then
    some { r with
      state := if c.operation = .configure then .configured else .unconfigured
      appliedGeneration := some c.generation
      scheduledAt := none
      leaseToken := none
      leaseExpiresAt := none
      remoteUrl := some url
      checkedAt := some now
      configuredAt := if c.operation = .configure then some now else none
      lastErrorCode := none
      lastErrorDetail := none
      botTokenEncrypted := if c.operation = .delete then "" else r.botTokenEncrypted
      botTokenFingerprint := if c.operation = .delete then none else r.botTokenFingerprint }
  else none

structure Failure where
  errorCode : String
  errorDetail : String
  retryAfter : Option Int := none
  retryable : Bool
  remoteUrl : Option String := none
  deriving DecidableEq, Repr

/-- The backoff of a failed attempt, in microseconds. -/
def Failure.delay (f : Failure) (attemptCount : Int) : Int :=
  match f.retryAfter with
  | some after => max 0 after
  | none => min (seconds 5 * 2 ^ (max 0 (attemptCount - 1)).toNat) (seconds 900)

/-- The row as `mark_webhook_configuration_failure` leaves it; none when it does not match. -/
def ConfigRow.fail (r : ConfigRow) (token : Nat) (c : Claim) (now : Int) (f : Failure) :
    Option ConfigRow :=
  if r.generation = c.generation ∧ r.operation = some c.operation ∧ r.state = .applying ∧
      r.leaseToken = some token ∧ r.botTokenEncrypted = c.botTokenEncrypted then
    some { r with
      state := if f.retryable then .retry else .failed
      scheduledAt := if f.retryable then some (now + f.delay c.attemptCount) else none
      leaseToken := none
      leaseExpiresAt := none
      remoteUrl := f.remoteUrl.or r.remoteUrl
      checkedAt := if f.remoteUrl.isSome then some now else r.checkedAt
      lastErrorCode := some (PyText.clip 64 f.errorCode)
      lastErrorDetail := some (PyText.clip 500 f.errorDetail) }
  else none

-- ------------------------------------------------------------
-- One worker
-- ------------------------------------------------------------

/-- Where `process_one_webhook_configuration` stands after its claim. -/
inductive Phase
  | claimed
  | prepared
  | authorized
  | applied
  | observed (url : String)
  | failing (failure : Failure)
  | done
  deriving DecidableEq, Repr

/-- The checks before the row is held; `target` is what the settings of the worker give. -/
def prepare (host : Host) (target : Option Target) (c : Claim) : Phase :=
  match host.decrypt c.botTokenEncrypted with
  | none => .failing { errorCode := "credential_decrypt_failed"
                       errorDetail :=
                         "Stored Telegram bot token could not be decrypted", retryable := false }
  | some token =>
    if PyText.strip token = "" then
      .failing { errorCode := "credential_missing",
                 errorDetail := "Stored Telegram bot token is empty"
                 retryable := false }
    else match c.operation with
      | .delete => .prepared
      | .configure =>
        match target with
        | none => .failing { errorCode := "webhook_target_unavailable"
                             errorDetail :=
                               "Webhook URL or secret is not configured", retryable := false }
        | some target =>
          match bindWebhookGeneration target.url c.generation with
          -- the exception leaves the row leased
          | none => .done
          | some desired =>
            if c.desiredUrl = some desired ∧ c.secretDigest = some target.secretDigest then
              .prepared
            else
              .failing
                { errorCode := "webhook_target_revision_mismatch"
                  errorDetail := "Runtime webhook target differs from the claimed generation"
                  retryable := false }

/-- What `process_one_webhook_configuration` makes of a `TelegramGatewayError`. -/
def gatewayFailure (e : GatewayError) : Failure :=
  { errorCode := "telegram_" ++ e.kind.value
    errorDetail := if e.description = "" then e.kind.value else e.description
    retryAfter := e.retryAfter
    retryable := match e.kind with
      | .rateLimited | .transient | .unknown => true
      | .unauthorized | .forbidden | .invalidRequest | .notFound => false }

def Claim.url (c : Claim) : String :=
  match c.operation with
  | .configure => c.desiredUrl.getD ""
  | .delete => ""

-- ------------------------------------------------------------
-- The system
-- ------------------------------------------------------------

structure Webhooks where
  row : Option ConfigRow
  claims : Table Claim
  phases : Nat → Phase
  /-- The calls that hold the row. -/
  locks : List Nat
  /-- The webhook that Telegram has for each bot. -/
  remote : String → String
  /-- The bots whose stored token was replaced by another bot's, and not stored again since. -/
  displaced : List String
  /-- The generations whose success was stored, the latest first. -/
  published : List Int

def Webhooks.init : Webhooks :=
  { row := none, claims := Table.empty, phases := fun _ => .done, locks := [], remote := fun _ => ""
    displaced := [], published := [] }

inductive WebhookOp
  | bootstrap (botTokenEncrypted fingerprint frontendOrigin secretToken : String)
  | rotate (botTokenEncrypted fingerprint frontendOrigin secretToken : String)
  | disable
  | ensure (frontendOrigin secretToken : String) (force : Bool)
  | claim (leaseSeconds : Int)
  | prepare (token : Nat) (frontendOrigin secretToken : String)
  | hold (token : Nat)
  /-- `setWebhook` or `deleteWebhook`: whether Telegram carried it out, and its error. -/
  | call (token : Nat) (carriedOut : Bool) (error : Option GatewayError)
  | observe (token : Nat) (error : Option GatewayError)
  | publish (token : Nat)
  | fail (token : Nat)
  | crash (token : Nat)
  | sessionLost (token : Nat)
  /-- The request of a call lands after the call gave up or its worker ended. -/
  | late (token : Nat)
  /-- Somebody else sets or deletes the webhook of a bot. -/
  | foreign (bot url : String)
  deriving Repr

namespace Webhooks

def go (s : Webhooks) (token : Nat) (phase : Phase) : Webhooks :=
  { s with phases := fun t => if t = token then phase else s.phases t }

def unlock (s : Webhooks) (token : Nat) : Webhooks :=
  { s with locks := s.locks.filter (· ≠ token) }

def currentBot (host : Host) (row : Option ConfigRow) : Option String :=
  row.bind fun r => host.bot r.botTokenEncrypted

/-- A write of the row, once nobody holds it. -/
def write (s : Webhooks) (host : Host) (row : Option ConfigRow) : Webhooks :=
  match row with
  | none => s
  | some r =>
    if s.locks = [] then
      { s with
        row := some r
        displaced := ((currentBot host s.row).toList ++ s.displaced).filter fun bot =>
          host.bot r.botTokenEncrypted ≠ some bot }
    else s

def carry (s : Webhooks) (host : Host) (c : Claim) (carriedOut : Bool) : Webhooks :=
  { s with remote := fun b =>
      if carriedOut = true ∧ host.bot c.botTokenEncrypted = some b then c.url else s.remote b }

def workerStep (host : Host) (s : Webhooks) (clk : Clock) (token : Nat) (c : Claim) :
    WebhookOp → Webhooks
  | .prepare _ frontendOrigin secretToken =>
    match s.phases token with
    | .claimed => s.go token (prepare host (resolveWebhookTarget host frontendOrigin secretToken) c)
    | _ => s
  | .hold _ =>
    match s.phases token with
    | .prepared =>
      if s.row.any fun r => r.authorizes token c clk.wall then
        { s with locks := token :: s.locks }.go token .authorized
      else s.go token .done
    | _ => s
  | .call _ carriedOut error =>
    match s.phases token with
    | .authorized =>
      match error with
      | none => (s.carry host c carriedOut).go token .applied
      | some e => ((s.carry host c carriedOut).unlock token).go token (.failing (gatewayFailure e))
    | _ => s
  | .observe _ error =>
    match s.phases token with
    | .applied =>
      (s.unlock token).go token <|
        match error with
        -- the commit of a lost session raises
        | none =>
          if token ∈ s.locks then
            .observed (((host.bot c.botTokenEncrypted).map s.remote).getD "") else .done
        | some e => .failing (gatewayFailure e)
    | _ => s
  | .publish _ =>
    match s.phases token with
    | .observed url =>
      if url = c.desiredUrl.getD "" then
        if s.locks = [] then
          match s.row.bind fun r => r.succeed token c clk.now url with
          | some r =>
            { s with row := some r, published := c.generation :: s.published }.go token .done
          | none => s.go token .done
        else s
      else s.go token (.failing { errorCode := "remote_webhook_url_mismatch"
                                  errorDetail := "Telegram reported a different webhook URL"
                                  retryable := true, remoteUrl := some url })
    | _ => s
  | .fail _ =>
    match s.phases token with
    | .failing failure =>
      if s.locks = [] then
        match s.row.bind fun r => r.fail token c clk.now failure with
        | some r => { s with row := some r }.go token .done
        | none => s.go token .done
      else s
    | _ => s
  | .crash _ => (s.unlock token).go token .done
  | .sessionLost _ => s.unlock token
  | .late _ =>
    match s.phases token with
    | .failing _ | .done => s.carry host c true
    | _ => s
  | _ => s

def callOf : WebhookOp → Option Nat
  | .prepare t _ _ | .hold t | .call t _ _ | .observe t _ | .publish t | .fail t | .crash t
  | .sessionLost t | .late t => some t
  | .bootstrap .. | .rotate .. | .disable | .ensure .. | .claim _ | .foreign .. => none

def claimStep (s : Webhooks) (clk : Clock) (leaseSeconds : Int) : Webhooks :=
  match s.row with
  | some r =>
    if 5 ≤ leaseSeconds ∧ s.locks = [] ∧ r.due clk.now = true then
      let leased := r.lease s.claims.next leaseSeconds clk.now
      { s with row := some leased, claims := s.claims.insert leased.claim }.go
        s.claims.next .claimed
    else s
  | none => s

def step (host : Host) (s : Webhooks) (e : Clock × WebhookOp) : Webhooks :=
  match callOf e.2 with
  | some token =>
    match s.claims.rows token with
    | some c => s.workerStep host e.1 token c e.2
    | none => s
  | none =>
    match e.2 with
    -- an empty token, whose ciphertext alone is empty, is refused by the callers
    | .bootstrap botTokenEncrypted fingerprint frontendOrigin secretToken =>
      if s.row = none ∧ botTokenEncrypted ≠ "" then
        s.write host (bootstrapRow e.1.now botTokenEncrypted fingerprint
          (resolveWebhookTarget host frontendOrigin secretToken))
      else s
    | .rotate botTokenEncrypted fingerprint frontendOrigin secretToken =>
      if botTokenEncrypted ≠ "" then
        s.write host ((resolveWebhookTarget host frontendOrigin secretToken).bind fun target =>
          storeRotatedToken e.1.now botTokenEncrypted fingerprint target s.row)
      else s
    | .disable => s.write host (some (disableToken e.1.now s.row))
    | .ensure frontendOrigin secretToken force =>
      s.write host ((resolveWebhookTarget host frontendOrigin secretToken).bind fun target =>
        s.row.bind (ensureDesired e.1.now target force))
    | .claim leaseSeconds => s.claimStep e.1 leaseSeconds
    | .foreign bot url => { s with remote := fun b => if b = bot then url else s.remote b }
    | _ => s

end Webhooks

end StopBot.Telegram.Webhook
