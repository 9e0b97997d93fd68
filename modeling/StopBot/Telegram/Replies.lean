import StopBot.Lib.Runs
import StopBot.Telegram.Updates

/-!
# A reply is posted at most once

The webhook, the workers of the inbox (`apps/telegram_update_worker/main.py`) and
of the replies (`process_one_command_reply`), `refresh_telegram_auth_gate` and the
writers of the configuration, as one system. A call of a worker is named by the
lease token it was given; it goes through its statements one by one, and may end
anywhere. A call that holds the outbound authority keeps the configuration from
changing. Left out are the retention sweep (`apps/cleanup_worker/worker.py`), which
deletes closed replies and updates, and `disable_recipient_delivery` of a FORBIDDEN
answer, which writes to neither table.
-/

namespace StopBot.Telegram

open Lib
open Tasks (Clock)
open Outbox (FailureKind GatewayError decideDeliveryFailure failureDetail)

-- ------------------------------------------------------------
-- Calls
-- ------------------------------------------------------------

inductive UpdatePhase
  | claimed
  | stale
  | current
  | refused
  | refreshing
  | handling
  | handled (replies : List QueuedReply)
  | failing (errorCode errorDetail : String) (error : Option GatewayError)
  | done
  deriving Repr

inductive ReplyPhase
  | claimed
  | held (authorized : Bool)
  | ready
  | answered (messageId : Int)
  | failing (error : GatewayError)
  | done
  deriving DecidableEq, Repr

def sendPhase (answer : BotAnswer) : ReplyPhase :=
  match sendMessage answer with
  | .ok messageId => .answered messageId
  | .error error => .failing error

inductive Permit
  | update (token : Nat)
  | reply (token : Nat)
  deriving DecidableEq, Repr

/-- A call of `sendMessage`: whether the credential was the configured one, and
whether the message was posted. -/
structure Send where
  replyId : Nat
  authorized : Bool
  posted : Bool
  deriving DecidableEq, Repr

-- ------------------------------------------------------------
-- The system
-- ------------------------------------------------------------

structure Mailroom where
  config : Config
  /-- An incident `telegram:bot-auth` is open, acknowledged or executing. -/
  authIncident : Bool
  updates : Table UpdateRow
  replies : Table CommandReply
  updateClaims : Table UpdateClaim
  replyClaims : Table ReplyClaim
  updateCalls : Nat → UpdatePhase
  replyCalls : Nat → ReplyPhase
  permits : List Permit
  /-- Every call of `sendMessage`, the latest first. -/
  sends : List Send

def Mailroom.init : Mailroom :=
  { config := {}, authIncident := false, updates := Table.empty, replies := Table.empty
    updateClaims := Table.empty, replyClaims := Table.empty, updateCalls := fun _ => .done
    replyCalls := fun _ => .done, permits := [], sends := [] }

inductive MailOp
  | configure (config : Config)
  | incident (active : Bool)
  | authenticate
  | persist (generation updateId : Int) (payload : Obj)
  | claimUpdate (fingerprint : String) (leaseSeconds : Int) (locked : List Nat)
  | recheck (token : Nat)
  | hold (token : Nat)
  | retire (token : Nat)
  | refresh (token : Nat)
  | handle (token : Nat) (replies : List QueuedReply)
  | handlerRaises (token : Nat) (errorCode : String) (error : Option GatewayError)
  | finalize (token : Nat)
  | fail (token : Nat)
  | crash (token : Nat)
  | reconcileUpdates
  | claimReply (gatewayGeneration : Int) (fingerprint : String) (leaseSeconds : Int)
      (locked : List Nat)
  | holdReply (token : Nat)
  | startReply (token : Nat)
  | invalidReply (token : Nat)
  | send (token : Nat) (answer : BotAnswer) (posted : Bool)
  | replySent (token : Nat)
  | replyFailed (token : Nat)
  | crashReply (token : Nat)
  | reconcileReplies
  deriving Repr

namespace Mailroom

def setUpdate (s : Mailroom) (token : Nat) (phase : UpdatePhase) : Mailroom :=
  { s with updateCalls := fun t => if t = token then phase else s.updateCalls t }

def setReply (s : Mailroom) (token : Nat) (phase : ReplyPhase) : Mailroom :=
  { s with replyCalls := fun t => if t = token then phase else s.replyCalls t }

def leave (s : Mailroom) (permit : Permit) : Mailroom :=
  { s with permits := s.permits.filter (· ≠ permit) }

def amendUpdate (s : Mailroom) (token row : Nat) (change : UpdateRow → UpdateRow) : Mailroom :=
  { s with updates := s.updates.updateAt row fun u =>
    if u.leasedBy token then some (change u) else none }

def amendReply (s : Mailroom) (token row : Nat) (change : CommandReply → CommandReply) : Mailroom :=
  { s with replies := s.replies.updateAt row fun d =>
    if d.leasedBy token then some (change d) else none }

/-- `SELECT 1 … FOR UPDATE` of `finalize_update_with_replies`. -/
def finalizable (s : Mailroom) (wall : Int) (token row : Nat) : Bool :=
  (s.updates.rows row).any fun u => u.leasedBy token && u.live wall

def replyHeld (s : Mailroom) (token row : Nat) : Bool :=
  (s.replies.rows row).any fun d => d.leasedBy token

/-- `telegram_failure_authority_is_current`. -/
def failureCurrent (s : Mailroom) (generation : Int) (fingerprint : String) : Bool :=
  decide (0 < generation) && s.config.authorizes generation fingerprint

def claimUpdate (s : Mailroom) (clk : Clock) (fingerprint : String) (leaseSeconds : Int)
    (locked : List Nat) : Mailroom :=
  if leaseSeconds < 5 then s
  else
    let s := { s with updates := retireQueuedUpdates s.config clk.now s.updates }
    match updateCandidate s.config s.authIncident clk.now locked s.updates with
    | none => s
    | some (row, u) =>
      let token := s.updateClaims.next
      { s with
        updates := s.updates.updateAt row fun u => some (u.lease token leaseSeconds clk.now)
        updateClaims := s.updateClaims.insert
          { row, botGeneration := u.botGeneration, updateId := u.updateId, payload := u.payload
            attemptCount := u.attemptCount + 1, fingerprint } }.setUpdate token .claimed

def claimReply (s : Mailroom) (clk : Clock) (gatewayGeneration : Int) (fingerprint : String)
    (leaseSeconds : Int) (locked : List Nat) : Mailroom :=
  if gatewayGeneration ≤ 0 ∨ leaseSeconds < 5 then s
  else
    let s := { s with replies := retireQueuedReplies s.config clk.now s.replies }
    match replyCandidate s.config s.authIncident gatewayGeneration fingerprint clk.now locked
      s.replies with
    | none => s
    | some (row, d) =>
      let token := s.replyClaims.next
      { s with
        replies := s.replies.updateAt row fun d => some (d.lease token leaseSeconds clk.now)
        replyClaims := s.replyClaims.insert
          { replyId := row, botGeneration := d.botGeneration, attemptCount := d.attemptCount + 1
            maxAttempts := d.maxAttempts, reply := d.reply, gatewayGeneration, fingerprint }
              }.setReply token
              .claimed

def updateStep (s : Mailroom) (clk : Clock) (token : Nat) (c : UpdateClaim) : MailOp → Mailroom
  | .recheck _ =>
    match s.updateCalls token with
    | .claimed =>
      if s.finalizable clk.wall token c.row && s.config.webhookAt c.botGeneration then
        s.setUpdate token .current
      else s.setUpdate token .stale
    | _ => s
  | .hold _ =>
    match s.updateCalls token with
    | .current =>
      if s.config.authorizes c.botGeneration c.fingerprint then
        { s with permits := .update token :: s.permits }.setUpdate token .handling
      else s.setUpdate token .refused
    | _ => s
  | .retire _ =>
    let retired := s.amendUpdate token c.row fun u => u.stale clk.now
    let matched := (s.updates.rows c.row).any fun u => u.leasedBy token
    match s.updateCalls token with
    | .stale => (if s.config.webhookAt c.botGeneration then s else retired).setUpdate token .done
    | .refused =>
      if !s.config.webhookAt c.botGeneration && matched then retired.setUpdate token .done
      else s.setUpdate token .refreshing
    | _ => s
  | .refresh _ =>
    match s.updateCalls token with
    | .refreshing => (s.amendUpdate token c.row fun u => u.refresh clk.now).setUpdate token .done
    | _ => s
  | .handle _ replies =>
    match s.updateCalls token with
    | .handling => (s.leave (.update token)).setUpdate token (.handled replies)
    | _ => s
  | .handlerRaises _ errorCode error =>
    match s.updateCalls token with
    | .handling =>
      let detail := if error.isSome then "Telegram Bot API request failed" else
        "Telegram update handler failed"
      (s.leave (.update token)).setUpdate token (.failing errorCode detail error)
    | _ => s
  | .finalize _ =>
    match s.updateCalls token with
    | .handled replies =>
      if s.finalizable clk.wall token c.row then
        ({ s with
            replies := insertReplies clk.now c.botGeneration c.updateId 0 replies s.replies
            }.amendUpdate token c.row fun u => u.processed clk.now).setUpdate token .done
      else s.setUpdate token .done
    | _ => s
  | .fail _ =>
    match s.updateCalls token with
    | .failing errorCode errorDetail error =>
      let decided := updateFailure c.attemptCount errorCode errorDetail error
      let failure := decided.fenced (s.failureCurrent c.botGeneration c.fingerprint)
      ({ s with authIncident := s.authIncident || failure.opensAuthIncident
          }.amendUpdate token c.row fun u => u.fail clk.now failure).setUpdate token .done
    | _ => s
  | .crash _ => (s.leave (.update token)).setUpdate token .done
  | _ => s

def replyStep (s : Mailroom) (clk : Clock) (token : Nat) (c : ReplyClaim) : MailOp → Mailroom
  | .holdReply _ =>
    match s.replyCalls token with
    | .claimed =>
      if s.config.authorizes c.botGeneration c.fingerprint then
        { s with permits := .reply token :: s.permits }.setReply token (.held true)
      else s.setReply token (.held false)
    | _ => s
  | .startReply _ =>
    -- `mark_command_reply_external_started`, and the two answers it is made of
    match s.replyCalls token with
    | .held authorized =>
      if s.config.authorizes c.gatewayGeneration c.fingerprint &&
        c.gatewayGeneration == c.botGeneration then
        let started := s.amendReply token c.replyId fun d =>
          if d.live clk.wall then
            { d with externalStartedAt := d.externalStartedAt.or (some clk.now) } else d
        let ready := (s.replies.rows c.replyId).any fun d => d.leasedBy token && d.live clk.wall
        if authorized && ready then started.setReply token .ready
        else (started.leave (.reply token)).setReply token .done
      else
        ((s.amendReply token c.replyId fun d =>
          if d.externalStartedAt = none then
            d.stale clk.now "Telegram credential changed before external boundary"
          else d).leave (.reply token)).setReply token .done
    | _ => s
  | .invalidReply _ =>
    -- the stored text is one that the gateway does not send
    match s.replyCalls token with
    | .ready => (s.leave (.reply token)).setReply token (.failing
        { method := "sendMessage", kind := .invalidRequest,
          description := "invalid durable command reply" })
    | _ => s
  | .send _ answer posted =>
    match s.replyCalls token with
    | .ready =>
      let send := { replyId := c.replyId
                    authorized := s.config.authorizes c.botGeneration c.fingerprint, posted }
      ({ s with sends := send :: s.sends }.leave (.reply token)).setReply token (sendPhase answer)
    | _ => s
  | .replySent _ =>
    match s.replyCalls token with
    | .answered messageId =>
      (s.amendReply token c.replyId fun d =>
        if d.externalStartedAt = none then d else d.sent clk.now messageId).setReply token .done
    | _ => s
  | .replyFailed _ =>
    match s.replyCalls token with
    | .failing error =>
      let decision := decideDeliveryFailure error c.attemptCount c.maxAttempts clk.now
      let current := s.failureCurrent c.botGeneration c.fingerprint
      let unauthorized := decide (error.kind = .unauthorized)
      let fenced := unauthorized && !current
      let s' := s.amendReply token c.replyId fun d =>
        if fenced then d.fail clk.now .dead decision.scheduledAt "stale_bot_generation"
          "Telegram credential changed before 401 persistence"
        else d.fail clk.now (replyStateOf decision.state) decision.scheduledAt decision.errorCode
          (failureDetail error)
      { s' with authIncident := s.authIncident ||
          (unauthorized && current && s.replyHeld token c.replyId) }.setReply token .done
    | _ => s
  | .crashReply _ => (s.leave (.reply token)).setReply token .done
  | _ => s

def callOf : MailOp → Option (Nat ⊕ Nat)
  | .recheck t | .hold t | .retire t | .refresh t | .handle t _ | .handlerRaises t _ _ | .finalize t
  | .fail t
  | .crash t => some (.inl t)
  | .holdReply t | .startReply t | .invalidReply t | .send t _ _ | .replySent t | .replyFailed t
  | .crashReply t => some (.inr t)
  | .configure _ | .incident _ | .authenticate | .persist .. | .claimUpdate .. | .reconcileUpdates
  | .claimReply .. | .reconcileReplies => none

def step (s : Mailroom) (e : Clock × MailOp) : Mailroom :=
  match callOf e.2 with
  | some (.inl token) =>
    match s.updateClaims.rows token with
    | some c => s.updateStep e.1 token c e.2
    | none => s
  | some (.inr token) =>
    match s.replyClaims.rows token with
    | some c => s.replyStep e.1 token c e.2
    | none => s
  | none =>
    match e.2 with
    | .configure config => if s.permits = [] then { s with config } else s
    | .incident active => { s with authIncident := active }
    | .authenticate =>
      { s with
        authIncident := false
        updates := s.updates.update fun _ u => u.reopen e.1.now
        replies := s.replies.update fun _ d => d.reopen e.1.now }
    | .persist generation updateId payload =>
      match persistTelegramUpdate s.config e.1.now generation updateId payload s.updates with
      | some updates => { s with updates }
      | none => s
    | .claimUpdate fingerprint leaseSeconds locked =>
      s.claimUpdate e.1 fingerprint leaseSeconds locked
    | .claimReply gatewayGeneration fingerprint leaseSeconds locked =>
      s.claimReply e.1 gatewayGeneration fingerprint leaseSeconds locked
    | .reconcileUpdates =>
      { s with updates := s.updates.update fun _ u => u.reconcile s.config e.1.now }
    | .reconcileReplies => { s with replies := s.replies.update fun _ d => d.reconcile e.1.now }
    | _ => s

def posts (s : Mailroom) (id : Nat) : Nat :=
  s.sends.countP fun send => send.posted && send.replyId == id

end Mailroom

-- ------------------------------------------------------------
-- Replies
-- ------------------------------------------------------------

def CommandReply.final (d : CommandReply) : Prop :=
  d.state = .sent ∨ d.state = .dead ∨ d.state = .unknown

def ReplyPhase.spent : ReplyPhase → Prop
  | .answered _ | .done => True
  | .failing error => error.kind.repeatable = false
  | .claimed | .held _ | .ready => False

structure Mailroom.ReplyOk (s : Mailroom) (id : Nat) (d : CommandReply) : Prop where
  leased : ∀ t, d.leasedBy t = true → ∃ c, s.replyClaims.rows t = some c ∧ c.replyId = id
  ready : ∀ t c, s.replyClaims.rows t = some c → c.replyId = id → s.replyCalls t = .ready →
    (d.leasedBy t = true ∧ d.externalStartedAt ≠ none) ∨ d.state = .unknown
  posted : s.posts id ≠ 0 → d.final ∨
    ∃ t, d.leasedBy t = true ∧ d.externalStartedAt ≠ none ∧ (s.replyCalls t).spent
  code : d.state = .dead → d.lastErrorCode ≠ some unauthorizedCode

structure Mailroom.Sends (s : Mailroom) : Prop where
  reply : ∀ id d, s.replies.rows id = some d → s.ReplyOk id d
  stored : ∀ t c, s.replyClaims.rows t = some c → ∃ d, s.replies.rows c.replyId = some d
  alone : ∀ t t' c c', s.replyClaims.rows t = some c → s.replyClaims.rows t' = some c' →
    c.replyId = c'.replyId → s.replyCalls t = .ready → s.replyCalls t' = .ready → t = t'
  unposted : ∀ t c, s.replyClaims.rows t = some c → s.replyCalls t = .ready → s.posts c.replyId = 0
  once : ∀ id, s.posts id ≤ 1
  sent : ∀ send ∈ s.sends, ∃ d, s.replies.rows send.replyId = some d
  authorized : ∀ send ∈ s.sends, send.authorized = true
  permitted : ∀ t c, s.replyClaims.rows t = some c →
    s.replyCalls t = .held true ∨ s.replyCalls t = .ready →
      Permit.reply t ∈ s.permits ∧ s.config.authorizes c.botGeneration c.fingerprint = true

section
variable {s s' : Mailroom} {clk : Clock} {id : Nat} {d d' : CommandReply} {token t : Nat}
    {c : ReplyClaim}

theorem reply_leasedBy_iff :
    d.leasedBy t = true ↔ d.state = .leased ∧ d.leaseToken = some t := by
  simp [CommandReply.leasedBy]

theorem replyStateOf_cases (state : DeliveryState) :
    replyStateOf state = .retry ∨ replyStateOf state = .dead ∨ replyStateOf state = .unknown := by
  cases state <;> simp [replyStateOf]

theorem replyStateOf_ne_leased (state : DeliveryState) : replyStateOf state ≠ .leased := by
  cases state <;> simp [replyStateOf]

theorem reply_queued_iff : d.queued = true ↔ d.state = .pending ∨ d.state = .retry := by
  simp [CommandReply.queued]

/-- A queued reply has not been posted, and no call is about to post it. -/
theorem Mailroom.ReplyOk.of_queued (h : s.ReplyOk id d) (hqueued : d.queued = true) :
    s.posts id = 0 ∧ ∀ t c, s.replyClaims.rows t = some c → c.replyId = id →
      s.replyCalls t ≠ .ready := by
  rw [reply_queued_iff] at hqueued
  constructor
  · refine Decidable.byContradiction fun hposted => ?_
    obtain hfinal | ⟨t, hleased, -⟩ := h.posted hposted
    · obtain hp | hr := hqueued <;> simp_all [CommandReply.final]
    · obtain ⟨hstate, -⟩ := reply_leasedBy_iff.mp hleased
      obtain hp | hr := hqueued <;> simp_all
  · rintro t c hc hid hready
    obtain ⟨hleased, -⟩ | hunknown := h.ready t c hc hid hready
    · obtain ⟨hstate, -⟩ := reply_leasedBy_iff.mp hleased
      obtain hp | hr := hqueued <;> simp_all
    · obtain hp | hr := hqueued <;> simp_all

theorem Mailroom.ReplyOk.of_unstarted (h : s.ReplyOk id d) (hstate : d.state = .leased)
    (hunstarted : d.externalStartedAt = none) :
    s.posts id = 0 ∧ ∀ t c, s.replyClaims.rows t = some c → c.replyId = id →
      s.replyCalls t ≠ .ready := by
  constructor
  · refine Decidable.byContradiction fun hposted => ?_
    obtain hfinal | ⟨t, -, hstarted, -⟩ := h.posted hposted
    · simp_all [CommandReply.final]
    · exact hstarted hunstarted
  · rintro t c hc hid hready
    obtain ⟨-, hstarted⟩ | hunknown := h.ready t c hc hid hready
    · exact hstarted hunstarted
    · simp_all

theorem Mailroom.ReplyOk.untouched
    (hfree : s.posts id = 0 ∧ ∀ t c, s.replyClaims.rows t = some c → c.replyId = id →
      s.replyCalls t ≠ .ready)
    (hstate : d'.state ≠ .leased)
    (hcode : d'.state = .dead → d'.lastErrorCode ≠ some unauthorizedCode) : s.ReplyOk id d' where
  leased := by
    rintro t hleased
    exact absurd (reply_leasedBy_iff.mp hleased).1 hstate
  ready := by
    rintro t c hc hid hready
    exact absurd hready (hfree.2 t c hc hid)
  posted := by
    rintro hposted
    exact absurd hfree.1 hposted
  code := hcode

theorem Mailroom.ReplyOk.giveUp (hstate : d'.state = .unknown) : s.ReplyOk id d' where
  leased := by
    rintro t hleased
    rw [(reply_leasedBy_iff.mp hleased).1] at hstate
    cases hstate
  ready := fun _ _ _ _ _ => .inr hstate
  posted := fun _ => .inl (.inr (.inr hstate))
  code := fun hdead => by rw [hstate] at hdead; cases hdead

theorem Mailroom.ReplyOk.reconcile (h : s.ReplyOk id d) {now : Int}
    (hd : d.reconcile now = some d') :
    s.ReplyOk id d' := by
  unfold CommandReply.reconcile at hd
  split at hd
  · rename_i hexpired
    split at hd
    · rename_i hunstarted
      obtain rfl := Option.some.inj hd
      exact .untouched (h.of_unstarted hexpired.1 hunstarted) (by simp) (by simp)
    · obtain rfl := Option.some.inj hd
      exact .giveUp rfl
  · cases hd

theorem Mailroom.Sends.frame (h : s.Sends) (hreplies : s'.replies = s.replies)
    (hclaims : s'.replyClaims = s.replyClaims) (hcalls : s'.replyCalls = s.replyCalls)
    (hsends : s'.sends = s.sends) (hconfig : s'.config = s.config)
    (hpermits : ∀ t, Permit.reply t ∈ s.permits → Permit.reply t ∈ s'.permits) : s'.Sends := by
  have hposts : s'.posts = s.posts := by
    funext id
    simp only [Mailroom.posts, hsends]
  refine ⟨?_, ?_, ?_, ?_, ?_, ?_, ?_, ?_⟩
  · rintro id d hd
    have hok := h.reply id d (hreplies ▸ hd)
    refine ⟨?_, ?_, ?_, hok.code⟩
    · rw [hclaims]
      exact hok.leased
    · rw [hclaims, hcalls]
      exact hok.ready
    · rw [hposts, hcalls]
      exact hok.posted
  · rw [hclaims, hreplies]
    exact h.stored
  · rw [hclaims, hcalls]
    exact h.alone
  · rw [hclaims, hcalls, hposts]
    exact h.unposted
  · rw [hposts]
    exact h.once
  · rw [hsends, hreplies]
    exact h.sent
  · rw [hsends]
    exact h.authorized
  · rw [hclaims, hcalls, hconfig]
    rintro t c hc hphase
    obtain ⟨hmem, hauthorized⟩ := h.permitted t c hc hphase
    exact ⟨hpermits t hmem, hauthorized⟩

theorem Mailroom.Sends.withReplies (h : s.Sends) {replies : Table CommandReply}
    (hok : ∀ id d, replies.rows id = some d → s.ReplyOk id d)
    (hkeep : ∀ id d, s.replies.rows id = some d → ∃ d', replies.rows id = some d') :
    ({ s with replies } : Mailroom).Sends where
  reply := fun id d hd =>
    ⟨(hok id d hd).leased, (hok id d hd).ready, (hok id d hd).posted, (hok id d hd).code⟩
  stored := by
    rintro t c hc
    obtain ⟨d, hd⟩ := h.stored t c hc
    exact hkeep _ d hd
  alone := h.alone
  unposted := h.unposted
  once := h.once
  sent := by
    rintro send hsend
    obtain ⟨d, hd⟩ := h.sent send hsend
    exact hkeep _ d hd
  authorized := h.authorized
  permitted := h.permitted

theorem Mailroom.Sends.update (h : s.Sends) {change : Nat → CommandReply → Option CommandReply}
    (hchange : ∀ id d d', s.replies.rows id = some d → change id d = some d' → s.ReplyOk id d') :
    ({ s with replies := s.replies.update change } : Mailroom).Sends := by
  refine h.withReplies ?_ ?_
  · rintro id d' hd'
    obtain ⟨d, hd, rfl⟩ := Option.map_eq_some_iff.mp hd'
    cases hnew : change id d with
    | none => exact h.reply id d hd
    | some new => exact hchange id d new hd hnew
  · rintro id d hd
    exact ⟨_, by rw [Table.update_rows, hd]; rfl⟩

theorem Mailroom.Sends.amendReply (h : s.Sends) {row : Nat} {change : CommandReply → CommandReply}
    (hchange : ∀ d, s.replies.rows row = some d → d.leasedBy token = true →
      s.ReplyOk row (change d)) :
    (s.amendReply token row change).Sends := by
  refine h.update fun id d d' hd hnew => ?_
  split at hnew
  · rename_i hid
    subst hid
    simp only [Option.ite_none_right_eq_some, Option.some.injEq] at hnew
    obtain ⟨hleased, rfl⟩ := hnew
    exact hchange d hd hleased
  · cases hnew

/-- The call may post now: its reply is leased by it, marked and unposted, and no other call
is about to post it. -/
structure Mailroom.MayPost (s : Mailroom) (token : Nat) (c : ReplyClaim) : Prop where
  row : ∃ d, s.replies.rows c.replyId = some d ∧ d.leasedBy token = true ∧
    d.externalStartedAt ≠ none
  unposted : s.posts c.replyId = 0
  alone : ∀ t c', s.replyClaims.rows t = some c' → c'.replyId = c.replyId → s.replyCalls t ≠ .ready

theorem Mailroom.Sends.setReply (h : s.Sends) {permits : List Permit} {phase : ReplyPhase}
    (hpermits : ∀ t, t ≠ token → Permit.reply t ∈ s.permits → Permit.reply t ∈ permits)
    (hready : phase = .ready → ∀ c, s.replyClaims.rows token = some c → s.MayPost token c)
    (hheld : phase = .held true ∨ phase = .ready → ∀ c, s.replyClaims.rows token = some c →
      Permit.reply token ∈ permits ∧ s.config.authorizes c.botGeneration c.fingerprint = true)
    (hspent : (s.replyCalls token).spent → phase.spent) :
    ({ s with permits }.setReply token phase).Sends := by
  have hcalls : ∀ t, (({ s with permits } : Mailroom).setReply token phase).replyCalls t =
      if t = token then phase else s.replyCalls t := fun t => rfl
  have hother : ∀ t, (({ s with permits } : Mailroom).setReply token phase).replyCalls t = .ready →
      (t = token ∧ phase = .ready) ∨ (t ≠ token ∧ s.replyCalls t = .ready) := by
    rintro t ht
    rw [hcalls] at ht
    split at ht
    · exact .inl ⟨‹_›, ht⟩
    · exact .inr ⟨‹_›, ht⟩
  refine ⟨?_, h.stored, ?_, ?_, h.once, h.sent, h.authorized, ?_⟩
  · rintro id d hd
    have hok := h.reply id d hd
    refine ⟨hok.leased, fun t c hc hid ht => ?_, fun hposted => ?_, hok.code⟩
    · obtain ⟨rfl, hphase⟩ | ⟨-, ht⟩ := hother t ht
      · obtain ⟨d', hd', hleased, hstarted⟩ := (hready hphase c hc).row
        rw [hid] at hd'
        obtain rfl : d = d' := Option.some.inj (hd.symm.trans hd')
        exact .inl ⟨hleased, hstarted⟩
      · exact hok.ready t c hc hid ht
    · obtain hfinal | ⟨t, hleased, hstarted, hspends⟩ := hok.posted hposted
      · exact .inl hfinal
      · refine .inr ⟨t, hleased, hstarted, ?_⟩
        rw [hcalls]
        split
        · rename_i heq
          exact hspent (heq ▸ hspends)
        · exact hspends
  · rintro t t' c c' hc hc' hid ht ht'
    obtain ⟨heq, hphase⟩ | ⟨-, hold⟩ := hother t ht
    · obtain ⟨heq', -⟩ | ⟨-, hold'⟩ := hother t' ht'
      · exact heq.trans heq'.symm
      · exact absurd hold' ((hready hphase c (heq ▸ hc)).alone t' c' hc' hid.symm)
    · obtain ⟨heq', hphase⟩ | ⟨-, hold'⟩ := hother t' ht'
      · exact absurd hold ((hready hphase c' (heq' ▸ hc')).alone t c hc hid)
      · exact h.alone t t' c c' hc hc' hid hold hold'
  · rintro t c hc ht
    obtain ⟨rfl, hphase⟩ | ⟨-, ht⟩ := hother t ht
    · exact (hready hphase c hc).unposted
    · exact h.unposted t c hc ht
  · rintro t c hc hphase
    rw [hcalls] at hphase
    split at hphase
    · rename_i heq
      subst heq
      exact hheld hphase c hc
    · rename_i hne
      obtain ⟨hmem, hauthorized⟩ := h.permitted t c hc hphase
      exact ⟨hpermits t hne hmem, hauthorized⟩

theorem Mailroom.Sends.passReply (h : s.Sends) {phase : ReplyPhase} (hready : phase ≠ .ready)
    (hheld : phase ≠ .held true) (hspent : (s.replyCalls token).spent → phase.spent) :
    (s.setReply token phase).Sends :=
  h.setReply (fun _ _ hmem => hmem) (fun hp => absurd hp hready)
    (fun hp => hp.elim (fun hp => absurd hp hheld) fun hp => absurd hp hready) hspent

theorem mem_leave_reply (hne : t ≠ token) (hmem : Permit.reply t ∈ s.permits) :
    Permit.reply t ∈ (s.leave (.reply token)).permits := by
  simp [Mailroom.leave, hmem, hne]

theorem Mailroom.Sends.finishReply (h : s.Sends) {phase : ReplyPhase} (hready : phase ≠ .ready)
    (hheld : phase ≠ .held true) (hspent : (s.replyCalls token).spent → phase.spent) :
    ((s.leave (.reply token)).setReply token phase).Sends :=
  h.setReply (fun _ hne hmem => mem_leave_reply hne hmem) (fun hp => absurd hp hready)
    (fun hp => hp.elim (fun hp => absurd hp hheld) fun hp => absurd hp hready) hspent

/-- No other call is about to post a reply that this one leases and is not about to post. -/
theorem Mailroom.ReplyOk.not_ready (h : s.ReplyOk id d) (hleased : d.leasedBy token = true)
    (hphase : s.replyCalls token ≠ .ready) :
    ∀ t c, s.replyClaims.rows t = some c → c.replyId = id → s.replyCalls t ≠ .ready := by
  rintro t c hc hid hready
  obtain ⟨hstate, htoken⟩ := reply_leasedBy_iff.mp hleased
  obtain ⟨hother, -⟩ | hunknown := h.ready t c hc hid hready
  · obtain rfl : token = t := Option.some.inj (htoken.symm.trans (reply_leasedBy_iff.mp hother).2)
    exact hphase hready
  · rw [hstate] at hunknown
    cases hunknown

theorem Mailroom.ReplyOk.spent (h : s.ReplyOk id d) (hleased : d.leasedBy token = true)
    (hposted : s.posts id ≠ 0) : (s.replyCalls token).spent := by
  obtain ⟨hstate, htoken⟩ := reply_leasedBy_iff.mp hleased
  obtain hfinal | ⟨t, hother, -, hspent⟩ := h.posted hposted
  · simp_all [CommandReply.final]
  · obtain rfl : token = t := Option.some.inj (htoken.symm.trans (reply_leasedBy_iff.mp hother).2)
    exact hspent

/-- The leasing call closes its reply; back into the queue it goes only when nothing was posted. -/
theorem Mailroom.ReplyOk.close (h : s.ReplyOk id d) (hleased : d.leasedBy token = true)
    (hphase : s.replyCalls token ≠ .ready) (hstate : d'.state ≠ .leased)
    (hfinal : (s.replyCalls token).spent → d'.final)
    (hcode : d'.state = .dead → d'.lastErrorCode ≠ some unauthorizedCode) : s.ReplyOk id d' where
  leased := by
    rintro t ht
    exact absurd (reply_leasedBy_iff.mp ht).1 hstate
  ready := by
    rintro t c hc hid hready
    exact absurd hready (h.not_ready hleased hphase t c hc hid)
  posted := by
    rintro hposted
    exact .inl (hfinal (h.spent hleased hposted))
  code := hcode

theorem Mailroom.ReplyOk.started (h : s.ReplyOk id d) (hstate : d'.state = d.state)
    (htoken : d'.leaseToken = d.leaseToken) (hcode : d'.lastErrorCode = d.lastErrorCode)
    (hexternal : d.externalStartedAt ≠ none → d'.externalStartedAt ≠ none) : s.ReplyOk id d' := by
  have hleased : ∀ t, d'.leasedBy t = d.leasedBy t := by
    simp [CommandReply.leasedBy, hstate, htoken]
  refine ⟨?_, ?_, ?_, fun hdead => hcode ▸ h.code (hstate ▸ hdead)⟩
  · rintro t ht
    exact h.leased t (hleased t ▸ ht)
  · rintro t c hc hid hready
    obtain ⟨ht, hstarted⟩ | hunknown := h.ready t c hc hid hready
    · exact .inl ⟨hleased t ▸ ht, hexternal hstarted⟩
    · exact .inr (hstate ▸ hunknown)
  · rintro hposted
    obtain hfinal | ⟨t, ht, hstarted, hspent⟩ := h.posted hposted
    · exact .inl (by simpa [CommandReply.final, hstate] using hfinal)
    · exact .inr ⟨t, hleased t ▸ ht, hexternal hstarted, hspent⟩

theorem Mailroom.Sends.holdReply (h : s.Sends) (hc : s.replyClaims.rows token = some c) :
    (s.replyStep clk token c (.holdReply t)).Sends := by
  simp only [Mailroom.replyStep]
  split
  · rename_i hphase
    have hfresh : ¬ (s.replyCalls token).spent := by simp [hphase, ReplyPhase.spent]
    split
    · rename_i hauthorized
      refine h.setReply (fun _ _ hmem => List.mem_cons_of_mem _ hmem) (by simp) ?_ fun hs =>
        absurd hs hfresh
      rintro - c' hc'
      obtain rfl : c = c' := Option.some.inj (hc.symm.trans hc')
      exact ⟨List.mem_cons_self, hauthorized⟩
    · exact h.passReply (by simp) (by simp) fun hs => absurd hs hfresh
  · exact h

theorem Mailroom.Sends.startReply (h : s.Sends) (hc : s.replyClaims.rows token = some c) :
    (s.replyStep clk token c (.startReply t)).Sends := by
  simp only [Mailroom.replyStep]
  split
  · rename_i authorized hphase
    have hfresh : ¬ (s.replyCalls token).spent := by simp [hphase, ReplyPhase.spent]
    have hnotReady : s.replyCalls token ≠ .ready := by simp [hphase]
    split
    · have hstarted : (s.amendReply token c.replyId fun d =>
          if d.live clk.wall then
            { d with externalStartedAt := d.externalStartedAt.or (some clk.now) }
          else d).Sends := by
        refine h.amendReply fun d hd _ => ?_
        split
        · exact (h.reply _ d hd).started rfl rfl rfl (by simp)
        · exact h.reply _ d hd
      split
      · rename_i hgo
        simp only [Bool.and_eq_true, Option.any_eq_true] at hgo
        obtain ⟨hauthorized, d, hd, hleased, hlive⟩ := hgo
        have hok := h.reply _ d hd
        have hheld := h.permitted token c hc (.inl (by rw [hphase, hauthorized]))
        refine hstarted.setReply (fun _ _ hmem => hmem) ?_ ?_ fun hs => absurd hs hfresh
        · rintro - c' hc'
          obtain rfl : c = c' := Option.some.inj (hc.symm.trans hc')
          refine ⟨⟨{ d with externalStartedAt := d.externalStartedAt.or (some clk.now) }, ?_,
            hleased, ?_⟩,
            ?_, hok.not_ready hleased hnotReady⟩
          · simp [Mailroom.amendReply, Table.updateAt, Table.update, hd, hleased, hlive]
          · simp
          · exact Decidable.byContradiction fun hposted => hfresh (hok.spent hleased hposted)
        · rintro - c' hc'
          obtain rfl : c = c' := Option.some.inj (hc.symm.trans hc')
          exact hheld
      · exact hstarted.finishReply (by simp) (by simp) fun hs => absurd hs hfresh
    · have hclosed : (s.amendReply token c.replyId fun d =>
          if d.externalStartedAt = none then
            d.stale clk.now "Telegram credential changed before external boundary"
          else d).Sends := by
        refine h.amendReply fun d hd hleased => ?_
        have hok := h.reply _ d hd
        split
        · exact hok.close hleased hnotReady (by simp [CommandReply.stale])
            (fun _ => by simp [CommandReply.stale, CommandReply.final])
            fun _ => by simp [CommandReply.stale, unauthorizedCode]
        · exact hok
      exact hclosed.finishReply (by simp) (by simp) fun hs => absurd hs hfresh
  · exact h

theorem Mailroom.Sends.invalidReply (h : s.Sends) :
    (s.replyStep clk token c (.invalidReply t)).Sends := by
  simp only [Mailroom.replyStep]
  split
  · rename_i hphase
    exact h.finishReply (by simp) (by simp) fun hs => by simp [hphase, ReplyPhase.spent] at hs
  · exact h

theorem Mailroom.Sends.replySent (h : s.Sends) :
    (s.replyStep clk token c (.replySent t)).Sends := by
  simp only [Mailroom.replyStep]
  split
  · rename_i messageId hphase
    have hclosed : (s.amendReply token c.replyId fun d =>
        if d.externalStartedAt = none then d else d.sent clk.now messageId).Sends := by
      refine h.amendReply fun d hd hleased => ?_
      have hok := h.reply _ d hd
      split
      · exact hok
      · exact hok.close hleased (by simp [hphase]) (by simp [CommandReply.sent])
          (fun _ => by simp [CommandReply.sent, CommandReply.final]) (by simp [CommandReply.sent])
    exact hclosed.passReply (by simp) (by simp) fun _ => trivial
  · exact h

theorem Mailroom.Sends.replyFailed (h : s.Sends) :
    (s.replyStep clk token c (.replyFailed t)).Sends := by
  simp only [Mailroom.replyStep]
  split
  · rename_i error hphase
    refine Mailroom.Sends.frame (s := (s.amendReply token c.replyId _).setReply token .done) ?_ rfl
      rfl rfl rfl
      rfl fun _ hmem => hmem
    refine Mailroom.Sends.passReply ?_ (by simp) (by simp) fun _ => trivial
    refine h.amendReply fun d hd hleased => ?_
    have hok := h.reply _ d hd
    split
    · exact hok.close hleased (by simp [hphase]) (by simp [CommandReply.fail])
        (fun _ => by simp [CommandReply.fail, CommandReply.final])
        fun _ => by simp [CommandReply.fail, unauthorizedCode]
    · refine hok.close hleased (by simp [hphase]) (replyStateOf_ne_leased _) (fun hspent => ?_)
        fun hdead hcode => decideDeliveryFailure_dead hdead (Option.some.inj hcode)
      have hfresh : error.kind.repeatable = false := by
        simpa [hphase, ReplyPhase.spent] using hspent
      obtain hretry | hfinal := replyStateOf_cases
        (decideDeliveryFailure error c.attemptCount c.maxAttempts clk.now).state
      · simp [decideDeliveryFailure_retry hretry] at hfresh
      · exact hfinal.elim (fun hd => .inr (.inl hd)) fun hu => .inr (.inr hu)
  · exact h

theorem Mailroom.Sends.crashReply (h : s.Sends) : (s.replyStep clk token c (.crashReply t)).Sends :=
  h.finishReply (by simp) (by simp) fun _ => trivial

@[simp] theorem posts_cons (s : Mailroom) (send : Send) (id : Nat) :
    ({ s with sends := send :: s.sends } : Mailroom).posts id =
      s.posts id + if send.posted = true ∧ send.replyId = id then 1 else 0 := by
  simp [Mailroom.posts, List.countP_cons]

/-- The call that has the reply to itself sends it. -/
theorem Mailroom.Sends.post (h : s.Sends) {send : Send}
    (hrow : ∃ d, s.replies.rows send.replyId = some d ∧ (send.posted = true →
      d.final ∨ ∃ t, d.leasedBy t = true ∧ d.externalStartedAt ≠ none ∧ (s.replyCalls t).spent))
    (hfresh : s.posts send.replyId = 0)
    (halone : ∀ t c, s.replyClaims.rows t = some c → c.replyId = send.replyId →
      s.replyCalls t ≠ .ready)
    (hauthorized : send.authorized = true) :
    ({ s with sends := send :: s.sends } : Mailroom).Sends := by
  refine ⟨?_, h.stored, h.alone, ?_, ?_, ?_, ?_, h.permitted⟩
  · rintro id d hd
    have hok := h.reply id d hd
    refine ⟨hok.leased, hok.ready, fun hposted => ?_, hok.code⟩
    by_cases hnew : send.posted = true ∧ send.replyId = id
    · obtain ⟨hsent, rfl⟩ := hnew
      obtain ⟨d', hd', hspent⟩ := hrow
      obtain rfl : d = d' := Option.some.inj (hd.symm.trans hd')
      exact hspent hsent
    · rw [posts_cons, if_neg hnew] at hposted
      exact hok.posted hposted
  · rintro t c hc hready
    have hne : ¬ (send.posted = true ∧ send.replyId = c.replyId) := by
      rintro ⟨-, heq⟩
      exact halone t c hc heq.symm hready
    rw [posts_cons, if_neg hne]
    exact h.unposted t c hc hready
  · rintro id
    rw [posts_cons]
    split
    · rename_i hnew
      simp [← hnew.2, hfresh]
    · exact h.once id
  · rintro other hother
    obtain rfl | hold := List.mem_cons.mp hother
    · obtain ⟨d, hd, -⟩ := hrow
      exact ⟨d, hd⟩
    · exact h.sent other hold
  · rintro other hother
    obtain rfl | hold := List.mem_cons.mp hother
    · exact hauthorized
    · exact h.authorized other hold

theorem sendPhase_ne_ready (answer : BotAnswer) : sendPhase answer ≠ .ready := by
  unfold sendPhase
  split <;> simp

theorem sendPhase_ne_held (answer : BotAnswer) : sendPhase answer ≠ .held true := by
  unfold sendPhase
  split <;> simp

theorem sendPhase_spent {answer : BotAnswer} (h : answer.refusal = false) :
    (sendPhase answer).spent := by
  unfold sendPhase
  split
  · trivial
  · rename_i error herror
    cases hkind : error.kind.repeatable with
    | false => exact hkind
    | true => simp [refusal_of_repeatable herror hkind] at h

theorem Mailroom.Sends.send (h : s.Sends) (hc : s.replyClaims.rows token = some c)
    {answer : BotAnswer} {posted : Bool} (htruthful : posted = true → answer.refusal = false) :
    (s.replyStep clk token c (.send t answer posted)).Sends := by
  simp only [Mailroom.replyStep]
  split
  · rename_i hphase
    obtain ⟨hpermit, hauthorized⟩ := h.permitted token c hc (.inr hphase)
    obtain ⟨d, hd⟩ := h.stored token c hc
    have hpassed : ((s.leave (.reply token)).setReply token (sendPhase answer)).Sends :=
      h.finishReply (sendPhase_ne_ready answer) (sendPhase_ne_held answer)
        fun hs => by simp [hphase, ReplyPhase.spent] at hs
    refine hpassed.post ⟨d, hd, fun hsent => ?_⟩ (h.unposted token c hc hphase) ?_ hauthorized
    · obtain ⟨hleased, hstarted⟩ | hunknown := (h.reply _ d hd).ready token c hc rfl hphase
      · refine .inr ⟨token, hleased, hstarted, ?_⟩
        simpa [Mailroom.setReply] using sendPhase_spent (htruthful hsent)
      · exact .inl (.inr (.inr hunknown))
    · rintro t c' hc' hid hready
      simp only [Mailroom.setReply] at hready
      split at hready
      · exact sendPhase_ne_ready answer hready
      · rename_i hne
        exact hne (h.alone t token c' c hc' hc hid hready hphase)
  · exact h

/-- A call of `sendMessage` whose request was refused posted nothing. -/
def MailOp.Truthful : MailOp → Prop
  | .send _ answer posted => posted = true → answer.refusal = false
  | _ => True

theorem Mailroom.Sends.replyStep (h : s.Sends) (hc : s.replyClaims.rows token = some c)
    {op : MailOp} (hop : callOf op = some (.inr token)) (htruthful : op.Truthful) :
    (s.replyStep clk token c op).Sends := by
  cases op with
  | holdReply t => exact h.holdReply hc
  | startReply t => exact h.startReply hc
  | invalidReply t => exact h.invalidReply
  | send t answer posted => exact h.send hc htruthful
  | replySent t => exact h.replySent
  | replyFailed t => exact h.replyFailed
  | crashReply t => exact h.crashReply
  | _ => cases hop

-- ------------------------------------------------------------
-- The other parties
-- ------------------------------------------------------------

theorem Mailroom.Sends.insertReply (h : s.Sends) (hstate : d.state = .pending) :
    ({ s with replies := s.replies.insert d } : Mailroom).Sends := by
  have hnew : ∀ id, s.replies.rows id ≠ none → id ≠ s.replies.next := by
    rintro id hid rfl
    exact hid (s.replies.unused _ (Nat.le_refl _))
  refine h.withReplies ?_ ?_
  · rintro id d' hd'
    rw [Table.insert_rows] at hd'
    split at hd'
    · rename_i hid
      subst hid
      obtain rfl := Option.some.inj hd'
      refine .untouched ⟨?_, ?_⟩ (by simp [hstate]) (by simp [hstate])
      · refine List.countP_eq_zero.mpr fun send hsend hposted => ?_
        obtain ⟨d', hd'⟩ := h.sent send hsend
        exact hnew send.replyId (by simp [hd']) (by simp_all)
      · rintro t c hc hid
        obtain ⟨d', hd'⟩ := h.stored t c hc
        exact absurd hid (hnew c.replyId (by simp [hd']))
    · exact h.reply id d' hd'
  · rintro id d' hd'
    exact ⟨d', by rw [Table.insert_rows, if_neg (hnew id (by simp [hd'])), hd']⟩

theorem Mailroom.Sends.insertReplies (now generation updateId : Int) (replies : List QueuedReply) :
    ∀ (ordinal : Nat) {s : Mailroom}, s.Sends →
      ({ s with replies := insertReplies now generation updateId ordinal replies s.replies } :
        Mailroom).Sends := by
  induction replies with
  | nil => exact fun _ _ h => h
  | cons reply rest ih =>
    rintro ordinal s h
    simp only [StopBot.Telegram.insertReplies]
    split
    · exact ih (ordinal + 1) h
    · exact ih (ordinal + 1) (h.insertReply rfl)

theorem mem_leave_update (hmem : Permit.reply t ∈ s.permits) :
    Permit.reply t ∈ (s.leave (.update token)).permits := by
  simp [Mailroom.leave, hmem]

theorem Mailroom.Sends.updateStep (h : s.Sends) {claim : UpdateClaim} {op : MailOp}
    (hop : callOf op = some (.inl token)) : (s.updateStep clk token claim op).Sends := by
  cases op with
  | recheck | refresh | fail =>
    simp only [Mailroom.updateStep]
    (repeat' split) <;> exact h.frame rfl rfl rfl rfl rfl fun _ hmem => hmem
  | hold =>
    simp only [Mailroom.updateStep]
    (repeat' split) <;>
      exact h.frame rfl rfl rfl rfl rfl fun _ hmem => by simp [Mailroom.setUpdate, hmem]
  | retire =>
    simp only [Mailroom.updateStep]
    (repeat' split) <;> exact h.frame rfl rfl rfl rfl rfl fun _ hmem => hmem
  | handle | handlerRaises =>
    simp only [Mailroom.updateStep]
    split
    · exact h.frame rfl rfl rfl rfl rfl fun _ hmem => mem_leave_update hmem
    · exact h
  | crash => exact h.frame rfl rfl rfl rfl rfl fun _ hmem => mem_leave_update hmem
  | finalize =>
    simp only [Mailroom.updateStep]
    split
    · split
      · exact (h.insertReplies _ _ _ _ _).frame rfl rfl rfl rfl rfl fun _ hmem => hmem
      · exact h.frame rfl rfl rfl rfl rfl fun _ hmem => hmem
    · exact h
  | _ => cases hop

theorem Mailroom.Sends.retireQueued (h : s.Sends) (now : Int) :
    ({ s with replies := retireQueuedReplies s.config now s.replies } : Mailroom).Sends := by
  refine h.update fun id d d' hd hnew => ?_
  split at hnew
  · rename_i hqueued
    simp only [Bool.and_eq_true] at hqueued
    obtain rfl := Option.some.inj hnew
    exact .untouched ((h.reply id d hd).of_queued hqueued.1) (by simp [CommandReply.stale])
      fun _ => by simp [CommandReply.stale, unauthorizedCode]
  · cases hnew

theorem replyCandidate_spec {config : Config} {authIncident : Bool} {gatewayGeneration now : Int}
    {fingerprint : String} {locked : List Nat} {replies : Table CommandReply}
    (h : replyCandidate config authIncident gatewayGeneration fingerprint now locked replies =
      some (id, d)) :
    replies.rows id = some d ∧ d.queued = true := by
  unfold replyCandidate at h
  split at h
  · have hmem := List.mem_filter.mp (Sql.first_mem h)
    simp only [Bool.and_eq_true] at hmem
    exact ⟨Table.mem_entries.mp hmem.1, hmem.2.1.1.1.1⟩
  · cases h

theorem Mailroom.Sends.lease (h : s.Sends) (hd : s.replies.rows id = some d)
    (hqueued : d.queued = true) (hid : c.replyId = id) {leaseSeconds now : Int} :
    ({ s with
        replies := s.replies.updateAt id fun d => some (d.lease s.replyClaims.next leaseSeconds now)
        replyClaims := s.replyClaims.insert c }.setReply s.replyClaims.next .claimed).Sends := by
  have hold : ∀ {t c'}, s.replyClaims.rows t = some c' → t ≠ s.replyClaims.next :=
    fun hc => Nat.ne_of_lt (Table.lt_next_of_rows hc)
  have hclaim : ∀ {t c'}, (s.replyClaims.insert c).rows t = some c' → t ≠ s.replyClaims.next →
      s.replyClaims.rows t = some c' := by
    rintro t c' hc' hne
    rwa [Table.insert_rows, if_neg hne] at hc'
  -- the new call is only claimed, so a call in a later phase is an old one
  have hcall : ∀ {t phase}, phase ≠ .claimed →
      (if t = s.replyClaims.next then ReplyPhase.claimed else s.replyCalls t) = phase →
      t ≠ s.replyClaims.next ∧ s.replyCalls t = phase := by
    rintro t phase hphase ht
    split at ht
    · exact absurd ht.symm hphase
    · exact ⟨‹_›, ht⟩
  obtain ⟨hunposted, hfree⟩ := (h.reply id d hd).of_queued hqueued
  refine ⟨?_, ?_, ?_, ?_, h.once, ?_, h.authorized, ?_⟩
  · rintro id' d' hd'
    obtain ⟨d0, hd0, hd'⟩ := Option.map_eq_some_iff.mp hd'
    simp only at hd'
    split at hd'
    · rename_i heq
      subst heq
      obtain rfl : d = d0 := Option.some.inj (hd.symm.trans hd0)
      subst hd'
      refine ⟨fun t ht => ?_, fun t c' hc' hid' ht => ?_, fun hposted => absurd hunposted hposted,
        fun hdead => by cases hdead⟩
      · obtain rfl : s.replyClaims.next = t := Option.some.inj (reply_leasedBy_iff.mp ht).2
        exact ⟨c, by simp [Mailroom.setReply, Table.insert_rows], hid⟩
      · obtain ⟨hne, ht⟩ := hcall (by simp) ht
        exact absurd ht (hfree t c' (hclaim hc' hne) hid')
    · subst hd'
      have hok := h.reply id' d0 hd0
      refine ⟨fun t ht => ?_, fun t c' hc' hid' ht => ?_, fun hposted => ?_, hok.code⟩
      · obtain ⟨c', hc', hid'⟩ := hok.leased t ht
        exact ⟨c', by simp [Mailroom.setReply, Table.insert_rows, hold hc', hc'], hid'⟩
      · obtain ⟨hne, ht⟩ := hcall (by simp) ht
        exact hok.ready t c' (hclaim hc' hne) hid' ht
      · obtain hfinal | ⟨t, ht, hstarted, hspent⟩ := hok.posted hposted
        · exact .inl hfinal
        · obtain ⟨c', hc', -⟩ := hok.leased t ht
          exact .inr ⟨t, ht, hstarted, by simpa [Mailroom.setReply, hold hc'] using hspent⟩
  · rintro t c' hc'
    by_cases ht : t = s.replyClaims.next
    · obtain rfl : c = c' := by simpa [Mailroom.setReply, Table.insert_rows, ht] using hc'
      exact ⟨_, by rw [hid]; exact Option.map_eq_some_iff.mpr ⟨d, hd, rfl⟩⟩
    · obtain ⟨d', hd'⟩ := h.stored t c' (hclaim hc' ht)
      exact ⟨_, Option.map_eq_some_iff.mpr ⟨d', hd', rfl⟩⟩
  · rintro t t' c' c'' hc' hc'' hid' ht ht'
    obtain ⟨hne, ht⟩ := hcall (by simp) ht
    obtain ⟨hne', ht'⟩ := hcall (by simp) ht'
    exact h.alone t t' c' c'' (hclaim hc' hne) (hclaim hc'' hne') hid' ht ht'
  · rintro t c' hc' ht
    obtain ⟨hne, ht⟩ := hcall (by simp) ht
    exact h.unposted t c' (hclaim hc' hne) ht
  · rintro send hsend
    obtain ⟨d', hd'⟩ := h.sent send hsend
    exact ⟨_, Option.map_eq_some_iff.mpr ⟨d', hd', rfl⟩⟩
  · rintro t c' hc' hphase
    obtain ⟨hne, hphase⟩ : t ≠ s.replyClaims.next ∧
        (s.replyCalls t = .held true ∨ s.replyCalls t = .ready) := by
      obtain ht | ht := hphase
      · exact (hcall (by simp) ht).imp_right .inl
      · exact (hcall (by simp) ht).imp_right .inr
    exact h.permitted t c' (hclaim hc' hne) hphase

theorem Mailroom.Sends.claimReply (h : s.Sends) {gatewayGeneration leaseSeconds : Int}
    {fingerprint : String} {locked : List Nat} :
    (s.claimReply clk gatewayGeneration fingerprint leaseSeconds locked).Sends := by
  unfold Mailroom.claimReply
  split
  · exact h
  · simp only
    split
    · exact h.retireQueued clk.now
    · rename_i row d hcandidate
      obtain ⟨hd, hqueued⟩ := replyCandidate_spec hcandidate
      exact (h.retireQueued clk.now).lease hd hqueued rfl

theorem Mailroom.Sends.claimUpdate (h : s.Sends) {leaseSeconds : Int} {fingerprint : String}
    {locked : List Nat} : (s.claimUpdate clk fingerprint leaseSeconds locked).Sends := by
  unfold Mailroom.claimUpdate
  split
  · exact h
  · simp only
    split <;> exact h.frame rfl rfl rfl rfl rfl fun _ hmem => hmem

/-- The configuration is locked by every call that is about to send. -/
theorem Mailroom.Sends.configure (h : s.Sends) (hfree : s.permits = []) {config : Config} :
    ({ s with config } : Mailroom).Sends where
  reply := fun id d hd =>
    ⟨(h.reply id d hd).leased, (h.reply id d hd).ready, (h.reply id d hd).posted,
      (h.reply id d hd).code⟩
  stored := h.stored
  alone := h.alone
  unposted := h.unposted
  once := h.once
  sent := h.sent
  authorized := h.authorized
  permitted := by
    rintro t c hc hphase
    have hmem := (h.permitted t c hc hphase).1
    simp [hfree] at hmem

theorem Mailroom.Sends.authenticate (h : s.Sends) (now : Int) :
    ({ s with replies := s.replies.update fun _ d => d.reopen now } : Mailroom).Sends := by
  refine h.update fun id d d' hd hnew => ?_
  have hok := h.reply id d hd
  unfold CommandReply.reopen at hnew
  split at hnew
  · rename_i hrefused
    obtain ⟨hstate | hdead, hcode⟩ := hrefused
    · obtain rfl := Option.some.inj hnew
      exact .untouched (hok.of_queued (reply_queued_iff.mpr (.inr hstate))) (by simp) (by simp)
    · exact absurd hcode (hok.code hdead)
  · cases hnew

theorem Mailroom.Sends.step (h : s.Sends) {op : MailOp} (htruthful : op.Truthful) :
    (s.step (clk, op)).Sends := by
  unfold Mailroom.step
  cases hcall : callOf op with
  | some call =>
    cases call with
    | inl token =>
      cases hclaim : s.updateClaims.rows token with
      | none => simpa [hclaim] using h
      | some c => simpa [hclaim] using h.updateStep hcall
    | inr token =>
      cases hclaim : s.replyClaims.rows token with
      | none => simpa [hclaim] using h
      | some c => simpa [hclaim] using h.replyStep hclaim hcall htruthful
  | none =>
    cases op with
    | configure config =>
      simp only
      split
      · exact h.configure ‹_›
      · exact h
    | incident active => exact h.frame rfl rfl rfl rfl rfl fun _ hmem => hmem
    | authenticate => exact (h.authenticate clk.now).frame rfl rfl rfl rfl rfl fun _ hmem => hmem
    | persist generation updateId payload =>
      simp only
      split
      · exact h.frame rfl rfl rfl rfl rfl fun _ hmem => hmem
      · exact h
    | claimUpdate fingerprint leaseSeconds locked => exact h.claimUpdate
    | claimReply gatewayGeneration fingerprint leaseSeconds locked => exact h.claimReply
    | reconcileUpdates => exact h.frame rfl rfl rfl rfl rfl fun _ hmem => hmem
    | reconcileReplies => exact h.update fun id d d' hd hnew => (h.reply id d hd).reconcile hnew
    | _ => cases hcall

end

end StopBot.Telegram
