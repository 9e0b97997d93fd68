import StopBot.Browser.Grants

/-!
# What a grant buys

One Graph call, the one it was issued for, and nothing after the task was
cancelled or its lease was lost; and an answer that proves a call unsent is right
for good.
-/

namespace StopBot.Browser

open Lib Tasks Worker
open StopBot.Graph

variable {host : AgentHost} {accountOf : String → Option String}

-- ------------------------------------------------------------
-- One grant, one call
-- ------------------------------------------------------------

/-- A grant is for the call that was sent: the same session and cabinet, and an
operation text of the same digest. -/
structure Grant.Covers (host : AgentHost) (g : Grant) (req : ExecuteRequest)
    (session : LiveSession) : Prop where
  rpc : g.capability.rpc = "execute_graph_call"
  sessionId : g.capability.sessionId = session.id
  visionProfileId : g.capability.visionProfileId = session.visionProfileId
  adAccountId : g.capability.adAccountId = normalizeActId req.adAccountId
  taskId : g.capability.taskId = req.taskId.toNat
  operation : host.sha.hexdigest (agentGraphBinding host.sha req.params) =
    host.sha.hexdigest g.capability.operation

theorem consumeRequest_fields {req : ExecuteRequest} {binding : OperationCapabilityBinding}
    {c : Capability} (h : consumeRequest host req binding = some c) :
    c.rpc = binding.rpc ∧ c.operation = binding.operation ∧ c.sessionId = binding.sessionId ∧
      c.visionProfileId = binding.visionProfileId ∧ c.adAccountId = binding.adAccountId ∧
      c.taskId = req.taskId.toNat ∧ c.leaseToken = req.leaseToken.toNat := by
  unfold consumeRequest at h
  split at h
  · obtain ⟨owner, -, rfl⟩ := Option.map_eq_some_iff.mp h
    exact ⟨rfl, rfl, rfl, rfl, rfl, rfl, rfl⟩
  · cases h

theorem Capability.Stored.covers {c : Capability} {g : Grant} {req : ExecuteRequest}
    {session : LiveSession} (h : c.Stored host g.capability)
    (hc : consumeRequest host req (moneyBinding host req session) = some c) :
    g.Covers host req session := by
  obtain ⟨-, hrpc, -, htask, -, -, hsession, hprofile, haccount, -, hoperation⟩ := h.fields
  obtain ⟨hrpc', hoperation', hsession', hprofile', haccount', htask', -⟩ :=
    consumeRequest_fields hc
  simp only [moneyBinding] at hrpc' hoperation' hsession' hprofile' haccount'
  refine ⟨hrpc.symm.trans hrpc', hsession.symm.trans hsession', hprofile.symm.trans hprofile',
    haccount.symm.trans haccount', htask.symm.trans htask', ?_⟩
  rw [← hoperation, hoperation']

theorem Grants.Inv.spender {s : Grants} (h : s.Inv host accountOf) {x : Sent} (hx : x ∈ s.sent)
    (hmoney : x.money = true) : ∃ d ∈ s.consumptions, ∃ g session, x.grant = some d.grant ∧
      d.call = some x.call ∧ s.grants.rows d.grant = some g ∧ x.session = some session ∧
      d.Spends host accountOf g ∧ g.Covers host x.request session := by
  obtain ⟨d, hd, session, hgrant, hcall, hsession, hpresented⟩ := (h.backed x hx).2 hmoney
  obtain ⟨g, hg, hspends⟩ := h.ledger.spent d hd
  exact ⟨d, hd, g, session, hgrant, hcall, hg, hsession, hspends, hspends.stored.covers hpresented⟩

theorem plain_method {req : ExecuteRequest} (h : isMoneyControlGraphCall req.params = false) :
    req.evalParams.method = "GET" := by
  simp only [isMoneyControlGraphCall] at h
  split at h
  · cases h
  · rename_i hget
    simpa [ExecuteRequest.evalParams] using hget

/-- Over every run, whoever calls and however often, and whatever is lost: what
is sent without a grant is a plain reading. Everything else spends a grant that
was issued for the same session, cabinet and operation, at a moment at which the
task was running under the lease of the grant, not cancelled, and before its
deadline and the expiry of the grant; and no grant is spent twice. -/
theorem calls_are_granted (host : AgentHost) (accountOf : String → Option String)
    (es : List (Clock × GrantsOp)) :
    let s := run (Grants.step host accountOf) Grants.init es
    (∀ x ∈ s.sent, x.money = false → x.request.evalParams.method = "GET") ∧
    (∀ x ∈ s.sent, x.money = true → ∃ d ∈ s.consumptions, ∃ g session, x.grant = some d.grant ∧
      d.call = some x.call ∧ s.grants.rows d.grant = some g ∧ x.session = some session ∧
      d.Spends host accountOf g ∧ g.Covers host x.request session) ∧
    (s.sent.filterMap (·.grant)).Nodup := by
  intro s
  have h : s.Inv host accountOf := Grants.run_inv es
  refine ⟨fun x hx hplain => plain_method ((h.backed x hx).1 hplain).2,
    fun x hx hmoney => h.spender hx hmoney, ?_⟩
  have hcalls : s.sent.Pairwise fun x y => x.call ≠ y.call := List.pairwise_map.mp h.once
  rw [List.Nodup, List.pairwise_filterMap]
  refine List.Pairwise.imp_of_mem ?_ hcalls
  rintro x y hx hy hne i hi j hj rfl
  have hmoney : ∀ z ∈ s.sent, z.grant = some i → z.money = true := by
    rintro z hz hgrant
    by_contra hplain
    rw [((h.backed z hz).1 (by simpa using hplain)).1] at hgrant
    cases hgrant
  obtain ⟨d, hd, -, -, hgrant, hcall, -⟩ := h.spender hx (hmoney x hx hi)
  obtain ⟨d', hd', -, -, hgrant', hcall', -⟩ := h.spender hy (hmoney y hy hj)
  have heq : d.grant = d'.grant :=
    Option.some.inj ((hgrant.symm.trans hi).trans (hj.symm.trans hgrant'))
  obtain rfl : d = d' := List.inj_on_of_nodup_map h.ledger.once hd hd' heq
  exact hne (Option.some.inj (hcall.symm.trans hcall'))

-- ------------------------------------------------------------
-- The request that was asked for
-- ------------------------------------------------------------

/-- Equal digests on both sides of the wire, for a request whose digests stand for it. -/
theorem Grant.Covers.same {g : Grant} {req : ExecuteRequest} {session : LiveSession}
    {r : GraphRequest} (h : g.Covers host req session)
    (htext : g.capability.operation = bindingText host.sha codePointsLe r)
    (haddressed : Addressed r) (hpins : r.Pinned host.sha) : req.evalParams.Same r := by
  have hdigest := h.operation
  rw [htext] at hdigest
  have hsame := hpins.same haddressed.method haddressed.endpoint hdigest
  have hendpoint : req.params.endpoint = r.endpoint := hsame.endpoint
  refine ⟨?_, ?_, hsame.queryParams, hsame.bodyJson⟩
  · rw [← hsame.method]
    simp [ExecuteRequest.evalParams, req.trim_method]
  · simp [ExecuteRequest.evalParams, hendpoint, haddressed.rooted]

/-- Where digests stand for their texts, the page fetches the request the grant
was asked for; and for a task that changes the status of ads that is a request
its payload says, on the cabinet it says. -/
theorem granted_calls_are_asked_for (host : AgentHost) (accountOf : String → Option String)
    (es : List (Clock × GrantsOp)) :
    let s := run (Grants.step host accountOf) Grants.init es
    ∀ x ∈ s.sent, x.money = true →
      (∀ i g r, x.grant = some i → s.grants.rows i = some g → g.operation = .graph r →
        r.normalized.Pinned host.sha → x.request.evalParams.Same r.normalized) ∧
      ∃ row, s.queue.rows x.request.taskId.toNat = some row ∧
        (boundAdAccountId accountOf row).bind accountId? =
          some (normalizeActId x.request.adAccountId) ∧
        ∀ requests, statusTaskRequests row.payload = .ok (some requests) →
          (∀ r ∈ requests, r.Pinned host.sha) → ∃ r ∈ requests, x.request.evalParams.Same r := by
  intro s x hx hmoney
  have hinv : s.Inv host accountOf := Grants.run_inv es
  obtain ⟨d, -, g, session, hgrant, -, hg, -, -, hcovers⟩ := hinv.spender hx hmoney
  obtain ⟨row, hrow, hbinds⟩ := hinv.ledger.task _ g hg
  refine ⟨?_, row, hcovers.taskId ▸ hrow, hbinds.cabinet.trans (by rw [hcovers.adAccountId]), ?_⟩
  · rintro i g' r hi hg' hoperation hpins
    obtain rfl : d.grant = i := Option.some.inj (hgrant.symm.trans hi)
    obtain rfl : g = g' := Option.some.inj (hg.symm.trans hg')
    obtain ⟨htext, haddressed⟩ := hbinds.graph r hoperation
    exact hcovers.same htext haddressed hpins
  · rintro requests hrequests hpins
    obtain ⟨r, hr, htext, haddressed⟩ := hbinds.status requests hcovers.rpc hrequests
    exact ⟨r, hr, hcovers.same htext haddressed (hpins r hr)⟩

-- One pause: a table of digests for its texts, its task and its call.

def sampleHex (c : Char) : String := String.ofList (List.replicate 64 c)

def sampleTag (text : String) : Char :=
  if text = "" then '1'
  else if text = "[[\"status\",\"PAUSED\"]]" then '2'
  else if text = "POST:/7|q=" ++ sampleHex '2' ++ "|b=" ++ sampleHex '1' then '3'
  else '0'

def sampleSha : Sha256 where
  hexdigest text := sampleHex (sampleTag text)
  hex := by
    intro text
    unfold sampleTag
    repeat' split
    all_goals decide +kernel

theorem sampleSha_pins {text : String} (h : sampleTag text ≠ '0') : sampleSha.Pins text := by
  rintro other hother
  have htag : sampleTag other = sampleTag text := by
    have hlist := congrArg String.toList hother
    simpa [sampleSha, sampleHex, List.replicate_inj] using hlist
  unfold sampleTag at h htag
  grind

def sampleHost : AgentHost where
  sha := sampleSha
  folding := StopBot.Graph.asciiFolding
  loads _ := .error .jsonDecodeError
  uuidText _ := "00000000-0000-4000-8000-000000000007"
  readUuid _ := some 7
  hmac _ _ := sampleHex '6'
  secretOf _ := sampleHex '7'
  methodSemantics _ := none

def samplePause : GraphRequest := ⟨"POST", "/7", [("status", "PAUSED")], ""⟩

def sampleTask : NewTask where
  taskType := .metaApiMutation
  idempotencyKey := "pause_ad:7"
  payload := [("mutation_kind", .str "pause_ad"), ("target_id", .str "7"),
    ("ad_account_id", .str "42")]
  requestedBy := "bot_auto_stop"
  lane := some .money
  deadlineAt := some (seconds 900)

def sampleAsk : OperationAsk where
  authority :=
    { caller := "autopause", taskId := 1, leaseOwner := 7, leaseToken := 1, visionProfileId := "v" }
  operation := .graph samplePause
  adAccountId := "42"
  identity :=
    { browserContractVersion := 5, probePerformed := true, healthy := true, sessionId := "b1",
      visionProfileId := "v" }
  nonce := String.ofList (List.replicate 32 'a')

def sampleCall : ExecuteRequest where
  sessionId := "b1"
  method := "post"
  endpoint := "/7"
  queryParams := [("status", "PAUSED")]
  bodyJson := ""
  adAccountId := "act_42"
  visionProfileId := "v"
  authorizedCaller := "autopause"
  taskId := 1
  leaseOwner := "00000000-0000-4000-8000-000000000007"
  leaseToken := 1
  capabilityExpiresAt := 32
  capabilityNonce := String.ofList (List.replicate 32 'a')
  capabilitySignature := sampleHex '6'

def sampleSession : LiveSession := ⟨"b1", "v", by simp [isHexDigit]⟩

def second (n : Int) : Clock := ⟨seconds n, seconds n, seconds n⟩

/-- Task 1 is claimed, its pause granted and consumed; the page is about to send. -/
def pausing : List (Clock × GrantsOp) :=
  [(second 1, .queue (.create { sampleTask with idempotencyKey := "pause_ad:6" })),
    (second 1, .queue (.create sampleTask)),
    (second 2, .queue (.claim { taskType := .metaApiMutation, lanes := [.money], worker := 7 }
      true [0])),
    (second 3, .issue sampleAsk true),
    (second 4, .call 0 (.arrive sampleCall (some sampleSession) false)),
    (second 4, .call 0 .lock),
    (second 4, .call 0 (.prove true)),
    (second 5, .call 0 (.carryOut .answered)),
    (second 5, .call 0 (.authority false))]

/-- The page has sent. -/
def paused : List (Clock × GrantsOp) := pausing ++ [(second 6, .call 0 (.dispatch true))]

theorem paused_sent :
    let s := run (Grants.step sampleHost fun _ => none) Grants.init paused
    s.sent.map (fun x => (x.money, x.grant, x.request.taskId.toNat, x.request.leaseToken.toNat)) =
        [(true, some 0, 1, 1)] ∧
      (s.grants.rows 0).map (·.operation) = some (.graph samplePause) ∧
      (s.queue.rows 1).map (fun row => (row.leaseToken, row.status)) = some (1, .running) := by
        decide +kernel

theorem granted_calls_are_asked_for_paused :
    ∃ x ∈ (run (Grants.step sampleHost fun _ => none) Grants.init paused).sent,
      x.money = true ∧ x.request.evalParams.Same samplePause := by
  obtain ⟨hsent, hgrant, -⟩ := paused_sent
  obtain ⟨g, hg, hoperation⟩ := Option.map_eq_some_iff.mp hgrant
  obtain ⟨x, hx, hfields⟩ := List.mem_map.mp (hsent ▸ List.mem_singleton_self (true, some 0, 1, 1))
  simp only [Prod.mk.injEq] at hfields
  obtain ⟨hmoney, hspent, -⟩ := hfields
  have hasked := (granted_calls_are_asked_for sampleHost (fun _ => none) paused x hx hmoney).1
  refine ⟨x, hx, hmoney, hasked 0 g samplePause hspent hg hoperation
    ⟨sampleSha_pins ?_, sampleSha_pins ?_, sampleSha_pins ?_⟩⟩
  all_goals decide +kernel

-- ------------------------------------------------------------
-- Refusals that prove something
-- ------------------------------------------------------------

variable {k : Call} {clk : Clock} {a : Answer} {s : Grants} {n : Nat}

theorem Call.respond_answer (h : k.answer = some a) (b : Answer) :
    (k.respond b).answer = some a := by
  simp [Call.respond, h]

theorem Call.throw_answer (h : k.answer = some a) (message : String) :
    (k.throw message).answer = some a := by
  simp only [Call.throw]
  split
  · exact h
  · exact Call.respond_answer (k := { k with phase := .over }) h _

theorem Call.step_answer (h : k.answer = some a) (op : CallOp) :
    (k.step host clk op).answer = some a := by
  cases op with
  | arrive req found late =>
    simp only [Call.step, Call.arrive]
    split
    · exact h
    split
    · exact Call.respond_answer (k := { k with phase := .over }) h _
    split
    · exact Call.throw_answer h _
    · exact h
  | lock =>
    simp only [Call.step, Call.lock, Call.bindExpiry]
    (repeat' split) <;> simp [Call.respond, Call.throw_answer, h]
  | prove epochKept =>
    simp only [Call.step, Call.prove]
    (repeat' split) <;> simp [Call.throw_answer, h]
  | fail message =>
    simp only [Call.step, Call.fail]
    split <;> simp [Call.throw_answer, h]
  | authority timeout =>
    simp only [Call.step, Call.authority]
    (repeat' split) <;> simp [Call.throw_answer, h]
  | finish sessionGone =>
    simp only [Call.step, Call.finish]
    (repeat' split) <;> simp [Call.respond, Call.throw_answer, h]
  | abort reason =>
    simp only [Call.step]
    unfold Call.fire
    extract_lets due
    split <;> simp [Call.respond, h]
  | dispatch epochKept =>
    simp only [Call.step, Call.dispatch]
    (repeat' split) <;> simp [Call.throw_answer, h]
  | carryOut outcome => exact h

/-- A step moves one call by one operation, or takes its consume request away. -/
theorem Grants.step_call (s : Grants) (e : Clock × GrantsOp) (n : Nat) :
    (∃ op, (s.step host accountOf e).calls n = (s.calls n).step host e.1 op) ∨
      ∃ posted reply, (s.step host accountOf e).calls n = { s.calls n with posted, reply } := by
  have hsame : ∃ posted reply, s.calls n = { s.calls n with posted, reply } :=
    ⟨(s.calls n).posted, (s.calls n).reply, rfl⟩
  obtain ⟨clk, op⟩ := e
  cases op with
  | queue op => exact .inr hsame
  | cleanup => exact .inr hsame
  | issue ask stored =>
    obtain heq | ⟨c, row, -, -, -, heq⟩ := @Grants.issue_cases host accountOf s clk ask stored
    · simpa [Grants.step, heq] using .inr hsame
    · simpa [Grants.step, heq, Grants.setUse] using .inr hsame
  | consume c =>
    cases hconsume : s.consume host clk none c with
    | none => simpa [Grants.step, hconsume] using .inr hsame
    | some result =>
      obtain ⟨task, use, -, -, -, -, -, -, heq⟩ := Grants.consume_spec hconsume
      simpa [Grants.step, hconsume, heq, Grants.setUse] using .inr hsame
  | call m op =>
    have hmove : ∀ op', (∃ op'', (s.setCall m ((s.calls m).step host clk op')).calls n =
        (s.calls n).step host clk op'') ∨ ∃ posted reply,
          (s.setCall m ((s.calls m).step host clk op')).calls n =
            { s.calls n with posted, reply } := by
      intro op'
      simp only [Grants.setCall]
      split
      · rename_i hm
        exact .inl ⟨op', by rw [hm]⟩
      · exact .inr hsame
    cases op with
    | carryOut outcome =>
      have htaken : ∀ reply, ∃ posted reply',
          (if n = m then { s.calls m with posted := none, reply } else s.calls n) =
          { s.calls n with posted, reply := reply' } := by
        intro reply
        split
        · rename_i hm
          exact ⟨none, reply, by rw [hm]⟩
        · exact hsame
      obtain heq | ⟨reply, -, -, heq⟩ | ⟨c, i, s', reply, -, hconsume, -, heq⟩ :=
        @Grants.carryOut_cases host s clk m outcome
      · simpa only [Grants.step, heq] using .inr hsame
      · simpa only [Grants.step, heq, Grants.setCall] using .inr (htaken reply)
      · obtain ⟨task, use, -, -, -, -, -, -, rfl⟩ := Grants.consume_spec hconsume
        simpa only [Grants.step, heq, Grants.setCall, Grants.setUse] using .inr (htaken reply)
    | dispatch epochKept =>
      have hcalls : (s.dispatch m epochKept).calls =
          (s.setCall m ((s.calls m).step host clk (.dispatch epochKept))).calls := by
        simp only [Grants.dispatch, Call.step]
        split
        · split <;> rfl
        · rfl
      simpa only [Grants.step, hcalls] using hmove (.dispatch epochKept)
    | _ => exact hmove _

theorem Grants.run_answer (h : (s.calls n).answer = some a) (es : List (Clock × GrantsOp)) :
    ((run (Grants.step host accountOf) s es).calls n).answer = some a := by
  refine run_preserves (I := fun s : Grants => (s.calls n).answer = some a) ?_ h es
  rintro s e h
  obtain ⟨op, heq⟩ | ⟨posted, reply, heq⟩ := @Grants.step_call host accountOf s e n
  · rw [heq]
    exact Call.step_answer h op
  · rw [heq]
    exact h

/-- A call whose gRPC status the client takes for a proof that nothing reached Meta was
not sent, and is not sent in any continuation; the codes inside an answer prove nothing. -/
theorem proven_unsent_calls_stay_unsent (host : AgentHost) (accountOf : String → Option String)
    (es later : List (Clock × GrantsOp)) (n : Nat) (a : Answer)
    (ha : ((run (Grants.step host accountOf) Grants.init es).calls n).answer = some a)
    (hproves : a.status.provesUnsent = true) :
    ∀ x ∈ (run (Grants.step host accountOf) Grants.init (es ++ later)).sent, x.call ≠ n := by
  rintro x hx rfl
  have hinv := @Grants.run_inv host accountOf (es ++ later)
  have hlater : ((run (Grants.step host accountOf) Grants.init (es ++ later)).calls x.call).answer =
      some a := by
    rw [run_append]
    exact Grants.run_answer ha later
  rw [(hinv.spoken x hx).answer a hlater] at hproves
  cases hproves

/-- The call that was refused is tried again with the same request. -/
theorem proven_unsent_calls_stay_unsent_backoff :
    (0 : Nat) ∉ (run (Grants.step sampleHost fun _ => none) Grants.init
      ([(second 4, .call 0 (.arrive sampleCall (some sampleSession) false)),
        (second 4, .call 0 (.fail "cabinet_backoff"))] ++
        [(second 4, .call 0 (.arrive sampleCall (some sampleSession) false)),
          (second 4, .call 0 (.dispatch true))])).sent.map
          (·.call) := by
  rw [List.mem_map]
  rintro ⟨x, hx, hcall⟩
  exact proven_unsent_calls_stay_unsent sampleHost (fun _ => none) _ _ 0
    ⟨.failedPrecondition, "cabinet_backoff", none⟩ (by decide +kernel) rfl x hx hcall

-- ------------------------------------------------------------
-- Revoked leases
-- ------------------------------------------------------------

/-- The task was claimed again after the lease `token`, or has left running or was
cancelled under it. A lease that has only expired is not over. -/
def Revoked (id token : Nat) (q : Queue) : Prop :=
  ∃ row, q.rows id = some row ∧ (token < row.leaseToken ∨
    row.leaseToken = token ∧ (row.status ≠ .running ∨ row.cancelRequestedAt.isSome = true))

variable {row row' : TaskRow} {q : Queue} {id token : Nat}

theorem RowOp.keepsCancel {op : RowOp} (h : op.apply clk row = some row')
    (hrun : row'.status = .running)
    (hcancel : row.cancelRequestedAt.isSome = true) : row'.cancelRequestedAt.isSome = true := by
  obtain ⟨-, -, hsame | hmarks⟩ := RowOp.keepsGrant h hrun
  · rw [hsame]
    exact hcancel
  · simp only [marksCancel, Bool.and_eq_true] at hmarks
    obtain ⟨-, hmarks⟩ := hmarks
    cases op with
    | requestTaskCancel reason =>
      obtain ⟨-, rfl⟩ := update_eq_some.mp h
      simp
    | cancelUnstartedAutoPause fbAdId =>
      simp only [RowOp.apply, cancelUnstartedAutoPause] at h
      split at h
      · cases h
        exact hcancel
      · obtain ⟨-, rfl⟩ := update_eq_some.mp h
        rfl
    | abortCampaignTask reason =>
      simp only [RowOp.apply, abortCampaignTask] at h
      split at h
      · cases h
        simp
      · obtain ⟨-, rfl⟩ := update_eq_some.mp h
        simp
    | _ => cases hmarks

theorem Revoked.step (h : Revoked id token q) (e : Clock × QueueOp) :
    Revoked id token (Tasks.step q e) := by
  obtain ⟨row, hrow, hover⟩ := h
  obtain ⟨row', hrow', ⟨worker, -, hclaims⟩ | ⟨-, rfl | ⟨op, -, hop⟩⟩⟩ := step_claimOf e hrow
  · obtain ⟨-, -, htoken, -⟩ := hclaims.spec
    exact ⟨row', hrow', .inl (by omega)⟩
  · exact ⟨row', hrow', hover⟩
  · have heffect := RowOp.effect hop
    have htoken := heffect.kept.leaseToken
    rcases hover with hold | ⟨hlease, hover⟩
    · exact ⟨row', hrow', .inl (by omega)⟩
    · refine ⟨row', hrow', .inr ⟨htoken.trans hlease, ?_⟩⟩
      by_cases hrun : row'.status = .running
      · rcases hover with hidle | hcancel
        · exact absurd (heffect.running hrun) hidle
        · exact .inr (RowOp.keepsCancel hop hrun hcancel)
      · exact .inl hrun

theorem Revoked.not_authorized {f : Fence} (h : Revoked id token q) (hrow : q.rows id = some row)
    (htoken : f.token = some token) : authorized clk f row = false := by
  obtain ⟨row', hrow', hover⟩ := h
  obtain rfl : row = row' := Option.some.inj (hrow.symm.trans hrow')
  rw [← Bool.not_eq_true]
  rintro hauthorized
  simp only [authorized, Bool.and_eq_true, heldBy_iff, Option.isNone_iff_eq_none] at hauthorized
  obtain ⟨⟨⟨hrun, hfence, -⟩, hcancel⟩, -⟩ := hauthorized
  have hlease : row.leaseToken = token := by
    unfold TaskRow.fencedBy at hfence
    split at hfence
    · rename_i owner token' howner htoken'
      obtain rfl : token = token' := Option.some.inj (htoken.symm.trans htoken')
      simpa using (Bool.and_eq_true_iff.mp hfence).2
    · cases hfence
  rcases hover with hold | ⟨-, hidle | hcancelled⟩
  · omega
  · exact hidle hrun
  · simp [hcancel] at hcancelled

theorem Grants.step_queue (s : Grants) (e : Clock × GrantsOp) :
    (s.step host accountOf e).queue = s.queue ∨
      ∃ op, (s.step host accountOf e).queue = Tasks.step s.queue (e.1, op) := by
  obtain ⟨clk, op⟩ := e
  cases op with
  | queue op => exact .inr ⟨op, rfl⟩
  | cleanup => exact .inl rfl
  | issue ask stored =>
    obtain heq | ⟨c, row, -, -, -, heq⟩ := @Grants.issue_cases host accountOf s clk ask stored
    · simp [Grants.step, heq]
    · simp [Grants.step, heq, Grants.setUse]
  | consume c =>
    cases hconsume : s.consume host clk none c with
    | none => simp [Grants.step, hconsume]
    | some result =>
      obtain ⟨task, use, -, -, -, -, -, -, heq⟩ := Grants.consume_spec hconsume
      simp [Grants.step, hconsume, heq, Grants.setUse]
  | call m op =>
    cases op with
    | carryOut outcome =>
      obtain heq | ⟨reply, -, -, heq⟩ | ⟨c, i, s', reply, -, hconsume, -, heq⟩ :=
        @Grants.carryOut_cases host s clk m outcome
      · simp [Grants.step, heq]
      · simp [Grants.step, heq, Grants.setCall]
      · obtain ⟨task, use, -, -, -, -, -, -, rfl⟩ := Grants.consume_spec hconsume
        simp [Grants.step, heq, Grants.setCall, Grants.setUse]
    | dispatch epochKept => exact .inl (Grants.dispatch_frame epochKept).1
    | _ => exact .inl rfl

theorem Grants.sent_grows (s : Grants) (e : Clock × GrantsOp) (x : Sent) (hx : x ∈ s.sent) :
    x ∈ (s.step host accountOf e).sent := by
  obtain ⟨clk, op⟩ := e
  cases op with
  | queue op => exact hx
  | cleanup => exact hx
  | issue ask stored =>
    obtain heq | ⟨c, row, -, -, -, heq⟩ := @Grants.issue_cases host accountOf s clk ask stored
    · simpa [Grants.step, heq] using hx
    · simpa [Grants.step, heq, Grants.setUse] using hx
  | consume c =>
    cases hconsume : s.consume host clk none c with
    | none => simpa [Grants.step, hconsume] using hx
    | some result =>
      obtain ⟨task, use, -, -, -, -, -, -, heq⟩ := Grants.consume_spec hconsume
      simpa [Grants.step, hconsume, heq, Grants.setUse] using hx
  | call m op =>
    cases op with
    | carryOut outcome =>
      obtain heq | ⟨reply, -, -, heq⟩ | ⟨c, i, s', reply, -, hconsume, -, heq⟩ :=
        @Grants.carryOut_cases host s clk m outcome
      · simpa [Grants.step, heq] using hx
      · simpa [Grants.step, heq, Grants.setCall] using hx
      · obtain ⟨task, use, -, -, -, -, -, -, rfl⟩ := Grants.consume_spec hconsume
        simpa [Grants.step, heq, Grants.setCall, Grants.setUse] using hx
    | dispatch epochKept =>
      simp only [Grants.step, Grants.dispatch]
      split
      · split
        · exact List.mem_cons_of_mem _ hx
        · exact hx
      · exact hx
    | _ => exact hx

theorem Grants.sent_run (s : Grants) (es : List (Clock × GrantsOp)) (x : Sent) (hx : x ∈ s.sent) :
    x ∈ (run (Grants.step host accountOf) s es).sent := by
  refine run_preserves (I := fun s : Grants => x ∈ s.sent) ?_ hx es
  rintro s e hx
  exact Grants.sent_grows s e x hx

theorem Grants.step_consumptions (s : Grants) (e : Clock × GrantsOp) :
    ∀ d ∈ (s.step host accountOf e).consumptions, d ∈ s.consumptions ∨
      s.queue.rows d.presented.taskId = some d.task ∧
        authorized e.1 d.presented.fence d.task = true := by
  obtain ⟨clk, op⟩ := e
  have hspends : ∀ {call c i s'}, s.consume host clk call c = some (i, s') → ∀ d ∈ s'.consumptions,
      d ∈ s.consumptions ∨ s.queue.rows d.presented.taskId = some d.task ∧
        authorized clk d.presented.fence d.task = true := by
    rintro call c i s' hconsume d hd
    obtain ⟨task, use, htask, -, hauthorized, -, -, -, rfl⟩ := Grants.consume_spec hconsume
    rcases List.mem_cons.mp hd with rfl | hd
    · exact .inr ⟨htask, hauthorized⟩
    · exact .inl hd
  rintro d hd
  cases op with
  | queue op => exact .inl hd
  | cleanup => exact .inl hd
  | issue ask stored =>
    obtain heq | ⟨c, row, -, -, -, heq⟩ := @Grants.issue_cases host accountOf s clk ask stored
    · exact .inl (by simpa [Grants.step, heq] using hd)
    · exact .inl (by simpa [Grants.step, heq, Grants.setUse] using hd)
  | consume c =>
    cases hconsume : s.consume host clk none c with
    | none => exact .inl (by simpa [Grants.step, hconsume] using hd)
    | some result => exact hspends hconsume d (by simpa [Grants.step, hconsume] using hd)
  | call m op =>
    cases op with
    | carryOut outcome =>
      obtain heq | ⟨reply, -, -, heq⟩ | ⟨c, i, s', reply, -, hconsume, -, heq⟩ :=
        @Grants.carryOut_cases host s clk m outcome
      · exact .inl (by simpa [Grants.step, heq] using hd)
      · exact .inl (by simpa [Grants.step, heq, Grants.setCall] using hd)
      · exact hspends hconsume d (by simpa [Grants.step, heq, Grants.setCall] using hd)
    | dispatch epochKept =>
      exact .inl (by simpa only [Grants.step, (Grants.dispatch_frame epochKept).2.2.2] using hd)
    | _ => exact .inl hd

/-- Once a lease is over or its task is cancelled, only calls that had consumed
their grant before are still sent in its name. -/
theorem revoked_leases_spend_nothing (host : AgentHost) (accountOf : String → Option String)
    (es later : List (Clock × GrantsOp)) (id token : Nat)
    (hrevoked : Revoked id token (run (Grants.step host accountOf) Grants.init es).queue) :
    ∀ x ∈ (run (Grants.step host accountOf) Grants.init (es ++ later)).sent, x.money = true →
      x.request.taskId.toNat = id → x.request.leaseToken.toNat = token →
        ∃ d ∈ (run (Grants.step host accountOf) Grants.init es).consumptions,
          x.grant = some d.grant ∧ d.call = some x.call := by
  let cs := (run (Grants.step host accountOf) Grants.init es).consumptions
  have hfixed : ∀ d ∈ (run (Grants.step host accountOf) Grants.init (es ++ later)).consumptions,
      d.presented.taskId = id → d.presented.leaseToken = token → d ∈ cs := by
    rw [run_append]
    refine (run_preserves (I := fun s : Grants => Revoked id token s.queue ∧ ∀ d ∈ s.consumptions,
      d.presented.taskId = id → d.presented.leaseToken = token → d ∈ cs) ?_
        ⟨hrevoked, fun _ hd _ _ => hd⟩ later).2
    rintro s e ⟨hover, hold⟩
    refine ⟨?_, ?_⟩
    · obtain heq | ⟨op, heq⟩ := @Grants.step_queue host accountOf s e
      · rw [heq]
        exact hover
      · rw [heq]
        exact hover.step _
    · rintro d hd htask htoken
      obtain hd | ⟨hrow, hauthorized⟩ := s.step_consumptions e d hd
      · exact hold d hd htask htoken
      · rw [hover.not_authorized (htask ▸ hrow) (by simp [Capability.fence, htoken])] at hauthorized
        cases hauthorized
  rintro x hx hmoney htask htoken
  have hinv := @Grants.run_inv host accountOf (es ++ later)
  obtain ⟨d, hd, session, hgrant, hcall, -, hpresented⟩ := (hinv.backed x hx).2 hmoney
  obtain ⟨-, -, -, -, -, htask', htoken'⟩ := consumeRequest_fields hpresented
  exact ⟨d, hfixed d hd (htask'.trans htask) (htoken'.trans htoken), hgrant, hcall⟩

/-- The task is cancelled, and the page is told to send once more. -/
def cancelled : Clock × GrantsOp := (second 7, .queue (.onRow 1 (.requestTaskCancel "operator")))

theorem paused_revoked : Revoked 1 1 (run (Grants.step sampleHost fun _ => none) Grants.init
    (paused ++ [cancelled])).queue := by
  obtain ⟨-, -, hcolumns⟩ := paused_sent
  obtain ⟨row, hrow, hrest⟩ := Option.map_eq_some_iff.mp hcolumns
  obtain ⟨htoken, hrun⟩ := Prod.mk.inj hrest
  refine ⟨{ row with
    cancelRequestedAt := row.cancelRequestedAt <|> some (seconds 7), cancelReason := some "operator"
    updatedAt := seconds 7 }, ?_, .inr ⟨htoken, .inr (by simp)⟩⟩
  simp [run_append, Grants.step, cancelled, Tasks.step, hrow, RowOp.apply, requestTaskCancel,
    update, hrun,
    Status.terminal, Status.queued, second, clipError, PyText.clip]

theorem revoked_leases_spend_nothing_cancelled :
    ∃ x ∈ (run (Grants.step sampleHost fun _ => none) Grants.init
        (paused ++ [cancelled] ++ [(second 8, .call 0 (.dispatch true))])).sent,
      ∃ d ∈ (run (Grants.step sampleHost fun _ => none) Grants.init
          (paused ++ [cancelled])).consumptions,
        x.grant = some d.grant ∧ d.call = some x.call := by
  obtain ⟨x, hx, hfields⟩ := List.mem_map.mp
    (paused_sent.1 ▸ List.mem_singleton_self (true, some 0, 1, 1))
  simp only [Prod.mk.injEq] at hfields
  obtain ⟨hmoney, -, htask, hlease⟩ := hfields
  have hkept : x ∈ (run (Grants.step sampleHost fun _ => none) Grants.init
      (paused ++ [cancelled] ++ [(second 8, .call 0 (.dispatch true))])).sent := by
    rw [run_append, run_append]
    exact Grants.sent_run _ _ _ (Grants.sent_run _ _ _ hx)
  exact ⟨x, hkept, revoked_leases_spend_nothing sampleHost (fun _ => none) _ _ 1 1 paused_revoked
    x hkept hmoney htask hlease⟩

end StopBot.Browser
