import StopBot.Browser.Capability

/-!
# Graph calls in browser-agent

`services/browser-agent/src/meta-api`: which calls need a capability, how it is
verified, the statuses of failures, and the handler of one `ExecuteGraphCallV5`.
The check of the method semantics and the session registry are given by their
verdicts; healing a page after the call is left out but for the exception it
can raise.
-/

namespace StopBot.Browser

open Lib Tasks Worker
open StopBot.Graph

-- ------------------------------------------------------------
-- Statuses of failures
-- ------------------------------------------------------------

inductive GrpcStatus
  | ok
  | cancelled
  | invalidArgument
  | deadlineExceeded
  | notFound
  | permissionDenied
  | failedPrecondition
  | aborted
  | unimplemented
  | internal
  | unavailable
  deriving DecidableEq, Repr

structure Answer where
  status : GrpcStatus
  message : String
  rejection : Option String := none
  deriving DecidableEq, Repr

def operationRejectionPredicates : List (String × String) :=
  [("capability authority is unavailable", "capability_authority_unavailable"),
    ("capability contract is incompatible", "capability_contract_incompatible"),
    ("capability secret is unavailable", "capability_secret_unavailable"),
    ("capability cabinet binding is invalid", "capability_cabinet_mismatch"),
    ("caller is not authorized", "caller_not_authorized"),
    ("task binding is invalid", "capability_task_binding_invalid"),
    ("lease binding is invalid", "capability_lease_binding_invalid"),
    ("capability is expired or unbounded", "capability_expired"),
    ("capability is malformed", "capability_malformed"),
    ("capability signature is invalid", "capability_signature_invalid"),
    ("capability deadline is missing", "capability_expiry_missing"),
    ("operation capability", "capability_reason_unknown"),
    ("ownership preflight rejected", "ownership_preflight_rejected"),
    ("graph method override", "graph_method_override"),
    ("graph request method semantics", "graph_method_semantics"),
    ("graph get body semantics", "graph_get_body"),
    ("graph endpoint query/fragment semantics", "graph_endpoint_query"),
    ("ad_account_id must be an explicit numeric account id", "ad_account_id_not_numeric"),
    ("money graph call requires explicit ad_account_id", "ad_account_id_missing")]

def argumentRejectionReasons : List String := ["ad_account_id_not_numeric", "ad_account_id_missing"]

def browserOperationRejectionReason (message : String) : Option String :=
  let text := JsText.toLowerCase message
  if JsText.includes text "capability consume was denied" then none
  else (operationRejectionPredicates.find? fun entry => JsText.includes text entry.1).map Prod.snd

def presendTexts : List String :=
  ["ownership preflight", "cabinet_backoff", "page_epoch_changed", "cabinet_not_found",
    "cabinet_not_confirmed", "cabinet_login_required"]

def grpcCodeForError (message : String) : GrpcStatus :=
  let text := JsText.toLowerCase message
  if JsText.includes text "capability consume was denied" then .aborted
  else
    match browserOperationRejectionReason message with
    | some reason =>
      if reason ∈ argumentRejectionReasons then .invalidArgument else .permissionDenied
    | none =>
      if presendTexts.any (JsText.includes text) then .failedPrecondition
      else if JsText.includes text "authority is unavailable" then .unavailable
      else if JsText.includes text "exact session/profile identity" then .failedPrecondition
      else if JsText.includes text "not found" || JsText.includes text "не найден" then .notFound
      else .internal

def grpcErrorForOperationFailure (message : String) : Answer where
  status := grpcCodeForError message
  message := message
  rejection := browserOperationRejectionReason message

theorem grpcErrorForOperationFailure_status (message : String) :
    (grpcErrorForOperationFailure message).status = grpcCodeForError message := by
  rw [grpcErrorForOperationFailure]

inductive AbortReason
  | grpcCancelled
  | grpcClosed
  | grpcDeadlineExceeded
  | capabilityExpired
  | capabilityExpiryMissing
  deriving DecidableEq, Repr

/-- `grpcAbortError`, with the consumption state of the call. -/
def grpcAbortError (reason : AbortReason) (consumed : Bool) : Answer :=
  match reason with
  | .capabilityExpiryMissing =>
    grpcErrorForOperationFailure "Browser operation capability deadline is missing"
  | .capabilityExpired =>
    if consumed then
      ⟨.deadlineExceeded, "Browser operation capability expired after the grant was consumed", none⟩
    else grpcErrorForOperationFailure "Browser operation capability is expired or unbounded"
  | .grpcDeadlineExceeded => ⟨.deadlineExceeded, "Browser operation gRPC deadline exceeded", none⟩
  | .grpcCancelled | .grpcClosed => ⟨.cancelled, "Browser operation was cancelled", none⟩

/-- The statuses the client takes for a proof that nothing reached Meta
(`_controlled_presend_readiness_error`, `browser_operation_rejection_error` and
the permanent refusal of `_grpc_to_meta_error`); all others stay ambiguous. -/
def GrpcStatus.provesUnsent : GrpcStatus → Bool
  | .failedPrecondition | .unimplemented | .permissionDenied | .invalidArgument => true
  | _ => false

-- ------------------------------------------------------------
-- Requests
-- ------------------------------------------------------------

/-- `ExecuteGraphCallRequest`, its timeout aside. -/
structure ExecuteRequest where
  sessionId : String
  method : String
  endpoint : String
  queryParams : Pairs
  bodyJson : String
  adAccountId : String
  visionProfileId : String
  authorizedCaller : String
  taskId : Int
  leaseOwner : String
  leaseToken : Int
  capabilityExpiresAt : Int
  capabilityNonce : String
  capabilitySignature : String
  deriving DecidableEq, Repr

/-- `value.replace(/^act_/, '').trim()`. -/
def withoutAct (value : String) : String :=
  JsText.trim (if "act_".toList.isPrefixOf value.toList then
    String.ofList (value.toList.drop 4) else value)

def normalizeActId (value : String) : String :=
  if JsText.isNumeral (withoutAct value) then withoutAct value else ""

def ExecuteRequest.params (req : ExecuteRequest) : GraphRequest where
  method := JsText.toUpperCase (JsText.trim (if req.method = "" then "GET" else req.method))
  endpoint := if req.endpoint = "" then "/me" else req.endpoint
  queryParams := req.queryParams
  bodyJson := req.bodyJson

def ExecuteRequest.evalParams (req : ExecuteRequest) : GraphRequest where
  method := JsText.toUpperCase req.params.method
  endpoint := if req.params.endpoint.toList.head? = some '/' then req.params.endpoint
    else "/" ++ req.params.endpoint
  queryParams := req.queryParams
  bodyJson := req.bodyJson

theorem ExecuteRequest.trim_method (req : ExecuteRequest) :
    JsText.trim req.params.method = req.params.method :=
  JsText.trim_of_trimmed (JsText.trimmed_trim _).toUpperCase

def fieldNames (fields : String) : List String :=
  (fields.toList.splitOnP (· == ',')).map fun field =>
    JsText.toLowerCase (JsText.trim (String.ofList field))

def isMoneyControlGraphCall (request : GraphRequest) : Bool :=
  if JsText.toUpperCase request.method ≠ "GET" then true
  else
    let target := (JsText.trim request.endpoint).toList
    let path := if target.head? = some '/' then target.drop 1 else target
    let rest := path.dropWhile Char.isDigit
    if (path.takeWhile Char.isDigit).isEmpty then false
    else if rest = "/thumbnails".toList then true
    else if rest ≠ [] then false
    else
      let names := fieldNames ((request.queryParams.lookup "fields").getD "")
      names.contains "status" || names.contains "effective_status"

structure LiveSession where
  id : String
  visionProfileId : String
  plain : ∀ c ∈ id.toList, isHexDigit c = true ∨ c = '-'

def resolveExactOperationSession (req : ExecuteRequest) (found : Option LiveSession) :
    Option LiveSession :=
  found.filter fun session =>
    JsText.trim req.sessionId != "" && JsText.trim req.visionProfileId != "" &&
      session.id == JsText.trim req.sessionId &&
        session.visionProfileId == JsText.trim req.visionProfileId

-- ------------------------------------------------------------
-- Verification
-- ------------------------------------------------------------

structure OperationCapabilityBinding where
  browserContractVersion : Int
  rpc : String
  operation : String
  sessionId : String
  visionProfileId : String
  adAccountId : String
  deriving DecidableEq, Repr

/-- What browser-agent rests on beside the client's host: its reading of the method semantics. -/
structure AgentHost extends CapabilityHost where
  methodSemantics : GraphRequest → Option String

def operationPayload (req : ExecuteRequest) (binding : OperationCapabilityBinding) : String :=
  "\n".intercalate ["browser_operation/v2", toString binding.browserContractVersion, binding.rpc,
    binding.operation, binding.sessionId, binding.visionProfileId, binding.adAccountId,
      req.authorizedCaller,
    toString req.taskId, req.leaseOwner, toString req.leaseToken, toString req.capabilityExpiresAt,
    req.capabilityNonce]

def uuidShape (text : String) : Bool :=
  let cs := text.toList.map Char.toLower
  let at? (i : Nat) (allowed : List Char) : Bool := cs[i]?.any allowed.contains
  cs.length == 36 && at? 8 ['-'] && at? 13 ['-'] && at? 18 ['-'] && at? 23 ['-'] &&
    at? 14 "12345".toList && at? 19 "89ab".toList && (cs.all fun c => isHexDigit c || c == '-') &&
    cs.count '-' == 4

def isSafeInteger (n : Int) : Bool := -9007199254740991 ≤ n && n ≤ 9007199254740991

/-- `MAX_TTL_SECONDS_BY_RPC`. -/
def maxTtlSeconds (rpc : String) : Int :=
  if rpc = "execute_graph_call" then 40 else 185

/-- `assertCapabilityStillFresh`. -/
def capabilityFresh (nowSeconds : Int) (rpc : String) (req : ExecuteRequest) : Bool :=
  isSafeInteger req.capabilityExpiresAt && nowSeconds < req.capabilityExpiresAt &&
    req.capabilityExpiresAt ≤ nowSeconds + maxTtlSeconds rpc

/-- `verifyOperationCapability`: the message it throws. -/
def verifyOperationCapability (host : AgentHost) (nowSeconds : Int) (req : ExecuteRequest)
    (binding : OperationCapabilityBinding) : Option String :=
  let caller := JsText.trim req.authorizedCaller
  let secret := if caller ∈ authorizedCallers then host.secretOf caller else ""
  let nonce := JsText.trim req.capabilityNonce
  let signature := JsText.trim req.capabilitySignature
  if binding.browserContractVersion ≠ contractVersion then
    some "Browser operation capability contract is incompatible"
  else if secret.length < 48 then some "Browser operation capability secret is unavailable"
  else if JsText.trim req.sessionId = "" ∨ JsText.trim req.visionProfileId = "" ∨
      JsText.trim req.sessionId ≠ binding.sessionId ∨
      JsText.trim req.visionProfileId ≠ binding.visionProfileId then
    some "Browser operation requires exact session/profile identity"
  else if JsText.isNumeral (withoutAct req.adAccountId) = false ∨
      withoutAct req.adAccountId ≠ binding.adAccountId then
    some "Browser operation capability cabinet binding is invalid"
  else if caller ∉ authorizedCallers then some "Browser operation caller is not authorized"
  else if isSafeInteger req.taskId = false ∨ req.taskId ≤ 0 then
    some "Browser operation task binding is invalid"
  else if uuidShape (JsText.trim req.leaseOwner) = false ∨ isSafeInteger req.leaseToken = false ∨
      req.leaseToken ≤ 0 then
    some "Browser operation lease binding is invalid"
  else if capabilityFresh nowSeconds binding.rpc req = false then
    some "Browser operation capability is expired or unbounded"
  else if isNonce nonce = false ∨ isHex 64 signature = false then
    some "Browser operation capability is malformed"
  else if host.hmac secret (operationPayload req binding) ≠ signature then
    some "Browser operation capability signature is invalid"
  else none

/-- The body of the consume request, past the validation of the API; none when
the API refuses its shape. -/
def consumeRequest (host : AgentHost) (req : ExecuteRequest)
    (binding : OperationCapabilityBinding) :
    Option Capability :=
  if binding.operation.length ≤ 1024 ∧ binding.sessionId.length ≤ 128 ∧
    binding.visionProfileId.length ≤ 128 ∧
      JsText.isNumeral binding.adAccountId = true ∧ binding.adAccountId.length ≤ 32 ∧
      0 < req.taskId ∧ 0 < req.leaseToken ∧ 0 < req.capabilityExpiresAt then
    (host.readUuid req.leaseOwner).map fun owner =>
      { browserContractVersion := binding.browserContractVersion
        rpc := binding.rpc
        operation := binding.operation
        sessionId := binding.sessionId
        visionProfileId := binding.visionProfileId
        adAccountId := binding.adAccountId
        caller := req.authorizedCaller
        taskId := req.taskId.toNat
        leaseOwner := owner
        leaseToken := req.leaseToken.toNat
        expiresAtEpoch := req.capabilityExpiresAt
        nonce := req.capabilityNonce }
  else none

def moneyBinding (host : AgentHost) (req : ExecuteRequest) (session : LiveSession) :
    OperationCapabilityBinding where
  browserContractVersion := contractVersion
  rpc := "execute_graph_call"
  operation := agentGraphBinding host.sha req.params
  sessionId := session.id
  visionProfileId := session.visionProfileId
  adAccountId := normalizeActId req.adAccountId

-- ------------------------------------------------------------
-- One call of the handler
-- ------------------------------------------------------------

/-- Where a call waits: for the page lock, for its page and the ownership read,
for the answer of the authority, for the token of the page, for Meta. -/
inductive CallPhase
  | idle
  | queued
  | located
  | posted
  | granted
  | dispatched
  | over
  deriving DecidableEq, Repr

/-- The answers of the consume endpoint; `grant` counts the issued capabilities. -/
inductive ConsumeReply
  | granted (grant : Nat)
  | denied
  | unavailable
  deriving DecidableEq, Repr

structure Call where
  phase : CallPhase := .idle
  request : Option ExecuteRequest := none
  session : Option LiveSession := none
  money : Bool := false
  /-- The consume request that has not been carried out. -/
  posted : Option (Option Capability) := none
  reply : Option ConsumeReply := none
  consumed : Bool := false
  grant : Option Nat := none
  abort : Option AbortReason := none
  answer : Option Answer := none

def Call.respond (call : Call) (answer : Answer) : Call :=
  { call with answer := call.answer.or (some answer) }

/-- The `catch` of the handler: an aborted call has been answered. -/
def Call.throw (call : Call) (message : String) : Call :=
  let ended := { call with phase := .over }
  if call.abort.isSome then ended else ended.respond (grpcErrorForOperationFailure message)

/-- Why a call is refused before it waits for its page, and otherwise whether it
needs a capability, and its session. -/
def checkArrival (host : AgentHost) (clk : Clock) (req : ExecuteRequest)
    (found : Option LiveSession) :
    Except String (Bool × Option LiveSession) :=
  let params := req.params
  let money := isMoneyControlGraphCall params ||
    JsText.trim req.authorizedCaller == "campaign_creator"
  if JsText.trim req.adAccountId ≠ "" ∧ normalizeActId req.adAccountId = "" then
    .error "ad_account_id must be an explicit numeric account id"
  else
    match host.methodSemantics params with
    | some message => .error message
    | none =>
      if money = false then .ok (false, found)
      else if normalizeActId req.adAccountId = "" then
        .error "money Graph call requires explicit ad_account_id"
      else
        match resolveExactOperationSession req found with
        | none => .error "Browser operation requires exact session/profile identity"
        | some session =>
          match verifyOperationCapability host (epoch clk.host) req
            (moneyBinding host req session) with
          | some message => .error message
          | none => .ok (true, some session)

def Call.arrive (host : AgentHost) (clk : Clock) (req : ExecuteRequest) (found : Option LiveSession)
    (expired : Bool) (call : Call) : Call :=
  if call.phase ≠ .idle then call
  else if expired then
    { call with phase := .over }.respond ⟨.deadlineExceeded, "Graph deadline exhausted", none⟩
  else
    match checkArrival host clk req found with
    | .error message => call.throw message
    | .ok (money, session) => { call with phase := .queued, request := some req, session, money }

/-- `bindCapabilityExpiry`, at the moment the page is won. -/
def Call.bindExpiry (req : ExecuteRequest) (call : Call) : Call :=
  if isSafeInteger req.capabilityExpiresAt = false ∨ req.capabilityExpiresAt ≤ 0 then
    { call with abort := some .capabilityExpiryMissing }.respond
      (grpcAbortError .capabilityExpiryMissing call.consumed)
  else call

def Call.lock (clk : Clock) (call : Call) : Call :=
  match call.phase, call.request with
  | .queued, some req =>
    if call.abort.isSome then { call with phase := .over }
    else if call.money = false then { call with phase := .located }
    else if capabilityFresh (epoch clk.host) "execute_graph_call" req then
      { call with phase := .located }.bindExpiry req
    else call.throw "Browser operation capability is expired or unbounded"
  | _, _ => call

/-- The page is there and its ownership read; the capability is to be consumed. -/
def Call.prove (host : AgentHost) (epochKept : Bool) (call : Call) : Call :=
  match call.phase, call.request, call.session with
  | .located, some req, some session =>
    if call.money = false then call
    else if call.abort.isSome then { call with phase := .over }
    else if epochKept then
      { call with phase := .posted,
                  posted := some (consumeRequest host req (moneyBinding host req session)) }
    else call.throw "page_epoch_changed: money page navigated before dispatch"
  | _, _, _ => call

/-- What the call awaits before the authority throws. -/
def Call.fail (message : String) (call : Call) : Call :=
  match call.phase with
  | .queued | .located => call.throw message
  | _ => call

def Call.authority (timeout : Bool) (call : Call) : Call :=
  match call.phase with
  | .posted =>
    if call.abort.isSome then { call with phase := .over }
    else if timeout then call.throw "Browser operation capability authority is unavailable"
    else
      match call.reply with
      | some (.granted grant) =>
        { call with phase := .granted, consumed := true, grant := some grant }
      | some .denied => call.throw "Browser operation capability consume was denied"
      | some .unavailable => call.throw "Browser operation capability authority is unavailable"
      | none => call
  | _ => call

def Call.ready (call : Call) : Bool :=
  call.phase == .granted || (call.phase == .located && !call.money)

/-- `executeGraphCall` up to `page.evaluate`: whether it sends. -/
def Call.sends (epochKept : Bool) (call : Call) : Bool :=
  call.ready && call.abort.isNone && (epochKept || !call.money)

def Call.dispatch (epochKept : Bool) (call : Call) : Call :=
  if call.ready then
    if call.abort.isSome then { call with phase := .over }
    else if epochKept || !call.money then { call with phase := .dispatched }
    else call.throw "page_epoch_changed: money page navigated before dispatch"
  else call

def Call.finish (sessionGone : Bool) (call : Call) : Call :=
  match call.phase with
  | .dispatched =>
    if call.abort.isSome then { call with phase := .over }
    else if sessionGone then
      call.throw ("Сессия " ++ (call.session.map (·.id)).getD "" ++ " не найдена")
    else { call with phase := .over }.respond ⟨.ok, "", none⟩
  | _ => call

/-- The `AbortController` fires, once; a capability expires after its page was won. -/
def Call.fire (clk : Clock) (reason : AbortReason) (call : Call) : Call :=
  let due : Bool := match reason with
    | .capabilityExpired =>
      call.money && call.phase != .queued &&
        call.request.any fun req => seconds req.capabilityExpiresAt ≤ clk.host
    | .capabilityExpiryMissing => false
    | _ => true
  if due && call.abort.isNone && call.phase != .idle && call.phase != .over then
    { call with abort := some reason }.respond (grpcAbortError reason call.consumed)
  else call

-- ------------------------------------------------------------
-- What a lost session says
-- ------------------------------------------------------------

/-- The characters of `Сессия … не найдена`, with a UUID between the words. -/
def lostSessionChar (c : Char) : Bool :=
  isHexDigit c || c == '-' || ['С', 'е', 'с', 'и', 'я', ' ', 'н', 'а', 'й', 'д'].contains c

theorem lowerChar_hexDigit {c : Char} (h : isHexDigit c = true ∨ c = '-') :
    PyText.lowerChar c = [c] := by
  have hlow : c.toNat < 65 ∨ 97 ≤ c.toNat ∧ c.toNat ≤ 102 := by
    rcases h with h | rfl
    · simp only [isHexDigit, Bool.or_eq_true, Bool.and_eq_true, decide_eq_true_eq] at h
      rcases h with ⟨-, h⟩ | ⟨hl, hr⟩
      · exact .inl (Nat.lt_of_le_of_lt h (by decide))
      · exact .inr ⟨hl, hr⟩
    · exact .inl (by decide)
  have hplain : c.toLower = c := by
    unfold Char.toLower
    rw [dif_neg]
    rintro ⟨hlo, hhi⟩
    have hlo' : 65 ≤ c.toNat := hlo
    have hhi' : c.toNat ≤ 90 := hhi
    omega
  unfold PyText.lowerChar
  split
  · omega
  · omega
  · rw [hplain]

theorem silent_status {message : String}
    (h : ∀ c ∈ (JsText.toLowerCase message).toList, lostSessionChar c = true) :
    (grpcCodeForError message).provesUnsent = false := by
  generalize htext : JsText.toLowerCase message = text at h
  have hnone : ∀ word : String, (word.toList.any fun c => !lostSessionChar c) = true →
      JsText.includes text word = false := fun word hword => JsText.includes_eq_false h hword
  have hpredicates : (operationRejectionPredicates.all fun entry =>
      entry.1.toList.any fun c => !lostSessionChar c) = true := by decide +kernel
  have hpresend : (presendTexts.all fun word => word.toList.any fun c => !lostSessionChar c) =
      true := by
    decide +kernel
  rw [List.all_eq_true] at hpredicates hpresend
  have hreason : browserOperationRejectionReason message = none := by
    simp only [browserOperationRejectionReason, htext]
    rw [if_neg (by rw [hnone "capability consume was denied" (by decide +kernel)]; simp),
      Option.map_eq_none_iff, List.find?_eq_none]
    rintro entry hentry
    simp [hnone entry.1 (hpredicates entry hentry)]
  have hquiet : presendTexts.any (JsText.includes text) = false := by
    rw [List.any_eq_false]
    rintro word hword
    simp [hnone word (hpresend word hword)]
  simp only [grpcCodeForError, htext, hreason, hquiet,
    hnone "capability consume was denied" (by decide +kernel),
    hnone "authority is unavailable" (by decide +kernel),
    hnone "exact session/profile identity" (by decide +kernel), Bool.false_eq_true, if_false]
  split <;> rfl

theorem lostSession_status {id : String} (h : ∀ c ∈ id.toList, isHexDigit c = true ∨ c = '-') :
    (grpcCodeForError ("Сессия " ++ id ++ " не найдена")).provesUnsent = false := by
  refine silent_status fun c hc => ?_
  have hends : ("Сессия ".toList.flatMap PyText.lowerChar ++
      " не найдена".toList.flatMap PyText.lowerChar).all
      lostSessionChar = true := by decide +kernel
  simp only [List.all_append, Bool.and_eq_true, List.all_eq_true] at hends
  simp only [JsText.toLowerCase, String.toList_ofList, String.toList_append, List.flatMap_append,
    List.mem_append] at hc
  rcases hc with (hc | hc) | hc
  · exact hends.1 c hc
  · obtain ⟨d, hd, hcd⟩ := List.mem_flatMap.mp hc
    rw [lowerChar_hexDigit (h d hd), List.mem_singleton] at hcd
    subst hcd
    rcases h c hd with hhex | rfl
    · simp [lostSessionChar, hhex]
    · decide
  · exact hends.2 c hc

end StopBot.Browser
