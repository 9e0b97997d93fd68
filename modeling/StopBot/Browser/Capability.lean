import Mathlib.Data.List.TakeWhile
import StopBot.Graph.Bindings
import StopBot.Graph.Bulk
import StopBot.Worker.Authority

/-!
# Single-use capabilities

A worker signs a capability for one operation of the task it claimed and stores
it; browser-agent verifies the signature and has it consumed in PostgreSQL right
before it sends. The validators of campaign and duplicate operations are given
by their verdict, the operations of status tasks are spelled out.
-/

namespace StopBot.Browser

open Lib Tasks Worker
open StopBot.Graph

-- ------------------------------------------------------------
-- What is signed
-- ------------------------------------------------------------

def contractVersion : Int := 5

structure Capability where
  browserContractVersion : Int := contractVersion
  rpc : String
  operation : String
  sessionId : String
  visionProfileId : String
  adAccountId : String
  caller : String
  taskId : Nat
  leaseOwner : Uuid
  leaseToken : Nat
  expiresAtEpoch : Int
  nonce : String
  deriving DecidableEq, Repr

structure CapabilityHost extends ClientHost where
  uuidText : Uuid → String
  readUuid : String → Option Uuid
  hmac : String → String → String
  secretOf : String → String

def browserOperationPayload (host : CapabilityHost) (c : Capability) : String :=
  "\n".intercalate ["browser_operation/v2", toString c.browserContractVersion, c.rpc, c.operation,
    c.sessionId, c.visionProfileId, c.adAccountId, c.caller, toString c.taskId,
      host.uuidText c.leaseOwner,
    toString c.leaseToken, toString c.expiresAtEpoch, c.nonce]

-- ------------------------------------------------------------
-- The ledger
-- ------------------------------------------------------------

/-- A row of `browser_operation_capability_uses`, stored under its nonce digest. -/
structure CapabilityUse where
  capabilityDigest : String
  operationDigest : String
  browserContractVersion : Int
  caller : String
  rpc : String
  taskId : Nat
  leaseOwner : Uuid
  leaseToken : Nat
  sessionId : String
  visionProfileId : String
  adAccountId : String
  expiresAt : Int
  consumedAt : Option Int := none
  deriving DecidableEq, Repr

def pendingUse (host : CapabilityHost) (c : Capability) : CapabilityUse where
  capabilityDigest := host.sha.hexdigest (browserOperationPayload host c)
  operationDigest := host.sha.hexdigest c.operation
  browserContractVersion := c.browserContractVersion
  caller := c.caller
  rpc := c.rpc
  taskId := c.taskId
  leaseOwner := c.leaseOwner
  leaseToken := c.leaseToken
  sessionId := c.sessionId
  visionProfileId := c.visionProfileId
  adAccountId := c.adAccountId
  expiresAt := seconds c.expiresAtEpoch

def Capability.fence (c : Capability) : Fence :=
  { owner := some c.leaseOwner, token := some c.leaseToken }

/-- `_CONSUME_PENDING_CAPABILITY_SQL` on the row under the nonce digest. Every
column but `consumed_at` is compared with what an insert of the capability stores. -/
def consumeUse (host : CapabilityHost) (clk : Clock) (c : Capability) (task : TaskRow)
    (use : CapabilityUse) :
    Option CapabilityUse :=
  if authorized clk c.fence task = true ∧ { use with consumedAt := none } = pendingUse host c ∧
      use.consumedAt = none ∧ clk.wall < use.expiresAt then
    some { use with consumedAt := some clk.wall }
  else none

def isNonce (nonce : String) : Bool := isHex 32 nonce

def authorizedCallers : List String := ["autopause", "meta_api", "campaign_creator"]

def capabilityRpcs : List String := ["execute_graph_call", "upload_image", "upload_video"]

def Capability.valid (c : Capability) : Bool :=
  c.caller ∈ authorizedCallers && c.rpc ∈ capabilityRpcs &&
    c.browserContractVersion == contractVersion &&
    0 < c.taskId && 0 < c.leaseToken && 0 < c.expiresAtEpoch && c.sessionId != "" &&
    c.visionProfileId != "" && PyText.isDigits c.adAccountId && c.operation != "" && isNonce c.nonce

/-- `consume_pending_browser_capability`: the row it leaves, or the denial. -/
def consumePending (host : CapabilityHost) (clk : Clock) (c : Capability) (task : Option TaskRow)
    (use : Option CapabilityUse) : Option CapabilityUse :=
  if c.valid = true ∧ clk.host < seconds c.expiresAtEpoch then
    match task, use with
    | some task, some use => consumeUse host clk c task use
    | _, _ => none
  else none

def expired (clk : Clock) (use : CapabilityUse) : Bool := use.expiresAt ≤ clk.wall

-- ------------------------------------------------------------
-- What a task may ask for
-- ------------------------------------------------------------

inductive AuthorityError
  | permanentError (message : String)
  | preDispatchRejected (message : String)
  | readinessRejected (message : String)
  | valueError (message : String)
  deriving DecidableEq, Repr

/-- `_CALLER_TASK_BINDINGS`. -/
def callerTaskBinding (caller : String) : Option (TaskType × List Lane) :=
  [("autopause", TaskType.metaApiMutation, [Lane.money]),
    ("meta_api", TaskType.metaApiMutation, [Lane.interactive, Lane.bulk, Lane.background]),
    ("campaign_creator", TaskType.campaignCreate, [Lane.bulk])].lookup caller

def callerMutationKinds (caller : String) : Option (List String) :=
  [("autopause", ["pause_ad"]),
    ("meta_api", ["pause_ad", "activate_ad", "bulk_status_change",
      "duplicate_adset_structure"])].lookup caller

/-- `str(mapping.get(key) or "")`. -/
def strOrEmpty (o : Obj) (key : String) : String :=
  match Obj.get? o key with
  | some value => if value.truthy then pyStr value else ""
  | none => ""

def statusRequests (target status : String) : List GraphRequest :=
  [⟨"POST", "/" ++ target, [("status", status)], ""⟩,
    ⟨"GET", "/" ++ target, [("fields", "effective_status,status")], ""⟩]

/-- `json.dumps` of the entries of a batch. -/
def batchJson (method : String) (relativeUrls : List String) : String :=
  let entry (url : String) : String :=
    "\x7b\"method\": \"" ++ method ++ "\", \"relative_url\": " ++
      String.ofList (JsonText.quoteAscii url) ++ "\x7d"
  "[" ++ ", ".intercalate (relativeUrls.map entry) ++ "]"

def bulkRequests (ids : List String) (status : String) : List GraphRequest :=
  [⟨"POST", "/", [("batch", batchJson "POST" (ids.map fun id => id ++ "?status=" ++ status))], ""⟩,
    ⟨"POST", "/", [("batch", batchJson "GET"
      ((ids.mergeSort fun a b => decide (a ≤ b)).map fun id =>
        id ++ "?fields=status,effective_status"))], ""⟩]

/-- `allowed_operations`; a binding that cannot be built is no answer of Meta. -/
def allowedOperations (host : CapabilityHost) (requests : List GraphRequest) :
    Except AuthorityError (List String) :=
  requests.mapM fun request =>
    match graphOperationBinding host.toClientHost request with
    | .ok operation => .ok operation
    | .error _ =>
      .error (.preDispatchRejected "task lease authority issuance failed before browser send")

def bulkTargets (params : Obj) : Except AuthorityError (List String) :=
  match Obj.get? params "ad_ids" with
  | some (.arr raw) =>
    let targets := raw.map fun value => PyText.strip (pyStr value)
    if targets.all PyText.isDigits = false then
      .error (.permanentError "browser bulk operation target is invalid")
    else if dedupe targets = [] ∨ 50 < (dedupe targets).length then
      .error (.permanentError "browser bulk operation targets are invalid")
    else .ok (dedupe targets)
  | _ => .error (.permanentError "browser bulk operation targets are invalid")

/-- The requests a status task stands for; none for the other kinds. -/
def statusTaskRequests (payload : Obj) : Except AuthorityError (Option (List GraphRequest)) :=
  match strOrEmpty payload "mutation_kind" with
  | "pause_ad" => .ok (some (statusRequests (strOrEmpty payload "target_id") "PAUSED"))
  | "activate_ad" => .ok (some (statusRequests (strOrEmpty payload "target_id") "ACTIVE"))
  | "bulk_status_change" =>
    match Obj.get? payload "params" with
    | some (.obj params) => do
      let ids ← bulkTargets params
      match actionToStatus.lookup (PyText.lower (PyText.strip (strOrEmpty params "action"))) with
      | some status => .ok (some (bulkRequests ids status))
      | none => .error (.permanentError "browser bulk operation action is invalid")
    | _ => .error (.permanentError "browser bulk operation payload is invalid")
  | _ => .ok none

/-- `|q=` or `|b=` before 64 hexadecimal digits. -/
def isDigestPart (tag : String) (cs : List Char) : Bool :=
  tag.toList.isPrefixOf cs && isHex 64 (String.ofList (cs.drop tag.length))

def matchGraphOperation (operation : String) : Option (String × String) :=
  let cs := operation.toList
  let method := cs.takeWhile (· != ':')
  let target := (cs.dropWhile (· != ':')).drop 1
  let endpoint := target.takeWhile (· != '|')
  let digests := target.dropWhile (· != '|')
  if String.ofList method ∈ ["GET", "POST", "DELETE"] ∧ cs.contains ':' = true ∧
    endpoint.head? = some '/' ∧
      isDigestPart "|q=" (digests.take 67) = true ∧ isDigestPart "|b=" (digests.drop 67) = true then
    some (String.ofList method, String.ofList endpoint)
  else none

/-- `_SAFE_MONEY_GRAPH_ENDPOINT_RE`. -/
def safeMoneyGraphEndpoint (endpoint : String) : Bool :=
  let letter (c : Char) : Bool := ('a' ≤ c && c ≤ 'z') || ('A' ≤ c && c ≤ 'Z')
  match endpoint.toList with
  | ['/'] => true
  | '/' :: rest =>
    let target := if "act_".toList.isPrefixOf rest then rest.drop 4 else rest
    !(target.takeWhile Char.isDigit).isEmpty &&
      match target.dropWhile Char.isDigit with
      | [] => true
      | '/' :: c :: cs => letter c && cs.all fun c => letter c || c.isDigit || c == '_'
      | _ => false
  | _ => false

/-- `_validate_graph_operation_for_task`; `other` is the verdict on the operations
of duplicate and campaign tasks. -/
def validateGraphOperationForTask (host : CapabilityHost) (caller : String) (payload : Obj)
    (method endpoint operation : String) (other : Except AuthorityError Unit) :
    Except AuthorityError Unit :=
  if safeMoneyGraphEndpoint endpoint = false then
    .error (.permanentError "browser Graph operation target is invalid")
  else if strOrEmpty payload "mutation_kind" ∈
    ["pause_ad", "activate_ad", "bulk_status_change"] then
    if caller ∉ ["autopause", "meta_api"] then
      .error (.permanentError "browser status mutation caller is not authorized")
    else do
      let requests := (← statusTaskRequests payload).getD []
      let operations ← allowedOperations host requests
      if strOrEmpty payload "mutation_kind" = "bulk_status_change" then
        if method ≠ "POST" ∨ endpoint ≠ "/" ∨ operation ∉ operations then
          .error (.permanentError "browser operation does not match the claimed bulk mutation")
        else .ok ()
      else
        let target := strOrEmpty payload "target_id"
        if PyText.isDigits target = false ∨ endpoint ≠ "/" ++ target ∨ operation ∉ operations then
          .error (.permanentError "browser operation does not match the claimed ad mutation")
        else .ok ()
  else other

def accountId? (value : String) : Option String :=
  (requireAdAccountId (.str value)).toOption

def mediaBinding (rpc operation : String) : Bool :=
  isDigestPart (rpc ++ "|r=") operation.toList

def validateTaskOperationBinding (host : CapabilityHost) (caller : String) (row : LiveAuthority)
    (rpc operation adAccountId : String) (other : Except AuthorityError Unit) :
    Except AuthorityError Unit :=
  let kind := strOrEmpty row.payload "mutation_kind"
  if callerTaskBinding caller |>.all fun (type, lanes) =>
    row.taskType != type || !lanes.contains row.lane then
    .error (.permanentError "browser operation caller/task/lane binding is not authorized")
  else if callerMutationKinds caller |>.any fun kinds => !kinds.contains kind then
    .error (.permanentError "browser operation caller/mutation binding is not authorized")
  else if (caller = "autopause" ∧ row.requestedBy ≠ "bot_auto_stop") ∨
      (caller = "meta_api" ∧ row.requestedBy = "bot_auto_stop") then
    .error (.permanentError "browser operation caller/requester binding is not authorized")
  else if (row.boundAdAccountId.bind accountId?).isNone then
    .error (.permanentError "browser operation task has no valid cabinet binding")
  else if row.boundAdAccountId.bind accountId? ≠ some adAccountId then
    .error (.permanentError "browser operation task/cabinet binding is not authorized")
  else if caller ≠ "campaign_creator" ∧ rpc ≠ "execute_graph_call" then
    .error (.permanentError "browser operation caller/RPC binding is not authorized")
  else if rpc = "upload_image" ∨ rpc = "upload_video" then
    if mediaBinding rpc operation then .ok ()
    else .error (.permanentError "browser upload operation binding is invalid")
  else if rpc ≠ "execute_graph_call" then
    .error (.permanentError "browser operation RPC binding is invalid")
  else
    match matchGraphOperation operation with
    | none => .error (.permanentError "browser Graph operation binding is invalid")
    | some (method, endpoint) =>
      validateGraphOperationForTask host caller row.payload method endpoint operation other

-- ------------------------------------------------------------
-- Issuance
-- ------------------------------------------------------------

structure OperationAuthority where
  caller : String
  taskId : Nat
  leaseOwner : Uuid
  leaseToken : Nat
  visionProfileId : String
  deriving DecidableEq, Repr

def OperationAuthority.fence (a : OperationAuthority) : Fence :=
  { owner := some a.leaseOwner, token := some a.leaseToken }

inductive Operation
  | graph (request : GraphRequest)
  | media (rpc : String) (attributes : Pairs)
  deriving DecidableEq, Repr

def Operation.rpc : Operation → String
  | .graph _ => "execute_graph_call"
  | .media rpc _ => rpc

/-- The answer of `CheckMetaApiHealth` on the operation's own page. -/
structure HealthIdentity where
  browserContractVersion : Int
  probePerformed : Bool
  healthy : Bool
  sessionId : String
  visionProfileId : String
  deriving DecidableEq, Repr

def operationRpcTtlSeconds (rpc : String) : Option Int :=
  [("execute_graph_call", 40), ("upload_image", 185), ("upload_video", 185)].lookup rpc

/-- What a call asks the client for; `remaining` is what is left of the deadline
of the running task, in microseconds. -/
structure OperationAsk where
  authority : OperationAuthority
  operation : Operation
  adAccountId : String
  clientSessionId : String := ""
  identity : HealthIdentity
  remaining : Option Int := none
  nonce : String
  other : Except AuthorityError Unit := .ok ()

/-- `graph_operation_binding` and `media_operation_binding`, as the callers apply them. -/
def OperationAsk.operationText (host : CapabilityHost) (ask : OperationAsk) :
    Except AuthorityError String :=
  match ask.operation with
  | .graph request =>
    match graphOperationBinding host.toClientHost request with
    | .ok operation => .ok operation
    | .error _ => .error (.valueError "Graph request semantics are not authorized")
  | .media rpc attributes => .ok (mediaOperationBinding host.sha rpc attributes)

def outOfTime (remaining : Option Int) : Bool :=
  remaining.any fun left => left ≤ 1000

def identityRejection (ask : OperationAsk) : Option String :=
  let identity := ask.identity
  let sessionId := PyText.strip identity.sessionId
  if identity.browserContractVersion ≠ contractVersion then
    some ("browser semantic contract is incompatible (required=" ++ toString contractVersion ++
      ", observed=" ++ toString identity.browserContractVersion ++ ")")
  else if identity.probePerformed = false then
    some "money preflight has no live Meta probe from the operation session"
  else if identity.healthy = false ∨ sessionId = "" ∨
      PyText.strip identity.visionProfileId ≠ ask.authority.visionProfileId ∨
      (ask.clientSessionId ≠ "" ∧ sessionId ≠ ask.clientSessionId) then
    some "exact browser session/profile is not ready for a money operation"
  else none

def capabilityExpiry (clk : Clock) (ttlSeconds : Int) (remaining : Option Int)
    (row : LiveAuthority) : Int :=
  let nowSeconds := max (epoch clk.host) row.dbNowEpoch
  let bound := min (min (nowSeconds + ttlSeconds) row.leaseExpiresEpoch) row.deadlineEpoch
  match remaining with
  | some left => min bound (epoch (clk.host + max 0 left))
  | none => bound

def issueLiveOperationAuthority (host : CapabilityHost) (accountOf : String → Option String)
    (clk : Clock) (ask : OperationAsk) (operation adAccountId : String) (ttlSeconds : Int)
    (task : Option TaskRow) :
    Except AuthorityError Capability :=
  if outOfTime ask.remaining then
    .error (.preDispatchRejected
      "task absolute deadline exhausted before lease authority database read")
  else
    match task.bind (liveOperationAuthority accountOf clk ask.authority.fence) with
    | none =>
      .error (.preDispatchRejected "task lease is stale, cancelled, expired, or past its deadline")
    | some row => do
      validateTaskOperationBinding host ask.authority.caller row ask.operation.rpc operation
        adAccountId ask.other
      let expiresAt := capabilityExpiry clk ttlSeconds ask.remaining row
      if expiresAt ≤ max (epoch clk.host) row.dbNowEpoch then
        .error (.preDispatchRejected
          "live task lease/deadline expired before browser capability signing")
      else
        .ok { rpc := ask.operation.rpc
              operation := operation
              sessionId := PyText.strip ask.identity.sessionId
              visionProfileId := PyText.strip ask.identity.visionProfileId
              adAccountId := adAccountId
              caller := ask.authority.caller
              taskId := ask.authority.taskId
              leaseOwner := ask.authority.leaseOwner
              leaseToken := ask.authority.leaseToken
              expiresAtEpoch := expiresAt
              nonce := ask.nonce }

/-- `prepare_operation_authorization`, up to the insert of the pending row. -/
def prepareOperationAuthorization (host : CapabilityHost) (accountOf : String → Option String)
    (clk : Clock)
    (ask : OperationAsk) (task : Option TaskRow) : Except AuthorityError Capability := do
  let operation ← ask.operationText host
  match accountId? ask.adAccountId, operationRpcTtlSeconds ask.operation.rpc with
  | none, _ => .error (.valueError "ad_account_id must be an explicit numeric account id")
  | _, none => .error (.permanentError "browser operation RPC is not authorized")
  | some adAccountId, some ttlSeconds =>
    if (host.secretOf ask.authority.caller).length < 48 then
      .error (.permanentError "browser operation capability secret is unavailable")
    else if outOfTime ask.remaining then
      .error (.preDispatchRejected
        "absolute deadline exhausted before exact browser identity resolution")
    else
      match identityRejection ask with
      | some message => .error (.readinessRejected message)
      | none =>
        issueLiveOperationAuthority host accountOf clk ask operation adAccountId ttlSeconds task

-- ------------------------------------------------------------
-- What an issued capability stands for
-- ------------------------------------------------------------

variable {host : CapabilityHost} {accountOf : String → Option String} {clk : Clock}

theorem colon_notMem_of_safe {endpoint : String} (h : safeMoneyGraphEndpoint endpoint = true) :
    ':' ∉ endpoint.toList := by
  intro hmem
  unfold safeMoneyGraphEndpoint at h
  split at h
  · rename_i heq
    simp [heq] at hmem
  · rename_i rest _ heq
    rw [heq, List.mem_cons] at hmem
    replace hmem := hmem.resolve_left (by decide)
    have htarget : ':' ∈ (if "act_".toList.isPrefixOf rest then rest.drop 4 else rest) := by
      split
      · rename_i hact
        obtain ⟨tail, rfl⟩ := List.isPrefixOf_iff_prefix.mp hact
        simpa using hmem
      · exact hmem
    generalize (if "act_".toList.isPrefixOf rest then rest.drop 4 else rest) = target at h htarget
    rw [← List.takeWhile_append_dropWhile (p := Char.isDigit) (l := target),
      List.mem_append] at htarget
    have hdigits : ':' ∉ target.takeWhile Char.isDigit := fun hc =>
      absurd (List.mem_takeWhile_imp hc) (by decide)
    replace htarget := htarget.resolve_left hdigits
    simp only [Bool.and_eq_true] at h
    generalize target.dropWhile Char.isDigit = edge at h htarget
    split at h
    · simp at htarget
    · rename_i c cs
      simp only [Bool.and_eq_true, List.all_eq_true] at h
      rcases List.mem_cons.mp htarget with hc | htarget
      · exact absurd hc (by decide)
      rcases List.mem_cons.mp htarget with rfl | hcs
      · exact absurd h.2.1 (by decide)
      · exact absurd (h.2.2 _ hcs) (by decide)
    · exact absurd h.2 (by simp)
  · cases h

theorem rooted_of_safe {endpoint : String} (h : safeMoneyGraphEndpoint endpoint = true) :
    endpoint.toList.head? = some '/' := by
  unfold safeMoneyGraphEndpoint at h
  split at h
  · rename_i heq
    simp [heq]
  · rename_i heq
    simp [heq]
  · cases h

/-- A request whose text can be taken apart, and whose target is a path. -/
structure Addressed (r : GraphRequest) : Prop where
  method : ':' ∉ r.method.toList
  endpoint : ':' ∉ r.endpoint.toList
  rooted : r.endpoint.toList.head? = some '/'

theorem isDigestPart_length {tag : String} {cs : List Char} (h : isDigestPart tag cs = true) :
    cs.length = tag.length + 64 := by
  simp only [isDigestPart, Bool.and_eq_true, isHex, beq_iff_eq, String.toList_ofList,
    List.length_drop] at h
  have hprefix := (List.isPrefixOf_iff_prefix.mp h.1).length_le
  simp only [String.length_toList] at hprefix
  omega

theorem matchGraphOperation_binding {le : String × String → String × String → Bool}
    {r : GraphRequest} {method endpoint : String}
    (h : matchGraphOperation (bindingText host.sha le r) = some (method, endpoint))
    (hsafe : safeMoneyGraphEndpoint endpoint = true) :
    r.method = method ∧ r.endpoint = endpoint ∧ Addressed r := by
  simp only [matchGraphOperation] at h
  split at h
  case isFalse => cases h
  rename_i hmatch
  obtain ⟨-, hcolon, -, hquery, hbody⟩ := hmatch
  simp only [Option.some.injEq, Prod.mk.injEq] at h
  obtain ⟨rfl, rfl⟩ := h
  generalize hcs : (bindingText host.sha le r).toList = cs at *
  have hcut : cs = cs.takeWhile (· != ':') ++ ':' :: (cs.dropWhile (· != ':')).drop 1 := by
    conv_lhs => rw [← List.takeWhile_append_dropWhile (p := (· != ':')) (l := cs)]
    cases hrest : cs.dropWhile (· != ':') with
    | nil =>
      have hmem : ':' ∈ cs.takeWhile (· != ':') := by
        rw [← List.takeWhile_append_dropWhile (p := (· != ':')) (l := cs), hrest] at hcolon
        simpa using hcolon
      exact absurd (List.mem_takeWhile_imp hmem) (by decide)
    | cons c rest =>
      have hhead := List.head?_dropWhile_not (· != ':') cs
      rw [hrest] at hhead
      simp at hhead
      simp [hhead]
  generalize (cs.dropWhile (· != ':')).drop 1 = target at *
  have hmethod : ':' ∉ cs.takeWhile (· != ':') := fun hc =>
    absurd (List.mem_takeWhile_imp hc) (by decide)
  generalize cs.takeWhile (· != ':') = method at *
  have htarget : target.takeWhile (· != '|') ++ target.dropWhile (· != '|') = target :=
    List.takeWhile_append_dropWhile
  have hlength : (target.dropWhile (· != '|')).length = 134 := by
    have htake := isDigestPart_length hquery
    have hdrop := isDigestPart_length hbody
    simp only [List.length_take, List.length_drop, String.length] at htake hdrop
    simp at htake hdrop
    omega
  have hendpoint := colon_notMem_of_safe hsafe
  have hrooted := rooted_of_safe hsafe
  rw [String.toList_ofList] at hendpoint hrooted
  generalize target.takeWhile (· != '|') = endpoint at *
  generalize target.dropWhile (· != '|') = digests at *
  subst htarget
  rw [hcut] at hcs
  have hparts : (r.method.toList ++ ':' :: r.endpoint.toList) = method ++ ':' :: endpoint := by
    have hsplit : (r.method.toList ++ ':' :: r.endpoint.toList) ++
        ("|q=".toList ++ (host.sha.hexdigest (canonicalText le r.queryParams)).toList ++
          ("|b=".toList ++ (host.sha.hexdigest r.bodyJson).toList)) =
        (method ++ ':' :: endpoint) ++ digests := by
      rw [List.append_assoc method, List.cons_append, ← hcs]
      simp [bindingText]
    refine (List.append_inj' hsplit ?_).1
    simp [host.sha.length, hlength]
  obtain ⟨hm, he⟩ := append_only_inj hmethod hendpoint hparts.symm
  refine ⟨?_, ?_, hm ▸ hmethod, he ▸ hendpoint, he ▸ hrooted⟩
  · rw [hm, String.ofList_toList]
  · rw [he, String.ofList_toList]

theorem statusTaskRequests_kind {payload : Obj} {requests : List GraphRequest}
    (h : statusTaskRequests payload = .ok (some requests)) :
    strOrEmpty payload "mutation_kind" ∈ ["pause_ad", "activate_ad", "bulk_status_change"] := by
  unfold statusTaskRequests at h
  split at h
  · rename_i hkind; simp [hkind]
  · rename_i hkind; simp [hkind]
  · rename_i hkind; simp [hkind]
  · cases h

theorem statusTaskRequests_normalized {payload : Obj} {requests : List GraphRequest}
    (h : statusTaskRequests payload = .ok (some requests)) : ∀ r ∈ requests, r.normalized = r := by
  have hmethod : ∀ r : GraphRequest, r.method = "POST" ∨ r.method = "GET" → r.normalized = r := by
    rintro ⟨_, endpoint, query, body⟩ (rfl | rfl) <;>
      simp only [GraphRequest.normalized] <;> congr 1
  have hstatus : ∀ target status, ∀ r ∈ statusRequests target status, r.normalized = r := by
    intro target status r hr
    simp only [statusRequests, List.mem_cons, List.not_mem_nil, or_false] at hr
    rcases hr with rfl | rfl
    · exact hmethod _ (.inl rfl)
    · exact hmethod _ (.inr rfl)
  unfold statusTaskRequests at h
  split at h
  · cases h
    exact hstatus _ _
  · cases h
    exact hstatus _ _
  · split at h
    · obtain ⟨ids, -, h⟩ := bind_eq_ok.mp h
      split at h
      · cases h
        rintro r hr
        simp only [bulkRequests, List.mem_cons, List.not_mem_nil, or_false] at hr
        rcases hr with rfl | rfl <;> exact hmethod _ (.inl rfl)
      · cases h
    · cases h
  · cases h

theorem graphOperationBinding_ok {runtime : ClientHost} {request : GraphRequest}
    {operation : String} (h : graphOperationBinding runtime request = .ok operation) :
    operation = bindingText runtime.sha codePointsLe request.normalized := by
  obtain ⟨-, -, h⟩ := bind_eq_ok.mp h
  exact (Except.ok.inj h).symm

theorem mem_allowedOperations {requests : List GraphRequest} {operations : List String}
    {operation : String}
    (h : allowedOperations host requests = .ok operations) (hmem : operation ∈ operations) :
    ∃ r ∈ requests, operation = bindingText host.sha codePointsLe r.normalized := by
  have hall := (forall_mem_mapM (P := fun operation => ∃ r ∈ requests,
    operation = bindingText host.sha codePointsLe r.normalized) h).mpr ?_
  · exact hall operation hmem
  intro r hr
  obtain ⟨operations', hoperation⟩ := mapM_isOk.mp ⟨operations, h⟩ r hr
  refine ⟨operations', hoperation, r, hr, ?_⟩
  split at hoperation
  · rename_i hbinding
    cases hoperation
    exact graphOperationBinding_ok hbinding
  · cases hoperation

/-- What a task stands for, whatever the validators of the other kinds say. -/
theorem validateGraphOperationForTask_ok {caller method endpoint operation : String} {payload : Obj}
    {other : Except AuthorityError Unit}
    (h : validateGraphOperationForTask host caller payload method endpoint operation
      other = .ok ()) :
    safeMoneyGraphEndpoint endpoint = true ∧
      ∀ requests, statusTaskRequests payload = .ok (some requests) →
        ∃ r ∈ requests, operation = bindingText host.sha codePointsLe r.normalized := by
  unfold validateGraphOperationForTask at h
  split at h
  · cases h
  rename_i hsafe
  refine ⟨by simpa using hsafe, fun requests hrequests => ?_⟩
  rw [if_pos (statusTaskRequests_kind hrequests)] at h
  split at h
  · cases h
  obtain ⟨found, hfound, h⟩ := bind_eq_ok.mp h
  obtain rfl : some requests = found := Except.ok.inj (hrequests.symm.trans hfound)
  obtain ⟨operations, hoperations, h⟩ := bind_eq_ok.mp h
  refine mem_allowedOperations hoperations ?_
  by_contra hnot
  split at h
  · rw [if_pos (.inr (.inr hnot))] at h
    cases h
  · rw [if_pos (.inr (.inr hnot))] at h
    cases h

theorem validateTaskOperationBinding_ok {caller rpc operation adAccountId : String}
    {row : LiveAuthority} {other : Except AuthorityError Unit}
    (h : validateTaskOperationBinding host caller row rpc operation adAccountId other = .ok ()) :
    row.boundAdAccountId.bind accountId? = some adAccountId ∧
      (callerTaskBinding caller).any (fun binding => row.taskType == binding.1) = true ∧
      (rpc = "execute_graph_call" →
        ∃ method endpoint, matchGraphOperation operation = some (method, endpoint) ∧
        safeMoneyGraphEndpoint endpoint = true ∧
        ∀ requests, statusTaskRequests row.payload = .ok (some requests) →
          ∃ r ∈ requests, operation = bindingText host.sha codePointsLe r.normalized) := by
  simp only [validateTaskOperationBinding] at h
  iterate 6 (split at h; · cases h)
  rename_i htype _ _ _ hcabinet _
  refine ⟨by simpa using hcabinet, ?_, ?_⟩
  · cases hbinding : callerTaskBinding caller with
    | none => simp [hbinding] at htype
    | some binding =>
      rw [hbinding] at htype
      simp only [Option.all_some, Bool.or_eq_true, not_or, Bool.not_eq_true,
        bne_eq_false_iff_eq] at htype
      simp [htype.1]
  · rintro rfl
    rw [if_neg (by decide), if_neg (by decide)] at h
    split at h
    · cases h
    · rename_i method endpoint hmatch
      obtain ⟨hsafe, hstatus⟩ := validateGraphOperationForTask_ok h
      exact ⟨method, endpoint, hmatch, hsafe, hstatus⟩

theorem liveOperationAuthority_reads {f : Fence} {row : TaskRow} {live : LiveAuthority}
    (h : liveOperationAuthority accountOf clk f row = some live) :
    live.taskType = row.taskType ∧ live.payload = row.payload ∧
      live.boundAdAccountId = boundAdAccountId accountOf row := by
  unfold liveOperationAuthority at h
  split at h
  · split at h
    · cases h
      exact ⟨rfl, rfl, rfl⟩
    · cases h
  · cases h

theorem callerTaskBinding_mutation {caller : String} {type : TaskType}
    (h : (callerTaskBinding caller).any (fun binding => type == binding.1) = true) :
    type = .metaApiMutation ∨ type = .campaignCreate := by
  simp only [callerTaskBinding, List.lookup_cons] at h
  (repeat' split at h) <;> simp_all

structure Binds (host : CapabilityHost) (accountOf : String → Option String) (row : TaskRow)
    (c : Capability) (operation : Operation) : Prop where
  mutation : row.taskType = .metaApiMutation ∨ row.taskType = .campaignCreate
  cabinet : (boundAdAccountId accountOf row).bind accountId? = some c.adAccountId
  rpc : c.rpc = operation.rpc
  graph : ∀ request, operation = .graph request →
    c.operation = bindingText host.sha codePointsLe request.normalized ∧
      Addressed request.normalized
  status : ∀ requests, c.rpc = "execute_graph_call" →
    statusTaskRequests row.payload = .ok (some requests) →
    ∃ r ∈ requests, c.operation = bindingText host.sha codePointsLe r ∧ Addressed r

theorem prepareOperationAuthorization_ok {ask : OperationAsk} {task : Option TaskRow}
    {c : Capability} (h : prepareOperationAuthorization host accountOf clk ask task = .ok c) :
    ∃ row, task = some row ∧ c.taskId = ask.authority.taskId ∧ c.nonce = ask.nonce ∧
      authorized clk c.fence row = true ∧ Binds host accountOf row c ask.operation := by
  obtain ⟨operation, hoperation, h⟩ := bind_eq_ok.mp h
  split at h
  · cases h
  · cases h
  rename_i adAccountId ttlSeconds haccount httl
  iterate 2 (split at h; · cases h)
  split at h
  · cases h
  unfold issueLiveOperationAuthority at h
  split at h
  · cases h
  split at h
  · cases h
  rename_i live hlive
  obtain ⟨⟨⟩, hbinding, h⟩ := bind_eq_ok.mp h
  dsimp only at h
  split at h
  · cases h
  obtain rfl := Except.ok.inj h
  obtain ⟨row, rfl, hrow⟩ := Option.bind_eq_some_iff.mp hlive
  have hauthorized : authorized clk ask.authority.fence row = true := by
    have hreads : authorized clk ask.authority.fence row =
        (liveOperationAuthority accountOf clk ask.authority.fence row).isSome := authorized_eq
    rw [hreads, hrow]
    rfl
  refine ⟨row, rfl, rfl, rfl, hauthorized, ?_⟩
  obtain ⟨htype, hpayload, hbound⟩ := liveOperationAuthority_reads hrow
  obtain ⟨hcabinet, hcaller, hgraph⟩ := validateTaskOperationBinding_ok hbinding
  rw [htype] at hcaller
  rw [hbound] at hcabinet
  rw [hpayload] at hgraph
  refine ⟨callerTaskBinding_mutation hcaller, hcabinet, rfl, ?_, ?_⟩
  · rintro request hrequest
    simp only [OperationAsk.operationText, hrequest] at hoperation
    split at hoperation
    case h_2 => cases hoperation
    rename_i hbound
    cases hoperation
    have htext := graphOperationBinding_ok hbound
    obtain ⟨method, endpoint, hmatch, hsafe, -⟩ := hgraph (by rw [hrequest]; rfl)
    rw [htext] at hmatch
    exact ⟨htext, (matchGraphOperation_binding hmatch hsafe).2.2⟩
  · rintro requests hrpc hrequests
    obtain ⟨method, endpoint, hmatch, hsafe, hstatus⟩ := hgraph hrpc
    obtain ⟨r, hr, htext⟩ := hstatus requests hrequests
    rw [statusTaskRequests_normalized hrequests r hr] at htext
    rw [htext] at hmatch
    exact ⟨r, hr, htext, (matchGraphOperation_binding hmatch hsafe).2.2⟩

end StopBot.Browser
