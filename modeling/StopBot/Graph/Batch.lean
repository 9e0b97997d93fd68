import StopBot.Lib.Checks
import StopBot.Lib.PyNumber
import StopBot.Worker.Mutation

/-!
# Answers of the Graph batch endpoint

The normalised list of sub-results, and the class of a failed one. `loads`
stands for `json.loads`: it decodes a body, or raises the decoding error the
parser catches, or an error it does not catch.
-/

namespace StopBot.Graph

open Lib Worker

-- ------------------------------------------------------------
-- Exceptions
-- ------------------------------------------------------------

/-- The classes `classify_graph_error` chooses from. -/
inductive GraphErrorClass
  | temporaryError
  | ambiguousResultError
  | rateLimitedError
  | preDispatchRejectedError
  | permanentError
  | tokenInvalidError
  | loginRequiredError
  | notFoundError
  | permissionError
  deriving DecidableEq, Repr

def GraphErrorClass.isTemporary : GraphErrorClass → Bool
  | .temporaryError | .ambiguousResultError | .rateLimitedError | .preDispatchRejectedError => true
  | _ => false

/-- What a batch mutation can raise; `unexpected` is an error of Python itself. -/
inductive BatchRaise
  | mutationValidationError (message : String)
  | valueError (message : String)
  | ambiguousResultError (message : String)
  | graphError (cls : GraphErrorClass) (code subcode : Json)
  | unexpected
  deriving Repr

/-- How `json.loads` raises; `closed` are the objects that were complete by then, in order. -/
inductive LoadsError
  | jsonDecodeError (closed : List Json := [])
  | other (closed : List Json := [])
  deriving Repr

-- ------------------------------------------------------------
-- Sub-results
-- ------------------------------------------------------------

inductive MutationEvidence
  | confirmed
  | rejected
  | unknown
  deriving DecidableEq, Repr

def classifyMetaMutationEvidence : Json → MutationEvidence
  | .obj fields =>
    match Obj.get? fields "success" with
    | some (.bool true) => .confirmed
    | some (.bool false) => .rejected
    | _ => .unknown
  | _ => .unknown

inductive SuccessEvidence
  | transport
  | mutationAck
  deriving DecidableEq, Repr

structure SubResult where
  index : Nat
  success : Bool
  code : Int
  body : Json
  mutationEvidence : Option MutationEvidence
  error : Json
  deriving Repr

def unanswered (error : String) (index : Nat) : SubResult :=
  { index, success := false, code := 0, body := .null, mutationEvidence := none,
    error := .str error }

/-- `int(item.get("code") or 0)`. -/
def readCode (value : Option Json) : Except BatchRaise Int :=
  match ((value.getD .null).orElse (.num 0 0)).pyInt? with
  | some code => .ok code
  | none => .error .unexpected

def readBody (loads : String → Except LoadsError Json) : Option Json → Except BatchRaise Json
  | some (.str s) =>
    if s = "" then .ok .null
    else
      match loads s with
      | .ok value => .ok value
      | .error (.jsonDecodeError _) => .ok (.obj [("raw", .str s)])
      | .error (.other _) => .error .unexpected
  | some (.obj fields) => .ok (.obj fields)
  | _ => .ok .null

def transportSuccess (code : Int) : Bool :=
  decide (200 ≤ code ∧ code < 300)

def graphError? (body : Json) : Option Obj :=
  match body with
  | .obj fields =>
    match Obj.get? fields "error" with
    | some (.obj error) => some error
    | _ => none
  | _ => none

def failureText (body : Json) : Json :=
  match graphError? body with
  | some error =>
    (((Obj.get? error "message").getD .null).orElse ((Obj.get? error "type").getD .null)).orElse
      (.str "graph_error")
  | none => .str "non_2xx"

def answered (evidence : SuccessEvidence) (index : Nat) (code : Int) (body : Json) : SubResult :=
  let mutationEvidence :=
    if evidence = .mutationAck ∧ transportSuccess code then some (classifyMetaMutationEvidence body)
    else none
  let success :=
    transportSuccess code && (evidence == .transport || mutationEvidence == some .confirmed)
  let error :=
    if success then .null
    else if transportSuccess code && mutationEvidence == some .rejected then
      .str "mutation_rejected"
    else if transportSuccess code && mutationEvidence == some .unknown then
      .str "ambiguous_mutation_ack"
    else failureText body
  { index, success, code, body, mutationEvidence, error }

def parseItem (loads : String → Except LoadsError Json) (evidence : SuccessEvidence) (index : Nat) :
    Json → Except BatchRaise SubResult
  | .obj fields => do
    let code ← readCode (Obj.get? fields "code")
    let body ← readBody loads (Obj.get? fields "body")
    .ok (answered evidence index code body)
  | _ => .ok (unanswered "null_response" index)

def batchItems : Json → Option (List Json)
  | .arr items => some items
  | .obj fields =>
    match Obj.get? fields "data" with
    | some (.arr items) => some items
    | _ => none
  | _ => none

def parseBatchResponse (loads : String → Except LoadsError Json) (response : Json)
    (expectedCount : Option Nat) (evidence : SuccessEvidence) :
    Except BatchRaise (List SubResult) :=
  match batchItems response with
  | none =>
    let count := match expectedCount with
      | some (n + 1) => n + 1
      | _ => 1
    .ok ((List.range count).map (unanswered "unexpected_batch_response_shape"))
  | some items =>
    if expectedCount.any (· < items.length) then
      .ok ((List.range (expectedCount.getD 0)).map (unanswered "unexpected_batch_response_count"))
    else do
      let results ← items.zipIdx.mapM fun (item, index) => parseItem loads evidence index item
      let missing := List.range' results.length (expectedCount.getD 0 - results.length)
      .ok (results ++ missing.map (unanswered "missing_response"))

-- ------------------------------------------------------------
-- Classes of Graph errors
-- ------------------------------------------------------------

def codeMap : List (Int × GraphErrorClass) :=
  [(-1, .preDispatchRejectedError), (-2, .ambiguousResultError), (-3, .ambiguousResultError),
    (-4, .preDispatchRejectedError), (1, .permanentError), (2, .temporaryError),
    (4, .rateLimitedError), (17, .rateLimitedError), (32, .rateLimitedError),
    (100, .permanentError), (102, .tokenInvalidError), (190, .tokenInvalidError),
    (200, .permissionError), (270, .permissionError), (272, .permissionError),
    (368, .permanentError), (463, .tokenInvalidError), (464, .tokenInvalidError),
    (467, .tokenInvalidError), (613, .rateLimitedError), (803, .notFoundError),
    (80004, .rateLimitedError)]

def subcodeOverrides : List (Int × GraphErrorClass) :=
  [(33, .notFoundError), (458, .loginRequiredError), (459, .loginRequiredError),
    (460, .loginRequiredError), (463, .loginRequiredError), (464, .loginRequiredError),
    (467, .loginRequiredError), (1357045, .tokenInvalidError)]

/-- `key and key in table`; a list or an object cannot be looked up. -/
def lookupCode (table : List (Int × GraphErrorClass)) (key : Json) :
    Except BatchRaise (Option GraphErrorClass) :=
  if key.isTruthy then
    match key with
    | .arr _ | .obj _ => .error .unexpected
    | key =>
      .ok (key.number?.bind fun n => (table.find? fun entry => n.eqInt entry.1).map Prod.snd)
  else .ok none

/-- The case folding of `re.IGNORECASE` on the letters of the pattern. -/
def foldCase (c : Char) : Char :=
  match c.toNat with
  | 0x130 => 'i'
  | 0x131 => 'i'
  | 0x17f => 's'
  | 0x212a => 'k'
  | _ => c.toLower

def loginRequiredMessage (message : String) : Bool :=
  let text := message.toList.map foldCase
  let occurs (word : String) (text : List Char) : Bool :=
    text.tails.any fun rest => word.toList.isPrefixOf rest
  let sessionLost (line : List Char) : Bool :=
    line.tails.any fun rest =>
      "session".toList.isPrefixOf rest &&
        (occurs "expired" (rest.drop 7) || occurs "invalidated" (rest.drop 7))
  (text.splitOn '\n').any sessionLost ||
    ["changed their password", "changed your password", "log in", "login", "checkpoint",
      "reauthenticate", "re-authenticate", "not logged in", "logged out"].any (occurs · text)

def classifyGraphError (code subcode message : Json) : Except BatchRaise GraphErrorClass := do
  match ← lookupCode subcodeOverrides subcode with
  | some cls => .ok cls
  | none =>
    let loggedOut ←
      if (code.number?.map (·.eqInt 190)).getD false then
        match message.orElse (.str "") with
        | .str text => .ok (loginRequiredMessage text)
        | _ => .error .unexpected
      else .ok false
    if loggedOut then .ok .loginRequiredError
    else
      match ← lookupCode codeMap code with
      | some cls => .ok cls
      | none =>
        if code.isTruthy then
          match code.number? with
          | some n => .ok (if n.isNegative then .temporaryError else .permanentError)
          | none => .error .unexpected
        else .ok .temporaryError

def subCode (body : Json) : Json :=
  ((graphError? body).bind fun error => Obj.get? error "code").getD .null

def subSubcode (body : Json) : Json :=
  ((graphError? body).bind fun error => Obj.get? error "error_subcode").getD .null

def classifySubFailure (sub : SubResult) : Except BatchRaise GraphErrorClass :=
  let text := ((graphError? sub.body).bind fun error => Obj.get? error "message").getD .null
  let message :=
    text.orElse (.str (pyStr (sub.error.orElse (.str "batch sub-request failed"))))
  classifyGraphError (subCode sub.body) (subSubcode sub.body) message

end StopBot.Graph
