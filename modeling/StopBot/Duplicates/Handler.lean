import StopBot.Lib.Calls
import StopBot.Duplicates.Plan

/-!
# The calls of `DuplicateAdsetStructureHandler`

The handler as a program over Graph calls: what it asks for, in its order, and
what it refuses of an answer. An answer is a document or an exception; a
recovery reads every checkpointed object back and then pauses each of them.
-/

namespace StopBot.Duplicates

open Lib Worker

inductive Method
  | get
  | post
  deriving DecidableEq, Repr

structure Request where
  method : Method
  endpoint : String
  query : List (String × String) := []
  body : Option Obj := none
  deriving Repr

abbrev Reply := Except String Json

abbrev Program := Calls Request Reply

def silence : Reply := .error "SessionUnavailableError()"

/-- `execute_graph_call`: the document, or the exception it raises. -/
def graphCall (request : Request) : Program Json :=
  .call request fun
    | .ok body => .ret body
    | .error error => .raise error

def getFields (endpoint fields : String) : Program Json :=
  graphCall { method := .get, endpoint, query := [("fields", fields)] }

def post (endpoint : String) (body : Obj) : Program Json :=
  graphCall { method := .post, endpoint, body := some body }

-- ------------------------------------------------------------
-- Checks of an answer
-- ------------------------------------------------------------

def fieldsOf : Json → Obj
  | .obj fields => fields
  | _ => []

def isObj : Json → Bool
  | .obj _ => true
  | _ => false

def textOr (row : Json) (key : String) : String :=
  match Obj.get? (fieldsOf row) key with
  | some value => if value.truthy then pyStr value else ""
  | none => ""

/-- `text.removeprefix("act_")`. -/
def dropAct (text : String) : String :=
  if PyText.clip 4 text = "act_" then String.ofList (text.toList.drop 4) else text

def strField (row : Json) (key : String) : Option String :=
  (Obj.get? (fieldsOf row) key).bind Json.asStr?

def requireExactResponseKeys (row : Json) (required optional : List String) (label : String) :
    Except String Unit :=
  match row with
  | .obj fields =>
    require (required.all (fun key => (Obj.get? fields key).isSome) &&
        fields.all fun field => required.contains field.1 || optional.contains field.1)
      (label ++ ": Graph response schema mismatch")
  | _ => .error (label ++ ": Graph returned a non-object")

def requireObjectId (row : Json) (expected label : String) : Except String Unit :=
  require (isObj row && textOr row "id" == expected) (label ++ ": Graph returned the wrong object")

def requireAccount (row : Json) (plan : Plan) (label : String) : Except String Unit :=
  require (dropAct (textOr row "account_id") == dropAct plan.accountId)
    (label ++ ": object belongs to another ad account")

/-- Only the configured status counts, not the one inherited from a parent. -/
def requirePaused (row : Json) (label : String) : Except String Unit :=
  let status := PyText.upper (textOr row "status")
  require (status == "PAUSED")
    (label ++ ": expected PAUSED, got " ++ if status = "" then "missing" else status)

def requireWriteSuccess (response : Json) (step : String) : Except String Unit :=
  require (isObj response && (Obj.get? (fieldsOf response) "success").any Json.isTrue)
    (step ++ ": Graph write returned failure: " ++ response.render)

/-- `xs[i]`. -/
def nth {α : Type} (xs : List α) (i : Nat) : Except String α :=
  match xs[i]? with
  | some x => .ok x
  | none => .error "list index out of range"

-- ------------------------------------------------------------
-- Recovery
-- ------------------------------------------------------------

def proveCampaignFields : String := "id,account_id,name,objective,status,daily_budget"

def proveAdsetFields : String := "id,account_id,campaign_id,status"

def proveAdFields : String := "id,account_id,campaign_id,adset_id,name,status,creative\x7bid\x7d"

def cleanupFields : String := "id,status,effective_status"

def nonBlank (value : Option String) : Bool :=
  value.any fun s => PyText.strip s != ""

def checkRecoveryCampaign (plan : Plan) (campaignId : String) (index : Nat) (row : Json) :
    Except String Unit := do
  let label := "recovery campaign " ++ campaignId
  requireExactResponseKeys row ["id", "account_id", "name", "objective", "status"]
    ["daily_budget"] label
  requireObjectId row campaignId label
  requireAccount row plan label
  let name ← nth plan.campaignNames index
  require (strField row "name" == some name && nonBlank (strField row "objective"))
    (label ++ ": type/name mismatch")

def checkRecoveryAdset (plan : Plan) (adsetId campaignId : String) (row : Json) :
    Except String Unit := do
  let label := "recovery adset " ++ adsetId
  requireExactResponseKeys row ["id", "account_id", "campaign_id", "status"] [] label
  requireObjectId row adsetId label
  requireAccount row plan label
  require (strField row "campaign_id" == some campaignId) (label ++ ": parent mismatch")

def checkRecoveryAd (plan : Plan) (adId campaignId adsetId : String) (row : Json) :
    Except String Unit := do
  let label := "recovery ad " ++ adId
  requireExactResponseKeys row
    ["id", "account_id", "campaign_id", "adset_id", "name", "status", "creative"] [] label
  requireObjectId row adId label
  requireAccount row plan label
  let creative := (Obj.get? (fieldsOf row) "creative").getD .null
  require (strField row "campaign_id" == some campaignId &&
      strField row "adset_id" == some adsetId && nonBlank (strField row "name") &&
      isObj creative && keysAre (fieldsOf creative) ["id"])
    (label ++ ": type/parent mismatch")
  let _ ← requireNumericId (param (fieldsOf creative) "id") (label ++ " creative.id")

/-- `_verify_recovery_objects`: every checkpointed object is read back, parents first. -/
def verifyRecoveryObjects (plan : Plan) (created : Created) : Program Unit := do
  created.campaigns.zipIdx.forM fun (campaignId, index) => do
    let row ← getFields ("/" ++ campaignId) proveCampaignFields
    .lift (checkRecoveryCampaign plan campaignId index row)
  created.adsets.zipIdx.forM fun (adsetId, index) => do
    let campaignId ← .lift (nth created.campaigns (index / plan.adsetsPerCampaign))
    let row ← getFields ("/" ++ adsetId) proveAdsetFields
    .lift (checkRecoveryAdset plan adsetId campaignId row)
  created.ads.zipIdx.forM fun (adId, index) => do
    let adsetIndex := index / plan.selectedAdIds.length
    let adsetId ← .lift (nth created.adsets adsetIndex)
    let campaignId ← .lift (nth created.campaigns (adsetIndex / plan.adsetsPerCampaign))
    let row ← getFields ("/" ++ adId) proveAdFields
    .lift (checkRecoveryAd plan adId campaignId adsetId row)

structure CleanupFailure where
  id : String
  error : String
  deriving DecidableEq, Repr

def pauseObject (objectId : String) : Program Unit := do
  let response ← post ("/" ++ objectId) [("status", .str "PAUSED")]
  .lift (requireWriteSuccess response ("cleanup_pause[" ++ objectId ++ "]"))
  let row ← getFields ("/" ++ objectId) cleanupFields
  .lift (requireObjectId row objectId ("cleanup object " ++ objectId))
  .lift (requirePaused row ("cleanup object " ++ objectId))

/-- The failure of one object does not keep the others from being paused. -/
def pauseEach : List String → Program (List CleanupFailure)
  | [] => return []
  | objectId :: rest => do
    let failures ← (do pauseObject objectId; return []).catching fun error =>
      return [{ id := objectId, error }]
    return failures ++ (← pauseEach rest)

/-- `_pause_created`: campaigns first, they gate the spend of everything below. -/
def pauseCreated (created : Created) : Program (List CleanupFailure) :=
  pauseEach created.all

theorem pauseEach_run (ids : List String) (replies : List Reply) :
    ∃ failures rest, (pauseEach ids).run silence replies = (.ok failures, rest) := by
  induction ids generalizing replies with
  | nil => exact ⟨[], replies, rfl⟩
  | cons objectId ids ih =>
    simp only [pauseEach, Calls.run_bind, Calls.run_catching]
    cases hp : (pauseObject objectId).run silence replies with
    | mk result rest =>
      obtain ⟨failures, rest', hrest⟩ := ih rest
      cases result with
      | ok value => exact ⟨failures, rest', by simp [hrest, Calls.run]⟩
      | error error =>
        exact ⟨{ id := objectId, error } :: failures, rest', by simp [hrest, Calls.run]⟩

def recoverCheckpoint (lib : Stdlib) (payload : MetaMutationPayload) (checkpoint : Obj) :
    Program (Created × List CleanupFailure) := do
  let (plan, created) ← .lift (validateRecovery lib payload checkpoint)
  verifyRecoveryObjects plan created
  let failures ← pauseCreated created
  return (created, failures)

def verifies (plan : Plan) (created : Created) (replies : List Reply) : Bool :=
  ((verifyRecoveryObjects plan created).run silence replies).1.toOption.isSome

/-- How a recovery ends: on its own checks, on a read, or with its failures. -/
theorem recoverCheckpoint_run (lib : Stdlib) (payload : MetaMutationPayload) (checkpoint : Obj)
    (replies : List Reply) :
    (∃ error, validateRecovery lib payload checkpoint = .error error ∧
        ((recoverCheckpoint lib payload checkpoint).run silence replies).1 = .error error) ∨
      ∃ plan created, validateRecovery lib payload checkpoint = .ok (plan, created) ∧
        (verifies plan created replies = false ∨
          ∃ failures, ((recoverCheckpoint lib payload checkpoint).run silence replies).1 =
            .ok (created, failures)) := by
  cases hv : validateRecovery lib payload checkpoint with
  | error error => exact .inl ⟨error, rfl, by simp [recoverCheckpoint, hv, Calls.run_bind]⟩
  | ok valid =>
    obtain ⟨plan, created⟩ := valid
    refine .inr ⟨plan, created, rfl, ?_⟩
    cases hr : (verifyRecoveryObjects plan created).run silence replies with
    | mk result rest =>
      cases result with
      | error error => exact .inl (by simp [verifies, hr, Except.toOption])
      | ok value =>
        obtain ⟨failures, rest', hp⟩ := pauseEach_run created.all rest
        exact .inr ⟨failures, by
          simp [recoverCheckpoint, hv, Calls.run_bind, hr, pauseCreated, hp, Calls.run]⟩

end StopBot.Duplicates
