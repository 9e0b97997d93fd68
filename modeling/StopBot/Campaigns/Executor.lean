import StopBot.Campaigns.Builder
import StopBot.Lib.Calls
import StopBot.Worker.Mutation

/-!
# `execute_campaign_spec`

The executor of `core/campaign_builder/execute.py` as a program that calls out:
progress reports, the uniquifier, the Graph edges, the uploader and the creative
ledger. At every await the ids created so far are in the hands of the caller,
as the sink of the source is. What a call raises is its answer; the executor
routes it by the ids it has and by what the transport proved.
-/

namespace StopBot.Campaigns

open Lib

-- ------------------------------------------------------------
-- Exceptions
-- ------------------------------------------------------------

/-- The classes of `core/meta_api/errors.py` that the routing tells apart; the
first three are `PreDispatchRejectedError`, the first four `TemporaryError`. -/
inductive ExcClass
  | browserReadinessRejectedError
  | browserOperationRejectedError (reasonCode : String)
  | preDispatchRejectedError
  | temporaryError
  | permanentError
  | campaignExecutionError
  | other
  deriving DecidableEq, Repr

/-- `isinstance(exc, PreDispatchRejectedError)`. -/
def ExcClass.preDispatch : ExcClass → Bool
  | .browserReadinessRejectedError | .browserOperationRejectedError _
  | .preDispatchRejectedError => true
  | .temporaryError | .permanentError | .campaignExecutionError | .other => false

/-- `isinstance(exc, TemporaryError)`. -/
def ExcClass.temporary : ExcClass → Bool
  | .browserReadinessRejectedError | .browserOperationRejectedError _
  | .preDispatchRejectedError | .temporaryError => true
  | .permanentError | .campaignExecutionError | .other => false

/-- `getattr(exc, "reason_code", None)`. -/
def ExcClass.reasonCode : ExcClass → Option String
  | .browserOperationRejectedError reasonCode => some reasonCode
  | _ => none

/-- A raised exception: its class, the name of that class and its `repr`, the
classes behind it along `__cause__`, and those along `__cause__ or __context__`. -/
structure Raised where
  cls : ExcClass
  name : String
  repr : String
  causes : List ExcClass := []
  contexts : List ExcClass := []
  deriving DecidableEq, Repr

-- ------------------------------------------------------------
-- Created objects and progress
-- ------------------------------------------------------------

structure CreatedIds where
  campaigns : List String := []
  adsets : List String := []
  creatives : List String := []
  ads : List String := []
  videos : List String := []
  images : List String := []
  deriving DecidableEq, Repr

def CreatedIds.hasCreated (c : CreatedIds) : Bool :=
  !c.campaigns.isEmpty || !c.adsets.isEmpty || !c.creatives.isEmpty || !c.ads.isEmpty ||
    !c.videos.isEmpty || !c.images.isEmpty

def CreatedIds.toObj (c : CreatedIds) : Obj :=
  [("campaigns", texts c.campaigns), ("adsets", texts c.adsets), ("creatives", texts c.creatives),
    ("ads", texts c.ads), ("videos", texts c.videos), ("images", texts c.images)]

inductive Stage
  | queued
  | uniquifying
  | uploading
  | creating
  | succeeded
  deriving DecidableEq, Repr

def Stage.text : Stage → String
  | .queued => "queued"
  | .uniquifying => "uniquifying"
  | .uploading => "uploading"
  | .creating => "creating"
  | .succeeded => "succeeded"

/-- `_ProgressState`. The last field says that a campaign request is not proven
to have stayed behind. -/
structure ProgressState where
  stage : Stage := .creating
  campaignsDone : Nat := 0
  adsetsDone : Nat := 0
  uploadsDone : Nat := 0
  creativesDone : Nat := 0
  adsDone : Nat := 0
  totalAds : Nat := 0
  campaignCreateAttempted : Bool := false
  deriving DecidableEq, Repr

def ProgressState.snapshot (p : ProgressState) : Obj :=
  [("stage", .str p.stage.text), ("campaigns_done", int p.campaignsDone),
    ("adsets_done", int p.adsetsDone), ("uploads_done", int p.uploadsDone),
    ("creatives_done", int p.creativesDone), ("ads_done", int p.adsDone),
    ("total_ads", int p.totalAds)]

-- ------------------------------------------------------------
-- Calls
-- ------------------------------------------------------------

inductive Edge
  | campaigns
  | adsets
  | adcreatives
  | ads
  deriving DecidableEq, Repr

def Edge.text : Edge → String
  | .campaigns => "campaigns"
  | .adsets => "adsets"
  | .adcreatives => "adcreatives"
  | .ads => "ads"

/-- What the executor awaits. `progress` and `record` are the callbacks of the
worker, `uniquify` is local work; the others leave the host. -/
inductive Request
  | progress (progress : ProgressState)
  | uniquify
  | graph (edge : Edge) (body : Obj)
  | uploadImage (filename : String)
  | uploadVideo (filename : String)
  | waitVideoReady (videoId : String)
  | videoThumbnail (videoId : String)
  | record (code : String) (kind : MediaKind) (creativeId : String)
  deriving Repr

/-- The request with what is created when it is awaited. -/
structure Await where
  created : CreatedIds
  request : Request
  deriving Repr

/-- `notDispatched` is the proof of the transport: it led the call, and the
request did not leave. -/
inductive Answer
  | done
  | object (response : Json)
  | value (text : String)
  | raised (exc : Raised) (notDispatched : Bool)
  deriving Repr

def Answer.provenNotDispatched : Answer → Bool
  | .raised _ notDispatched => notDispatched
  | .done | .object _ | .value _ => false

-- ------------------------------------------------------------
-- Programs with state and exceptions
-- ------------------------------------------------------------

structure ExecState where
  created : CreatedIds := {}
  progress : ProgressState := {}
  deriving DecidableEq, Repr

/-- A part of the executor that raises `ε`; what it changed stays changed. -/
def Exec (ε α : Type) : Type := ExecState → Calls Await Answer (Except ε α × ExecState)

namespace Exec

variable {ε ε' α β : Type}

def bind (first : Exec ε α) (rest : α → Exec ε β) : Exec ε β := fun s =>
  first s >>= fun
    | (.ok value, s') => rest value s'
    | (.error exc, s') => .ret (.error exc, s')

instance : Monad (Exec ε) where
  pure value := fun s => .ret (.ok value, s)
  bind := bind

def raise (exc : ε) : Exec ε α := fun s => .ret (.error exc, s)

/-- `try` with one `except` clause, which sees the state at the failure. -/
def catching (body : Exec ε α) (handler : ExecState → ε → Exec ε' α) : Exec ε' α := fun s =>
  body s >>= fun
    | (.ok value, s') => .ret (.ok value, s')
    | (.error exc, s') => handler s' exc s'

def modify (f : ExecState → ExecState) : Exec ε Unit := fun s => .ret (.ok (), f s)

def ask (request : Request) : Exec ε Answer := fun s =>
  .call { created := s.created, request } fun answer => .ret (.ok answer, s)

/-- `for item in items`. -/
def each (body : β → Exec ε Unit) : List β → Exec ε Unit
  | [] => pure ()
  | item :: rest => do
    body item
    each body rest

end Exec

open Exec

-- ------------------------------------------------------------
-- One campaign
-- ------------------------------------------------------------

def setStage {ε : Type} (stage : Stage) : Exec ε Unit :=
  modify fun s => { s with progress := { s.progress with stage } }

/-- `_emit`: whatever the callback raises is logged and dropped. -/
def emit {ε : Type} : Exec ε Unit := fun s =>
  .call { created := s.created, request := .progress s.progress } fun _ => .ret (.ok (), s)

def unexpectedAnswer : Raised := { cls := .other, name := "TypeError", repr := "TypeError()" }

def executionError (message : String) : Raised :=
  { cls := .campaignExecutionError, name := "CampaignExecutionError"
    repr := "CampaignExecutionError(" ++ message ++ ")" }

def valueError (message : String) : Raised :=
  { cls := .other, name := "ValueError", repr := "ValueError(" ++ message ++ ")" }

def objectOf : Answer → Exec Raised Json
  | .object response => pure response
  | .raised exc _ => raise exc
  | .done | .value _ => raise unexpectedAnswer

def doneOf : Answer → Exec Raised Unit
  | .raised exc _ => raise exc
  | .done | .object _ | .value _ => pure ()

def valueOf : Answer → Exec Raised String
  | .value text => pure text
  | .raised exc _ => raise exc
  | .done | .object _ => raise unexpectedAnswer

def extractId (response : Json) (what : String) : Exec Raised String :=
  let id := match response with
    | .obj fields => (Obj.get? fields "id").filter Json.truthy
    | _ => none
  match id with
  | some id => pure (Worker.pyStr id)
  | none =>
    raise (executionError (what ++ ": Meta вернул пустой id (resp=" ++ response.render ++ ")"))

def createObject (edge : Edge) (body : Obj) (what : String) : Exec Raised String := do
  let response ← objectOf (← ask (.graph edge body))
  extractId response what

/-- The campaign request. Unless the transport proves that it stayed behind, it
counts as sent. -/
def createCampaign (body : Obj) : Exec Raised String := do
  let answer ← ask (.graph .campaigns (assign "status" (.str createdObjectStatus) body))
  modify fun s => { s with progress := { s.progress with
    campaignCreateAttempted :=
      s.progress.campaignCreateAttempted || !answer.provenNotDispatched } }
  let response ← objectOf answer
  extractId response "campaign"

def createAdset (campaignId : String) (spec : AdsetSpec) (index : Nat) : Exec Raised String := do
  let body := assign "status" (.str createdObjectStatus)
    (assign "campaign_id" (.str campaignId) spec.body)
  let adsetId ← createObject .adsets body ("adset[" ++ toString index ++ "]")
  modify fun s =>
    { created := { s.created with adsets := s.created.adsets ++ [adsetId] }
      progress := { s.progress with adsetsDone := s.progress.adsetsDone + 1 } }
  emit
  pure adsetId

def createAdsets (campaignId : String) : List (AdsetSpec × Nat) → Exec Raised (List String)
  | [] => pure []
  | (spec, index) :: rest => do
    let adsetId ← createAdset campaignId spec index
    let adsetIds ← createAdsets campaignId rest
    pure (adsetId :: adsetIds)

def countUpload : Exec Raised Unit := do
  modify fun s => { s with progress := { s.progress with
    uploadsDone := s.progress.uploadsDone + 1 } }
  emit

def uploadMedia (cfg : CampaignConfig) (ad : UniquifiedAd) : Exec Raised Obj :=
  match ad.kind with
  | .video => do
    let videoId ← valueOf (← ask (.uploadVideo (ad.code ++ ".mp4")))
    modify fun s => { s with created := { s.created with videos := s.created.videos ++ [videoId] } }
    doneOf (← ask (.waitVideoReady videoId))
    let thumbUrl ← valueOf (← ask (.videoThumbnail videoId))
    countUpload
    pure (videoCreativeBody cfg ad.code videoId thumbUrl (urlTagsOf cfg ad.code))
  | .image => do
    let imageHash ← valueOf (← ask (.uploadImage (ad.code ++ ".jpeg")))
    modify fun s => { s with created :=
      { s.created with images := s.created.images ++ [imageHash] } }
    countUpload
    pure (imageCreativeBody cfg ad.code imageHash (urlTagsOf cfg ad.code))

def createAd (cfg : CampaignConfig) (adsetId : String) (ad : UniquifiedAd) : Exec Raised Unit := do
  setStage .uploading
  let creativeBody ← uploadMedia cfg ad
  setStage .creating
  let creativeId ← createObject .adcreatives creativeBody ("creative[" ++ ad.code ++ "]")
  modify fun s =>
    { created := { s.created with creatives := s.created.creatives ++ [creativeId] }
      progress := { s.progress with creativesDone := s.progress.creativesDone + 1 } }
  emit
  let _ ← ask (.record ad.code ad.kind creativeId)
  let adId ← createObject .ads (adBody ad.code adsetId creativeId) ("ad[" ++ ad.code ++ "]")
  modify fun s =>
    { created := { s.created with ads := s.created.ads ++ [adId] }
      progress := { s.progress with adsDone := s.progress.adsDone + 1 } }
  emit

def planBlock (cfg : CampaignConfig) (spec : BlockSpec) (concepts : List ConceptInput)
    (codeStart : Nat) : Exec Raised (List (List UniquifiedAd)) :=
  if cfg.campaigns.any fun block => block.key == spec.key then
    match buildUniquificationPlan cfg concepts spec.adsets.length codeStart with
    | .ok plan => pure plan
    | .error error => raise (valueError error)
  else raise (executionError ("в конфиге нет блока с ключом '" ++ spec.key ++ "'"))

def executeBlock (cfg : CampaignConfig) (spec : BlockSpec) (concepts : List ConceptInput)
    (codeStart : Nat) : Exec Raised Unit := do
  let plan ← planBlock cfg spec concepts codeStart
  modify fun s => { s with progress := { s.progress with
    totalAds := s.progress.totalAds + (plan.map List.length).sum, stage := .uniquifying } }
  emit
  doneOf (← ask .uniquify)
  setStage .creating
  let campaignId ← createCampaign spec.body
  modify fun s =>
    { created := { s.created with campaigns := s.created.campaigns ++ [campaignId] }
      progress := { s.progress with campaignsDone := s.progress.campaignsDone + 1 } }
  emit
  let adsetIds ← createAdsets campaignId spec.adsets.zipIdx
  setStage .uploading
  emit
  each (fun (adsetId, ads) => each (createAd cfg adsetId) ads) (adsetIds.zip plan)

-- ------------------------------------------------------------
-- All campaigns
-- ------------------------------------------------------------

/-- How `execute_campaign_spec` ends when it does not return. `plain` is an
exception that reaches the worker from around the executor. -/
inductive Failure
  | partialCreate (created : CreatedIds) (failedStep : String) (preDispatch : Bool)
      (reasonCode : Option String) (cause : Raised)
  | execution (message : String) (preDispatch : Bool) (cause : Option Raised)
  | plain (exc : Raised)
  deriving Repr

/-- `_raise_for_failure`: created ids first, then a proven refusal, then a
campaign request that may have been lost. -/
def raiseForFailure (s : ExecState) (cause : Raised) (failedStep : String) : Failure :=
  if s.created.hasCreated then
    .partialCreate s.created failedStep cause.cls.preDispatch cause.cls.reasonCode cause
  else if cause.cls.preDispatch then
    .execution ("rejected before Meta I/O on step '" ++ failedStep ++ "'") false (some cause)
  else if s.progress.campaignCreateAttempted then
    .partialCreate s.created failedStep false none cause
  else
    .execution ("залив упал на шаге '" ++ failedStep ++ "': " ++ cause.name) true (some cause)

def executeBlocks (cfg : CampaignConfig) (concepts : List (String × List ConceptInput)) :
    Nat → List BlockSpec → Exec Failure Unit
  | _, [] => pure ()
  | codeStart, spec :: rest => do
    let found := (concepts.lookup spec.key).getD []
    if found.isEmpty then
      fun s => raise (raiseForFailure s
        (valueError ("нет концептов для кампании '" ++ spec.key ++ "'")) "validate") s
    else
      (executeBlock cfg spec found codeStart).catching fun s exc =>
        raise (raiseForFailure s exc s.progress.stage.text)
    executeBlocks cfg concepts (codeStart + blockCodeSpan found.length spec.adsets.length) rest

def pausedBody (body : Obj) : Bool :=
  match Obj.get? body "status" with
  | some (.str status) => status == createdObjectStatus
  | _ => false

/-- The objects `_assert_all_paused_spec` looks at, by path, and whether they are paused. -/
def creationStatuses (specs : List BlockSpec) : List (String × Bool) :=
  specs.flatMap fun spec =>
    let block := "campaign[" ++ spec.key ++ "]"
    (block, spec.status == createdObjectStatus) :: (block ++ ".body", pausedBody spec.body) ::
      spec.adsets.zipIdx.flatMap fun (adset, adsetIndex) =>
        let path := block ++ ".adset[" ++ toString adsetIndex ++ "]"
        (path, adset.status == createdObjectStatus) :: (path ++ ".body", pausedBody adset.body) ::
          adset.ads.zipIdx.map fun (ad, adIndex) =>
            (path ++ ".ad[" ++ toString adIndex ++ "]", ad.status == createdObjectStatus)

/-- `_assert_all_paused_spec`: the message it raises with, if it does. -/
def pausedRefusal (specs : List BlockSpec) : Option String :=
  ((creationStatuses specs).find? fun status => !status.2).map fun status =>
    status.1 ++ ": creation status must be " ++ createdObjectStatus

def allPausedSpec (specs : List BlockSpec) : Bool :=
  specs.all fun spec =>
    spec.status == createdObjectStatus && pausedBody spec.body &&
      spec.adsets.all fun adset =>
        adset.status == createdObjectStatus && pausedBody adset.body &&
          adset.ads.all fun ad => ad.status == createdObjectStatus

theorem all_zipIdx {α : Type} (xs : List α) (p : α → Bool) :
    (xs.zipIdx.all fun x => p x.1) = xs.all p := by
  conv_rhs => rw [← List.zipIdx_map_fst 0 xs, List.all_map]
  rfl

theorem creationStatuses_all (specs : List BlockSpec) :
    ((creationStatuses specs).all fun status => status.2) = allPausedSpec specs := by
  simp only [creationStatuses, allPausedSpec, List.all_flatMap, List.all_cons, List.all_map,
    Function.comp_def, Bool.and_assoc,
    all_zipIdx _ fun ad : AdSpec => ad.status == createdObjectStatus,
    all_zipIdx _ fun adset : AdsetSpec => adset.status == createdObjectStatus &&
      (pausedBody adset.body && adset.ads.all fun ad => ad.status == createdObjectStatus)]

/-- The check raises exactly on a plan with an object that is not paused. -/
theorem pausedRefusal_eq_none (specs : List BlockSpec) :
    pausedRefusal specs = none ↔ allPausedSpec specs = true := by
  rw [pausedRefusal, Option.map_eq_none_iff, List.find?_eq_none, ← creationStatuses_all,
    List.all_eq_true]
  simp

def executeCampaignSpec (cfg : CampaignConfig) (specs : List BlockSpec)
    (concepts : List (String × List ConceptInput)) : Exec Failure CreatedIds := do
  match pausedRefusal specs with
  | some message => raise (.execution message false none)
  | none =>
    executeBlocks cfg concepts cfg.codeStart specs
    setStage .succeeded
    emit
    fun s => .ret (.ok s.created, s)

-- ------------------------------------------------------------
-- Classification
-- ------------------------------------------------------------

namespace Failure

/-- `repr(exc)`; a partial failure is reported by its fields. -/
def repr : Failure → String
  | .partialCreate _ _ _ _ cause | .plain cause => cause.repr
  | .execution message _ _ => "CampaignExecutionError(" ++ message ++ ")"

def browserReadinessRejection : Failure → Bool
  | .partialCreate _ _ _ _ cause | .execution _ _ (some cause) | .plain cause =>
    (cause.cls :: cause.causes).contains .browserReadinessRejectedError
  | .execution _ _ none => false

def provenPreDispatch : Failure → Bool
  | .partialCreate _ _ preDispatch _ cause | .execution _ preDispatch (some cause) =>
    preDispatch || (cause.cls :: cause.contexts).any ExcClass.preDispatch
  | .execution _ preDispatch none => preDispatch
  | .plain cause => (cause.cls :: cause.contexts).any ExcClass.preDispatch

def browserOperationPermanentRejections : List String :=
  ["capability_contract_incompatible", "capability_cabinet_mismatch", "caller_not_authorized",
    "capability_task_binding_invalid", "capability_lease_binding_invalid", "capability_malformed",
    "capability_signature_invalid", "capability_expiry_missing", "ownership_preflight_rejected",
    "graph_method_override", "graph_method_semantics", "graph_get_body", "graph_endpoint_query",
    "ad_account_id_not_numeric", "ad_account_id_missing"]

/-- The reason code that `unretryable_browser_rejection` finds. -/
def unretryableBrowserRejection : Failure → Option String
  | .partialCreate _ _ _ _ cause | .execution _ _ (some cause) | .plain cause =>
    ((cause.cls :: cause.causes).filterMap ExcClass.reasonCode).find?
      browserOperationPermanentRejections.contains
  | .execution _ _ none => none

/-- `classify_execution_error(exc) == "transient"`, of what is not partial. -/
def transient : Failure → Bool
  | .partialCreate .. => false
  | .execution _ _ cause => cause.any fun exc => exc.cls.temporary
  | .plain exc => exc.cls.temporary

end Failure

end StopBot.Campaigns
