import StopBot.Lib.Checks
import StopBot.Rules.Money
import StopBot.Worker.Mutation

/-!
# Plans and checkpoints of a duplicated ad-set structure

What `DuplicateAdsetStructureHandler` checks before it calls anything: the plan
in the parameters of the task (`_validate_plan`), the ids of a persisted
checkpoint (`created_ids_from_checkpoint`), and the one against the other
(`_validate_checkpoint_against_plan`). All of it is pure; every refusal carries
its text.
-/

namespace StopBot.Duplicates

open Lib Worker

def mutationKind : String := "duplicate_adset_structure"

/-- The parts of Python's library the plan is read with: the hexadecimal digest
of the canonical payload, `str` of a decoded value, and ISO instants with their
offset (both in microseconds). -/
structure Stdlib where
  planDigest : (targetId : String) → (unsignedParams : Obj) → (adAccountId : String) → String
  str : Json → Option String
  fromisoformat : String → Option (Int × Option Int)

structure Plan where
  accountId : String
  sourceCampaignId : String
  sourceAdsetId : String
  selectedAdIds : List String
  campaignCount : Nat
  adsetsPerCampaign : Nat
  budgetLevel : String
  currency : String
  currencyExponent : Nat
  dailyBudgetMinorUnits : Int
  startTime : String
  startAt : Int
  campaignNames : List String
  adsetNames : List (List String)
  deriving DecidableEq, Repr

structure Created where
  campaigns : List String := []
  adsets : List String := []
  ads : List String := []
  deriving DecidableEq, Repr

def Created.all (c : Created) : List String := c.campaigns ++ c.adsets ++ c.ads

def Created.toJson (c : Created) : Json :=
  .obj [("campaigns", .arr (c.campaigns.map .str)), ("adsets", .arr (c.adsets.map .str)),
    ("ads", .arr (c.ads.map .str))]

-- ------------------------------------------------------------
-- Fields
-- ------------------------------------------------------------

/-- `repr` of a scalar. -/
def pyRepr : Json → String
  | .str s => "'" ++ s ++ "'"
  | value => pyStr value

def requireNumericId (value : Json) (fieldName : String) : Except String String :=
  match value with
  | .str s =>
    if s = "" then
      .error (fieldName ++ ": ожидается строка с числовым ID, получено " ++ pyRepr value)
    else if PyText.isDigits s then .ok s
    else .error (fieldName ++ ": ожидается только из цифр, получено " ++ pyRepr value)
  | _ => .error (fieldName ++ ": ожидается строка с числовым ID, получено " ++ pyRepr value)

/-- `params.get(key)`. -/
def param (params : Obj) (key : String) : Json :=
  (params.get? key).getD .null

def validateIds (value : Json) (fieldName : String) : Except String (List String) :=
  match value with
  | .arr (item :: items) => do
    let ids ← (item :: items).mapM fun value => requireNumericId value fieldName
    require (decide ids.Nodup) (fieldName ++ ": duplicate ids are not allowed")
    .ok ids
  | _ => .error (fieldName ++ ": expected a non-empty list")

def validateCount (value : Json) (fieldName : String) (maximum : Nat) : Except String Nat :=
  match value with
  | .num m 0 =>
    if 1 ≤ m ∧ m ≤ maximum then .ok m.toNat
    else .error (fieldName ++ ": expected integer 1.." ++ toString maximum)
  | _ => .error (fieldName ++ ": expected integer 1.." ++ toString maximum)

def validateName (fieldName : String) (item : Json) : Except String String :=
  match item with
  | .str s =>
    let name := PyText.strip s
    if name ≠ "" ∧ name.length ≤ 400 then .ok name
    else .error (fieldName ++ ": every name must be 1..400 chars")
  | _ => .error (fieldName ++ ": every name must be 1..400 chars")

def validateNames (value : Json) (fieldName : String) (count : Nat) : Except String (List String) :=
  match value with
  | .arr items =>
    if items.length = count then items.mapM (validateName fieldName)
    else .error (fieldName ++ ": expected exactly " ++ toString count ++ " names")
  | _ => .error (fieldName ++ ": expected exactly " ++ toString count ++ " names")

def isArr : Json → Bool
  | .arr _ => true
  | _ => false

def isStr : Json → Bool
  | .str _ => true
  | _ => false

/-- `flat[index * size : (index + 1) * size]` for every index below `count`. -/
def chunks (size count : Nat) (flat : List String) : List (List String) :=
  (List.range count).map fun index => (flat.drop (index * size)).take size

/-- Nested names, a flat list for every target, or one list for every campaign. -/
def validateAdsetNames (value : Json) (campaignCount adsetsPerCampaign : Nat) :
    Except String (List (List String)) :=
  match value with
  | .arr items =>
    if items.length = campaignCount ∧ items.all isArr then
      items.zipIdx.mapM fun (item, index) =>
        validateNames item ("adset_names[" ++ toString index ++ "]") adsetsPerCampaign
    else if items.length = campaignCount * adsetsPerCampaign ∧ items.all isStr then
      return chunks adsetsPerCampaign campaignCount
        (← validateNames value "adset_names" (campaignCount * adsetsPerCampaign))
    else if items.length = adsetsPerCampaign ∧ items.all isStr then
      return List.replicate campaignCount (← validateNames value "adset_names" adsetsPerCampaign)
    else
      .error ("adset_names: expected nested campaign_count x adsets_per_campaign names, " ++
        "a flat list for every target, or one reusable per-campaign name list")
  | _ => .error "adset_names: expected a list"

/-- A trailing `Z` is read as the offset zero. -/
def normalizeZulu (cleaned : String) : String :=
  if cleaned.endsWith "Z" || cleaned.endsWith "z" then
    PyText.clip (cleaned.length - 1) cleaned ++ "+00:00"
  else cleaned

/-- `now` is given when the start must lie in the future. -/
def validateStartTime (lib : Stdlib) (value : Json) (now : Option Int) :
    Except String (String × Int) :=
  match value with
  | .str s =>
    let cleaned := PyText.strip s
    if cleaned = "" then .error "start_time: expected ISO-8601 UTC string"
    else
      match lib.fromisoformat (normalizeZulu cleaned) with
      | none => .error "start_time: expected ISO-8601 UTC string"
      | some (instant, some 0) =>
        if now.any fun now => instant ≤ now then .error "start_time: must be in the future"
        else .ok (cleaned, instant)
      | some _ => .error "start_time: timezone must be UTC"
  | _ => .error "start_time: expected ISO-8601 UTC string"

-- ------------------------------------------------------------
-- The plan
-- ------------------------------------------------------------

def maxSelectedAds : Nat := 10

def maxCreatedAds : Nat := 50

/-- `duplicate_execution_plan_digest_matches`: the digest is the canonical
lowercase text of the expected one, over everything but itself. -/
def planDigestMatches (lib : Stdlib) (payload : MetaMutationPayload) : Bool :=
  payload.mutationKind == mutationKind && PyText.isDigits (PyText.strip payload.targetId) &&
    (param payload.params "plan_digest").asStr? ==
      some (lib.planDigest (PyText.strip payload.targetId)
        (Obj.erase payload.params "plan_digest") payload.adAccountId)

def validateBudgetLevel (value : Json) : Except String String :=
  match value with
  | .str s =>
    let level := PyText.upper (PyText.strip s)
    if level = "ABO" ∨ level = "CBO" then .ok level
    else .error "budget_level: expected ABO or CBO"
  | _ => .error "budget_level: expected ABO or CBO"

/-- An integer that is no boolean. -/
def plainInt? : Json → Option Int
  | .num m 0 => some m
  | _ => none

/-- The daily budget of a plan; a signal of the decimal context is no `ValueError`. -/
def validateDailyBudget (lib : Stdlib) (params : Obj) : Except String (String × Nat × Int) :=
  let currency := param params "currency"
  match Rules.Money.checkedDailyBudgetMinorUnits (lib.str (param params "daily_budget"))
      (if currency.truthy then lib.str currency else none)
      (plainInt? (param params "currency_exponent")) with
  | .ok (code, exponent, _, minorUnits) => .ok (code, exponent, minorUnits)
  | .error raised =>
    match Rules.Money.text raised with
    | some message => .error ("daily_budget: " ++ message)
    | none => .error "decimal.InvalidOperation"

/-- `_validate_plan`; the account id of a parsed payload is canonical. -/
def validatePlan (lib : Stdlib) (payload : MetaMutationPayload) (now : Option Int) :
    Except String Plan := do
  let params := payload.params
  require (planDigestMatches lib payload)
    "plan_digest: malformed or does not match execution plan"
  let sourceCampaignId ← requireNumericId (param params "source_campaign_id") "source_campaign_id"
  let sourceAdsetId ← requireNumericId (param params "source_adset_id") "source_adset_id"
  require (payload.targetId == sourceAdsetId) "target_id must match source_adset_id"
  let selectedAdIds ← validateIds (param params "selected_ad_ids") "selected_ad_ids"
  require (selectedAdIds.length ≤ maxSelectedAds) "selected_ad_ids: at most 10 ads are allowed"
  let campaignCount ← validateCount (param params "campaign_count") "campaign_count" 5
  let adsetsPerCampaign ←
    validateCount (param params "adsets_per_campaign") "adsets_per_campaign" 10
  let createdAds := campaignCount * adsetsPerCampaign * selectedAdIds.length
  require (createdAds ≤ maxCreatedAds)
    ("campaign_count * adsets_per_campaign * selected ads must be <= 50 (got " ++
      toString createdAds ++ ")")
  let budgetLevel ← validateBudgetLevel (param params "budget_level")
  let (currency, currencyExponent, dailyBudgetMinorUnits) ← validateDailyBudget lib params
  let (startTime, startAt) ← validateStartTime lib (param params "start_time") now
  let campaignNames ← validateNames (param params "campaign_names") "campaign_names" campaignCount
  let adsetNames ←
    validateAdsetNames (param params "adset_names") campaignCount adsetsPerCampaign
  return {
    accountId := "act_" ++ payload.adAccountId
    sourceCampaignId, sourceAdsetId, selectedAdIds, campaignCount, adsetsPerCampaign, budgetLevel
    currency, currencyExponent, dailyBudgetMinorUnits, startTime, startAt, campaignNames
    adsetNames }

-- ------------------------------------------------------------
-- Checkpoints
-- ------------------------------------------------------------

/-- `value == n`, as Python compares a decoded number. -/
def numEq (value : Option Json) (n : Int) : Bool :=
  match value with
  | some (.num m e) => if 0 ≤ e then m * 10 ^ e.toNat == n else m == n * 10 ^ (-e).toNat
  | _ => false

def keysAre (fields : Obj) (keys : List String) : Bool :=
  fields.all (fun field => keys.contains field.1) &&
    keys.all fun key => (Obj.get? fields key).isSome

def checkpointIds (raw : Obj) (key : String) (limit : Nat) : Except String (List String) :=
  match Obj.get? raw key with
  | some (.arr values) => do
    require (values.length ≤ limit) ("invalid duplicate recovery " ++ key)
    let ids ← values.mapM fun value => requireNumericId value ("recovery " ++ key)
    require (decide ids.Nodup) ("duplicate ids in recovery " ++ key)
    .ok ids
  | _ => .error ("invalid duplicate recovery " ++ key)

def disjoint (xs ys : List String) : Bool :=
  xs.all fun x => !ys.contains x

def createdIdsFromCheckpoint (checkpoint : Obj) : Except String Created := do
  require (((checkpoint.get? "checkpoint_type").bind Json.asStr?) == some mutationKind &&
    numEq (checkpoint.get? "checkpoint_version") 2) "invalid duplicate recovery checkpoint type"
  let raw ← match checkpoint.get? "created_ids" with
    | some (.obj raw) => .ok raw
    | _ => .error "duplicate recovery checkpoint has no created_ids"
  require (keysAre raw ["campaigns", "adsets", "ads"])
    "duplicate recovery checkpoint has no created_ids"
  let campaigns ← checkpointIds raw "campaigns" 5
  let adsets ← checkpointIds raw "adsets" 50
  let ads ← checkpointIds raw "ads" maxCreatedAds
  require (disjoint campaigns adsets && disjoint campaigns ads && disjoint adsets ads)
    "duplicate recovery checkpoint buckets overlap"
  require (!(campaigns.isEmpty && adsets.isEmpty && ads.isEmpty))
    "duplicate recovery checkpoint is empty"
  return { campaigns, adsets, ads }

theorem requireNumericId_eq_ok {value : Json} {fieldName id : String}
    (h : requireNumericId value fieldName = .ok id) :
    value = .str id ∧ PyText.isDigits id = true := by
  cases value with
  | str s =>
    simp only [requireNumericId] at h
    split at h
    · cases h
    · split at h
      · cases h
        exact ⟨rfl, by assumption⟩
      · cases h
  | _ => cases h

theorem requireNumericIds_eq_ok {values : List Json} {fieldName : String} {ids : List String}
    (h : values.mapM (fun value => requireNumericId value fieldName) = .ok ids) :
    values = ids.map .str := by
  have hids := mapM_eq_ok.mp h
  clear h
  induction hids with
  | nil => rfl
  | cons hv _ ih => rw [List.map_cons, ← (requireNumericId_eq_ok hv).1, ← ih]

theorem checkpointIds_eq_ok {raw : Obj} {key : String} {limit : Nat} {ids : List String}
    (h : checkpointIds raw key limit = .ok ids) :
    Obj.get? raw key = some (.arr (ids.map .str)) := by
  unfold checkpointIds at h
  split at h
  · rename_i values hvalues
    rw [require_bind_eq_ok] at h
    obtain ⟨ids', hids', h⟩ := bind_eq_ok.mp h.2
    rw [require_bind_eq_ok] at h
    cases h.2
    rw [hvalues, requireNumericIds_eq_ok hids']
  · cases h

theorem get?_none_of_keysAre {fields : Obj} {keys : List String} (h : keysAre fields keys = true)
    {key : String} (hkey : key ∉ keys) : Obj.get? fields key = none := by
  rw [keysAre, Bool.and_eq_true, List.all_eq_true] at h
  rw [Obj.get?, List.lookup_eq_none_iff]
  rintro ⟨k, v⟩ hmem
  have hk : k ∈ keys := by simpa using h.1 _ hmem
  rw [bne_iff_ne]
  rintro rfl
  exact hkey hk

theorem createdIdsFromCheckpoint_toJson {checkpoint : Obj} {created : Created}
    (h : createdIdsFromCheckpoint checkpoint = .ok created) :
    ∃ raw, checkpoint.get? "created_ids" = some (.obj raw) ∧
      ∀ key, Obj.get? [("campaigns", .arr (created.campaigns.map .str)),
        ("adsets", .arr (created.adsets.map .str)), ("ads", .arr (created.ads.map .str))] key =
          Obj.get? raw key := by
  unfold createdIdsFromCheckpoint at h
  obtain ⟨-, h⟩ := require_bind_eq_ok.mp h
  split at h
  · rename_i raw hraw
    obtain ⟨hkeys, h⟩ := require_bind_eq_ok.mp h
    obtain ⟨campaigns, hcampaigns, h⟩ := bind_eq_ok.mp h
    obtain ⟨adsets, hadsets, h⟩ := bind_eq_ok.mp h
    obtain ⟨ads, hads, h⟩ := bind_eq_ok.mp h
    obtain ⟨-, h⟩ := require_bind_eq_ok.mp h
    obtain ⟨-, h⟩ := require_bind_eq_ok.mp h
    cases h
    refine ⟨raw, hraw, fun key => ?_⟩
    simp only [Obj.get?_cons, Obj.get?_nil]
    split
    · rename_i hkey
      rw [hkey, checkpointIds_eq_ok hcampaigns]
    · split
      · rename_i hkey
        rw [hkey, checkpointIds_eq_ok hadsets]
      · split
        · rename_i hkey
          rw [hkey, checkpointIds_eq_ok hads]
        · refine (get?_none_of_keysAre hkeys ?_).symm
          simp_all
  · cases h

def validateCheckpointAgainstPlan (created : Created) (plan : Plan) : Except String Unit := do
  let sourceIds := plan.sourceCampaignId :: plan.sourceAdsetId :: plan.selectedAdIds
  require (disjoint sourceIds created.all) "duplicate recovery checkpoint collides with source ids"
  let expectedAdsets := plan.campaignCount * plan.adsetsPerCampaign
  let expectedAds := expectedAdsets * plan.selectedAdIds.length
  require (created.campaigns.length ≤ plan.campaignCount &&
      created.adsets.length ≤ expectedAdsets && created.ads.length ≤ expectedAds)
    "duplicate recovery checkpoint exceeds task cardinality"
  require ((List.range created.adsets.length).all fun index =>
      index / plan.adsetsPerCampaign < created.campaigns.length)
    "duplicate recovery adset has no checkpointed campaign parent"
  require ((List.range created.ads.length).all fun index =>
      index / plan.selectedAdIds.length < created.adsets.length)
    "duplicate recovery ad has no checkpointed adset parent"

/-- The pure part of `recover_checkpoint`: the plan and the ids it goes on with. -/
def validateRecovery (lib : Stdlib) (payload : MetaMutationPayload) (checkpoint : Obj) :
    Except String (Plan × Created) := do
  let plan ← validatePlan lib payload none
  let created ← createdIdsFromCheckpoint checkpoint
  validateCheckpointAgainstPlan created plan
  return (plan, created)

end StopBot.Duplicates
