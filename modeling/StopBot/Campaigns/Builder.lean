import StopBot.Lib.Dict
import StopBot.Lib.Jsonb
import StopBot.Lib.PyText

/-!
# The configuration of a campaign and the bodies built from it

`core/campaign_builder`: the domain model of `config.py`, the names and codes
of `naming.py` and `uniquify.py`, and the Graph bodies of `builder.py`. A
configuration is taken as the validators leave it; amounts of money are kept in
the minor units they were converted to.
-/

namespace StopBot.Campaigns

open Lib

-- ------------------------------------------------------------
-- Configuration
-- ------------------------------------------------------------

structure Account where
  actId : String
  pageId : String
  pixelId : String
  timezoneName : String
  currency : String
  currencyExponent : Nat
  accountContextObservedAt : String
  deriving DecidableEq, Repr

inductive BudgetLevel
  | campaign
  | adset
  deriving DecidableEq, Repr

structure Budget where
  level : BudgetLevel
  currency : String
  dailyMinorUnits : Nat
  bidStrategy : String
  bidMinorUnits : Option Nat
  deriving DecidableEq, Repr

inductive Gender
  | male
  | female
  deriving DecidableEq, Repr

inductive Placement
  | facebook
  | instagram
  | messenger
  | audienceNetwork
  deriving DecidableEq, Repr

structure Targeting where
  countries : List String
  addAntarctica : Bool := true
  ageMin : Int
  ageMax : Int
  locationTypes : List String := ["home", "recent"]
  advantageAudience : Bool
  targetingOptimization : String := "expansion_all"
  brandSafetyRelaxed : Bool := true
  genders : List Gender
  placements : List Placement
  deriving DecidableEq, Repr

structure Attribution where
  clickThroughDays : Int
  viewThroughDays : Int
  deriving DecidableEq, Repr

inductive TextMode
  | none
  | full
  deriving DecidableEq, Repr

structure AdText where
  mode : TextMode
  message : String := ""
  headline : String := ""
  description : String := ""
  deriving DecidableEq, Repr

/-- A campaign of the plan: the name templates of its ad sets, and the files
of its concepts. -/
structure CampaignBlock where
  key : String
  name : String
  adsets : List String
  conceptRefs : List String
  deriving DecidableEq, Repr

structure CampaignConfig where
  account : Account
  offerCode : String
  byerTag : String := "MV"
  objective : String
  optimizationGoal : String
  customEventType : String
  specialAdCategories : List String
  destinationLink : String
  urlTagsTemplate : Option String
  cta : String
  displayLink : String
  textOptimizations : String
  startDate : String
  creoRoot : String
  budget : Budget
  targeting : Targeting
  attribution : Attribution
  adText : AdText
  campaigns : List CampaignBlock
  creativePrefix : String := ""
  codeStart : Nat := 1
  deriving DecidableEq, Repr

def Account.act (a : Account) : String :=
  if "act_".toList.isPrefixOf a.actId.toList then a.actId else "act_" ++ a.actId

def Account.actNum (a : Account) : String :=
  if "act_".toList.isPrefixOf a.actId.toList then String.ofList (a.actId.toList.drop 4)
  else a.actId

def Gender.metaId : Gender → Int
  | .male => 1
  | .female => 2

def Placement.text : Placement → String
  | .facebook => "facebook"
  | .instagram => "instagram"
  | .messenger => "messenger"
  | .audienceNetwork => "audience_network"

def Targeting.geoCountries (t : Targeting) : List String :=
  if t.addAntarctica && !t.countries.contains "AQ" then t.countries ++ ["AQ"] else t.countries

def Attribution.window (eventType : String) (days : Int) : List Json :=
  if days = 0 then []
  else [.obj [("event_type", .str eventType), ("window_days", .num days 0)]]

def Attribution.spec (a : Attribution) : List Json :=
  Attribution.window "CLICK_THROUGH" a.clickThroughDays ++
    Attribution.window "VIEW_THROUGH" a.viewThroughDays

/-- Midnight of the start date in the zone of the account; `utcOffset` is the
offset that the zone has at that time, as `isoformat` prints it. -/
def CampaignConfig.startTime (utcOffset : String → String → String) (cfg : CampaignConfig) :
    String :=
  cfg.startDate ++ "T00:00:00" ++ utcOffset cfg.account.timezoneName cfg.startDate

/-- `DD.MM` of the start date. -/
def CampaignConfig.dateLabel (cfg : CampaignConfig) : String :=
  match cfg.startDate.toList.splitOn '-' with
  | [_, month, day] => String.ofList day ++ "." ++ String.ofList month
  | _ => ""

-- ------------------------------------------------------------
-- Names and codes
-- ------------------------------------------------------------

/-- `str.replace`, from left to right; `skip` characters belong to the last hit. -/
def replaceChars (old new : List Char) : Nat → List Char → List Char
  | _, [] => []
  | skip + 1, _ :: rest => replaceChars old new skip rest
  | 0, c :: rest =>
    if old.isPrefixOf (c :: rest) then new ++ replaceChars old new (old.length - 1) rest
    else c :: replaceChars old new 0 rest

def replaceText (text old new : String) : String :=
  String.ofList (replaceChars old.toList new.toList 0 text.toList)

def renderName (template byer offer dateLabel : String) : String :=
  let text := replaceText template "\x7bbyer\x7d" byer
  let text := replaceText text "\x7boffer\x7d" offer
  let text := replaceText text "\x7btype\x7d" ""
  replaceText text "\x7bdate\x7d" dateLabel

/-- `f"{i:03d}"`. -/
def pad3 (n : Nat) : String :=
  let digits := toString n
  String.ofList (List.replicate (3 - digits.toList.length) '0') ++ digits

def usedPrefix (offerCode creativePrefix : String) : String :=
  if creativePrefix = "" then offerCode ++ "_CR" else creativePrefix

def creativeCode (offerCode creativePrefix : String) (n : Nat) : String :=
  usedPrefix offerCode creativePrefix ++ pad3 n

def creativeCodes (offerCode : String) (count : Nat) (creativePrefix : String) (start : Nat) :
    Except String (List String) :=
  if start < 1 then .error ("start должен быть >= 1, получено " ++ toString start)
  else .ok ((List.range' start count).map (creativeCode offerCode creativePrefix))

def blockCodeSpan (conceptCount _copies : Nat) : Nat := conceptCount

def totalCodeSpan (cfg : CampaignConfig) : Nat :=
  (cfg.campaigns.map fun block => blockCodeSpan block.conceptRefs.length block.adsets.length).sum

def buildCodeLayout (offerCode : String) (conceptCount copies : Nat) (creativePrefix : String)
    (start : Nat) : Except String (List (List String)) := do
  let codes ← creativeCodes offerCode conceptCount creativePrefix start
  .ok (List.replicate copies codes)

-- ------------------------------------------------------------
-- Tracking tags
-- ------------------------------------------------------------

/-- The letters that `re.IGNORECASE` matches with the ones of `sub8`. -/
def matchesSub8 : List Char → Bool
  | s :: u :: b :: '8' :: rest =>
    (s == 's' || s == 'S' || s == Char.ofNat 0x17f) && (u == 'u' || u == 'U') &&
      (b == 'b' || b == 'B') &&
      (match rest with
        | [] => true
        | c :: _ => c == '=' || c == '&' || c == '#')
  | _ => false

/-- `_SUB8_QUERY_KEY_RE.search`; `start` says that a key may begin here. -/
def hasSub8Key (start : Bool) : List Char → Bool
  | [] => false
  | c :: rest => (start && matchesSub8 (c :: rest)) || hasSub8Key (c == '?' || c == '&') rest

def adIdUrlTag : String := "sub8=\x7b\x7bad.id\x7d\x7d"

/-- The tag goes before a fragment, after a separator that is not there yet. -/
def ensureAdIdUrlTag (template : String) : String :=
  let normalized := PyText.strip template
  let chars := normalized.toList
  if hasSub8Key true chars then normalized
  else
    let base := chars.takeWhile (· != '#')
    let separator :=
      match base.getLast? with
      | none => ""
      | some c => if c == '?' || c == '&' then "" else "&"
    String.ofList base ++ separator ++ adIdUrlTag ++ String.ofList (chars.dropWhile (· != '#'))

def urlTagsOf (cfg : CampaignConfig) (code : String) : String :=
  let defaultTemplate :=
    "sub2=" ++ cfg.byerTag ++ "&sub3=" ++ code ++ "&sub4=" ++ cfg.account.actNum ++
      "&sub5=\x7b\x7bcampaign.name\x7d\x7d&sub6=\x7b\x7badset.name\x7d\x7d" ++
      "&sub7=\x7b\x7bad.name\x7d\x7d"
  let template :=
    match cfg.urlTagsTemplate with
    | some custom => if PyText.strip custom = "" then defaultTemplate else custom
    | none => defaultTemplate
  ensureAdIdUrlTag template

-- ------------------------------------------------------------
-- Graph bodies
-- ------------------------------------------------------------

def createdObjectStatus : String := "PAUSED"

/-- `body[key] = value`. -/
def assign (key : String) (value : Json) : Obj → Obj
  | [] => [(key, value)]
  | (k, v) :: rest => if k = key then (key, value) :: rest else (k, v) :: assign key value rest

def texts (items : List String) : Json := .arr (items.map .str)

def int (n : Int) : Json := .num n 0

def campaignBody (cfg : CampaignConfig) (name : String) : Obj :=
  [("name", .str name), ("objective", .str cfg.objective), ("status", .str createdObjectStatus),
    ("special_ad_categories", texts cfg.specialAdCategories)] ++
  match cfg.budget.level with
  | .campaign =>
    [("daily_budget", int cfg.budget.dailyMinorUnits),
      ("bid_strategy", .str cfg.budget.bidStrategy)]
  | .adset => []

/-- With the expanded audience the upper bound of the age is forced to 65. -/
def targetingBody (t : Targeting) : Obj :=
  [("geo_locations", .obj
      [("countries", texts t.geoCountries), ("location_types", texts t.locationTypes)]),
    ("age_min", int t.ageMin),
    ("age_max", int (if t.advantageAudience then 65 else t.ageMax)),
    ("age_range", .arr [int t.ageMin, int t.ageMax]),
    ("targeting_automation", .obj <|
      [("advantage_audience", int (if t.advantageAudience then 1 else 0))] ++
      if t.advantageAudience then
        [("individual_setting", .obj [("age", int 1), ("gender", int 1)])]
      else [])] ++
  (if t.genders.isEmpty then [] else [("genders", .arr (t.genders.map fun g => int g.metaId))]) ++
  (if t.brandSafetyRelaxed then
    [("brand_safety_content_filter_levels", texts ["FACEBOOK_RELAXED", "AN_RELAXED"])]
   else []) ++
  (if t.advantageAudience then
    [("targeting_optimization", .str t.targetingOptimization)] else []) ++
  (if t.placements.isEmpty then []
   else [("publisher_platforms", texts (t.placements.map Placement.text))])

def bidAmountField (budget : Budget) : Obj :=
  match budget.bidMinorUnits with
  | some bid => [("bid_amount", int bid)]
  | none => []

def adsetBody (utcOffset : String → String → String) (cfg : CampaignConfig) (name : String) : Obj :=
  [("name", .str name), ("billing_event", .str "IMPRESSIONS"),
    ("optimization_goal", .str cfg.optimizationGoal), ("destination_type", .str "WEBSITE"),
    ("promoted_object", .obj
      [("pixel_id", .str cfg.account.pixelId), ("custom_event_type", .str cfg.customEventType),
        ("smart_pse_enabled", .bool false)]),
    ("attribution_spec", .arr cfg.attribution.spec),
      ("targeting", .obj (targetingBody cfg.targeting)),
    ("start_time", .str (cfg.startTime utcOffset)), ("status", .str createdObjectStatus)] ++
  (match cfg.budget.level with
    | .adset =>
      [("daily_budget", int cfg.budget.dailyMinorUnits),
        ("bid_strategy", .str cfg.budget.bidStrategy)]
    | .campaign => []) ++
  bidAmountField cfg.budget

def callToAction (cfg : CampaignConfig) : Json :=
  .obj [("type", .str cfg.cta), ("value", .obj [("link", .str cfg.destinationLink)])]

/-- A text of the ad under its key; the empty one is not sent. -/
def textField (key value : String) : Obj :=
  if value = "" then [] else [(key, .str value)]

def adTextFields (text : AdText) (messageKey headlineKey descriptionKey : String) : Obj :=
  match text.mode with
  | .none => []
  | .full =>
    textField messageKey text.message ++ textField headlineKey text.headline ++
      textField descriptionKey text.description

def linkData (cfg : CampaignConfig) (imageHash : String) : Obj :=
  [("link", .str cfg.destinationLink), ("call_to_action", callToAction cfg),
    ("image_hash", .str imageHash)] ++
  textField "caption" cfg.displayLink ++ adTextFields cfg.adText "message" "name" "description"

def videoData (cfg : CampaignConfig) (videoId thumbUrl : String) : Obj :=
  [("video_id", .str videoId), ("call_to_action", callToAction cfg)] ++
  textField "image_url" thumbUrl ++ adTextFields cfg.adText "message" "title" "link_description"

def creativeBody (cfg : CampaignConfig) (name urlTags : String) (media : String × Obj) : Obj :=
  [("name", .str name),
    ("object_story_spec", .obj
      [("page_id", .str cfg.account.pageId), (media.1, .obj media.2)]),
    ("url_tags", .str urlTags),
    ("degrees_of_freedom_spec", .obj [("creative_features_spec", .obj
      [("text_optimizations", .obj [("enroll_status", .str cfg.textOptimizations)])])])]

def imageCreativeBody (cfg : CampaignConfig) (name imageHash urlTags : String) : Obj :=
  creativeBody cfg name urlTags ("link_data", linkData cfg imageHash)

def videoCreativeBody (cfg : CampaignConfig) (name videoId thumbUrl urlTags : String) : Obj :=
  creativeBody cfg name urlTags ("video_data", videoData cfg videoId thumbUrl)

def adBody (name adsetId creativeId : String) : Obj :=
  [("name", .str name), ("adset_id", .str adsetId),
    ("creative", .obj [("creative_id", .str creativeId)]), ("status", .str createdObjectStatus)]

-- ------------------------------------------------------------
-- The plan
-- ------------------------------------------------------------

structure AdSpec where
  code : String
  urlTags : String
  status : String
  deriving DecidableEq, Repr

structure AdsetSpec where
  name : String
  body : Obj
  status : String
  ads : List AdSpec
  deriving Repr

structure BlockSpec where
  key : String
  name : String
  body : Obj
  status : String
  adsets : List AdsetSpec
  deriving Repr

def adSpec (cfg : CampaignConfig) (code : String) : AdSpec :=
  { code, urlTags := urlTagsOf cfg code, status := createdObjectStatus }

def buildBlock (utcOffset : String → String → String) (cfg : CampaignConfig) (block : CampaignBlock)
    (codeStart : Nat) : Except String BlockSpec := do
  let layout ← buildCodeLayout cfg.offerCode block.conceptRefs.length block.adsets.length
    cfg.creativePrefix codeStart
  let name := renderName block.name cfg.byerTag cfg.offerCode cfg.dateLabel
  .ok
    { key := block.key
      name
      body := campaignBody cfg name
      status := createdObjectStatus
      adsets := (block.adsets.zip layout).map fun (template, codes) =>
        let name := renderName template cfg.byerTag cfg.offerCode cfg.dateLabel
        { name, body := adsetBody utcOffset cfg name, status := createdObjectStatus
          ads := codes.map (adSpec cfg) } }

def buildBlocks (utcOffset : String → String → String) (cfg : CampaignConfig) :
    Nat → List CampaignBlock → Except String (List BlockSpec)
  | _, [] => .ok []
  | start, block :: rest =>
    if block.conceptRefs.length < 1 then
      .error ("campaign block '" ++ block.key ++ "' has no concept_refs")
    else do
      let spec ← buildBlock utcOffset cfg block start
      let specs ← buildBlocks utcOffset cfg
        (start + blockCodeSpan block.conceptRefs.length block.adsets.length) rest
      .ok (spec :: specs)

def buildCampaignSpec (utcOffset : String → String → String) (cfg : CampaignConfig) :
    Except String (List BlockSpec) :=
  buildBlocks utcOffset cfg cfg.codeStart cfg.campaigns

-- ------------------------------------------------------------
-- Concepts
-- ------------------------------------------------------------

inductive MediaKind
  | image
  | video
  deriving DecidableEq, Repr

def MediaKind.text : MediaKind → String
  | .image => "image"
  | .video => "video"

def videoExts : List String := [".mp4", ".mov", ".m4v", ".webm", ".avi", ".mkv"]

/-- `Path(ref).name`. -/
def fileName (ref : String) : List Char :=
  ((ref.toList.splitOn '/').filter fun part => !part.isEmpty && part != ['.']).getLastD []

/-- `Path.suffix`: from the last dot on, unless it stands at an end of the name. -/
def suffixOf (name : List Char) : List Char :=
  let extension := (name.reverse.takeWhile (· != '.')).reverse
  if extension.isEmpty || name.length ≤ extension.length + 1 then []
  else '.' :: extension

def conceptKind (ref : String) : MediaKind :=
  if videoExts.contains (PyText.lower (String.ofList (suffixOf (fileName ref)))) then .video
  else .image

/-- One concept of a block, as the worker finds it in the media store. -/
structure ConceptInput where
  conceptId : String
  kind : MediaKind
  deriving DecidableEq, Repr

def stemOf (name : List Char) : List Char :=
  name.take (name.length - (suffixOf name).length)

/-- The concept of a reference; the place in the block tells repeated ones apart. -/
def conceptOf (key : String) (index : Nat) (ref : String) : ConceptInput :=
  { conceptId := key ++ ":" ++ toString index ++ ":" ++ String.ofList (stemOf (fileName ref))
    kind := conceptKind ref }

def blockConcepts (block : CampaignBlock) : List ConceptInput :=
  block.conceptRefs.zipIdx.map fun (ref, index) => conceptOf block.key index ref

def resolveConceptsFromConfig (cfg : CampaignConfig) : List (String × List ConceptInput) :=
  Dict.ofPairs (cfg.campaigns.map fun block => (block.key, blockConcepts block))

structure UniquifiedAd where
  conceptId : String
  copyIndex : Nat
  code : String
  kind : MediaKind
  deriving DecidableEq, Repr

def conceptVariants (layout : List (List String)) (concept : ConceptInput) (index : Nat) :
    List UniquifiedAd :=
  layout.zipIdx.filterMap fun (codes, copy) => codes[index]?.map fun code =>
    { conceptId := concept.conceptId, copyIndex := copy, code, kind := concept.kind }

/-- The ads, ad set by ad set. The variants are kept by the id of the concept,
so that the last one of an id takes the place of the others. -/
def buildUniquificationPlan (cfg : CampaignConfig) (concepts : List ConceptInput)
    (copies codeStart : Nat) : Except String (List (List UniquifiedAd)) :=
  if copies < 1 then .error ("copies должно быть >= 1, получено " ++ toString copies)
  else if concepts.isEmpty then .error "нужен хотя бы один концепт"
  else do
    let layout ← buildCodeLayout cfg.offerCode concepts.length copies cfg.creativePrefix codeStart
    let variants := Dict.ofPairs (concepts.zipIdx.map fun (concept, index) =>
      (concept.conceptId, conceptVariants layout concept index))
    .ok ((List.range copies).map fun copy => concepts.filterMap fun concept =>
      (variants.lookup concept.conceptId).bind (·[copy]?))

-- ------------------------------------------------------------
-- Slices
-- ------------------------------------------------------------

/-- One configuration for each campaign. The validators take a slice of a valid
configuration as it is. -/
def campaignPlanSlices (cfg : CampaignConfig) : Except String (List CampaignConfig) :=
  if (cfg.campaigns.map CampaignBlock.key).Nodup then
    .ok (cfg.campaigns.map fun block => { cfg with campaigns := [block] })
  else .error "ключи кампаний плана должны быть уникальными"

def sampleConfig : CampaignConfig :=
  { account :=
      { actId := "100", pageId := "7", pixelId := "8", timezoneName := "UTC", currency := "USD"
        currencyExponent := 2, accountContextObservedAt := "2026-01-01T00:00:00Z" }
    offerCode := "OF"
    objective := "OUTCOME_SALES"
    optimizationGoal := "OFFSITE_CONVERSIONS"
    customEventType := "PURCHASE"
    specialAdCategories := ["NONE"]
    destinationLink := "https://example.com"
    urlTagsTemplate := none
    cta := "LEARN_MORE"
    displayLink := ""
    textOptimizations := "OPT_OUT"
    startDate := "2026-01-02"
    creoRoot := "creo"
    budget :=
      { level := .campaign, currency := "USD", dailyMinorUnits := 1000
        bidStrategy := "LOWEST_COST_WITHOUT_CAP", bidMinorUnits := none }
    targeting :=
      { countries := ["US"], ageMin := 18, ageMax := 65, advantageAudience := true, genders := []
        placements := [] }
    attribution := { clickThroughDays := 7, viewThroughDays := 1 }
    adText := { mode := .none }
    campaigns := [{ key := "c1", name := "main", adsets := ["a1"], conceptRefs := ["1.jpeg"] }] }

end StopBot.Campaigns
