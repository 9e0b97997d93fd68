import StopBot.Scan.AmRows

/-!
# Scanned rows and their completeness

A merged row is joined with the metadata of its ad. A required metric that is
missing, or any value that is not a plain number, is an issue of the row; an
action that Meta leaves out is a zero. A row with an issue, or without its
place in the catalogue, is reported as incomplete.
-/

namespace StopBot.Scan

open Lib

-- ------------------------------------------------------------
-- Numbers
-- ------------------------------------------------------------

def protoInt32Max : Nat := 2147483647

/-- The number a trimmed numeral writes. -/
def countOf (v : String) : Nat :=
  Nat.ofDigitChars 10 (JsText.trim v).toList 0

def isAmNum (v : String) : Bool :=
  JsText.isDecimal (JsText.trim v)

def isAmCount (v : String) : Bool :=
  JsText.isNumeral (JsText.trim v) && decide (countOf v ≤ protoInt32Max)

def amNum (v : Option String) : Option String :=
  v.bind fun v => if isAmNum v then some (JsText.trim v) else none

/-- Zero stands for whatever is not a count. -/
def amInt (v : Option String) : Int :=
  match v with
  | some v => if isAmCount v then countOf v else 0
  | none => 0

def amMoney (v : Option String) : String :=
  (amNum v).getD "0"

-- ------------------------------------------------------------
-- Issues
-- ------------------------------------------------------------

def requiredMetric (valid : String → Bool) (field : String) : Option String → List String
  | none => [field ++ ":missing"]
  | some v => if valid v then [] else [field ++ ":invalid"]

def optionalMetric (valid : String → Bool) (field : String) : Option String → List String
  | none => []
  | some v => if valid v then [] else [field ++ ":invalid"]

def leadType : String := "lead"
def registrationType : String := "omni_complete_registration"
def lpvType : String := "landing_page_view"
def omniLpvType : String := "omni_landing_page_view"

def lpvKey (actions : Record String) : String :=
  if (actions.get? omniLpvType).isSome then omniLpvType else lpvType

/-- The checks of a row, in the order they are made. -/
def metricChecks (am : AmRow) (lpvK : String) : List (List String) :=
  [requiredMetric isAmNum "spend" (am.atomic.get? "spend"),
    requiredMetric isAmCount "reach" (am.atomic.get? "reach"),
    requiredMetric isAmCount "impressions" (am.atomic.get? "impressions"),
    requiredMetric isAmCount "clicks" (am.atomic.get? "clicks"),
    optionalMetric isAmNum "cpc" (am.atomic.get? "cpc"),
    optionalMetric isAmNum "ctr" (am.atomic.get? "ctr"),
    optionalMetric isAmNum "cpm" (am.atomic.get? "cpm"),
    optionalMetric isAmNum "frequency" (am.atomic.get? "frequency"),
    optionalMetric isAmNum "outbound_ctr" am.outboundCtr,
    optionalMetric isAmNum "cost_per_landing_page_view" (am.costPerAction.get? lpvK),
    optionalMetric isAmNum "cost_per_result" am.costPerResult,
    optionalMetric isAmNum "cost_per_lead" (am.costPerAction.get? leadType),
    optionalMetric isAmNum "cost_per_registration" (am.costPerAction.get? registrationType),
    optionalMetric isAmCount "outbound_clicks" am.outboundClicks,
    optionalMetric isAmCount "landing_page_views" (am.actions.get? lpvK),
    optionalMetric isAmCount "leads" (am.actions.get? leadType),
    optionalMetric isAmCount "registrations" (am.actions.get? registrationType),
    optionalMetric isAmCount "deposits" am.results]

def metricIssues (am : AmRow) (lpvK : String) : List String :=
  (metricChecks am lpvK).flatten

-- ------------------------------------------------------------
-- Join
-- ------------------------------------------------------------

structure AmAdMeta where
  adName : Option String := none
  adsetName : Option String := none
  campaignName : Option String := none
  campaignId : Option String := none
  adsetId : Option String := none
  effectiveStatus : Option String := none
  moderationReason : Option String := none
  budget : Option String := none
  creativeThumbUrl : Option String := none
  creativeImageUrl : Option String := none
  pixelId : Option String := none
  dailyBudget : Option String := none
  lifetimeBudget : Option String := none
  budgetRemaining : Option String := none
  learningStage : Option String := none
  deriving Repr

structure ScannedAdRow where
  fbAdId : String
  campaignId : String
  adsetId : String
  campaignName : String
  adsetName : String
  adName : String
  deliveryStatus : String
  moderationReason : Option String
  spend : String
  budget : String
  reach : Int
  impressions : Int
  clicks : Int
  cpc : Option String
  ctr : Option String
  outboundClicks : Int
  outboundCtr : Option String
  landingPageViews : Int
  costPerLandingPageView : Option String
  costPerResult : Option String
  cpm : Option String
  frequency : Option String
  leads : Int
  costPerLead : Option String
  registrations : Int
  costPerRegistration : Option String
  deposits : Int
  resolvedOfferCode : Option String
  creativeThumbUrl : String
  creativeImageUrl : String
  adsetPixelId : String
  adsetDailyBudget : String
  adsetLifetimeBudget : String
  adsetBudgetRemaining : String
  adsetLearningStage : String
  metricIssues : List String
  deriving Repr

def mapEffectiveStatus (status : Option String) : String :=
  let s := JsText.toUpperCase (JsText.trim (status.getD ""))
  if s = "" then "UNKNOWN" else s

def buildScannedRow (am : AmRow) (info : AmAdMeta) : ScannedAdRow :=
  let lpvK := lpvKey am.actions
  { fbAdId := am.adId
    campaignId := info.campaignId.getD ""
    adsetId := info.adsetId.getD ""
    campaignName := info.campaignName.getD ""
    adsetName := info.adsetName.getD ""
    adName := info.adName.getD ""
    deliveryStatus := mapEffectiveStatus info.effectiveStatus
    moderationReason := info.moderationReason
    spend := amMoney (am.atomic.get? "spend")
    budget := info.budget.getD ""
    reach := amInt (am.atomic.get? "reach")
    impressions := amInt (am.atomic.get? "impressions")
    clicks := amInt (am.atomic.get? "clicks")
    cpc := amNum (am.atomic.get? "cpc")
    ctr := amNum (am.atomic.get? "ctr")
    outboundClicks := amInt am.outboundClicks
    outboundCtr := amNum am.outboundCtr
    landingPageViews := amInt (am.actions.get? lpvK)
    costPerLandingPageView := amNum (am.costPerAction.get? lpvK)
    costPerResult := amNum am.costPerResult
    cpm := amNum (am.atomic.get? "cpm")
    frequency := amNum (am.atomic.get? "frequency")
    leads := amInt (am.actions.get? leadType)
    costPerLead := amNum (am.costPerAction.get? leadType)
    registrations := amInt (am.actions.get? registrationType)
    costPerRegistration := amNum (am.costPerAction.get? registrationType)
    deposits := amInt am.results
    resolvedOfferCode := none
    creativeThumbUrl := info.creativeThumbUrl.getD ""
    creativeImageUrl := info.creativeImageUrl.getD ""
    adsetPixelId := info.pixelId.getD ""
    adsetDailyBudget := info.dailyBudget.getD ""
    adsetLifetimeBudget := info.lifetimeBudget.getD ""
    adsetBudgetRemaining := info.budgetRemaining.getD ""
    adsetLearningStage := info.learningStage.getD ""
    metricIssues := metricIssues am lpvK }

def buildScannedRows (merged : Record AmRow) (adMeta : String → Option AmAdMeta) :
    List ScannedAdRow :=
  merged.entries.map fun (adId, am) => buildScannedRow am ((adMeta adId).getD {})

-- ------------------------------------------------------------
-- Completeness
-- ------------------------------------------------------------

def hasRequiredText (value : String) : Bool :=
  JsText.trim value != ""

def hasRequiredDeliveryStatus (value : String) : Bool :=
  hasRequiredText value && JsText.toUpperCase (JsText.trim value) != "UNKNOWN"

def hasValidRequiredMoney (value : String) : Bool :=
  JsText.isDecimal (JsText.trim value)

def hasValidRequiredCount (value : Int) : Bool :=
  decide (0 ≤ value ∧ value ≤ 2147483647)

def hasCompleteMetricProvenance (row : ScannedAdRow) : Bool :=
  row.metricIssues.isEmpty && hasValidRequiredMoney row.spend && hasValidRequiredCount row.reach &&
    hasValidRequiredCount row.impressions && hasValidRequiredCount row.clicks

def partialRowMarker (row : ScannedAdRow) (index : Nat) : String :=
  let adId := JsText.trim row.fbAdId
  if adId = "" then "missing_fb_ad_id:row_" ++ toString (index + 1) else adId

def isComplete (row : ScannedAdRow) : Bool :=
  JsText.isNumeral row.fbAdId && JsText.isNumeral row.campaignId && JsText.isNumeral row.adsetId &&
    hasRequiredText row.campaignName && hasRequiredText row.adsetName &&
      hasRequiredText row.adName &&
    hasRequiredDeliveryStatus row.deliveryStatus && hasCompleteMetricProvenance row

def findIncompleteScanRowIds (rows : List ScannedAdRow) : List String :=
  (rows.zipIdx.filterMap fun (row, index) =>
    if isComplete row then none else some (partialRowMarker row index)).eraseDups

-- ------------------------------------------------------------
-- What a complete row says
-- ------------------------------------------------------------

theorem requiredMetric_eq_nil {valid : String → Bool} {field : String} {v : Option String} :
    requiredMetric valid field v = [] ↔ ∃ s, v = some s ∧ valid s = true := by
  cases v <;> simp [requiredMetric]

theorem optionalMetric_eq_nil {valid : String → Bool} {field : String} {v : Option String} :
    optionalMetric valid field v = [] ↔ ∀ s, v = some s → valid s = true := by
  cases v <;> simp [optionalMetric]

theorem valid_of_no_issues {am : AmRow} {lpvK : String} (h : metricIssues am lpvK = []) :
    ((∃ v, am.atomic.get? "spend" = some v ∧ isAmNum v = true) ∧
      ∀ field ∈ ["reach", "impressions", "clicks"],
        ∃ v, am.atomic.get? field = some v ∧ isAmCount v = true) ∧
    (∀ type ∈ [leadType, registrationType], ∀ v,
      am.actions.get? type = some v → isAmCount v = true) ∧
    ∀ v, am.results = some v → isAmCount v = true := by
  have hcheck : ∀ {i : Nat} {issues : List String},
      (metricChecks am lpvK)[i]? = some issues → issues = [] := fun hi =>
    List.flatten_eq_nil_iff.mp h _ (List.mem_of_getElem? hi)
  have hspend := requiredMetric_eq_nil.mp (hcheck (i := 0) rfl)
  have hreach := requiredMetric_eq_nil.mp (hcheck (i := 1) rfl)
  have himpressions := requiredMetric_eq_nil.mp (hcheck (i := 2) rfl)
  have hclicks := requiredMetric_eq_nil.mp (hcheck (i := 3) rfl)
  have hlead := optionalMetric_eq_nil.mp (hcheck (i := 15) rfl)
  have hregistration := optionalMetric_eq_nil.mp (hcheck (i := 16) rfl)
  have hresults := optionalMetric_eq_nil.mp (hcheck (i := 17) rfl)
  refine ⟨⟨hspend, ?_⟩, ?_, hresults⟩
  · simp only [List.forall_mem_cons, List.not_mem_nil, false_imp_iff, implies_true, and_true]
    exact ⟨hreach, himpressions, hclicks⟩
  · simp only [List.forall_mem_cons, List.not_mem_nil, false_imp_iff, implies_true, and_true]
    exact ⟨hlead, hregistration⟩

theorem amInt_eq_zero {v : Option String} (hvalid : ∀ s, v = some s → isAmCount s = true)
    (h : amInt v = 0) : ∀ s, v = some s → isAmCount s = true ∧ countOf s = 0 := by
  rintro s rfl
  have hs := hvalid s rfl
  refine ⟨hs, ?_⟩
  simpa [amInt, hs] using h

def scanRows (responses : List (Option (List AmBlock))) : List AmRow :=
  responses.flatMap parseAmTabular

/-- The value of an action type in the last map of the ad that has any entry. -/
def deliveredAction (rows : List AmRow) (type : String) : Option String :=
  (lastOf (fun r => populated r.actions) rows).bind fun actions => actions.get? type

theorem get?_populated (map : Record String) (type : String) :
    (populated map).bind (fun map => map.get? type) = map.get? type := by
  unfold populated
  split
  · rename_i h
    rw [List.isEmpty_iff] at h
    simp [Record.get?, h]
  · rfl

section Complete

variable {rows : List AmRow} {id : String} {m : AmRow}

theorem merged_action (hm : (mergeAmRows rows).get? id = some m) (type : String) :
    m.actions.get? type = deliveredAction (rowsOf rows id) type := by
  have hactions := merged_field (f := fun r => populated r.actions) hm fun prev r =>
    populated_orPopulated r.actions prev.actions
  rw [deliveredAction, ← hactions, get?_populated]

theorem merged_atomic (hm : (mergeAmRows rows).get? id = some m) (column : String) :
    m.atomic.get? column = lastOf (fun r => r.atomic.get? column) (rowsOf rows id) :=
  merged_field (f := fun r => r.atomic.get? column) hm fun prev r =>
    Record.get?_spread prev.atomic r.atomic column

theorem mem_findIncompleteScanRowIds {scanned : List ScannedAdRow} {index : Nat}
    {row : ScannedAdRow} (hrow : scanned[index]? = some row) (h : isComplete row = false) :
    partialRowMarker row index ∈ findIncompleteScanRowIds scanned := by
  unfold findIncompleteScanRowIds
  rw [List.mem_eraseDups, List.mem_filterMap]
  exact ⟨(row, index), List.mem_zipIdx_iff_getElem?.mpr hrow, by simp [h]⟩

theorem exists_index_scanned (hm : (mergeAmRows rows).get? id = some m)
    (adMeta : String → Option AmAdMeta) :
    ∃ index : Nat, (buildScannedRows (mergeAmRows rows) adMeta)[index]? =
      some (buildScannedRow m ((adMeta id).getD {})) :=
  List.mem_iff_getElem?.mp
    (List.mem_map.mpr ⟨(id, m), Record.mem_entries_of_get? hm, rfl⟩)

theorem incomplete_of_issue {info : AmAdMeta} (h : (buildScannedRow m info).metricIssues ≠ []) :
    isComplete (buildScannedRow m info) = false := by
  have hissues : (buildScannedRow m info).metricIssues.isEmpty = false := by
    rw [← Bool.not_eq_true, List.isEmpty_iff]
    exact h
  simp only [isComplete, hasCompleteMetricProvenance, hissues, Bool.false_and, Bool.and_false]

end Complete

-- ------------------------------------------------------------
-- What was delivered
-- ------------------------------------------------------------

def rawRows (responses : List (Option (List AmBlock))) (id : String) :
    List (AmHeaders × AmValues) :=
  responses.flatMap fun data => (data.getD []).flatMap fun block =>
    (block.rows.filter fun row =>
      slot row.dimensionValues (block.headers.dimensions.findIdx? (· == "ad_id")) == some id).map
        fun row => (block.headers, row)

/-- The slot of the `actions` column in the default window, else of the first `actions` column. -/
def actionsSlot (raw : AmHeaders × AmValues) : Option AmActionValue :=
  slot raw.2.actionValues (pickDefaultIndex raw.1.actionColumns "actions")

def resultsSlot (raw : AmHeaders × AmValues) : Option AmResultValue :=
  slot raw.2.resultValues (pickDefaultIndex raw.1.resultColumns "results")

/-- Some answer has a column of this name with the value in the slot of the ad. -/
def Delivered (responses : List (Option (List AmBlock))) (id field v : String) : Prop :=
  ∃ raw ∈ rawRows responses id, ∃ i col, raw.1.atomicColumns[i]? = some (some col) ∧
    col.name = some field ∧ clean (slot raw.2.atomicValues (some i)) = some v

def IsZero (v : Option String) : Prop :=
  ∃ s, v = some s ∧ isAmCount s = true ∧ countOf s = 0

def slotItems (av : AmActionValue) : List (Option String × Option String) :=
  (av.types.getD []).zip (av.values.getD [])

/-- The type is not in the slot, has no value there but a placeholder, or has a zero. -/
def ZeroIn (av : AmActionValue) (type : String) : Prop :=
  (∀ item ∈ slotItems av, item.1 = some type → clean item.2 = none) ∨
    ∃ item ∈ slotItems av, item.1 = some type ∧ IsZero (clean item.2)

/-- If the actions of the ad came in any answer, one of them has a zero of the type. -/
def ZeroDelivered (responses : List (Option (List AmBlock))) (id type : String) : Prop :=
  (∃ raw ∈ rawRows responses id, (actionsSlot raw).isSome = true) →
    ∃ raw ∈ rawRows responses id, ∃ av, actionsSlot raw = some av ∧ ZeroIn av type

def ZeroResultDelivered (responses : List (Option (List AmBlock))) (id : String) : Prop :=
  (∃ raw ∈ rawRows responses id, (resultsSlot raw).isSome = true) →
    ∃ raw ∈ rawRows responses id, ∃ rv, resultsSlot raw = some rv ∧
      (clean rv.value = none ∨ IsZero (clean rv.value))

theorem get?_assignValue (out : Record String) (name value : Option String) (key : String) :
    (assignValue out name value).get? key =
      (if name = some key ∧ key ≠ "" ∧ key ≠ "__proto__" then value else none).or
        (out.get? key) := by
  cases name with
  | none => simp [assignValue]
  | some name =>
    cases value with
    | none => simp [assignValue]
    | some v =>
      by_cases hempty : name = ""
      · subst hempty
        rw [if_neg fun h => h.2.1 (Option.some.inj h.1).symm]
        simp [assignValue]
      · simp only [assignValue, if_neg hempty, Record.get?_assign]
        by_cases hkey : key = name
        · subst hkey
          by_cases hproto : key = "__proto__" <;> simp [hproto, hempty]
        · simp [hkey, Ne.symm hkey]

theorem get?_atomicMap {cols : List (Option AmColumn)} {values : List (Option String)}
    {field v : String} (h : (atomicMap cols values).get? field = some v) :
    ∃ i col, cols[i]? = some (some col) ∧ col.name = some field ∧
      clean (slot values (some i)) = some v := by
  have h := (Record.get?_foldl (fun out (item : Option AmColumn × Nat) =>
    get?_assignValue out (item.1.bind AmColumn.name) (clean (slot values (some item.2))) field)
    cols.zipIdx Record.empty).symm.trans h
  rw [Record.get?_empty, Option.or_none] at h
  obtain ⟨⟨col, i⟩, hmem, hgives⟩ := List.exists_of_findSome?_eq_some h
  split at hgives
  · rename_i hfield
    obtain ⟨c, rfl, hname⟩ := Option.bind_eq_some_iff.mp hfield.1
    exact ⟨i, c, List.mem_zipIdx_iff_getElem?.mp (List.mem_reverse.mp hmem), hname, hgives⟩
  · cases hgives

theorem get?_actionMap (av : AmActionValue) {type : String} (hempty : type ≠ "")
    (hproto : type ≠ "__proto__") :
    (actionMap (some av)).get? type =
      (slotItems av).reverse.findSome? fun item =>
      if item.1 = some type then clean item.2 else none := by
  have hstep : ∀ (out : Record String) (item : Option String × Option String),
      (assignValue out item.1 (clean item.2)).get? type =
        (if item.1 = some type then clean item.2 else none).or (out.get? type) := by
    intro out item
    rw [get?_assignValue]
    simp only [ne_eq, hempty, hproto, not_false_eq_true, and_true]
  unfold actionMap slotItems
  cases htypes : av.types with
  | none => simp [htypes]
  | some types =>
    cases hvalues : av.values with
    | none => simp [htypes, hvalues]
    | some values =>
      simp only [Option.bind_some, htypes, hvalues, Option.getD_some]
      refine (Record.get?_foldl hstep (types.zip values) Record.empty).trans ?_
      rw [Record.get?_empty, Option.or_none]

theorem zeroIn_of_get? {av : AmActionValue} {type : String} (hempty : type ≠ "")
    (hproto : type ≠ "__proto__")
    (h : ∀ v, (actionMap (some av)).get? type = some v → isAmCount v = true ∧ countOf v = 0) :
    ZeroIn av type := by
  rw [get?_actionMap av hempty hproto] at h
  cases hlast : (slotItems av).reverse.findSome? fun item =>
      if item.1 = some type then clean item.2 else none with
  | none =>
    rw [List.findSome?_eq_none_iff] at hlast
    refine .inl fun item hitem htype => ?_
    simpa [htype] using hlast item (List.mem_reverse.mpr hitem)
  | some v =>
    obtain ⟨item, hitem, hgives⟩ := List.exists_of_findSome?_eq_some hlast
    split at hgives
    · rename_i htype
      exact .inr ⟨item, List.mem_reverse.mp hitem, htype, v, hgives, h v hlast⟩
    · cases hgives

structure Parses (raw : AmHeaders × AmValues) (r : AmRow) : Prop where
  atomic : r.atomic = atomicMap raw.1.atomicColumns raw.2.atomicValues
  actions : r.actions = actionMap (actionsSlot raw)
  results : r.results = clean ((resultsSlot raw).bind AmResultValue.value)

section Raw

variable {responses : List (Option (List AmBlock))} {id : String} {raw : AmHeaders × AmValues}
  {r : AmRow}

theorem parseRow_spec {headers : AmHeaders} {adIdx : Nat} {row : AmValues}
    (h : parseRow headers adIdx row = some r) :
    slot row.dimensionValues (some adIdx) = some r.adId ∧ JsText.toLowerCase r.adId ∉ nullish ∧
      Parses (headers, row) r := by
  unfold parseRow at h
  split at h
  · cases h
  · rename_i adId hid
    split at h
    · cases h
    · rename_i hnull
      cases h
      exact ⟨hid, hnull, rfl, rfl, rfl⟩

theorem parsed_of_row (h : r ∈ rowsOf (scanRows responses) id) :
    JsText.toLowerCase id ∉ nullish ∧ ∃ raw ∈ rawRows responses id, Parses raw r := by
  obtain ⟨hmem, hid⟩ := List.mem_filter.mp h
  obtain rfl : r.adId = id := by simpa using hid
  obtain ⟨data, hdata, hparsed⟩ := List.mem_flatMap.mp hmem
  obtain ⟨block, hblock, hrow⟩ := List.mem_flatMap.mp hparsed
  unfold parseBlock at hrow
  split at hrow
  · cases hrow
  · rename_i adIdx hidx
    obtain ⟨row, hrowmem, hparse⟩ := List.mem_filterMap.mp hrow
    obtain ⟨hslot, hnull, hparses⟩ := parseRow_spec hparse
    refine ⟨hnull, (block.headers, row), List.mem_flatMap.mpr ⟨data, hdata, ?_⟩, hparses⟩
    refine List.mem_flatMap.mpr ⟨block, hblock, List.mem_map.mpr ⟨row, ?_, rfl⟩⟩
    exact List.mem_filter.mpr ⟨hrowmem, by rw [hidx, hslot]; simp⟩

theorem row_of_raw (hnull : JsText.toLowerCase id ∉ nullish) (h : raw ∈ rawRows responses id) :
    ∃ r ∈ rowsOf (scanRows responses) id, Parses raw r := by
  obtain ⟨data, hdata, h⟩ := List.mem_flatMap.mp h
  obtain ⟨block, hblock, h⟩ := List.mem_flatMap.mp h
  obtain ⟨row, hrow, rfl⟩ := List.mem_map.mp h
  obtain ⟨hrowmem, hslot⟩ := List.mem_filter.mp hrow
  rw [beq_iff_eq] at hslot
  cases hidx : block.headers.dimensions.findIdx? (· == "ad_id") with
  | none =>
    rw [hidx] at hslot
    cases hslot
  | some adIdx =>
    rw [hidx] at hslot
    obtain ⟨r, hparse⟩ : ∃ r, parseRow block.headers adIdx row = some r := by
      simp [parseRow, hslot, hnull]
    obtain ⟨hid, -, hparses⟩ := parseRow_spec hparse
    rw [hslot, Option.some.injEq] at hid
    refine ⟨r, List.mem_filter.mpr ⟨?_, by simp [hid]⟩, hparses⟩
    refine List.mem_flatMap.mpr ⟨data, hdata, List.mem_flatMap.mpr ⟨block, hblock, ?_⟩⟩
    simp only [parseBlock, hidx]
    exact List.mem_filterMap.mpr ⟨row, hrowmem, hparse⟩

theorem lastOf_mem {α : Type} {f : AmRow → Option α} {rows : List AmRow} {v : α}
    (h : lastOf f rows = some v) : ∃ r ∈ rows, f r = some v := by
  obtain ⟨r, hr, hv⟩ := List.exists_of_findSome?_eq_some h
  exact ⟨r, List.mem_reverse.mp hr, hv⟩

theorem delivered_of_row (hr : r ∈ rowsOf (scanRows responses) id) {field v : String}
    (hv : r.atomic.get? field = some v) : Delivered responses id field v := by
  obtain ⟨-, raw, hraw, hparses⟩ := parsed_of_row hr
  rw [hparses.atomic] at hv
  exact ⟨raw, hraw, get?_atomicMap hv⟩

/-- The actions that count, or else any that came, have a zero of a type they are read to lack. -/
theorem zeroDelivered {type : String} (hempty : type ≠ "") (hproto : type ≠ "__proto__")
    (hnull : JsText.toLowerCase id ∉ nullish)
    (h : ∀ v, deliveredAction (rowsOf (scanRows responses) id) type = some v →
      isAmCount v = true ∧ countOf v = 0) : ZeroDelivered responses id type := by
  rintro ⟨raw, hraw, hslot⟩
  cases hlast : lastOf (fun r => populated r.actions) (rowsOf (scanRows responses) id) with
  | none =>
    obtain ⟨r, hr, hparses⟩ := row_of_raw hnull hraw
    obtain ⟨av, hav⟩ := Option.isSome_iff_exists.mp hslot
    refine ⟨raw, hraw, av, hav, zeroIn_of_get? hempty hproto ?_⟩
    rw [lastOf, List.findSome?_eq_none_iff] at hlast
    have hnone := hlast r (List.mem_reverse.mpr hr)
    rw [hparses.actions, hav] at hnone
    rw [← get?_populated, hnone]
    rintro v ⟨⟩
  | some actions =>
    obtain ⟨r, hr, hactions⟩ := lastOf_mem hlast
    obtain ⟨-, raw, hraw, hparses⟩ := parsed_of_row hr
    have hget : ∀ v, r.actions.get? type = some v → isAmCount v = true ∧ countOf v = 0 := by
      rintro v hv
      refine h v ?_
      rw [deliveredAction, hlast, ← hactions, get?_populated, hv]
    cases hav : actionsSlot raw with
    | none =>
      rw [hparses.actions, hav] at hactions
      cases hactions
    | some av =>
      rw [hparses.actions, hav] at hget
      exact ⟨raw, hraw, av, hav, zeroIn_of_get? hempty hproto hget⟩

theorem zeroResultDelivered (hnull : JsText.toLowerCase id ∉ nullish)
    (h : ∀ v, lastOf AmRow.results (rowsOf (scanRows responses) id) = some v →
      isAmCount v = true ∧ countOf v = 0) : ZeroResultDelivered responses id := by
  rintro ⟨raw, hraw, hslot⟩
  cases hlast : lastOf AmRow.results (rowsOf (scanRows responses) id) with
  | none =>
    obtain ⟨r, hr, hparses⟩ := row_of_raw hnull hraw
    obtain ⟨rv, hrv⟩ := Option.isSome_iff_exists.mp hslot
    rw [lastOf, List.findSome?_eq_none_iff] at hlast
    have hnone := hlast r (List.mem_reverse.mpr hr)
    rw [hparses.results, hrv] at hnone
    exact ⟨raw, hraw, rv, hrv, .inl hnone⟩
  | some v =>
    obtain ⟨r, hr, hv⟩ := lastOf_mem hlast
    obtain ⟨-, raw, hraw, hparses⟩ := parsed_of_row hr
    rw [hparses.results] at hv
    cases hrv : resultsSlot raw with
    | none =>
      rw [hrv] at hv
      cases hv
    | some rv =>
      rw [hrv] at hv
      exact ⟨raw, hraw, rv, hrv, .inr ⟨v, hv, h v hlast⟩⟩

end Raw

section Merged
variable {responses : List (Option (List AmBlock))} {id : String} {m : AmRow}

/-- What the merged row has in a field is the last value of the field, and some answer had it. -/
theorem merged_delivered (hm : (mergeAmRows (scanRows responses)).get? id = some m)
    {field v : String} (hv : m.atomic.get? field = some v) :
    lastOf (fun r => r.atomic.get? field) (rowsOf (scanRows responses) id) = some v ∧
      Delivered responses id field v := by
  have hrows : lastOf (fun r => r.atomic.get? field) (rowsOf (scanRows responses) id) = some v := by
    rw [← merged_atomic hm, hv]
  obtain ⟨r, hr, hr'⟩ := lastOf_mem hrows
  exact ⟨hrows, delivered_of_row hr hr'⟩

theorem merged_zero (hm : (mergeAmRows (scanRows responses)).get? id = some m)
    (hnull : JsText.toLowerCase id ∉ nullish) {type : String}
    (htype : type ∈ [leadType, registrationType])
    (hvalid : ∀ v, m.actions.get? type = some v → isAmCount v = true)
    (hzero : amInt (m.actions.get? type) = 0) :
    (∀ v, deliveredAction (rowsOf (scanRows responses) id) type = some v →
        isAmCount v = true ∧ countOf v = 0) ∧ ZeroDelivered responses id type := by
  have hall : ∀ v, deliveredAction (rowsOf (scanRows responses) id) type = some v →
      isAmCount v = true ∧ countOf v = 0 := by
    rw [← merged_action hm]
    exact amInt_eq_zero hvalid hzero
  refine ⟨hall, zeroDelivered ?_ ?_ hnull hall⟩
  all_goals
    rcases List.mem_cons.mp htype with rfl | htype
    · decide
    · obtain rfl := List.mem_singleton.mp htype
      decide

end Merged

/-- A scanned row without an issue shows required metrics that some answer delivered. A zero is
the count, or the lack of one, in the last actions of the ad that have any, and a zero that some
answer delivered if any delivered the column. An ad whose answers all lack a required metric is
reported. -/
theorem complete_row_delivered (responses : List (Option (List AmBlock)))
    (adMeta : String → Option AmAdMeta) {id : String} {m : AmRow}
    (hm : (mergeAmRows (scanRows responses)).get? id = some m) :
    let rows := rowsOf (scanRows responses) id
    let row := buildScannedRow m ((adMeta id).getD {})
    (row.metricIssues = [] →
      (∃ v, lastOf (fun r => r.atomic.get? "spend") rows = some v ∧
        Delivered responses id "spend" v ∧
        isAmNum v = true ∧ row.spend = JsText.trim v) ∧
      (∀ metric ∈ [("reach", row.reach), ("impressions", row.impressions), ("clicks", row.clicks)],
        ∃ v, lastOf (fun r => r.atomic.get? metric.1) rows = some v ∧
          Delivered responses id metric.1 v ∧ isAmCount v = true ∧ metric.2 = countOf v) ∧
      (∀ count ∈ [(leadType, row.leads), (registrationType, row.registrations)], count.2 = 0 →
        (∀ v, deliveredAction rows count.1 = some v → isAmCount v = true ∧ countOf v = 0) ∧
          ZeroDelivered responses id count.1) ∧
      (row.deposits = 0 →
        (∀ v, lastOf AmRow.results rows = some v → isAmCount v = true ∧ countOf v = 0) ∧
          ZeroResultDelivered responses id)) ∧
    ((∃ field ∈ ["spend", "reach", "impressions", "clicks"], ∀ v,
      ¬ Delivered responses id field v) →
      ∃ index : Nat, (buildScannedRows (mergeAmRows (scanRows responses)) adMeta)[index]? =
        some row ∧
        partialRowMarker row index ∈
          findIncompleteScanRowIds
            (buildScannedRows (mergeAmRows (scanRows responses)) adMeta)) := by
  intro rows row
  constructor
  · intro hissues
    have hresults : m.results = lastOf AmRow.results rows := merged_field hm fun prev r => rfl
    obtain ⟨⟨⟨spend, hspend, hnum⟩, hcounts⟩, hactions, hdeposits⟩ := valid_of_no_issues hissues
    have hnull : JsText.toLowerCase id ∉ nullish := by
      obtain ⟨r, hr, -⟩ := lastOf_mem (merged_delivered hm hspend).1
      exact (parsed_of_row hr).1
    have hcount : ∀ field ∈ ["reach", "impressions", "clicks"], ∃ v,
        lastOf (fun r => r.atomic.get? field) rows = some v ∧ Delivered responses id field v ∧
          isAmCount v = true ∧ amInt (m.atomic.get? field) = countOf v := by
      rintro field hfield
      obtain ⟨v, hv, hvalid⟩ := hcounts field hfield
      obtain ⟨hlast, hdelivered⟩ := merged_delivered hm hv
      exact ⟨v, hlast, hdelivered, hvalid, by simp [hv, amInt, hvalid]⟩
    have hzero : ∀ type ∈ [leadType, registrationType], amInt (m.actions.get? type) = 0 →
        (∀ v, deliveredAction rows type = some v → isAmCount v = true ∧ countOf v = 0) ∧
          ZeroDelivered responses id type :=
      fun type htype => merged_zero hm hnull htype (hactions type htype)
    obtain ⟨hlast, hdelivered⟩ := merged_delivered hm hspend
    refine ⟨⟨spend, hlast, hdelivered, hnum, ?_⟩, ?_, ?_, fun hzero => ?_⟩
    · simp [row, buildScannedRow, amMoney, amNum, hspend, hnum]
    · simp only [List.forall_mem_cons, List.not_mem_nil, false_imp_iff, implies_true, and_true]
      exact ⟨hcount "reach" (by decide), hcount "impressions" (by decide),
        hcount "clicks" (by decide)⟩
    · simp only [List.forall_mem_cons, List.not_mem_nil, false_imp_iff, implies_true, and_true]
      exact ⟨hzero leadType (by simp), hzero registrationType (by simp)⟩
    · have hall : ∀ v, lastOf AmRow.results rows = some v → isAmCount v = true ∧ countOf v = 0 := by
        rw [← hresults]
        exact amInt_eq_zero hdeposits hzero
      exact ⟨hall, zeroResultDelivered hnull hall⟩
  · rintro ⟨field, hfield, hmissing⟩
    obtain ⟨index, hindex⟩ := exists_index_scanned hm adMeta
    refine ⟨index, hindex, mem_findIncompleteScanRowIds hindex
      (incomplete_of_issue fun hissues => ?_)⟩
    obtain ⟨⟨⟨spend, hspend, -⟩, hcounts⟩, -⟩ := valid_of_no_issues hissues
    rcases List.mem_cons.mp hfield with rfl | hfield
    · exact hmissing spend (merged_delivered hm hspend).2
    · obtain ⟨v, hv, -⟩ := hcounts field hfield
      exact hmissing v (merged_delivered hm hv).2

-- ------------------------------------------------------------
-- Confirmed zeros
-- ------------------------------------------------------------

def defaultIndex (cols : List (Option AmColumn)) (name : String) : Option Nat :=
  cols.findIdx? fun col => (col.bind AmColumn.name) == some name &&
    (col.bind AmColumn.attributionWindow) == some "default"

/-- Some answer has the default actions slot of the ad, and the type is not in it or is zero. -/
def ConfirmedZero (responses : List (Option (List AmBlock))) (id type : String) : Prop :=
  ∃ raw ∈ rawRows responses id, ∃ av,
    slot raw.2.actionValues (defaultIndex raw.1.actionColumns "actions") = some av ∧
      (some type ∉ av.types.getD [] ∨
        ∃ item ∈ (av.types.getD []).zip (av.values.getD []), item.1 = some type ∧ IsZero item.2)

def ConfirmedNoResults (responses : List (Option (List AmBlock))) (id : String) : Prop :=
  ∃ raw ∈ rawRows responses id, ∃ rv,
    slot raw.2.resultValues (defaultIndex raw.1.resultColumns "results") = some rv ∧ IsZero rv.value

def Undelivered (responses : List (Option (List AmBlock))) (id : String) : Prop :=
  (∀ raw ∈ rawRows responses id,
    slot raw.2.actionValues (defaultIndex raw.1.actionColumns "actions") = none) ∨
  ∀ raw ∈ rawRows responses id,
    slot raw.2.resultValues (defaultIndex raw.1.resultColumns "results") = none

def FailClosed (responses : List (Option (List AmBlock)))
    (adMeta : String → Option AmAdMeta) : Prop :=
  ∀ id m, (mergeAmRows (scanRows responses)).get? id = some m →
    ((buildScannedRow m ((adMeta id).getD {})).metricIssues = [] →
      ((buildScannedRow m ((adMeta id).getD {})).leads = 0 → ConfirmedZero responses id leadType) ∧
      ((buildScannedRow m ((adMeta id).getD {})).registrations = 0 →
        ConfirmedZero responses id registrationType) ∧
      ((buildScannedRow m ((adMeta id).getD {})).deposits = 0 → ConfirmedNoResults responses id)) ∧
    (Undelivered responses id → ∃ index : Nat,
      (buildScannedRows (mergeAmRows (scanRows responses)) adMeta)[index]? =
          some (buildScannedRow m ((adMeta id).getD {})) ∧
        partialRowMarker (buildScannedRow m ((adMeta id).getD {})) index ∈
          findIncompleteScanRowIds (buildScannedRows (mergeAmRows (scanRows responses)) adMeta))

/-- An answer with the required metrics of one ad and no column of actions or results. -/
def atomicOnly : List (Option (List AmBlock)) :=
  [some [⟨{ dimensions := ["ad_id"],
            atomicColumns := ["spend", "reach", "impressions", "clicks"].map fun name =>
              some { name := some name } },
    [{ dimensionValues := [some "7"],
       atomicValues := [some "12.34", some "900", some "1000", some "50"] }]⟩]]

def namedAd : AmAdMeta where
  adName := some "Creative 1"
  adsetName := some "KE broad"
  campaignName := some "MV | CR2 | KE"
  campaignId := some "2"
  adsetId := some "3"
  effectiveStatus := some "ACTIVE"

theorem complete_row_delivered_atomic :
    ∃ m, (mergeAmRows (scanRows atomicOnly)).get? "7" = some m ∧
      (buildScannedRow m namedAd).metricIssues = [] ∧ ∃ v, Delivered atomicOnly "7" "spend" v ∧
        (buildScannedRow m namedAd).spend = JsText.trim v := by
  refine ⟨_, rfl, by decide, ?_⟩
  obtain ⟨⟨v, -, hdelivered, -, hspend⟩, -⟩ :=
    (complete_row_delivered atomicOnly (fun _ => some namedAd)
      (show (mergeAmRows (scanRows atomicOnly)).get? "7" = some _ from rfl)).1 (by decide)
  exact ⟨v, hdelivered, hspend⟩

def withActions (window : String) (types values : List (Option String)) : Option (List AmBlock) :=
  some [⟨{ dimensions := ["ad_id"],
           atomicColumns := ["spend", "reach", "impressions", "clicks"].map fun name =>
             some { name := some name },
           actionColumns := [some { name := some "actions", attributionWindow := some window }],
           resultColumns := [some { name := some "results", attributionWindow := some "default" }]
             },
    [{ dimensionValues := [some "7"],
       atomicValues := [some "12.34", some "900", some "1000", some "50"],
       actionValues := [some ⟨some types, some values⟩],
       resultValues := [some ⟨some "1"⟩] }]⟩]

theorem not_confirmed {responses : List (Option (List AmBlock))} (value : String)
    (h : ∀ raw ∈ rawRows responses "7",
      slot raw.2.actionValues (defaultIndex raw.1.actionColumns "actions") = none ∨
      slot raw.2.actionValues (defaultIndex raw.1.actionColumns "actions") =
        some ⟨some [some leadType], some [some value]⟩)
    (hvalue : ¬ IsZero (some value)) : ¬ ConfirmedZero responses "7" leadType := by
  rintro ⟨raw, hraw, av, hav, hzero⟩
  obtain hnone | hsome := h raw hraw
  · rw [hnone] at hav
    cases hav
  · rw [hsome] at hav
    cases hav
    rcases hzero with habsent | ⟨item, hitem, -, hitemzero⟩
    · simp at habsent
    · obtain rfl : item = (some leadType, some value) := by simpa using hitem
      exact hvalue hitemzero

/-- Neither actions nor results were delivered, and the row is complete with zeros; so it is
when the last actions are of another window, or hold a placeholder. -/
theorem fail_open_without_slots :
    ¬ FailClosed atomicOnly (fun _ => some namedAd) ∧
    ¬ FailClosed [withActions "default" [some "lead"] [some "3"],
      withActions "7d_click" [some "landing_page_view"] [some "5"]] (fun _ => some namedAd) ∧
    ¬ FailClosed [withActions "default" [some "lead"] [some "--"]] (fun _ => some namedAd) := by
  refine ⟨?_, ?_, ?_⟩
  · intro h
    obtain ⟨hzeros, -⟩ := h "7" _ rfl
    obtain ⟨raw, hraw, av, hav, -⟩ := (hzeros (by decide)).1 (by decide)
    have hnone : ∀ raw ∈ rawRows atomicOnly "7",
        slot raw.2.actionValues (defaultIndex raw.1.actionColumns "actions") = none := by decide
    rw [hnone raw hraw] at hav
    cases hav
  · intro h
    obtain ⟨hzeros, -⟩ := h "7" _ rfl
    refine not_confirmed "3" (by decide) ?_ ((hzeros (by decide)).1 (by decide))
    rintro ⟨s, ⟨⟩, -, hzero⟩
    exact absurd hzero (by decide)
  · intro h
    obtain ⟨hzeros, -⟩ := h "7" _ rfl
    refine not_confirmed "--" (by decide) ?_ ((hzeros (by decide)).1 (by decide))
    rintro ⟨s, ⟨⟩, hcount, -⟩
    exact absurd hcount (by decide)

end StopBot.Scan
