import StopBot.Lib.JsText
import StopBot.Lib.Record

/-!
# Rows of the Ads Manager metrics channel

`am_tabular` answers in blocks of columns and rows; several answers tell parts
of one ad and are merged by its id. A response is taken as its declared type:
every optional field and every slot of an array may be missing or null, and an
array may be shorter than its columns.
-/

namespace StopBot.Scan

open Lib

-- ------------------------------------------------------------
-- Responses
-- ------------------------------------------------------------

structure AmColumn where
  name : Option String
  attributionWindow : Option String := none
  deriving DecidableEq, Repr

structure AmActionValue where
  types : Option (List (Option String))
  values : Option (List (Option String))
  deriving DecidableEq, Repr

structure AmResultValue where
  value : Option String
  deriving DecidableEq, Repr

structure AmHeaders where
  dimensions : List String
  atomicColumns : List (Option AmColumn) := []
  actionColumns : List (Option AmColumn) := []
  resultColumns : List (Option AmColumn) := []
  deriving DecidableEq, Repr

structure AmValues where
  dimensionValues : List (Option String)
  atomicValues : List (Option String) := []
  actionValues : List (Option AmActionValue) := []
  resultValues : List (Option AmResultValue) := []
  deriving DecidableEq, Repr

structure AmBlock where
  headers : AmHeaders
  rows : List AmValues
  deriving DecidableEq, Repr

structure AmRow where
  adId : String
  objective : Option String
  atomic : Record String
  actions : Record String
  costPerAction : Record String
  outboundClicks : Option String
  outboundCtr : Option String
  results : Option String
  costPerResult : Option String
  deriving Repr

-- ------------------------------------------------------------
-- Parsing
-- ------------------------------------------------------------

def nullish : List String := ["na", "null", "", "--", "-", "—"]

def clean (v : Option String) : Option String :=
  match v with
  | none => none
  | some v =>
    let s := JsText.trim v
    if JsText.toLowerCase s ∈ nullish then none else some s

def pickDefaultIndex (cols : List (Option AmColumn)) (name : String) : Option Nat :=
  let named (col : Option AmColumn) : Bool := (col.bind AmColumn.name) == some name
  let inDefault (col : Option AmColumn) : Bool :=
    (col.bind AmColumn.attributionWindow) == some "default"
  (cols.findIdx? fun col => named col && inDefault col).or (cols.findIdx? named)

/-- The assignment of both loops below: a name that is present and not empty, a value that is. -/
def assignValue (out : Record String) (name value : Option String) : Record String :=
  match name, value with
  | some name, some v => if name = "" then out else out.assign name v
  | _, _ => out

/-- The types with a value; a later one of the same type wins. -/
def actionMap (av : Option AmActionValue) : Record String :=
  match av.bind AmActionValue.types, av.bind AmActionValue.values with
  | some types, some values =>
    (types.zip values).foldl (fun out item => assignValue out item.1 (clean item.2)) Record.empty
  | _, _ => Record.empty

def pickValue (map : Record String) (key : String) : Option String :=
  (map.get? key).or map.firstValue

/-- The slot of a column; none when the column, or its slot, is missing or null. -/
def slot {α : Type} (values : List (Option α)) (index : Option Nat) : Option α :=
  index.bind fun i => (values[i]?).bind id

def atomicMap (cols : List (Option AmColumn)) (values : List (Option String)) : Record String :=
  cols.zipIdx.foldl (fun out item =>
    assignValue out (item.1.bind AmColumn.name) (clean (slot values (some item.2)))) Record.empty

/-- One row; none for a summary, whose ad id is a placeholder. -/
def parseRow (headers : AmHeaders) (adIdx : Nat) (row : AmValues) : Option AmRow :=
  match slot row.dimensionValues (some adIdx) with
  | none => none
  | some adId =>
    if JsText.toLowerCase adId ∈ nullish then none
    else
      let actionSlot (name : String) : Option AmActionValue :=
        slot row.actionValues (pickDefaultIndex headers.actionColumns name)
      let resultSlot (name : String) : Option AmResultValue :=
        slot row.resultValues (pickDefaultIndex headers.resultColumns name)
      some {
        adId := adId
        objective := clean (slot row.dimensionValues
          (headers.dimensions.findIdx? (· == "objective")))
        atomic := atomicMap headers.atomicColumns row.atomicValues
        actions := actionMap (actionSlot "actions")
        costPerAction := actionMap (actionSlot "cost_per_action_type")
        outboundClicks := pickValue (actionMap (actionSlot "outbound_clicks")) "outbound_click"
        outboundCtr := pickValue (actionMap (actionSlot "outbound_clicks_ctr")) "outbound_click"
        results := clean ((resultSlot "results").bind AmResultValue.value)
        costPerResult := clean ((resultSlot "cost_per_result").bind AmResultValue.value) }

/-- The rows of a block; a block without the `ad_id` dimension is a footer. -/
def parseBlock (block : AmBlock) : List AmRow :=
  match block.headers.dimensions.findIdx? (· == "ad_id") with
  | none => []
  | some adIdx => block.rows.filterMap (parseRow block.headers adIdx)

/-- `parseAmTabular`; none stands for a body without a list of blocks. -/
def parseAmTabular (data : Option (List AmBlock)) : List AmRow :=
  (data.getD []).flatMap parseBlock

-- ------------------------------------------------------------
-- Merging
-- ------------------------------------------------------------

def Record.orPopulated (r prev : Record String) : Record String :=
  if r.entries.isEmpty then prev else r

def mergeRow (prev r : AmRow) : AmRow where
  adId := r.adId
  objective := r.objective.or prev.objective
  atomic := prev.atomic.spread r.atomic
  actions := Record.orPopulated r.actions prev.actions
  costPerAction := Record.orPopulated r.costPerAction prev.costPerAction
  outboundClicks := r.outboundClicks.or prev.outboundClicks
  outboundCtr := r.outboundCtr.or prev.outboundCtr
  results := r.results.or prev.results
  costPerResult := r.costPerResult.or prev.costPerResult

def mergeInto (out : Record AmRow) (r : AmRow) : Record AmRow :=
  match out.get? r.adId with
  | none => out.set r.adId r
  | some prev => out.set r.adId (mergeRow prev r)

def mergeAmRows (rows : List AmRow) : Record AmRow :=
  rows.foldl mergeInto Record.empty

def lastOf {α : Type} (f : AmRow → Option α) (rows : List AmRow) : Option α :=
  rows.reverse.findSome? f

def mergeStep : Option AmRow → AmRow → Option AmRow
  | none, r => some r
  | some prev, r => some (mergeRow prev r)

theorem get?_mergeInto (out : Record AmRow) (r : AmRow) (id : String) :
    (mergeInto out r).get? id = if id = r.adId then mergeStep (out.get? id) r else out.get? id := by
  unfold mergeInto mergeStep
  by_cases h : id = r.adId
  · subst h
    cases out.get? r.adId <;> simp
  · cases out.get? r.adId <;> simp [h]

theorem get?_mergeAmRows (rows : List AmRow) (id : String) :
    (mergeAmRows rows).get? id = (rows.filter fun r => r.adId == id).foldl mergeStep none := by
  have hfold : ∀ out : Record AmRow, (rows.foldl mergeInto out).get? id =
      (rows.filter fun r => r.adId == id).foldl mergeStep (out.get? id) := by
    induction rows with
    | nil => intro out; rfl
    | cons r rows ih =>
      intro out
      rw [List.foldl_cons, ih, get?_mergeInto]
      by_cases h : id = r.adId
      · simp [h]
      · simp [h, Ne.symm h]
  exact hfold Record.empty

theorem foldl_mergeStep_bind {α : Type} {f : AmRow → Option α}
    (hf : ∀ prev r, f (mergeRow prev r) = (f r).or (f prev)) (rows : List AmRow) :
    (rows.foldl mergeStep none).bind f = lastOf f rows := by
  have hfold : ∀ acc : Option AmRow,
      (rows.foldl mergeStep acc).bind f = (lastOf f rows).or (acc.bind f) := by
    induction rows with
    | nil => intro acc; simp [lastOf]
    | cons r rows ih =>
      intro acc
      have hstep : (mergeStep acc r).bind f = (f r).or (acc.bind f) := by
        cases acc <;> simp [mergeStep, hf]
      rw [List.foldl_cons, ih, hstep]
      simp [lastOf, List.findSome?_append, Option.or_assoc]
  rw [hfold none]
  simp

def rowsOf (rows : List AmRow) (id : String) : List AmRow :=
  rows.filter fun r => r.adId == id

def populated (map : Record String) : Option (Record String) :=
  if map.entries.isEmpty then none else some map

theorem populated_orPopulated (r prev : Record String) :
    populated (Record.orPopulated r prev) = (populated r).or (populated prev) := by
  unfold Record.orPopulated
  by_cases h : r.entries.isEmpty <;> simp [populated, h]

theorem mergeAmRows_isSome {rows : List AmRow} {id : String} (h : id ∈ rows.map AmRow.adId) :
    ∃ m, (mergeAmRows rows).get? id = some m ∧ m.adId = id := by
  have hne : rowsOf rows id ≠ [] := by
    obtain ⟨r, hr, rfl⟩ := List.mem_map.mp h
    exact List.ne_nil_of_mem (List.mem_filter.mpr ⟨hr, by simp⟩)
  have hsome : ∀ (rest : List AmRow) (acc : AmRow), acc.adId = id → (∀ r ∈ rest, r.adId = id) →
      ∃ m, rest.foldl mergeStep (some acc) = some m ∧ m.adId = id := by
    intro rest
    induction rest with
    | nil => exact fun acc hacc _ => ⟨acc, rfl, hacc⟩
    | cons r rest ih =>
      intro acc _ hrest
      exact ih (mergeRow acc r) (hrest r List.mem_cons_self) fun x hx =>
        hrest x (List.mem_cons_of_mem _ hx)
  have hid : ∀ r ∈ rowsOf rows id, r.adId = id := fun r hr => by
    simpa using (List.mem_filter.mp hr).2
  rw [get?_mergeAmRows]
  change ∃ m, (rowsOf rows id).foldl mergeStep none = some m ∧ m.adId = id
  cases hrows : rowsOf rows id with
  | nil => exact absurd hrows hne
  | cons r rest =>
    rw [hrows] at hid
    exact hsome rest r (hid r List.mem_cons_self) fun x hx => hid x (List.mem_cons_of_mem _ hx)

theorem merged_field {α : Type} {f : AmRow → Option α} {rows : List AmRow} {id : String} {m : AmRow}
    (hm : (mergeAmRows rows).get? id = some m)
    (hf : ∀ prev r, f (mergeRow prev r) = (f r).or (f prev)) :
    f m = lastOf f (rowsOf rows id) := by
  rw [← foldl_mergeStep_bind hf, rowsOf, ← get?_mergeAmRows, hm, Option.bind_some]

/-- Every ad has one merged row. Each atomic column and each scalar is what the last row of the ad
that has it says; the actions, and the costs per action, are the last map of the ad that has any. -/
theorem mergeAmRows_keeps_last (rows : List AmRow) :
    ∀ id ∈ rows.map AmRow.adId, ∃ m, (mergeAmRows rows).get? id = some m ∧ m.adId = id ∧
      (mergeAmRows rows).keys.count id = 1 ∧
      (∀ column, m.atomic.get? column =
        lastOf (fun r => r.atomic.get? column) (rowsOf rows id)) ∧
      populated m.actions = lastOf (fun r => populated r.actions) (rowsOf rows id) ∧
      populated m.costPerAction = lastOf (fun r => populated r.costPerAction) (rowsOf rows id) ∧
      m.outboundClicks = lastOf AmRow.outboundClicks (rowsOf rows id) ∧
      m.outboundCtr = lastOf AmRow.outboundCtr (rowsOf rows id) ∧
      m.results = lastOf AmRow.results (rowsOf rows id) ∧
      m.costPerResult = lastOf AmRow.costPerResult (rowsOf rows id) := by
  intro id hid
  obtain ⟨m, hm, hname⟩ := mergeAmRows_isSome hid
  have hkey : id ∈ (mergeAmRows rows).keys := by
    rw [← Record.get?_isSome, hm]
    rfl
  refine ⟨m, hm, hname, List.count_eq_one_of_mem (mergeAmRows rows).nodup hkey, fun column => ?_,
    ?_, ?_, ?_, ?_, ?_, ?_⟩
  · exact merged_field (f := fun r => r.atomic.get? column) hm fun prev r =>
      Record.get?_spread prev.atomic r.atomic column
  · exact merged_field (f := fun r => populated r.actions) hm fun prev r =>
      populated_orPopulated r.actions prev.actions
  · exact merged_field (f := fun r => populated r.costPerAction) hm fun prev r =>
      populated_orPopulated r.costPerAction prev.costPerAction
  · exact merged_field hm fun prev r => rfl
  · exact merged_field hm fun prev r => rfl
  · exact merged_field hm fun prev r => rfl
  · exact merged_field hm fun prev r => rfl

def actionsRow (actions : Record String) : AmRow where
  adId := "7"
  objective := none
  atomic := Record.empty
  actions := actions
  costPerAction := Record.empty
  outboundClicks := none
  outboundCtr := none
  results := none
  costPerResult := none

theorem mergeAmRows_keeps_last_results :
    ∃ m, (mergeAmRows [{ actionsRow (Record.empty.set "lead" "3") with results := some "2" },
        actionsRow Record.empty]).get? "7" = some m ∧
      m.results = some "2" ∧ populated m.actions = some (Record.empty.set "lead" "3") := by
  obtain ⟨m, hm, -, -, -, hactions, -, -, -, hresults, -⟩ := mergeAmRows_keeps_last
    [{ actionsRow (Record.empty.set "lead" "3") with results := some "2" }, actionsRow Record.empty]
    "7" (by decide)
  exact ⟨m, hm, hresults, hactions⟩

/-- Every value that some row has is kept, action type by action type. -/
def LosesNothing (rows : List AmRow) : Prop :=
  ∀ id ∈ rows.map AmRow.adId, ∃ m, (mergeAmRows rows).get? id = some m ∧
    (mergeAmRows rows).keys.count id = 1 ∧
    (∀ column v, lastOf (fun r => r.atomic.get? column) (rowsOf rows id) = some v →
      m.atomic.get? column = some v) ∧
    (∀ type v, lastOf (fun r => r.actions.get? type) (rowsOf rows id) = some v →
      m.actions.get? type = some v) ∧
    (∀ type v, lastOf (fun r => r.costPerAction.get? type) (rowsOf rows id) = some v →
      m.costPerAction.get? type = some v) ∧
    (∀ v, lastOf AmRow.outboundClicks (rowsOf rows id) = some v → m.outboundClicks = some v) ∧
    (∀ v, lastOf AmRow.outboundCtr (rowsOf rows id) = some v → m.outboundCtr = some v) ∧
    (∀ v, lastOf AmRow.results (rowsOf rows id) = some v → m.results = some v) ∧
    ∀ v, lastOf AmRow.costPerResult (rowsOf rows id) = some v → m.costPerResult = some v

/-- Leads in one answer and page views in the next: the leads are gone. -/
theorem mergeAmRows_drops_leads :
    ¬ LosesNothing [actionsRow (Record.empty.set "lead" "3"),
      actionsRow (Record.empty.set "landing_page_view" "5")] := by
  intro h
  obtain ⟨m, hm, -, -, hactions, -⟩ := h "7" (by decide)
  have hmerged : m.actions = Record.empty.set "landing_page_view" "5" := by
    rw [← Option.some.inj hm]
    rfl
  have hlead := hactions "lead" "3" rfl
  rw [hmerged] at hlead
  cases hlead

end StopBot.Scan
