import StopBot.Lib.Sql
import StopBot.Tasks.Queue

/-!
# Why a task waits for the browser

The readiness part of `_BROWSER_READY_CLAIM_SQL`, and the diagnosis that
`explain_browser_claim_block` makes of it. Both are read at one instant. Keys
leave one row each of the configuration, of the channel and of the maintenance.
-/

namespace StopBot.Browser

open Lib Tasks

-- ------------------------------------------------------------
-- Rows
-- ------------------------------------------------------------

inductive ChannelState
  | ready
  | unavailable
  | incompatible
  | profileMismatch
  | maintenance
  deriving DecidableEq, Repr

def ChannelState.text : ChannelState → String
  | .ready => "ready"
  | .unavailable => "unavailable"
  | .incompatible => "incompatible"
  | .profileMismatch => "profile_mismatch"
  | .maintenance => "maintenance"

structure VisionConfig where
  id : Uuid
  profileId : String
  updatedAt : Int
  deriving DecidableEq, Repr

structure ChannelReadiness where
  visionConfigId : Uuid
  visionConfigUpdatedAt : Int
  expectedProfileId : String
  observedProfileId : Option String
  observedSessionId : Option String
  observedContractVersion : Option Int
  state : ChannelState
  reasonCode : String
  observedAt : Int
  readinessExpiresAt : Option Int
  generation : Int := 1
  deriving DecidableEq, Repr

/-- `ck_browser_channel_readiness_evidence`, of a ready row; a row is stored unless it is false. -/
def ChannelReadiness.evidence (channel : ChannelReadiness) : Sql.Truth :=
  Sql.all [Sql.eq channel.observedContractVersion (some 5),
    Sql.eq channel.observedProfileId (some channel.expectedProfileId),
    Sql.isNotNull channel.observedSessionId,
    Sql.gt (channel.observedSessionId.map fun session => (session.length : Int)) (some 0),
    Sql.isNotNull channel.readinessExpiresAt,
    Sql.gt channel.readinessExpiresAt (some channel.observedAt)]

structure ReadinessDb where
  tasks : List TaskRow
  visionConfig : Option VisionConfig
  channel : Option ChannelReadiness
  /-- `expires_at` of the row `browser_maintenance` of `system_config`. -/
  maintenance : Option (Option Int)

namespace ReadinessDb

/-- `EXISTS` of a maintenance that has not expired. -/
def inMaintenance (db : ReadinessDb) (clk : Clock) : Bool :=
  db.maintenance.any fun expiresAt => Sql.holds (Sql.gt expiresAt (some clk.wall))

-- ------------------------------------------------------------
-- The gate
-- ------------------------------------------------------------

/-- The conditions of the join and of the `WHERE` clause. -/
def gate (db : ReadinessDb) (clk : Clock) (config : VisionConfig) (channel : ChannelReadiness) :
    Sql.Truth :=
  Sql.all [Sql.eq (some channel.visionConfigId) (some config.id),
    Sql.eq (some channel.visionConfigUpdatedAt) (some config.updatedAt),
    Sql.eq (some channel.expectedProfileId) (some config.profileId),
    Sql.eq (some channel.state) (some .ready),
    Sql.eq channel.observedContractVersion (some 5),
    Sql.eq channel.observedProfileId (some config.profileId),
    Sql.isNotNull (Sql.nullIf channel.observedSessionId ""),
    Sql.gt channel.readinessExpiresAt (some clk.wall),
    some (!db.inMaintenance clk)]

/-- The rows of `readiness`: profile, session and generation. -/
def readiness (db : ReadinessDb) (clk : Clock) : Option (String × Option String × Int) :=
  match db.visionConfig, db.channel with
  | some config, some channel =>
    if Sql.holds (db.gate clk config channel) then
      some (config.profileId, channel.observedSessionId, channel.generation)
    else none
  | _, _ => none

-- ------------------------------------------------------------
-- The diagnosis
-- ------------------------------------------------------------

/-- The channel that the `LEFT JOIN` finds for the configuration. -/
def joined (db : ReadinessDb) (config : VisionConfig) : Option ChannelReadiness :=
  db.channel.filter fun channel => channel.visionConfigId == config.id

def waiting (db : ReadinessDb) (clk : Clock) (taskType : TaskType) (lanes : List Lane) : Nat :=
  db.tasks.countP fun task => task.taskType == taskType && task.status.queued &&
    lanes.contains task.lane && task.availableAt ≤ clk.wall

/-- `array_agg(DISTINCT payload->>'run_id')`, in the order of the table. -/
def runIds (db : ReadinessDb) (taskType : TaskType) (lanes : List Lane) : List String :=
  (db.tasks.filterMap fun task =>
    if task.taskType == taskType && task.status.queued && lanes.contains task.lane then
      Obj.text task.payload "run_id"
    else none).eraseDups

end ReadinessDb

structure DiagnosisRow where
  waiting : Nat
  runIds : List String
  expectedProfile : String
  state : Option ChannelState
  reasonCode : Option String
  contract : Option Int
  observedProfile : Option String
  hasSession : Bool
  fresh : Sql.Truth
  maintenance : Bool

def ReadinessDb.diagnosisRow (db : ReadinessDb) (clk : Clock) (taskType : TaskType)
    (lanes : List Lane) : Option DiagnosisRow :=
  db.visionConfig.map fun config =>
    let channel := db.joined config
    { waiting := db.waiting clk taskType lanes
      runIds := db.runIds taskType lanes
      expectedProfile := config.profileId
      state := channel.map (·.state)
      reasonCode := channel.map (·.reasonCode)
      contract := channel.bind (·.observedContractVersion)
      observedProfile := channel.bind (·.observedProfileId)
      hasSession := (Sql.nullIf (channel.bind (·.observedSessionId)) "").isSome
      fresh := Sql.gt (channel.bind (·.readinessExpiresAt)) (some clk.wall)
      maintenance := db.inMaintenance clk }

structure BrowserClaimBlock where
  waiting : Nat
  runIds : List String
  reasonCode : String
  human : String
  deriving DecidableEq, Repr

/-- `value or other`, of texts. -/
def orText (value : Option String) (other : String) : String :=
  match value with
  | some text => if text = "" then other else text
  | none => other

def DiagnosisRow.reason (row : DiagnosisRow) : Option (String × String) :=
  if row.maintenance then some ("browser_maintenance", "канал браузера на обслуживании")
  else
    match row.state with
    | none => some ("readiness_missing", "канал браузера ни разу не подтвердил готовность")
    | some state =>
      if state ≠ .ready then
        some ("state:" ++ state.text, "канал браузера не готов (" ++
          orText row.reasonCode state.text ++ ")")
      else if row.contract.getD 0 ≠ 5 then
        some ("browser_contract_incompatible", "версия контракта браузера не совпадает")
      else if orText row.observedProfile "" ≠ row.expectedProfile then
        some ("vision_profile_mismatch", "живой профиль Vision не тот, что настроен")
      else if !row.hasSession then
        some ("browser_session_missing", "у канала браузера нет конкретной сессии")
      else if !Sql.holds row.fresh then
        some ("readiness_stale", "подтверждение готовности устарело")
      else none

def explainBrowserClaimBlock (db : ReadinessDb) (clk : Clock) (taskType : TaskType)
    (lanes : List Lane) : Option BrowserClaimBlock :=
  if lanes.isEmpty then none
  else do
    let row ← db.diagnosisRow clk taskType lanes
    if row.waiting = 0 then none
    else
      let (reasonCode, human) ← row.reason
      some { waiting := row.waiting
             runIds := row.runIds.filter (· ≠ "")
             reasonCode
             human := "Жду готовности браузера: " ++ human ++ "." }

-- ------------------------------------------------------------
-- Where the two agree
-- ------------------------------------------------------------

/-- A task that only the readiness can keep from being claimed. -/
def ReadinessDb.Eligible (db : ReadinessDb) (clk : Clock) (taskType : TaskType)
    (lanes : List Lane) :
    Prop :=
  ∃ task ∈ db.tasks, claimable clk taskType lanes task = true

def ReadinessDb.Explained (db : ReadinessDb) (clk : Clock) (taskType : TaskType)
    (lanes : List Lane) :
    Prop :=
  explainBrowserClaimBlock db clk taskType lanes = none ↔ (db.readiness clk).isSome = true

structure ReadinessDb.Repeated (db : ReadinessDb) (clk : Clock) (config : VisionConfig)
    (channel : ChannelReadiness) : Prop where
  joined : channel.visionConfigId = config.id
  state : channel.state = .ready
  contract : channel.observedContractVersion = some 5
  profile : channel.observedProfileId.getD "" = config.profileId
  session : Sql.nullIf channel.observedSessionId "" ≠ none
  fresh : Sql.gt channel.readinessExpiresAt (some clk.wall) = some true
  maintenance : db.inMaintenance clk = false

/-- There is a configuration, and a channel that meets the repeated conditions meets the others. -/
structure ReadinessDb.Accounted (db : ReadinessDb) (clk : Clock) : Prop where
  configured : db.visionConfig ≠ none
  current : ∀ config channel, db.visionConfig = some config → db.channel = some channel →
    db.Repeated clk config channel →
    channel.visionConfigUpdatedAt = config.updatedAt ∧
      channel.expectedProfileId = config.profileId ∧
      channel.observedProfileId ≠ none

section
variable {db : ReadinessDb} {clk : Clock} {taskType : TaskType} {lanes : List Lane}

/-- The gate has the conditions that the diagnosis repeats, and three more. -/
theorem gate_iff {config : VisionConfig} {channel : ChannelReadiness} :
    db.gate clk config channel = some true ↔ db.Repeated clk config channel ∧
      channel.visionConfigUpdatedAt = config.updatedAt ∧
      channel.expectedProfileId = config.profileId ∧ channel.observedProfileId ≠ none := by
  simp only [ReadinessDb.gate, Sql.all_eq_true_iff, List.forall_mem_cons, List.not_mem_nil,
    false_implies, implies_true, Sql.eq_eq_true_iff, Option.some.injEq, Option.isSome_some,
    and_true, Sql.isNotNull_eq_true_iff, Bool.not_eq_true']
  constructor
  · rintro ⟨hjoined, hupdated, hexpected, hstate, hcontract, hprofile, hsession, hfresh,
      hmaintenance⟩
    refine ⟨⟨hjoined, hstate, hcontract, by rw [hprofile]; rfl, ?_, hfresh, hmaintenance⟩,
      hupdated, hexpected, by rw [hprofile]; simp⟩
    exact Option.isSome_iff_ne_none.mp hsession
  · rintro ⟨h, hupdated, hexpected, hobserved⟩
    obtain ⟨observed, hobserved⟩ := Option.ne_none_iff_exists'.mp hobserved
    refine ⟨h.joined, hupdated, hexpected, h.state, h.contract, ?_, ?_, h.fresh, h.maintenance⟩
    · have hprofile := h.profile
      rw [hobserved] at hprofile ⊢
      exact congrArg some hprofile
    · exact Option.isSome_iff_ne_none.mpr h.session

theorem ite_some_eq_none {α : Type} {c : Prop} [Decidable c] {a : α} {rest : Option α} :
    (if c then some a else rest) = none ↔ ¬ c ∧ rest = none := by
  by_cases h : c <;> simp [h]

theorem orText_empty (value : Option String) : orText value "" = value.getD "" := by
  cases value with
  | none => rfl
  | some text =>
    by_cases h : text = ""
    · simp [orText, h]
    · simp [orText, h]

theorem reason_eq_none {row : DiagnosisRow} {config : VisionConfig}
    (hconfig : db.visionConfig = some config)
    (hrow : db.diagnosisRow clk taskType lanes = some row) :
    row.reason = none ↔ ∃ channel, db.channel = some channel ∧ db.Repeated clk config channel := by
  simp only [ReadinessDb.diagnosisRow, hconfig, Option.map_some, Option.some.injEq] at hrow
  subst hrow
  cases hmaintenance : db.inMaintenance clk with
  | true =>
    simp only [DiagnosisRow.reason, if_true, reduceCtorEq, false_iff]
    rintro ⟨channel, -, h⟩
    rw [h.maintenance] at hmaintenance
    cases hmaintenance
  | false =>
    cases hjoined : db.joined config with
    | none =>
      simp only [DiagnosisRow.reason, Option.map_none, Bool.false_eq_true, if_false, reduceCtorEq,
        false_iff]
      rintro ⟨channel, hchannel, h⟩
      simp [ReadinessDb.joined, hchannel, h.joined] at hjoined
    | some channel =>
      obtain ⟨hchannel, hid⟩ := Option.filter_eq_some_iff.mp hjoined
      have hid : channel.visionConfigId = config.id := by simpa using hid
      have hrepeated : (∃ other, db.channel = some other ∧ db.Repeated clk config other) ↔
          channel.state = .ready ∧ channel.observedContractVersion = some 5 ∧
            channel.observedProfileId.getD "" = config.profileId ∧
            Sql.nullIf channel.observedSessionId "" ≠ none ∧
            Sql.gt channel.readinessExpiresAt (some clk.wall) = some true := by
        constructor
        · rintro ⟨other, hother, h⟩
          rw [hchannel] at hother
          obtain rfl := Option.some.inj hother
          exact ⟨h.state, h.contract, h.profile, h.session, h.fresh⟩
        · rintro ⟨hstate, hcontract, hprofile, hsession, hfresh⟩
          exact ⟨channel, hchannel, hid, hstate, hcontract, hprofile, hsession, hfresh,
            hmaintenance⟩
      have hcontract : channel.observedContractVersion.getD 0 = 5 ↔
          channel.observedContractVersion = some 5 := by
        cases channel.observedContractVersion <;> simp
      rw [hrepeated, ← hcontract]
      simp only [DiagnosisRow.reason, Option.map_some, Option.bind_some,
        Bool.false_eq_true, if_false,
        orText_empty, ite_some_eq_none, ne_eq, Decidable.not_not, Bool.not_eq_true',
          Bool.not_eq_false,
        Option.isSome_iff_ne_none, Sql.holds_eq_true_iff, and_true]

theorem waiting_pos (h : db.Eligible clk taskType lanes) : db.waiting clk taskType lanes ≠ 0 := by
  obtain ⟨task, hmem, hclaimable⟩ := h
  have hwaits : 0 < db.waiting clk taskType lanes := by
    refine List.countP_pos_iff.mpr ⟨task, hmem, ?_⟩
    simp only [claimable, Bool.and_eq_true] at hclaimable ⊢
    exact hclaimable.1.1
  omega

theorem lanes_ne_nil (h : db.Eligible clk taskType lanes) : lanes.isEmpty = false := by
  obtain ⟨task, -, hclaimable⟩ := h
  simp only [claimable, Bool.and_eq_true] at hclaimable
  cases lanes with
  | nil => simp at hclaimable
  | cons lane rest => rfl

theorem explain_eq_none (h : db.Eligible clk taskType lanes) :
    explainBrowserClaimBlock db clk taskType lanes = none ↔
      ∀ config, db.visionConfig = some config →
        ∃ channel, db.channel = some channel ∧ db.Repeated clk config channel := by
  unfold explainBrowserClaimBlock
  rw [lanes_ne_nil h, if_neg (by decide)]
  cases hconfig : db.visionConfig with
  | none => simp [ReadinessDb.diagnosisRow, hconfig]
  | some config =>
    obtain ⟨row, hrow⟩ : ∃ row, db.diagnosisRow clk taskType lanes = some row := by
      simp [ReadinessDb.diagnosisRow, hconfig]
    have hwaiting : row.waiting ≠ 0 := by
      have hrow' := hrow
      simp only [ReadinessDb.diagnosisRow, hconfig, Option.map_some, Option.some.injEq] at hrow'
      rw [← hrow']
      exact waiting_pos h
    simp only [Option.some.injEq, forall_eq', ← reason_eq_none hconfig hrow]
    cases hreason : row.reason with
    | none => simp [hrow, hwaiting, hreason]
    | some reason => simp [hrow, hwaiting, hreason]

theorem readiness_isSome :
    (db.readiness clk).isSome = true ↔ ∃ config channel, db.visionConfig = some config ∧
      db.channel = some channel ∧ db.gate clk config channel = some true := by
  cases hconfig : db.visionConfig with
  | none => simp [ReadinessDb.readiness, hconfig]
  | some config =>
    cases hchannel : db.channel with
    | none => simp [ReadinessDb.readiness, hconfig, hchannel]
    | some channel =>
      by_cases hgate : db.gate clk config channel = some true
      · simp [ReadinessDb.readiness, hconfig, hchannel, hgate]
      · simp [ReadinessDb.readiness, hconfig, hchannel, hgate]

end

/-- While a task is eligible, its diagnosis agrees with the gate exactly when the state of the
readiness is accounted for. -/
theorem diagnosis_agrees_iff {db : ReadinessDb} {clk : Clock} {taskType : TaskType}
    {lanes : List Lane} (h : db.Eligible clk taskType lanes) :
    db.Explained clk taskType lanes ↔ db.Accounted clk := by
  rw [ReadinessDb.Explained, explain_eq_none h, readiness_isSome]
  cases hconfig : db.visionConfig with
  | none =>
    constructor
    · intro hagrees
      obtain ⟨config, channel, hnone, -⟩ := hagrees.mp fun config hnone => by cases hnone
      cases hnone
    · exact fun haccounted => absurd hconfig haccounted.configured
  | some config =>
    constructor
    · intro hagrees
      refine ⟨by simp [hconfig], fun config' channel hsome hchannel hrepeated => ?_⟩
      rw [hconfig] at hsome
      obtain rfl := Option.some.inj hsome
      obtain ⟨config', channel', hsome', hchannel', hgate⟩ := hagrees.mp fun config' hsome' => by
        obtain rfl := Option.some.inj hsome'
        exact ⟨channel, hchannel, hrepeated⟩
      obtain rfl := Option.some.inj hsome'
      rw [hchannel] at hchannel'
      obtain rfl := Option.some.inj hchannel'
      exact (gate_iff.mp hgate).2
    · intro haccounted
      constructor
      · intro hrepeats
        obtain ⟨channel, hchannel, hrepeated⟩ := hrepeats config rfl
        have hothers := haccounted.current config channel hconfig hchannel hrepeated
        exact ⟨config, channel, rfl, hchannel, gate_iff.mpr ⟨hrepeated, hothers⟩⟩
      · rintro ⟨config', channel, hsome, hchannel, hgate⟩ config'' hsome'
        obtain rfl := Option.some.inj hsome
        obtain rfl := Option.some.inj hsome'
        exact ⟨channel, hchannel, (gate_iff.mp hgate).1⟩

/-- A campaign waits; the channel was ready for the configuration as it was at 100. -/
def waitingCampaign (updatedAt : Int) : ReadinessDb where
  tasks := [{ taskType := .campaignCreate, status := .pending, idempotencyKey := "campaign"
              payload := [], requestedBy := "operator", createdAt := 0, updatedAt :=
                0, lane := .bulk
              availableAt := 0, deadlineAt := none }]
  visionConfig := some { id := 1, profileId := "p1", updatedAt }
  channel := some {
    visionConfigId := 1, visionConfigUpdatedAt := 100, expectedProfileId := "p1"
    observedProfileId := some "p1", observedSessionId :=
      some "s1", observedContractVersion := some 5
    state := .ready, reasonCode := "ready", observedAt := 150, readinessExpiresAt := some 300 }
  maintenance := none

def readingAt (wall : Int) : Clock := { now := wall, wall, host := wall }

theorem diagnosis_agrees_current :
    (waitingCampaign 100).Eligible (readingAt 200) .campaignCreate [.bulk] ∧
      (waitingCampaign 100).Explained (readingAt 200) .campaignCreate [.bulk] := by
  have heligible : (waitingCampaign 100).Eligible (readingAt 200) .campaignCreate [.bulk] :=
    ⟨_, List.mem_singleton_self _, by decide⟩
  refine ⟨heligible, (diagnosis_agrees_iff heligible).mpr ⟨by decide, ?_⟩⟩
  rintro config channel ⟨⟩ ⟨⟩ -
  exact ⟨rfl, rfl, by decide⟩

/-- After the configuration is touched the gate is shut, and nothing is shown; the row of the
channel is one that the table takes. -/
theorem diagnosis_silent_after_update :
    (waitingCampaign 250).Eligible (readingAt 260) .campaignCreate [.bulk] ∧
      (∀ channel, (waitingCampaign 250).channel = some channel → channel.evidence = some true) ∧
      explainBrowserClaimBlock (waitingCampaign 250) (readingAt 260) .campaignCreate
        [.bulk] = none ∧
      ((waitingCampaign 250).readiness (readingAt 260)).isSome = false ∧
      ¬ (waitingCampaign 250).Explained (readingAt 260) .campaignCreate [.bulk] := by
  have hsilent : explainBrowserClaimBlock (waitingCampaign 250) (readingAt 260)
      .campaignCreate [.bulk] =
      none := by decide
  have hshut : ((waitingCampaign 250).readiness (readingAt 260)).isSome = false := by decide
  refine ⟨⟨_, List.mem_singleton_self _, by decide⟩, ?_, hsilent, hshut, fun h => ?_⟩
  · rintro channel ⟨⟩
    decide
  · rw [h.mp hsilent] at hshut
    cases hshut

end StopBot.Browser
