import Mathlib.Data.List.Infix
import StopBot.Graph.Semantics
import StopBot.Browser.Exclusion
import StopBot.Browser.Readiness

/-!
# Publishing the readiness of the channel

`core/meta_api/browser_readiness.py` with the claims that read what it writes.
A probe takes its shared lease, loads the configuration, asks the browser, reads
the clock of the database and publishes, each in a transaction of its own: other
probes, the maintenance, edits of the configuration, rejections of a live check
and claims come in between. The history of what the browser answered is kept
beside the tables, and no statement reads it.
-/

namespace StopBot.Browser

open Lib Tasks
open StopBot.Graph (CaseFolding asciiFolding)

-- ------------------------------------------------------------
-- What a probe sees
-- ------------------------------------------------------------

structure Probe where
  healthy : Bool
  detail : String
  browserContractVersion : Int
  sessionId : String
  visionProfileId : String
  deriving DecidableEq, Repr

structure VisionReadinessIdentity where
  configId : Uuid
  profileId : String
  configUpdatedAt : Int
  deriving DecidableEq, Repr

structure BrowserReadinessObservation where
  state : ChannelState
  reasonCode : String
  observedContractVersion : Option Int
  observedProfileId : Option String
  observedSessionId : Option String
  deriving DecidableEq, Repr

/-- `value.strip() or None`. -/
def strippedOrNone (value : String) : Option String :=
  if PyText.strip value = "" then none else some (PyText.strip value)

/-- The markers of `_safe_probe_reason`, in the order they are tried. -/
def probeReasons : List (String × String) :=
  [("cabinet_login_required", "login_required"), ("login_required", "login_required"),
    ("cabinet_backoff", "cabinet_open_held"), ("cabinet_", "cabinet_unavailable"),
    ("no_ads_manager_page", "no_ads_manager_page"), ("wrong_url", "wrong_url"),
    ("token_not_found", "token_not_found"), ("page_closed", "page_closed"),
    ("circuit_open", "circuit_open"), ("deadline", "probe_timeout"), ("timeout", "probe_timeout")]

def safeProbeReason (f : CaseFolding) (probe : Probe) : String :=
  let detail := f.casefold probe.detail.toList
  match probeReasons.find? fun entry => decide (entry.1.toList <:+: detail) with
  | some entry => entry.2
  | none => "browser_unhealthy"

def classifyBrowserReadiness (f : CaseFolding) (probe : Probe) (expectedProfileId : String) :
    BrowserReadinessObservation :=
  let observedContract := probe.browserContractVersion
  let observedProfile := strippedOrNone probe.visionProfileId
  let observedSession := strippedOrNone probe.sessionId
  let expectedProfile := PyText.strip expectedProfileId
  let unavailableReason := safeProbeReason f probe
  if observedContract = 0 ∧ probe.healthy = false ∧ unavailableReason ≠ "browser_unhealthy" then
    ⟨.unavailable, unavailableReason, none, observedProfile, observedSession⟩
  else if observedContract ≠ 5 then
    ⟨.incompatible, "browser_contract_incompatible",
      if observedContract = 0 then none else some observedContract, observedProfile,
        observedSession⟩
  else
    match observedProfile with
    | none => ⟨.unavailable, unavailableReason, some observedContract, none, observedSession⟩
    | some profile =>
      if expectedProfile = "" ∨ profile ≠ expectedProfile then
        ⟨.profileMismatch, "vision_profile_mismatch", some observedContract, some profile,
          observedSession⟩
      else if observedSession = none then
        ⟨.unavailable, "browser_session_missing", some observedContract, some profile, none⟩
      else if probe.healthy = false then
        ⟨.unavailable, unavailableReason, some observedContract, some profile, observedSession⟩
      else ⟨.ready, "ready", some observedContract, some profile, observedSession⟩

def loadVisionReadinessIdentity (config : Option VisionConfig) : Option VisionReadinessIdentity :=
  config.bind fun c => (strippedOrNone c.profileId).map fun profileId =>
    { configId := c.id, profileId, configUpdatedAt := c.updatedAt }

-- ------------------------------------------------------------
-- Statements on the row of the channel
-- ------------------------------------------------------------

/-- The widths of the columns; a longer text fails the statement. -/
def ChannelReadiness.fits (row : ChannelReadiness) : Bool :=
  (row.observedProfileId.all fun profile => profile.length ≤ 128) &&
    row.observedSessionId.all fun session => session.length ≤ 128

def invalidateBrowserReadiness (wall : Int) (state : ChannelState) (reasonCode : String)
    (row : Option ChannelReadiness) : Option ChannelReadiness :=
  row.map fun r => { r with state, reasonCode, observedAt := wall, readinessExpiresAt := none,
                            generation := r.generation + 1 }

/-- The `UPDATE` of `_invalidate_claimed_browser_readiness`: only the evidence
that the rejected claim was made under is expired. -/
def invalidateClaimedBrowserReadiness (wall generation : Int) (reasonCode : String)
    (row : Option ChannelReadiness) : Option ChannelReadiness :=
  row.map fun r =>
    if r.state = .ready ∧ r.generation = generation then
      { r with state := .unavailable, reasonCode, observedAt := wall, readinessExpiresAt := none,
               generation := r.generation + 1 }
    else r

def excluded (identity : VisionReadinessIdentity) (observation : BrowserReadinessObservation)
    (observedAt ttlSeconds : Int) : ChannelReadiness where
  visionConfigId := identity.configId
  visionConfigUpdatedAt := identity.configUpdatedAt
  expectedProfileId := identity.profileId
  observedProfileId := observation.observedProfileId
  observedSessionId := observation.observedSessionId
  observedContractVersion := observation.observedContractVersion
  state := observation.state
  reasonCode := observation.reasonCode
  observedAt
  readinessExpiresAt := if observation.state = .ready then
    some (observedAt + seconds ttlSeconds) else none

def effective (maintenance : Bool) (observation : BrowserReadinessObservation) :
    BrowserReadinessObservation :=
  if maintenance then
    { observation with state := .maintenance, reasonCode := "browser_maintenance_active" }
  else observation

/-- `persist_browser_readiness`; none when it raises or no row comes back. -/
def persistBrowserReadiness (wall : Int) (config : Option VisionConfig) (maintenance : Bool)
    (identity : VisionReadinessIdentity) (observation : BrowserReadinessObservation)
    (observedAt ttlSeconds : Int) (row : Option ChannelReadiness) : Option ChannelReadiness :=
  if 2 ≤ ttlSeconds ∧ ttlSeconds ≤ 30 then
    let new := excluded identity (effective maintenance observation) observedAt ttlSeconds
    config.bind fun c =>
      if c.id = identity.configId ∧ c.updatedAt = identity.configUpdatedAt ∧
          c.profileId = identity.profileId ∧ (new.state ≠ .ready ∨ maintenance = false) ∧
          (new.state ≠ .ready ∨ wall < observedAt + seconds ttlSeconds) ∧ new.fits = true ∧
          (new.state ≠ .ready ∨ new.evidence ≠ some false) then
        match row with
        | none => some new
        | some r =>
          if r.observedAt < observedAt then
            some { new with generation := r.generation + 1 } else none
      else none
  else none

-- ------------------------------------------------------------
-- The system
-- ------------------------------------------------------------

inductive ProbePhase
  | outside
  | fenced
  | identified (identity : VisionReadinessIdentity)
  | answered (identity : VisionReadinessIdentity) (answer : Option Probe)
  | observed (identity : VisionReadinessIdentity) (observation : BrowserReadinessObservation)
      (observedAt : Int)
  | asserted (identity : VisionReadinessIdentity) (observation : BrowserReadinessObservation)
      (observedAt : Int)
  | invalidating (state : ChannelState) (reasonCode : String)
  | leaving
  deriving DecidableEq, Repr

structure ProbeCall where
  owner : Uuid := 0
  phase : ProbePhase := .outside
  deriving DecidableEq, Repr

/-- An answer of the browser, with what it was asked for and when the clock was read. -/
structure Sighting where
  identity : VisionReadinessIdentity
  probe : Probe
  observedAt : Int
  deriving DecidableEq, Repr

structure Channel where
  site : Site
  visionConfig : Option VisionConfig
  row : Option ChannelReadiness
  calls : Uuid → ProbeCall
  sightings : List Sighting

def Channel.init : Channel :=
  { site := Site.init, visionConfig := none, row := none, calls := fun _ => {}, sightings := [] }

/-- A call is known by the id of its shared lease. `configure` is any writer of
the configuration; `lost` is the renewal task that finds the lease gone, and
`abort` an error or the end of the process. -/
inductive ChannelLabel
  | fence (label : Label)
  | configure (id : Uuid) (profileId : String) (updatedAt : Int)
  | begin (call owner : Uuid)
  | load (call : Uuid) (configured : Bool)
  | answer (call : Uuid) (answer : Option Probe)
  | observe (call : Uuid)
  | assertHeld (call : Uuid)
  | persist (call : Uuid) (ttlSeconds : Int)
  | invalidate (call : Uuid)
  | leave (call : Uuid)
  | lost (call : Uuid)
  | abort (call : Uuid)
  | reject (generation : Int) (reasonCode : String)
  deriving Repr

namespace Channel

def db (s : Channel) : ReadinessDb :=
  { tasks := s.site.queue.entries.map (·.2)
    visionConfig := s.visionConfig
    channel := s.row
    maintenance := s.site.gate.map fun g => some g.expiresAt }

/-- The rows of `readiness` in `_BROWSER_READY_CLAIM_SQL`. -/
def readiness (s : Channel) : Option (String × Option String × Int) :=
  s.db.readiness { now := s.site.wall, wall := s.site.wall, host := s.site.wall }

def flagged (s : Channel) : Label → Label
  | .work (.claim c _ locked) => .work (.claim c s.readiness.isSome locked)
  | label => label

def setPhase (s : Channel) (call : Uuid) (phase : ProbePhase) : Channel :=
  { s with calls := fun c => if c = call then { s.calls c with phase } else s.calls c }

def passes (s : Channel) (elapsed : Nat) : Channel :=
  { s with site := s.site.passes elapsed }

def holdsLease (s : Channel) (call : Uuid) : Bool :=
  s.site.leases.any fun l =>
    l.operationId == call && l.owner == (s.calls call).owner && l.live s.site.wall

/-- The observation of an answer; the call that raised has one of its own. -/
def observation (f : CaseFolding) (identity : VisionReadinessIdentity) :
    Option Probe → BrowserReadinessObservation
  | some probe => classifyBrowserReadiness f probe identity.profileId
  | none => ⟨.unavailable, "readiness_probe_unavailable", none, none, none⟩

def seen (identity : VisionReadinessIdentity) (answer : Option Probe) (observedAt : Int) :
    List Sighting :=
  answer.toList.map fun probe => ⟨identity, probe, observedAt⟩

def act (f : CaseFolding) (s : Channel) (i : Instant) : ChannelLabel → Channel
  | .fence label => { s with site := s.site.act i (s.flagged label) }
  | .configure id profileId updatedAt =>
    { s with visionConfig := some { id := (s.visionConfig.map (·.id)).getD id, profileId,
                                    updatedAt } }
  | .begin call owner =>
    if (s.calls call).phase = .outside then
      let taken := acquireShared s.site.wall s.site.gate call owner "browser_readiness_probe"
        (some "meta_api") 45 s.site.leases
      let s := { s with site := { s.site with leases := taken.2 } }
      match taken.1 with
      | .acquired => { s with calls := fun c => if c = call then ⟨owner, .fenced⟩ else s.calls c }
      | .blocked => s.setPhase call (.invalidating .maintenance "browser_maintenance_active")
      | .duplicateKey => s
    else s
  | .load call configured =>
    if (s.calls call).phase = .fenced then
      match loadVisionReadinessIdentity s.visionConfig with
      | none => s.setPhase call (.invalidating .unavailable "vision_config_unavailable")
      | some identity =>
        if configured then s.setPhase call (.identified identity)
        else s.setPhase call (.invalidating .unavailable "no_configured_cabinet")
    else s
  | .answer call answer =>
    match (s.calls call).phase with
    | .identified identity => s.setPhase call (.answered identity answer)
    | _ => s
  | .observe call =>
    match (s.calls call).phase with
    | .answered identity answer =>
      { s.setPhase call (.observed identity (observation f identity answer) s.site.wall) with
        sightings := seen identity answer s.site.wall ++ s.sightings }
    | _ => s
  | .assertHeld call =>
    match (s.calls call).phase with
    | .observed identity observation observedAt =>
      if s.holdsLease call then s.setPhase call (.asserted identity observation observedAt)
      else s.setPhase call (.invalidating .unavailable "readiness_probe_fence_lost")
    | _ => s
  | .persist call ttlSeconds =>
    match (s.calls call).phase with
    | .asserted identity observation observedAt =>
      { s.setPhase call .leaving with
        row := (persistBrowserReadiness s.site.wall s.visionConfig
          (gated s.site.gate s.site.wall) identity
          observation observedAt ttlSeconds s.row).or s.row }
    | _ => s
  | .invalidate call =>
    match (s.calls call).phase with
    | .invalidating state reasonCode =>
      { s.setPhase call .leaving with
        row := invalidateBrowserReadiness s.site.wall state reasonCode s.row }
    | _ => s
  | .leave call =>
    if (s.calls call).phase = .leaving then
      { s.setPhase call .outside with
        site := { s.site with leases := releaseShared call (s.calls call).owner s.site.leases } }
    else s
  | .lost call =>
    if (s.calls call).phase = .outside then s
    else s.setPhase call (.invalidating .unavailable "readiness_probe_fence_lost")
  | .abort call => s.setPhase call .outside
  | .reject generation reasonCode =>
    { s with row := invalidateClaimedBrowserReadiness s.site.wall generation reasonCode s.row }

def step (f : CaseFolding) (s : Channel) (e : Instant × ChannelLabel) : Channel :=
  (s.passes e.1.elapsed).act f e.1 e.2

def claimed (s : Channel) (e : Instant × ChannelLabel) : Option (Nat × Uuid) :=
  match e.2 with
  | .fence label => s.site.claimed (e.1, (s.passes e.1.elapsed).flagged label)
  | _ => none

end Channel

-- ------------------------------------------------------------
-- What an observation shows
-- ------------------------------------------------------------

/-- The browser was healthy, of the right contract, and in this session of this profile. -/
structure Probe.Shows (probe : Probe) (profileId session : String) : Prop where
  healthy : probe.healthy = true
  contract : probe.browserContractVersion = 5
  profile : strippedOrNone probe.visionProfileId = some profileId
  session : strippedOrNone probe.sessionId = some session

section
variable {f : CaseFolding} {probe : Probe} {expectedProfileId : String}

theorem classify_ready (h : (classifyBrowserReadiness f probe expectedProfileId).state = .ready) :
    ∃ session, probe.Shows (PyText.strip expectedProfileId) session ∧
      classifyBrowserReadiness f probe expectedProfileId =
        ⟨.ready, "ready", some 5, some (PyText.strip expectedProfileId), some session⟩ := by
  simp only [classifyBrowserReadiness] at h ⊢
  split at h
  · cases h
  rename_i hknown
  split at h
  · cases h
  rename_i hcontract
  have hcontract : probe.browserContractVersion = 5 := by simpa using hcontract
  cases hprofile : strippedOrNone probe.visionProfileId with
  | none => simp [hprofile] at h
  | some profile =>
    simp only [hprofile] at h
    split at h
    · cases h
    rename_i hexpected
    simp only [not_or, ne_eq, Decidable.not_not] at hexpected
    obtain ⟨hnonempty, rfl⟩ := hexpected
    split at h
    · cases h
    rename_i hsession
    obtain ⟨session, hsession⟩ := Option.ne_none_iff_exists'.mp hsession
    split at h
    · cases h
    rename_i hhealthy
    have hhealthy : probe.healthy = true := by simpa using hhealthy
    refine ⟨session, ⟨hhealthy, hcontract, hprofile, hsession⟩, ?_⟩
    simp [hcontract, hhealthy, hsession, hnonempty]

end

-- ------------------------------------------------------------
-- What a step does to the row
-- ------------------------------------------------------------

def Sighting.Answers (f : CaseFolding) (g : Sighting) (identity : VisionReadinessIdentity)
    (observation : BrowserReadinessObservation) (observedAt : Int) : Prop :=
  g.identity = identity ∧ g.observedAt = observedAt ∧
    classifyBrowserReadiness f g.probe identity.profileId = observation

/-- What a call carries was seen, if it is ready, and an invalidation never writes a ready state. -/
def ProbePhase.Honest (f : CaseFolding) (sightings : List Sighting) (wall : Int) : ProbePhase → Prop
  | .observed identity observation observedAt | .asserted identity observation observedAt =>
    observedAt ≤ wall ∧
      (observation.state = .ready → ∃ g ∈ sightings, g.Answers f identity observation observedAt)
  | .invalidating state _ => state ≠ .ready
  | .outside | .fenced | .identified _ | .answered _ _ | .leaving => True

inductive RowChange (s : Channel) : Option ChannelReadiness → Prop
  | stay {row : Option ChannelReadiness} (h : row = s.row) : RowChange s row
  | published (call : Uuid) (identity : VisionReadinessIdentity)
      (observation : BrowserReadinessObservation) (observedAt ttlSeconds : Int)
        (new : ChannelReadiness)
      (hphase : (s.calls call).phase = .asserted identity observation observedAt)
      (hnew : persistBrowserReadiness s.site.wall s.visionConfig
        (gated s.site.gate s.site.wall) identity
        observation observedAt ttlSeconds s.row = some new) : RowChange s (some new)
  | expired (r new : ChannelReadiness) (hrow : s.row = some r) (hstate : new.state ≠ .ready)
      (hobserved : new.observedAt = s.site.wall) (hgeneration : new.generation = r.generation + 1) :
      RowChange s (some new)

section
variable {f : CaseFolding} {s : Channel} {i : Instant}

@[simp] theorem setPhase_row (call : Uuid) (phase : ProbePhase) :
    (s.setPhase call phase).row = s.row :=
  rfl

@[simp] theorem setPhase_site (call : Uuid) (phase : ProbePhase) :
    (s.setPhase call phase).site = s.site :=
  rfl

@[simp] theorem setPhase_sightings (call : Uuid) (phase : ProbePhase) :
    (s.setPhase call phase).sightings = s.sightings := rfl

theorem act_row (hcalls : ∀ call, (s.calls call).phase.Honest f s.sightings s.site.wall)
    (label : ChannelLabel) : RowChange s (s.act f i label).row := by
  cases label with
  | persist call ttlSeconds =>
    simp only [Channel.act]
    split
    · rename_i identity observation observedAt hphase
      cases hnew : persistBrowserReadiness s.site.wall s.visionConfig
        (gated s.site.gate s.site.wall)
          identity observation observedAt ttlSeconds s.row with
      | none => exact .stay rfl
      | some new => exact .published call identity observation observedAt ttlSeconds new hphase hnew
    · exact .stay rfl
  | invalidate call =>
    simp only [Channel.act]
    split
    · rename_i state reasonCode hphase
      have hstate := hcalls call
      rw [hphase] at hstate
      cases hrow : s.row with
      | none => simpa [invalidateBrowserReadiness, hrow] using RowChange.stay (s := s) rfl
      | some r => exact .expired r _ hrow hstate rfl rfl
    · exact .stay rfl
  | reject generation reasonCode =>
    cases hrow : s.row with
    | none =>
      simpa [Channel.act, invalidateClaimedBrowserReadiness, hrow] using RowChange.stay (s := s) rfl
    | some r =>
      by_cases hclaimed : r.state = .ready ∧ r.generation = generation
      · obtain ⟨hready, rfl⟩ := hclaimed
        simpa [Channel.act, invalidateClaimedBrowserReadiness, hrow, hready] using
          RowChange.expired r _ hrow (by simp) rfl rfl
      · simpa [Channel.act, invalidateClaimedBrowserReadiness, hrow, hclaimed] using
          RowChange.stay (s := s) rfl
  | begin call owner =>
    simp only [Channel.act]
    split
    · split <;> exact .stay rfl
    · exact .stay rfl
  | load call configured =>
    simp only [Channel.act]
    split
    · split
      · exact .stay rfl
      · split <;> exact .stay rfl
    · exact .stay rfl
  | assertHeld call =>
    simp only [Channel.act]
    split
    · split <;> exact .stay rfl
    · exact .stay rfl
  | answer call answer | observe call | leave call | lost call =>
    simp only [Channel.act]
    split <;> exact .stay rfl
  | fence label => exact .stay rfl
  | configure id profileId updatedAt => exact .stay rfl
  | abort call => exact .stay rfl

-- ------------------------------------------------------------
-- What the row rests on
-- ------------------------------------------------------------

/-- A ready row says what the browser answered, and for how long that may be used. -/
structure Evidence (f : CaseFolding) (g : Sighting) (r : ChannelReadiness) : Prop where
  identity : g.identity = ⟨r.visionConfigId, r.expectedProfileId, r.visionConfigUpdatedAt⟩
  observedAt : g.observedAt = r.observedAt
  observation : classifyBrowserReadiness f g.probe g.identity.profileId =
    ⟨.ready, r.reasonCode, r.observedContractVersion, r.observedProfileId, r.observedSessionId⟩
  expires : ∃ ttlSeconds, ttlSeconds ≤ 30 ∧
    r.readinessExpiresAt = some (g.observedAt + seconds ttlSeconds)

structure Channel.Inv (f : CaseFolding) (s : Channel) : Prop where
  past : ∀ g ∈ s.sightings, g.observedAt ≤ s.site.wall
  rowPast : ∀ r, s.row = some r → r.observedAt ≤ s.site.wall
  calls : ∀ call, (s.calls call).phase.Honest f s.sightings s.site.wall
  row : ∀ r, s.row = some r → r.state = .ready → ∃ g ∈ s.sightings, Evidence f g r

theorem persist_spec {wall : Int} {config : Option VisionConfig} {maintenance : Bool}
    {identity : VisionReadinessIdentity} {observation : BrowserReadinessObservation}
    {observedAt ttlSeconds : Int} {row : Option ChannelReadiness} {new : ChannelReadiness}
    (h : persistBrowserReadiness wall config maintenance identity observation observedAt
      ttlSeconds row =
      some new) :
    ttlSeconds ≤ 30 ∧ (∀ r, row = some r → r.observedAt < observedAt ∧
        new.generation = r.generation + 1) ∧
      ∃ generation, new =
        { excluded identity (effective maintenance observation) observedAt ttlSeconds with
          generation } := by
  unfold persistBrowserReadiness at h
  split at h
  · rename_i httl
    obtain ⟨c, -, h⟩ := Option.bind_eq_some_iff.mp h
    split at h
    · cases row with
      | none =>
        obtain rfl := Option.some.inj h
        exact ⟨httl.2, by simp, _, rfl⟩
      | some r =>
        simp only [Option.ite_none_right_eq_some, Option.some.injEq] at h
        obtain ⟨hnewer, rfl⟩ := h
        exact ⟨httl.2, by simp [hnewer], _, rfl⟩
    · cases h
  · cases h

theorem effective_ready {maintenance : Bool} {observation : BrowserReadinessObservation}
    (h : (effective maintenance observation).state = .ready) :
    effective maintenance observation = observation := by
  cases maintenance with
  | true => simp [effective] at h
  | false => rfl

theorem ProbePhase.Honest.mono {sightings sightings' : List Sighting} {wall wall' : Int}
    {phase : ProbePhase}
    (h : phase.Honest f sightings wall) (hsub : sightings ⊆ sightings') (hle : wall ≤ wall') :
    phase.Honest f sightings' wall' := by
  cases phase with
  | observed identity observation observedAt | asserted identity observation observedAt =>
    refine ⟨Int.le_trans h.1 hle, fun hready => ?_⟩
    obtain ⟨g, hg, hanswers⟩ := h.2 hready
    exact ⟨g, hsub hg, hanswers⟩
  | invalidating state reasonCode => exact h
  | outside | fenced | identified identity | answered identity answer | leaving => trivial

theorem Evidence.published {identity : VisionReadinessIdentity}
    {observation : BrowserReadinessObservation}
    {observedAt ttlSeconds generation : Int} {maintenance : Bool} {g : Sighting}
    (hanswers : g.Answers f identity observation observedAt) (httl : ttlSeconds ≤ 30)
    (hready : (effective maintenance observation).state = .ready) :
    Evidence f g
      { excluded identity (effective maintenance observation) observedAt ttlSeconds with
        generation } := by
  obtain ⟨hidentity, hobserved, hclass⟩ := hanswers
  have heffective := effective_ready hready
  rw [heffective] at hready ⊢
  subst hidentity hobserved
  exact ⟨rfl, rfl, by simp [hclass, excluded, ← hready], ttlSeconds,
    httl, by simp [excluded, hready]⟩

@[simp] theorem act_wall (label : ChannelLabel) : (s.act f i label).site.wall = s.site.wall := by
  cases label with
  | fence label => exact Site.act_wall _
  | begin call owner | load call configured | answer call answer | observe call | assertHeld call
  | persist call ttlSeconds | invalidate call | leave call | lost call =>
    simp only [Channel.act]
    repeat' split
    all_goals rfl
  | configure id profileId updatedAt | abort call | reject generation reasonCode => rfl

/-- An answer is the only thing that is ever added to the history. -/
theorem act_sightings (label : ChannelLabel) : (s.act f i label).sightings = s.sightings ∨
    ∃ call identity probe, (s.calls call).phase = .answered identity (some probe) ∧
      (s.act f i label).sightings = ⟨identity, probe, s.site.wall⟩ :: s.sightings := by
  cases label with
  | observe call =>
    simp only [Channel.act]
    split
    · rename_i identity answer hphase
      cases answer with
      | none => exact .inl rfl
      | some probe => exact .inr ⟨call, identity, probe, hphase, rfl⟩
    · exact .inl rfl
  | begin call owner | load call configured | answer call answer | assertHeld call
  | persist call ttlSeconds | invalidate call | leave call | lost call =>
    simp only [Channel.act]
    repeat' split
    all_goals exact .inl rfl
  | fence label | configure id profileId updatedAt | abort call | reject generation reasonCode =>
    exact .inl rfl

theorem act_sightings_subset (label : ChannelLabel) :
    s.sightings ⊆ (s.act f i label).sightings := by
  obtain hsame | ⟨_, _, _, -, hcons⟩ := act_sightings (f := f) (s := s) (i := i) label
  · simp [hsame]
  · simp [hcons]

theorem setPhase_honest {sightings : List Sighting} {wall : Int} {phase : ProbePhase}
    (h : ∀ c, (s.calls c).phase.Honest f sightings wall) (call : Uuid)
    (hphase : phase.Honest f sightings wall) (c : Uuid) :
    ((s.setPhase call phase).calls c).phase.Honest f sightings wall := by
  by_cases hc : c = call
  · simpa [Channel.setPhase, hc] using hphase
  · simpa [Channel.setPhase, hc] using h c

theorem act_honest (h : ∀ c, (s.calls c).phase.Honest f s.sightings s.site.wall)
    (label : ChannelLabel) (c : Uuid) :
    ((s.act f i label).calls c).phase.Honest f (s.act f i label).sightings s.site.wall := by
  cases label with
  | begin call owner =>
    simp only [Channel.act]
    split
    · split
      · by_cases hc : c = call
        · simp [hc, ProbePhase.Honest]
        · simpa [hc] using h c
      · exact setPhase_honest h call (by simp [ProbePhase.Honest]) c
      · exact h c
    · exact h c
  | load call configured =>
    simp only [Channel.act]
    split
    · split
      · exact setPhase_honest h call (by simp [ProbePhase.Honest]) c
      · split
        · exact setPhase_honest h call (by simp [ProbePhase.Honest]) c
        · exact setPhase_honest h call (by simp [ProbePhase.Honest]) c
    · exact h c
  | answer call answer =>
    simp only [Channel.act]
    split
    · exact setPhase_honest h call (by simp [ProbePhase.Honest]) c
    · exact h c
  | observe call =>
    simp only [Channel.act]
    split
    · rename_i identity answer hphase
      have hgrown := fun c => (h c).mono (List.subset_append_right
        (Channel.seen identity answer s.site.wall) s.sightings) (Int.le_refl _)
      have hobserved : (ProbePhase.observed identity (Channel.observation f identity answer)
          s.site.wall).Honest f (Channel.seen identity answer s.site.wall ++ s.sightings)
            s.site.wall := by
        refine ⟨Int.le_refl _, fun hready => ?_⟩
        cases answer with
        | none => simp [Channel.observation] at hready
        | some probe => exact ⟨⟨identity, probe, s.site.wall⟩, List.mem_cons_self, rfl, rfl, rfl⟩
      exact setPhase_honest hgrown call hobserved c
    · exact h c
  | assertHeld call =>
    simp only [Channel.act]
    split
    · rename_i identity observation observedAt hphase
      split
      · have hobserved := h call
        rw [hphase] at hobserved
        have hasserted : (ProbePhase.asserted identity observation observedAt).Honest f s.sightings
          s.site.wall := hobserved
        exact setPhase_honest h call hasserted c
      · exact setPhase_honest h call (by simp [ProbePhase.Honest]) c
    · exact h c
  | persist call ttlSeconds | invalidate call | leave call =>
    simp only [Channel.act]
    split
    · exact setPhase_honest h call (by simp [ProbePhase.Honest]) c
    · exact h c
  | lost call =>
    simp only [Channel.act]
    split
    · exact h c
    · exact setPhase_honest h call (by simp [ProbePhase.Honest]) c
  | abort call => exact setPhase_honest h call (by simp [ProbePhase.Honest]) c
  | fence label | configure id profileId updatedAt | reject generation reasonCode => exact h c

theorem Channel.Inv.passes (h : s.Inv f) (elapsed : Nat) : (s.passes elapsed).Inv f := by
  have hle : s.site.wall ≤ (s.passes elapsed).site.wall := by simp [Channel.passes, Site.passes]
  exact ⟨fun g hg => Int.le_trans (h.past g hg) hle, fun r hr => Int.le_trans (h.rowPast r hr) hle,
    fun c => (h.calls c).mono (List.Subset.refl _) hle, h.row⟩

theorem Channel.Inv.act (h : s.Inv f) (label : ChannelLabel) : (s.act f i label).Inv f where
  past := by
    intro g hg
    rw [act_wall]
    obtain hsame | ⟨_, _, _, -, hcons⟩ := act_sightings (f := f) (s := s) (i := i) label
    · exact h.past g (hsame ▸ hg)
    · rw [hcons] at hg
      cases List.mem_cons.mp hg with
      | inl hnew => simp [hnew]
      | inr hold => exact h.past g hold
  rowPast := by
    intro r hr
    rw [act_wall]
    have hchange := act_row (i := i) h.calls label
    rw [hr] at hchange
    cases hchange with
    | stay hrow => exact h.rowPast r hrow.symm
    | published call identity observation observedAt ttlSeconds new hphase hnew =>
      obtain ⟨-, -, _, rfl⟩ := persist_spec hnew
      have hhonest := h.calls call
      rw [hphase] at hhonest
      exact hhonest.1
    | expired r' new hrow hstate hobserved hgeneration => exact Int.le_of_eq hobserved
  calls := by
    intro c
    rw [act_wall]
    exact act_honest h.calls label c
  row := by
    intro r hr hready
    have hchange := act_row (i := i) h.calls label
    rw [hr] at hchange
    cases hchange with
    | stay hrow =>
      obtain ⟨g, hg, hevidence⟩ := h.row r hrow.symm hready
      exact ⟨g, act_sightings_subset label hg, hevidence⟩
    | published call identity observation observedAt ttlSeconds new hphase hnew =>
      obtain ⟨httl, -, _, rfl⟩ := persist_spec hnew
      have hhonest := h.calls call
      rw [hphase] at hhonest
      obtain ⟨g, hg, hanswers⟩ := hhonest.2 (effective_ready hready ▸ hready)
      exact ⟨g, act_sightings_subset label hg, .published hanswers httl hready⟩
    | expired r' new hrow hstate hobserved hgeneration => exact absurd hready hstate

theorem run_inv (f : CaseFolding) (es : List (Instant × ChannelLabel)) :
    (run (Channel.step f) Channel.init es).Inv f := by
  refine run_preserves (fun s e h => (h.passes e.1.elapsed).act e.2) ?_ es
  exact ⟨by simp [Channel.init], by simp [Channel.init], fun _ => trivial, by simp [Channel.init]⟩

-- ------------------------------------------------------------
-- What stands behind an open gate
-- ------------------------------------------------------------

/-- The answer `g` stands behind the profile, the session and the generation of a claim. -/
structure Channel.Backed (s : Channel) (stamp : String × Option String × Int)
    (g : Sighting) : Prop where
  config : ∃ config, s.visionConfig = some config ∧ stamp.1 = config.profileId ∧
    g.identity = ⟨config.id, config.profileId, config.updatedAt⟩
  shows : ∃ session, stamp.2.1 = some session ∧ g.probe.Shows stamp.1 session
  row : ∃ r, s.row = some r ∧ r.state = .ready ∧ r.generation = stamp.2.2 ∧
    r.observedAt = g.observedAt
  past : g.observedAt ≤ s.site.wall
  fresh : s.site.wall < g.observedAt + seconds 30
  free : gated s.site.gate s.site.wall = false

theorem db_inMaintenance (clk : Clock) : s.db.inMaintenance clk = gated s.site.gate clk.wall := by
  cases hgate : s.site.gate with
  | none => simp [Channel.db, ReadinessDb.inMaintenance, gated, hgate]
  | some g =>
    simp [Channel.db, ReadinessDb.inMaintenance, gated, Gate.live, Sql.gt, Sql.holds, hgate]

theorem Channel.Inv.backed (h : s.Inv f) {stamp : String × Option String × Int}
    (hopen : s.readiness = some stamp) : ∃ g ∈ s.sightings, s.Backed stamp g := by
  have hsome : s.readiness.isSome = true := by simp [hopen]
  obtain ⟨config, r, hconfig, hr, hgate⟩ := readiness_isSome.mp hsome
  have hstamp : stamp = (config.profileId, r.observedSessionId, r.generation) := by
    simp only [Channel.readiness, ReadinessDb.readiness, hconfig, hr, hgate] at hopen
    exact (Option.some.inj hopen).symm
  obtain ⟨hrepeated, hupdated, hexpected, -⟩ := gate_iff.mp hgate
  obtain ⟨g, hg, hevidence⟩ := h.row r hr hrepeated.state
  obtain ⟨session, hshows, hready⟩ := classify_ready
    (show (classifyBrowserReadiness f g.probe g.identity.profileId).state = .ready by
      rw [hevidence.observation])
  have hfields := hready.symm.trans hevidence.observation
  simp only [BrowserReadinessObservation.mk.injEq] at hfields
  obtain ⟨-, -, -, hprofile, hsession⟩ := hfields
  have hcurrent : PyText.strip g.identity.profileId = config.profileId := by
    have hobserved := hrepeated.profile
    rw [← hprofile] at hobserved
    exact hobserved
  obtain ⟨ttlSeconds, httl, hexpires⟩ := hevidence.expires
  have hfresh := hrepeated.fresh
  simp only [Sql.gt_eq_true_iff, hexpires, Option.some.injEq, exists_eq_left',
    exists_and_left] at hfresh
  have hfree : gated s.site.gate s.site.wall = false := by
    rw [← hrepeated.maintenance, db_inMaintenance]
  subst hstamp
  refine ⟨g, hg, ⟨config, hconfig, rfl, ?_⟩, ⟨session, hsession.symm, hcurrent ▸ hshows⟩,
    ⟨r, hr, hrepeated.state, rfl, hevidence.observedAt.symm⟩, h.past g hg, ?_, hfree⟩
  · rw [hevidence.identity, hrepeated.joined, hexpected, hupdated]
  · unfold seconds at hfresh ⊢
    omega

/-- Every claim of work that changes something through the browser is made under an answer
of the browser that is at most thirty seconds old by the clock of the database, read after
the answer, was asked for the configuration as it still is, and shows the profile and the
session the claim is stamped with; and no maintenance is on. -/
theorem claims_are_backed (f : CaseFolding) (es : List (Instant × ChannelLabel))
    (e : Instant × ChannelLabel) {id : Nat} {worker : Uuid} {row : TaskRow}
    (hclaimed : (run (Channel.step f) Channel.init es).claimed e = some (id, worker))
    (hrow : (run (Channel.step f) Channel.init es).site.queue.rows id = some row)
    (htype : browserReadyClaim row.taskType = true) :
    ∃ stamp, ((run (Channel.step f) Channel.init es).passes e.1.elapsed).readiness = some stamp ∧
      ∃ g ∈ (run (Channel.step f) Channel.init es).sightings,
        ((run (Channel.step f) Channel.init es).passes e.1.elapsed).Backed stamp g := by
  have hinv := (run_inv f es).passes e.1.elapsed
  generalize run (Channel.step f) Channel.init es = s at hclaimed hrow hinv ⊢
  obtain ⟨stamp, hstamp⟩ : ∃ stamp, (s.passes e.1.elapsed).readiness = some stamp := by
    rw [← Option.isSome_iff_exists]
    obtain ⟨i, label⟩ := e
    cases label with
    | fence label =>
      cases label with
      | work op =>
        cases op with
        | claim c channelReady locked =>
          simp only [Channel.claimed, Channel.flagged, Site.claimed, admitted, claimOf,
            Option.map_eq_some_iff] at hclaimed
          obtain ⟨⟨id', row'⟩, hcandidate, heq⟩ := hclaimed
          cases heq
          split at hcandidate
          · rename_i hclaimOpen
            obtain ⟨hstored, hclaimable⟩ := candidate_spec hcandidate
            obtain rfl : row = row' := Option.some.inj (hrow.symm.trans hstored)
            simp only [claimable, Bool.and_eq_true, beq_iff_eq] at hclaimable
            rw [hclaimable.1.1.1.1.1] at htype
            simp only [claimOpen, htype, if_true, Bool.and_eq_true] at hclaimOpen
            exact hclaimOpen.1
          · cases hcandidate
        | claimEvent w leaseSeconds locked =>
          simp only [Channel.claimed, Channel.flagged, Site.claimed, admitted, claimOf,
            Option.map_eq_some_iff] at hclaimed
          obtain ⟨⟨id', row'⟩, hcandidate, heq⟩ := hclaimed
          cases heq
          obtain ⟨hstored, hclaimable⟩ := candidate_spec hcandidate
          obtain rfl : row = row' := Option.some.inj (hrow.symm.trans hstored)
          simp only [trackerClaimable, isTrackerEvent, Bool.and_eq_true, beq_iff_eq] at hclaimable
          rw [hclaimable.1.1.1.1.1.1] at htype
          cases htype
        | create task | onRow id op | onAll op => cases hclaimed
      | _ => cases hclaimed
    | _ => cases hclaimed
  obtain ⟨g, hg, hbacked⟩ := hinv.backed hstamp
  exact ⟨stamp, hstamp, g, hg, hbacked⟩

-- ------------------------------------------------------------
-- Rejections
-- ------------------------------------------------------------

/-- A stored row never goes away, and its generation tells its contents apart. -/
theorem act_generation (h : s.Inv f) (label : ChannelLabel) {r : ChannelReadiness}
    (hr : s.row = some r) :
    ∃ r', (s.act f i label).row = some r' ∧ (r' = r ∨ r.generation < r'.generation) := by
  have hchange := act_row (i := i) h.calls label
  generalize (s.act f i label).row = row' at hchange ⊢
  cases hchange with
  | stay hrow => exact ⟨r, hrow.trans hr, .inl rfl⟩
  | published call identity observation observedAt ttlSeconds new hphase hnew =>
    have hgeneration := ((persist_spec hnew).2.1 r hr).2
    exact ⟨new, rfl, .inr (by omega)⟩
  | expired r' new hrow hstate hobserved hgeneration =>
    obtain rfl : r = r' := Option.some.inj (hr.symm.trans hrow)
    exact ⟨new, rfl, .inr (by omega)⟩

/-- The row has been observed after `bound`, or it is still shut. -/
def ShutSince (bound : Int) (r : ChannelReadiness) : Prop :=
  bound < r.observedAt ∨ (bound = r.observedAt ∧ r.state ≠ .ready)

/-- A row that is shut stays shut until something newer than it is published. -/
theorem act_shutSince (h : s.Inv f) (label : ChannelLabel) {bound : Int} {r : ChannelReadiness}
    (hr : s.row = some r) (hshut : ShutSince bound r) :
    ∃ r', (s.act f i label).row = some r' ∧ ShutSince bound r' := by
  have hchange := act_row (i := i) h.calls label
  have hpast := h.rowPast r hr
  generalize (s.act f i label).row = row' at hchange ⊢
  cases hchange with
  | stay hrow => exact ⟨r, hrow.trans hr, hshut⟩
  | published call identity observation observedAt ttlSeconds new hphase hnew =>
    obtain ⟨-, hnewer, _, hnew⟩ := persist_spec hnew
    have hobserved : new.observedAt = observedAt := by rw [hnew]; rfl
    have hlt := (hnewer r hr).1
    refine ⟨new, rfl, .inl ?_⟩
    obtain hbound | ⟨hbound, -⟩ := hshut <;> omega
  | expired r' new hrow hstate hobserved hgeneration =>
    refine ⟨new, rfl, ?_⟩
    unfold ShutSince at hshut ⊢
    obtain hbound | ⟨hbound, -⟩ :=
      hshut <;> simp only [hstate, ne_eq, not_false_iff, and_true] <;> omega

theorem run_generation (h : s.Inv f) {r : ChannelReadiness} (hr : s.row = some r)
    (es : List (Instant × ChannelLabel)) :
    ∃ r', (run (Channel.step f) s es).row = some r' ∧ (r' = r ∨ r.generation < r'.generation) := by
  refine (run_preserves
    (I := fun s : Channel => s.Inv f ∧ ∃ r', s.row = some r' ∧
      (r' = r ∨ r.generation < r'.generation))
    ?_ ⟨h, r, hr, .inl rfl⟩ es).2
  rintro s e ⟨hinv, r₁, hr₁, hgeneration⟩
  refine ⟨(hinv.passes e.1.elapsed).act e.2, ?_⟩
  obtain ⟨r₂, hr₂, hnext⟩ := act_generation (i := e.1) (hinv.passes e.1.elapsed) e.2 (r := r₁) hr₁
  refine ⟨r₂, hr₂, ?_⟩
  rcases hgeneration with rfl | hgeneration
  · exact hnext
  · rcases hnext with rfl | hnext
    · exact .inr hgeneration
    · exact .inr (Int.lt_trans hgeneration hnext)

theorem run_shutSince (h : s.Inv f) {bound : Int} {r : ChannelReadiness} (hr : s.row = some r)
    (hshut : ShutSince bound r) (es : List (Instant × ChannelLabel)) :
    (run (Channel.step f) s es).Inv f ∧
      ∃ r', (run (Channel.step f) s es).row = some r' ∧ ShutSince bound r' := by
  refine run_preserves (I := fun s : Channel => s.Inv f ∧ ∃ r', s.row = some r' ∧
    ShutSince bound r')
    ?_ ⟨h, r, hr, hshut⟩ es
  rintro s e ⟨hinv, r₁, hr₁, hshut⟩
  refine ⟨(hinv.passes e.1.elapsed).act e.2, ?_⟩
  exact act_shutSince (hinv.passes e.1.elapsed) e.2 (r := r₁) hr₁ hshut

/-- The rejection of a live check, when its statement is carried out, expires the evidence of
that claim only: evidence published since is left alone, and otherwise the gate is shut until
the browser has been seen ready later than that. -/
theorem rejection_shuts_its_evidence (f : CaseFolding) (es fs : List (Instant × ChannelLabel))
    (i : Instant) (reasonCode : String) {stamp : String × Option String × Int}
    (hopen : (run (Channel.step f) Channel.init es).readiness = some stamp) :
    let claimed := run (Channel.step f) Channel.init es
    let s := run (Channel.step f) claimed fs
    let rejected := s.step f (i, .reject stamp.2.2 reasonCode)
    (s.row ≠ claimed.row → rejected.row = s.row) ∧
      (s.row = claimed.row → ∀ gs stamp', (run (Channel.step f) rejected gs).readiness =
        some stamp' →
        ∃ g ∈ (run (Channel.step f) rejected gs).sightings, rejected.site.wall < g.observedAt ∧
          (run (Channel.step f) rejected gs).Backed stamp' g) := by
  intro claimed s rejected
  have hinv : claimed.Inv f := run_inv f es
  have hs : s.Inv f := run_preserves (fun s e hs => (hs.passes e.1.elapsed).act e.2) hinv fs
  obtain ⟨g₀, -, hbacked₀⟩ := hinv.backed hopen
  obtain ⟨r, hr, hready, hstamp, -⟩ := hbacked₀.row
  obtain ⟨r', hr', hsame⟩ := run_generation hinv hr fs
  have hr' : s.row = some r' := hr'
  have hrejected : rejected.row = invalidateClaimedBrowserReadiness (s.site.wall + i.elapsed)
      stamp.2.2 reasonCode s.row := rfl
  constructor
  · intro hchanged
    rw [hr, hr'] at hchanged
    rcases hsame with rfl | hlt
    · exact absurd rfl hchanged
    · have hother : ¬ (r'.state = .ready ∧ r'.generation = r.generation) := by omega
      rw [hrejected, hr', ← hstamp]
      simp [invalidateClaimedBrowserReadiness, hother]
  · intro hkept gs stamp' hstamp'
    have hinvRejected : rejected.Inv f := (hs.passes i.elapsed).act (.reject stamp.2.2 reasonCode)
    obtain ⟨expired, hexpired, hshut⟩ : ∃ r, rejected.row = some r ∧
        ShutSince rejected.site.wall r := by
      refine ⟨_, by
        rw [hrejected, hkept, hr, ← hstamp]
        simp [invalidateClaimedBrowserReadiness, hready]
        rfl, ?_⟩
      exact .inr ⟨rfl, by simp⟩
    obtain ⟨hinv', r'', hr'', hshut'⟩ := run_shutSince hinvRejected hexpired hshut gs
    obtain ⟨g, hg, hbacked⟩ := hinv'.backed hstamp'
    refine ⟨g, hg, ?_, hbacked⟩
    obtain ⟨r₃, hr₃, hopened, -, hobserved⟩ := hbacked.row
    obtain rfl : r'' = r₃ := Option.some.inj (hr''.symm.trans hr₃)
    obtain hlater | ⟨-, hclosed⟩ := hshut'
    · exact hobserved ▸ hlater
    · exact absurd hopened hclosed

/-- A campaign waits, the profile is configured, and a probe publishes what it saw. -/
def publishedRun : List (Instant × ChannelLabel) :=
  [({ elapsed := 1 }, .fence (.work (.create
      { taskType := .campaignCreate, idempotencyKey := "campaign", payload := [],
        requestedBy := "api" }))),
    ({ elapsed := 1 }, .configure 1 "p1" 1),
    ({ elapsed := 1 }, .begin 7 8),
    ({ elapsed := 1 }, .load 7 true),
    ({ elapsed := 1 }, .answer 7 (some ⟨true, "", 5, "s1", "p1"⟩)),
    ({ elapsed := 1 }, .observe 7),
    ({ elapsed := 1 }, .assertHeld 7),
    ({ elapsed := 1 }, .persist 7 6),
    ({ elapsed := 1 }, .leave 7)]

theorem claims_are_backed_published :
    ∃ stamp, ((run (Channel.step asciiFolding) Channel.init publishedRun).passes 1).readiness =
      some stamp ∧
      ∃ g ∈ (run (Channel.step asciiFolding) Channel.init publishedRun).sightings,
        ((run (Channel.step asciiFolding) Channel.init publishedRun).passes 1).Backed stamp g := by
  have hrow : ((run (Channel.step asciiFolding) Channel.init publishedRun).site.queue.rows 0).map
      (fun row => browserReadyClaim row.taskType) = some true := by decide +kernel
  obtain ⟨row, hrow, htype⟩ := Option.map_eq_some_iff.mp hrow
  have hclaimed : (run (Channel.step asciiFolding) Channel.init publishedRun).claimed
      ({ elapsed := 1 }, .fence (.work (.claim
        { taskType := .campaignCreate, lanes := [.bulk, .interactive], worker := 3 } false []))) =
      some (0, 3) := by decide +kernel
  exact claims_are_backed asciiFolding publishedRun
    ({ elapsed := 1 }, .fence (.work (.claim
      { taskType := .campaignCreate, lanes := [.bulk, .interactive], worker := 3 } false [])))
    hclaimed hrow htype

theorem rejection_shuts_its_evidence_published :
    let rejected := (run (Channel.step asciiFolding) Channel.init publishedRun).step asciiFolding
      ({ elapsed := 1 }, .reject 1 "presend_session_precondition")
    rejected.readiness = none ∧
      ∀ gs stamp, (run (Channel.step asciiFolding) rejected gs).readiness = some stamp →
        ∃ g ∈ (run (Channel.step asciiFolding) rejected gs).sightings, rejected.site.wall <
          g.observedAt ∧
          (run (Channel.step asciiFolding) rejected gs).Backed stamp g := by
  have hopen : (run (Channel.step asciiFolding) Channel.init publishedRun).readiness =
      some ("p1", some "s1", 1) := by decide +kernel
  have h := rejection_shuts_its_evidence asciiFolding publishedRun [] { elapsed := 1 }
    "presend_session_precondition" hopen
  simp only [run_nil] at h
  exact ⟨by decide +kernel, h.2 trivial⟩

end

end StopBot.Browser
