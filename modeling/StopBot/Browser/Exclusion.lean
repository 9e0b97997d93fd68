import StopBot.Browser.Fence
import StopBot.Worker.Authority

/-!
# Maintenance excludes browser work

An owner whose count came out zero finds the site drained for as long as its
gate stands: claims and acquisitions ask for the gate in the transaction that
would start work, a lease that is over cannot be renewed, and a gate that ran
out comes back only through another entry. The invariant is about the time the
gate is unexpired, so nothing has to be said about an owner that lost it.
-/

namespace StopBot.Browser

open Lib Tasks

variable {s s' : Site} {wall : Int} {i : Instant} {owner : String} {gate : Option Gate} {g : Gate}

/-- The owner's gate is in place and unexpired. -/
def Holds (s : Site) (owner : String) : Prop :=
  ∃ g, s.gate = some g ∧ g.owner = owner ∧ g.live s.wall = true

/-- No browser-backed row is running under a live lease and no shared lease is unexpired. -/
structure Drained (s : Site) : Prop where
  rows : ∀ id row, s.queue.rows id = some row → browserBacked row.taskType = true →
    row.status = .running → row.leaseLive s.wall = false
  leases : ∀ l ∈ s.leases, l.live s.wall = false

def Maintenance.counted (m : Maintenance) : Bool :=
  m.phase == .quiescent || m.entered

@[simp] theorem counted_closing (entered lost : Bool) :
    ({ phase := .closing entered, leaseLost := lost } : Maintenance).counted = entered := by
  cases entered <;> rfl

def Excludes (s : Site) : Prop :=
  ∀ owner, (s.owners owner).counted = true → Holds s owner → Drained s

theorem Holds.gated (h : Holds s owner) : gated s.gate s.wall = true := by
  obtain ⟨g, hg, -, hlive⟩ := h
  simp [Browser.gated, hg, hlive]

theorem Holds.unique {owner' : String} (h : Holds s owner) (h' : Holds s owner') :
    owner = owner' := by
  obtain ⟨g, hg, rfl, -⟩ := h
  obtain ⟨g', hg', rfl, -⟩ := h'
  rw [hg] at hg'
  cases hg'
  rfl

/-- The three things a step has to keep. -/
theorem Excludes.mono (h : Excludes s)
    (hcounted : ∀ o, (s'.owners o).counted = true → Holds s' o → (s.owners o).counted = true)
    (hheld : ∀ o, (s'.owners o).counted = true → Holds s' o → Holds s o)
    (hwork : ∀ o, Holds s' o → Drained s → Drained s') : Excludes s' :=
  fun o hc hh => hwork o hh (h o (hcounted o hc hh) (hheld o hc hh))

theorem Excludes.setOwner (h : Excludes s) {m : Maintenance}
    (hm : m.counted = true → (s.owners owner).counted = true) : Excludes (s.setOwner owner m) := by
  refine h.mono ?_ (fun _ _ hh => hh) (fun _ _ hd => ⟨hd.rows, hd.leases⟩)
  intro o hc _
  by_cases ho : o = owner
  · subst ho
    exact hm (by simpa [Site.setOwner] using hc)
  · simpa [Site.setOwner, ho] using hc

-- ------------------------------------------------------------
-- Time
-- ------------------------------------------------------------

theorem leaseLive_mono {row : TaskRow} {wall' : Int} (hle : wall ≤ wall')
    (h : row.leaseLive wall = false) : row.leaseLive wall' = false := by
  unfold TaskRow.leaseLive at h ⊢
  cases hexp : row.leaseExpiresAt with
  | none => rfl
  | some expires =>
    simp only [hexp, decide_eq_false_iff_not] at h ⊢
    omega

theorem Excludes.passes (h : Excludes s) (elapsed : Nat) : Excludes (s.passes elapsed) := by
  have hle : s.wall ≤ (s.passes elapsed).wall := by
    simp only [Site.passes]
    omega
  refine h.mono (fun _ hc _ => hc) ?_ ?_
  · rintro o - ⟨g, hg, howner, hlive⟩
    refine ⟨g, hg, howner, ?_⟩
    simp only [Gate.live, decide_eq_true_eq] at hlive ⊢
    omega
  · intro o _ hd
    refine ⟨fun id row hrow hb hrun => leaseLive_mono hle (hd.rows id row hrow hb hrun), ?_⟩
    intro l hl
    have := hd.leases l hl
    simp only [SharedLease.live, decide_eq_false_iff_not] at this ⊢
    omega

-- ------------------------------------------------------------
-- Work
-- ------------------------------------------------------------

theorem claimOpen_gated {taskType : TaskType} {channelReady : Bool}
    (h : claimOpen taskType channelReady true = true) : browserBacked taskType = false := by
  cases taskType <;> simp_all [claimOpen, browserReadyClaim, browserBacked]

/-- Under an unexpired gate no claim takes a browser-backed row. -/
theorem claimOf_gated {q : Queue} {clk : Clock} {op : QueueOp} {id : Nat} {worker : Uuid}
    (h : claimOf q (clk, admitted true op) = some (id, worker)) :
    ∃ row, q.rows id = some row ∧ browserBacked row.taskType = false := by
  cases op with
  | claim c channelReady locked =>
    simp only [admitted, claimOf, Option.map_eq_some_iff] at h
    obtain ⟨⟨i, row⟩, hcand, heq⟩ := h
    cases heq
    split at hcand
    · rename_i hopen
      obtain ⟨hrow, hel⟩ := candidate_spec hcand
      have htype : row.taskType = c.taskType := by
        simp only [claimable, Bool.and_eq_true, beq_iff_eq] at hel
        exact hel.1.1.1.1.1
      exact ⟨row, hrow, htype ▸ claimOpen_gated hopen⟩
    · cases hcand
  | claimEvent w leaseSeconds locked =>
    simp only [admitted, claimOf, Option.map_eq_some_iff] at h
    obtain ⟨⟨i, row⟩, hcand, heq⟩ := h
    cases heq
    obtain ⟨hrow, hel⟩ := candidate_spec hcand
    have htype : row.taskType = .trackerEventProcess := by
      simp only [trackerClaimable, isTrackerEvent, Bool.and_eq_true, beq_iff_eq] at hel
      exact hel.1.1.1.1.1.1
    exact ⟨row, hrow, by rw [htype]; rfl⟩
  | create task => cases h
  | onRow i op => cases h
  | onAll op => cases h

/-- No statement revives the lease of a row: what runs under a live lease
afterwards ran under one before. -/
theorem RowOp.live_back {op : RowOp} {clk : Clock} {row row' : TaskRow}
    (h : op.apply clk row = some row') (hrun : row'.status = .running)
    (hlive : row'.leaseLive clk.wall = true) :
    row.status = .running ∧ row.leaseLive clk.wall = true := by
  refine ⟨(RowOp.effect h).running hrun, ?_⟩
  obtain ⟨-, hexp | ⟨-, hexp⟩, -⟩ := Worker.RowOp.keepsGrant h hrun
  · simpa only [TaskRow.leaseLive, hexp] using hlive
  · exact hexp

theorem Drained.work (hd : Drained s) (hg : gated s.gate s.wall = true) (op : QueueOp) :
    Drained (s.act i (.work op)) := by
  refine ⟨?_, hd.leases⟩
  intro id row' hrow' hbacked hrun
  simp only [Site.act, hg] at hrow' ⊢
  rw [Bool.eq_false_iff]
  intro hlive
  cases hrow : s.queue.rows id with
  | none =>
    -- a row that was just inserted has no lease
    obtain ⟨task, -, -, rfl⟩ := step_created _ hrow hrow'
    cases hlive
  | some row =>
    obtain ⟨row'', hrow'', ⟨worker, hclaim, hclaims⟩ | ⟨-, rfl | ⟨rowOp, -, happly⟩⟩⟩ :=
      step_claimOf (s.clock i, admitted true op) hrow
    all_goals rw [hrow'] at hrow''; cases hrow''
    · obtain ⟨was, hwas, hfree⟩ := claimOf_gated hclaim
      rw [hrow] at hwas
      cases hwas
      rw [hclaims.kept.1, hfree] at hbacked
      cases hbacked
    · rw [hd.rows id row' hrow hbacked hrun] at hlive
      cases hlive
    · obtain ⟨hrun', hlive'⟩ := RowOp.live_back happly hrun hlive
      rw [(RowOp.effect happly).kept.taskType] at hbacked
      have hdead := hd.rows id row hrow hbacked hrun'
      rw [show (s.clock i).wall = s.wall from rfl, hdead] at hlive'
      cases hlive'

theorem activeWorkCount_zero (h : activeWorkCount s.wall s.queue s.leases = 0) : Drained s := by
  obtain ⟨hrows, hleases⟩ := Nat.add_eq_zero_iff.mp h
  rw [List.countP_eq_zero] at hrows hleases
  refine ⟨?_, fun l hl => Bool.eq_false_iff.mpr (hleases l hl)⟩
  intro id row hrow hbacked hrun
  have := hrows (id, row) (Table.mem_entries.mpr hrow)
  simp [hrun, hbacked] at this

-- ------------------------------------------------------------
-- Shared leases
-- ------------------------------------------------------------

theorem acquireShared_gated {operationId leaseOwner : Uuid} {kind : String} {target : Option String}
    {leaseSeconds : Int} {leases : List SharedLease} (h : gated gate wall = true) :
    acquireShared wall gate operationId leaseOwner kind target leaseSeconds leases =
      (.blocked, leases.filter fun l => l.live wall) := by
  simp [acquireShared, h]

theorem renewShared_dead {operationId leaseOwner : Uuid} {leaseSeconds : Int}
    {leases : List SharedLease} (h : ∀ l ∈ leases, l.live wall = false) :
    renewShared wall operationId leaseOwner leaseSeconds leases = leases := by
  have hsame : ∀ l ∈ leases,
      (if l.operationId = operationId ∧ l.owner = leaseOwner ∧ l.live wall = true then
        { l with expiresAt := wall + seconds (boundedLeaseSeconds leaseSeconds) }
      else l) = id l := by
    intro l hl
    simp [h l hl]
  rw [renewShared, List.map_congr_left hsame, List.map_id]

theorem Drained.leasesSubset (hd : Drained s) {leases : List SharedLease}
    (h : ∀ l ∈ leases, l ∈ s.leases) : Drained { s with leases := leases } :=
  ⟨hd.rows, fun l hl => hd.leases l (h l hl)⟩

theorem Excludes.withLeases (h : Excludes s) {leases : List SharedLease}
    (hsub : gated s.gate s.wall = true → Drained s → ∀ l ∈ leases, l ∈ s.leases) :
    Excludes { s with leases := leases } :=
  h.mono (fun _ hc _ => hc) (fun _ _ hh => hh) fun _ hh hd =>
    hd.leasesSubset (hsub (Holds.gated hh) hd)

-- ------------------------------------------------------------
-- The gate
-- ------------------------------------------------------------

theorem renewGate_spec {leaseSeconds : Int} (h : renewGate wall owner leaseSeconds gate = some g) :
    ∃ was, gate = some was ∧ was.owner = owner ∧ was.live wall = true ∧ g.owner = owner := by
  obtain ⟨was, hwas, h⟩ := Option.bind_eq_some_iff.mp h
  split at h
  · rename_i hguard
    cases h
    exact ⟨was, hwas, hguard.1, hguard.2, hguard.1⟩
  · cases h

theorem consumeCapability_spec {profileId nonce : String} {epoch : Int}
    (h : consumeCapability wall owner profileId nonce epoch gate = some g) :
    ∃ was, gate = some was ∧ was.owner = owner ∧ was.live wall = true ∧ g.owner = owner := by
  obtain ⟨was, hwas, h⟩ := Option.bind_eq_some_iff.mp h
  dsimp only at h
  split at h
  · rename_i hguard
    cases h
    exact ⟨was, hwas, hguard.1, hguard.2.1, hguard.1⟩
  · cases h

theorem consumeCapability_keeps {profileId nonce : String} {epoch : Int}
    (h : consumeCapability wall owner profileId nonce epoch gate = some g) :
    ∃ was, gate = some was ∧ g.owner = was.owner ∧ g.expiresAt = was.expiresAt := by
  obtain ⟨was, hwas, h⟩ := Option.bind_eq_some_iff.mp h
  dsimp only at h
  split at h
  · cases h
    exact ⟨was, hwas, rfl, rfl⟩
  · cases h

theorem Excludes.renewed (h : Excludes s)
    (hg : ∃ was, s.gate = some was ∧ was.owner = owner ∧ was.live s.wall = true ∧ g.owner = owner) :
    Excludes { s with gate := some g } := by
  obtain ⟨was, hwas, howner, hlive, hgowner⟩ := hg
  refine h.mono (fun _ hc _ => hc) ?_ (fun _ _ hd => ⟨hd.rows, hd.leases⟩)
  rintro o - ⟨g', hg', rfl, -⟩
  cases hg'
  exact ⟨was, hwas, howner.trans hgowner.symm, hlive⟩

theorem Excludes.deleted (h : Excludes s) (owner : String) :
    Excludes { s with gate := deleteGate owner s.gate } := by
  refine h.mono (fun _ hc _ => hc) ?_ (fun _ _ hd => ⟨hd.rows, hd.leases⟩)
  rintro o - ⟨g, hg, howner, hlive⟩
  exact ⟨g, (Option.filter_eq_some_iff.mp hg).1, howner, hlive⟩

-- ------------------------------------------------------------
-- Steps and runs
-- ------------------------------------------------------------

/-- The new gate is the entering owner's, and that owner is still draining. -/
theorem Excludes.enter (h : Excludes s) (i : Instant) (owner kind : String) (leaseSeconds : Int) :
    Excludes (s.act i (.enter owner kind leaseSeconds)) := by
  simp only [Site.act]
  split
  · split
    · rename_i houtside g hset
      intro o hc hh
      obtain ⟨g', hg', rfl, -⟩ := hh
      cases hg'
      have howner : g.owner = owner := by
        unfold setGate at hset
        split at hset
        · cases hset
        · cases hset
          rfl
      simp [Site.setOwner, howner, Maintenance.counted, Maintenance.entered] at hc
    · exact h
  · exact h

/-- An owner passes its poll when it has counted nothing. -/
theorem Excludes.poll (h : Excludes s) (i : Instant) (owner : String) (pastDeadline : Bool) :
    Excludes (s.act i (.poll owner pastDeadline)) := by
  simp only [Site.act]
  split
  · split
    · exact h.setOwner (by simp [Maintenance.counted, Maintenance.entered])
    · split
      · rename_i hcount
        intro o _ _
        have hd := activeWorkCount_zero hcount
        exact ⟨hd.rows, hd.leases⟩
      · split
        · exact h.setOwner (by simp [Maintenance.counted, Maintenance.entered])
        · exact h
  · exact h

theorem Excludes.assertHeld (h : Excludes s) (i : Instant) (owner : String) (leaseSeconds : Int) :
    Excludes (s.act i (.assertHeld owner leaseSeconds)) := by
  simp only [Site.act]
  split
  · rename_i hphase
    have hcounted : (s.owners owner).counted = true := by
      rcases hphase with hphase | hphase <;>
        simp [Maintenance.counted, Maintenance.entered, hphase]
    split
    · rename_i g hrenew
      split at hrenew
      · cases hrenew
      · exact (h.renewed (renewGate_spec hrenew)).setOwner fun _ => hcounted
    · exact h.setOwner fun _ => hcounted
  · exact h

theorem Excludes.act (h : Excludes s) (i : Instant) (label : Label) : Excludes (s.act i label) := by
  cases label with
  | work op =>
    exact h.mono (fun _ hc _ => hc) (fun _ _ hh => hh) fun _ hh hd => hd.work (Holds.gated hh) op
  | acquire operationId leaseOwner kind target leaseSeconds =>
    refine h.withLeases fun hg _ l hl => ?_
    rw [acquireShared_gated hg] at hl
    exact List.mem_of_mem_filter hl
  | renewLease operationId leaseOwner leaseSeconds =>
    refine h.withLeases fun _ hd l hl => ?_
    rwa [renewShared_dead hd.leases] at hl
  | release operationId leaseOwner => exact h.withLeases fun _ _ l hl => List.mem_of_mem_filter hl
  | enter owner kind leaseSeconds => exact h.enter i owner kind leaseSeconds
  | poll owner pastDeadline => exact h.poll i owner pastDeadline
  | assertHeld owner leaseSeconds => exact h.assertHeld i owner leaseSeconds
  | renew owner leaseSeconds =>
    simp only [Site.act]
    split
    · split
      · rename_i g hrenew
        exact h.renewed (renewGate_spec hrenew)
      · exact h.setOwner id
    · exact h
  | renewRaises owner =>
    simp only [Site.act]
    split
    · exact h.setOwner id
    · exact h
  | unwind owner =>
    simp only [Site.act]
    split
    · refine h.setOwner fun hc => ?_
      rw [counted_closing] at hc
      simp [Maintenance.counted, hc]
    · exact h
  | close owner deleted =>
    simp only [Site.act]
    split
    · refine Excludes.setOwner ?_ (by simp [Maintenance.counted, Maintenance.entered])
      cases deleted with
      | true => exact h.deleted owner
      | false => exact h
    · exact h
  | adopt owner leaseSeconds =>
    simp only [Site.act]
    split
    · rename_i g hrenew
      exact h.renewed (renewGate_spec hrenew)
    · exact h
  | consume owner profileId nonce epoch =>
    simp only [Site.act]
    split
    · rename_i g hconsume
      exact h.renewed (consumeCapability_spec hconsume)
    · exact h

/-- The row that a step returns to the owner it sets or prolongs the gate for. -/
def Site.granted (s : Site) (e : Instant × Label) : Option Gate :=
  let s := s.passes e.1.elapsed
  match e.2 with
  | .enter owner kind leaseSeconds =>
    if (s.owners owner).phase = .outside then
      setGate s.wall owner kind leaseSeconds s.gate else none
  | .assertHeld owner leaseSeconds =>
    let m := s.owners owner
    if m.phase = .quiescent ∨ m.phase = .inside then
      if m.leaseLost then none else renewGate s.wall owner leaseSeconds s.gate
    else none
  | .renew owner leaseSeconds =>
    if (s.owners owner).renewing then renewGate s.wall owner leaseSeconds s.gate else none
  | .adopt owner leaseSeconds => renewGate s.wall owner leaseSeconds s.gate
  | _ => none

/-- The `DELETE` of `_close` is carried out for this owner. -/
def givesBack (e : Instant × Label) (owner : String) : Bool :=
  match e.2 with
  | .close o true => o == owner
  | _ => false

/-- The site, and until when an owner was granted a gate that it has not given back. -/
structure Tenure where
  site : Site := Site.init
  till : String → Option Int := fun _ => none

def Tenure.step (t : Tenure) (e : Instant × Label) : Tenure where
  site := t.site.step e
  till owner :=
    match t.site.granted e with
    | some g => if g.owner = owner then some g.expiresAt else t.till owner
    | none => if givesBack e owner then none else t.till owner

@[simp] theorem Site.act_wall (label : Label) : (s.act i label).wall = s.wall := by
  cases label with
  | enter owner kind leaseSeconds | renew owner leaseSeconds | renewRaises owner | unwind owner
  | close owner deleted | adopt owner leaseSeconds | consume owner profileId nonce epoch
  | assertHeld owner leaseSeconds | poll owner pastDeadline =>
    simp only [Site.act, Site.setOwner]
    repeat' split
    all_goals rfl
  | work op => rfl
  | acquire operationId owner kind target leaseSeconds => rfl
  | renewLease operationId owner leaseSeconds => rfl
  | release operationId owner => rfl

@[simp] theorem Site.step_wall (e : Instant × Label) : (s.step e).wall = s.wall + e.1.elapsed :=
  Site.act_wall e.2

theorem boundedLeaseSeconds_pos (value : Int) : 0 < seconds (boundedLeaseSeconds value) := by
  simp only [seconds, boundedLeaseSeconds]
  omega

theorem setGate_spec {kind : String} {leaseSeconds : Int}
    (h : setGate wall owner kind leaseSeconds gate = some g) :
    gated gate wall = false ∧ g.owner = owner ∧ wall < g.expiresAt := by
  have hpos := boundedLeaseSeconds_pos leaseSeconds
  unfold setGate at h
  split at h
  · cases h
  · rename_i hfree
    cases h
    refine ⟨by simpa using hfree, rfl, ?_⟩
    show wall < wall + seconds (boundedLeaseSeconds leaseSeconds)
    omega

theorem renewGate_expiresAt {leaseSeconds : Int}
    (h : renewGate wall owner leaseSeconds gate = some g) :
    wall < g.expiresAt := by
  have hpos := boundedLeaseSeconds_pos leaseSeconds
  obtain ⟨was, -, h⟩ := Option.bind_eq_some_iff.mp h
  split at h
  · cases h
    show wall < wall + seconds (boundedLeaseSeconds leaseSeconds)
    omega
  · cases h

/-- A granted row is the gate, is good, and took the place of no other owner's good one. -/
structure GateGranted (s s' : Site) (g : Gate) : Prop where
  gate : s'.gate = some g
  good : s'.wall < g.expiresAt
  own : ∀ was, s.gate = some was → was.live s'.wall = true → was.owner = g.owner

theorem GateGranted.renewed {leaseSeconds : Int} (hgate : s'.gate = some g) (hwall : s'.wall = wall)
    (h : renewGate wall owner leaseSeconds s.gate = some g) : GateGranted s s' g := by
  obtain ⟨was, hwas, howner, -, hg⟩ := renewGate_spec h
  refine ⟨hgate, hwall ▸ renewGate_expiresAt h, ?_⟩
  rintro was' hwas' -
  rw [hwas] at hwas'
  cases hwas'
  exact howner.trans hg.symm

theorem Site.step_granted {e : Instant × Label} (h : s.granted e = some g) :
    GateGranted s (s.step e) g := by
  obtain ⟨i, label⟩ := e
  cases label with
  | enter owner kind leaseSeconds =>
    simp only [Site.granted] at h
    split at h
    · rename_i houtside
      obtain ⟨hfree, -, hgood⟩ := setGate_spec h
      refine ⟨by simp [Site.step, Site.act, houtside, h, Site.setOwner], ?_, ?_⟩
      · rw [Site.step_wall]
        exact hgood
      · rintro was hwas hlive
        rw [show (s.passes i.elapsed).gate = some was from hwas] at hfree
        rw [Site.step_wall] at hlive
        simp [gated, Site.passes, hlive] at hfree
    · cases h
  | assertHeld owner leaseSeconds =>
    simp only [Site.granted] at h
    split at h
    · rename_i hphase
      split at h
      · cases h
      · rename_i hlost
        exact .renewed (by simp [Site.step, Site.act, hphase, hlost, h, Site.setOwner])
          (Site.step_wall _) h
    · cases h
  | renew owner leaseSeconds =>
    simp only [Site.granted] at h
    split at h
    · rename_i hrenewing
      exact .renewed (by simp [Site.step, Site.act, hrenewing, h]) (Site.step_wall _) h
    · cases h
  | adopt owner leaseSeconds =>
    simp only [Site.granted] at h
    exact .renewed (by simp [Site.step, Site.act, h]) (Site.step_wall _) h
  | _ => cases h

theorem Site.step_kept {e : Instant × Label} {was : Gate} (h : s.granted e = none)
    (hwas : s.gate = some was) (hback : givesBack e was.owner = false) :
    ∃ g, (s.step e).gate = some g ∧ g.owner = was.owner ∧ g.expiresAt = was.expiresAt := by
  have hsame : (s.step e).gate = s.gate →
      ∃ g, (s.step e).gate = some g ∧ g.owner = was.owner ∧ g.expiresAt = was.expiresAt :=
    fun heq => ⟨was, heq.trans hwas, rfl, rfl⟩
  obtain ⟨i, label⟩ := e
  cases label with
  | enter owner kind leaseSeconds =>
    refine hsame ?_
    simp only [Site.granted] at h
    simp only [Site.step, Site.act]
    split
    · rename_i houtside
      rw [if_pos houtside] at h
      simp only [h]
      rfl
    · rfl
  | assertHeld owner leaseSeconds =>
    refine hsame ?_
    simp only [Site.granted] at h
    simp only [Site.step, Site.act]
    split
    · rename_i hphase
      rw [if_pos hphase] at h
      simp only [h]
      rfl
    · rfl
  | renew owner leaseSeconds =>
    refine hsame ?_
    simp only [Site.granted] at h
    simp only [Site.step, Site.act]
    split
    · rename_i hrenewing
      rw [if_pos hrenewing] at h
      simp only [h]
      rfl
    · rfl
  | adopt owner leaseSeconds =>
    refine hsame ?_
    simp only [Site.granted] at h
    simp only [Site.step, Site.act, h]
    rfl
  | consume owner profileId nonce epoch =>
    simp only [Site.step, Site.act]
    cases hconsume : consumeCapability (s.passes i.elapsed).wall owner profileId nonce epoch
        (s.passes i.elapsed).gate with
    | none => exact ⟨was, hwas, rfl, rfl⟩
    | some g =>
      obtain ⟨was', hwas', howner, hexpires⟩ := consumeCapability_keeps hconsume
      obtain rfl := Option.some.inj (hwas.symm.trans hwas')
      exact ⟨g, rfl, howner, hexpires⟩
  | close owner deleted =>
    simp only [Site.step, Site.act]
    split
    · cases deleted with
      | false => exact ⟨was, hwas, rfl, rfl⟩
      | true =>
        refine ⟨was, ?_, rfl, rfl⟩
        have hother : was.owner ≠ owner := by
          rintro rfl
          simp [givesBack] at hback
        simp [Site.setOwner, deleteGate, Site.passes, hwas, hother]
    · exact ⟨was, hwas, rfl, rfl⟩
  | poll owner pastDeadline | renewRaises owner | unwind owner =>
    refine hsame ?_
    simp only [Site.step, Site.act]
    repeat' split
    all_goals rfl
  | work op | acquire operationId leaseOwner kind target leaseSeconds
  | renewLease operationId leaseOwner leaseSeconds | release operationId leaseOwner =>
    exact hsame rfl

/-- Until the time an owner was told, the gate is there and his. -/
def Tenure.Kept (t : Tenure) : Prop :=
  ∀ owner d, t.till owner = some d → t.site.wall < d →
    ∃ g, t.site.gate = some g ∧ g.owner = owner ∧ g.expiresAt = d

theorem Tenure.Kept.step {t : Tenure} (h : t.Kept) (e : Instant × Label) : (t.step e).Kept := by
  rintro owner d htill hgood
  have hwas : ∀ d, t.till owner = some d → t.site.wall + e.1.elapsed < d →
      ∃ was, t.site.gate = some was ∧ was.owner = owner ∧ was.expiresAt = d := fun d htill hgood =>
    h owner d htill (by omega)
  have hwall : (t.step e).site.wall = t.site.wall + e.1.elapsed := Site.step_wall e
  rw [hwall] at hgood
  simp only [Tenure.step] at htill ⊢
  cases hgranted : t.site.granted e with
  | some g =>
    obtain ⟨hgate, -, hown⟩ := Site.step_granted hgranted
    simp only [hgranted] at htill
    split at htill
    · rename_i howner
      cases htill
      exact ⟨g, hgate, howner, rfl⟩
    · rename_i hother
      obtain ⟨was, hgatewas, howner, rfl⟩ := hwas d htill hgood
      have hlive : was.live (t.site.step e).wall = true := by
        rw [Site.step_wall]
        simpa [Gate.live] using hgood
      exact absurd ((hown was hgatewas hlive).symm.trans howner) hother
  | none =>
    simp only [hgranted] at htill
    split at htill
    · cases htill
    · rename_i hback
      obtain ⟨was, hgatewas, rfl, rfl⟩ := hwas d htill hgood
      exact Site.step_kept hgranted hgatewas (by simpa using hback)

end StopBot.Browser
