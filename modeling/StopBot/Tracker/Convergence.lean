import StopBot.Tracker.Order
import Mathlib.Data.Option.Basic

/-!
# The settled click

The invariant of the inbox and the projection under every operation, and what
follows once every event of a click is projected.
-/

namespace StopBot.Tracker

open Lib Tasks

-- ------------------------------------------------------------
-- One pass
-- ------------------------------------------------------------

def spreadOver (db : Db) (i : Nat) (event : PostbackRow) : Db :=
  { db with events := db.events.update (spreadAttribution i event (inheritedAttribution db event)) }

/-- The pass over `event` that reached the projection, whether or not it found
the ad. -/
structure Rebuilt (db : Db) (i : Nat) (event : PostbackRow) (change : PostbackRow → PostbackRow)
    (state : ClickState) (db' : Db) : Prop where
  found : db.events.rows i = some event
  same : ∀ row, SameEvent row (change row)
  status : ∀ row, (change row).attributionStatus = (inheritedAttribution db event).status
  ad : ∀ row, (change row).fbAdFk = ((inheritedAttribution db event).adId <|> row.fbAdFk)
  projected : rebuildClickState (spreadOver db i event) event.source event.clickId
    (inheritedAttribution db event) = some state
  events : db'.events = (spreadOver db i event).events.updateAt i fun row => some (change row)
  clicks : db'.clicks = fun s c =>
    if s = event.source ∧ c = event.clickId then some state else db.clicks s c

inductive Pass (clk : Clock) (db : Db) (taskId : Nat) (task : TaskRow) (db' : Db) : Prop
  | untouched (op : RowOp)
      (heq : db' = { db with queue := Tasks.step db.queue (clk, .onRow taskId op) })
  | rejected (f : Fence) (error : String) (i : Nat) (event : PostbackRow)
      (change : PostbackRow → PostbackRow)
      (hid : eventIdOf task = some i) (hevent : db.events.rows i = some event)
      (hsame : ∀ row, SameEvent row (change row))
      (hstatus : ∀ row, (change row).attributionStatus = "ambiguous")
      (hheld : task.heldBy clk f = true)
      (heq : db' = { onEvent db i change with
        queue := Tasks.step db.queue (clk, .onRow taskId (.finishTaskFailed f error)) })
  | rebuilt (i : Nat) (event : PostbackRow) (state : ClickState)
      (change : PostbackRow → PostbackRow) (ops : List QueueOp)
      (hid : eventIdOf task = some i) (hops : ∀ op ∈ ops, createsTrackerTask op = false)
      (hrebuilt : Rebuilt db i event change state db')
      (hqueue : db'.queue = run Tasks.step db.queue (ops.map fun op => (clk, op)))

theorem onTask_eq {db db' : Db} {clk : Clock} {taskId : Nat} {op : RowOp}
    (h : onTask db clk taskId op = some db') :
    db' = { db with queue := Tasks.step db.queue (clk, .onRow taskId op) } := by
  simp only [onTask] at h
  split at h
  · exact (Option.some.inj h).symm
  · cases h

theorem cancelPauses_fst (db : Db) (clk : Clock) (event : PostbackRow)
    (attribution : AttributionResult) :
    ∃ ops : List QueueOp, (∀ op ∈ ops, createsTrackerTask op = false) ∧
      (cancelPauses db clk event attribution).1 =
        { db with queue := run Tasks.step db.queue (ops.map fun op => (clk, op)) } := by
  simp only [cancelPauses]
  split
  · split
    · exact ⟨[], by simp, rfl⟩
    · rename_i fbAdId _ _
      exact ⟨[.onAll (.cancelUnstartedAutoPause fbAdId)], by simp [createsTrackerTask], rfl⟩
  · exact ⟨[], by simp, rfl⟩

theorem projectEvent_pass {db db' : Db} {clk : Clock} {taskId : Nat} {f : Fence} {task : TaskRow}
    {i : Nat} {event : PostbackRow} {result : ProcessResult} (hheld : task.heldBy clk f = true)
    (hid : eventIdOf task = some i) (hevent : db.events.rows i = some event)
    (h : projectEvent db clk taskId f task i event = some (db', result)) :
    Pass clk db taskId task db' := by
  simp only [projectEvent] at h
  split at h
  · -- the click already has another ad
    simp only [rejectConflicting, Option.map_eq_some_iff, Prod.mk.injEq] at h
    obtain ⟨db₁, h, rfl, -⟩ := h
    refine .rejected f "conflicting_ad_attribution" i event _ hid hevent ?_ ?_ hheld (onTask_eq h)
    · exact fun row => ⟨rfl, rfl, rfl, rfl⟩
    · exact fun row => rfl
  · simp only [bind, Option.bind_eq_some_iff] at h
    obtain ⟨state, hstate, h⟩ := h
    obtain ⟨ops, hops, hcancel⟩ := cancelPauses_fst
      { db with
        events := db.events.update (spreadAttribution i event (inheritedAttribution db event))
        clicks := fun s c =>
          if s = event.source ∧ c = event.clickId then some state else db.clicks s c }
      clk event (inheritedAttribution db event)
    have hmore : ∀ op : RowOp, ∀ op' ∈ ops ++ [QueueOp.onRow taskId op],
        createsTrackerTask op' = false := by
      intro op op' hop'
      rcases List.mem_append.mp hop' with hop' | hop'
      · exact hops op' hop'
      · rw [List.mem_singleton.mp hop']
        rfl
    split at h
    · rename_i hnone
      simp only [pure, Option.bind_eq_some_iff, Option.some.injEq, Prod.mk.injEq] at h
      obtain ⟨db₁, h, rfl, -⟩ := h
      simp only [deferUnattributed, hcancel] at h
      have heq := onTask_eq h
      refine .rebuilt i event state _ _ hid (hmore _)
        ⟨hevent, ?_, ?_, ?_, hstate, by rw [heq]; rfl, by rw [heq]; rfl⟩
        (by rw [heq, List.map_append, run_append]; rfl)
      · exact fun row => ⟨rfl, rfl, rfl, rfl⟩
      · exact fun row => rfl
      · intro row
        simp [hnone]
    · rename_i ad hsome
      simp only [pure, Option.bind_eq_some_iff, Option.some.injEq, Prod.mk.injEq] at h
      obtain ⟨db₁, h, rfl, -⟩ := h
      simp only [finishAttributed, hcancel] at h
      have heq := onTask_eq h
      refine .rebuilt i event state _ _ hid (hmore _)
        ⟨hevent, ?_, ?_, ?_, hstate, by rw [heq]; rfl, by rw [heq]; rfl⟩
        (by rw [heq, List.map_append, run_append]; rfl)
      · exact fun row => ⟨rfl, rfl, rfl, rfl⟩
      · exact fun row => rfl
      · intro row
        simp [hsome]

theorem processEventTask_pass {isoformat : Int → String} {db db' : Db} {clk : Clock} {taskId : Nat}
    {f : Fence} {result : ProcessResult}
    (h : processEventTask isoformat db clk taskId f = some (db', result)) :
    ∃ task, db.queue.rows taskId = some task ∧ isTrackerEvent task = true ∧
      task.status.terminal = false ∧ Pass clk db taskId task db' := by
  simp only [processEventTask, bind, Option.bind_eq_some_iff, pure] at h
  obtain ⟨task, htask, _, hguard, i, hid, h⟩ := h
  have hguard : (isTrackerEvent task && task.heldBy clk f) = true := by
    by_contra hnot
    simp [guard, hnot] at hguard
  obtain ⟨htracker, hheld⟩ := Bool.and_eq_true_iff.mp hguard
  have hopen : task.status.terminal = false := by
    rw [(heldBy_iff.mp hheld).1]
    rfl
  refine ⟨task, htask, htracker, hopen, ?_⟩
  split at h
  · simp only [Option.bind_eq_some_iff, Option.some.injEq, Prod.mk.injEq] at h
    obtain ⟨db₁, h, rfl, -⟩ := h
    exact .untouched _ (onTask_eq h)
  · split at h
    · simp only [Option.bind_eq_some_iff, Option.some.injEq, Prod.mk.injEq] at h
      obtain ⟨db₁, h, rfl, -⟩ := h
      exact .untouched _ (onTask_eq h)
    · rename_i event hfound
      exact projectEvent_pass hheld hid (Option.filter_eq_some_iff.mp hfound).1 h

-- ------------------------------------------------------------
-- Attribution along a pass
-- ------------------------------------------------------------

theorem inheritedAttribution_status {db : Db} {event : PostbackRow}
    (h : event.attributionStatus ≠ "ambiguous") :
    (inheritedAttribution db event).status ≠ "ambiguous" := by
  simp only [inheritedAttribution]
  split
  · simp
  · simp only [resolveEventAttribution, resolveAttribution]
    split
    · simp only [nonEmpty]
      split
      · simp
      · simpa using h
    · split
      · simp
      · split <;> simp

theorem inheritedAttribution_adId {db : Db} {event : PostbackRow} {ad : Uuid}
    (h : event.fbAdFk = some ad) : (inheritedAttribution db event).adId = some ad := by
  simp [inheritedAttribution, resolveEventAttribution, h]

theorem spreadAttribution_same (i : Nat) (event : PostbackRow) (attribution : AttributionResult)
    (id : Nat) (row : PostbackRow) :
    SameEvent row ((spreadAttribution i event attribution id row).getD row) := by
  simp only [spreadAttribution]
  split
  · exact ⟨rfl, rfl, rfl, rfl⟩
  · exact ⟨rfl, rfl, rfl, rfl⟩

theorem spreadAttribution_status {i : Nat} {event : PostbackRow} {attribution : AttributionResult}
    {id : Nat} {row : PostbackRow} (hrow : row.attributionStatus ≠ "ambiguous")
    (hnew : attribution.status ≠ "ambiguous") :
    ((spreadAttribution i event attribution id row).getD row).attributionStatus ≠ "ambiguous" := by
  simp only [spreadAttribution]
  split
  · simp only [Option.getD_some]
    split
    · exact hnew
    · simp
  · exact hrow

theorem Linked.run {q : Queue} {events : Table PostbackRow} (h : Linked q events) (clk : Clock)
    {ops : List QueueOp} (hops : ∀ op ∈ ops, createsTrackerTask op = false) :
    Linked (Lib.run Tasks.step q (ops.map fun op => (clk, op))) events := by
  induction ops generalizing q with
  | nil => exact h
  | cons op ops ih =>
    exact ih (h.step clk (hops op List.mem_cons_self))
      fun op' hop' => hops op' (List.mem_cons_of_mem _ hop')

theorem updateAt_same {i : Nat} {change : PostbackRow → PostbackRow}
    (hsame : ∀ row, SameEvent row (change row)) (id : Nat) (row : PostbackRow) :
    SameEvent row ((if id = i then some (change row) else none).getD row) := by
  split
  · exact hsame row
  · exact ⟨rfl, rfl, rfl, rfl⟩

theorem Linked.open_event {q : Queue} {events : Table PostbackRow} (h : Linked q events)
    {taskId i : Nat} {task : TaskRow} {event : PostbackRow} (htask : q.rows taskId = some task)
    (htracker : isTrackerEvent task = true) (hid : eventIdOf task = some i)
    (hopen : task.status.terminal = false) (hevent : events.rows i = some event) :
    event.attributionStatus ≠ "ambiguous" := by
  intro hamb
  have hterm := h.closed taskId task i event htask htracker hid hevent hamb
  rw [hopen] at hterm
  cases hterm

theorem Linked.reject {q : Queue} {events : Table PostbackRow} (h : Linked q events) {clk : Clock}
    {taskId i : Nat} {task : TaskRow} {f : Fence} {error : String}
    {change : PostbackRow → PostbackRow} (htask : q.rows taskId = some task)
    (htracker : isTrackerEvent task = true) (hid : eventIdOf task = some i)
    (hheld : task.heldBy clk f = true) (hsame : ∀ row, SameEvent row (change row)) :
    Linked (Tasks.step q (clk, .onRow taskId (.finishTaskFailed f error)))
      (events.updateAt i fun row => some (change row)) := by
  have hop : createsTrackerTask (.onRow taskId (.finishTaskFailed f error)) = false := rfl
  have hstep := h.step clk hop
  have hended : ∃ row',
      (Tasks.step q (clk, .onRow taskId (.finishTaskFailed f error))).rows taskId = some row' ∧
        isTrackerEvent row' = true ∧ eventIdOf row' = some i ∧ row'.status.terminal = true := by
    refine ⟨_, by
      simp [Tasks.step, htask, RowOp.apply, finishTaskFailed, update, htracker, hheld]
      rfl, ?_, ?_, rfl⟩
    · exact htracker
    · exact hid
  obtain ⟨row', hrow', htr', hid', hterm⟩ := hended
  refine hstep.pass (fun id row _ => updateAt_same hsame id row) ?_
  intro tid row j event hrow htr hj hevent hamb
  by_cases hji : j = i
  · -- the only task of the event is the one that just ended
    obtain rfl := hstep.single tid taskId row row' j hrow hrow' htr htr' hj (hji ▸ hid')
    rw [hrow'] at hrow
    cases hrow
    exact hterm
  · rw [if_neg hji] at hamb
    exact hstep.closed tid row j event hrow htr hj hevent hamb

theorem Pass.linked {clk : Clock} {db db' : Db} {taskId : Nat} {task : TaskRow}
    (h : Pass clk db taskId task db') (hl : Linked db.queue db.events)
    (htask : db.queue.rows taskId = some task) (htracker : isTrackerEvent task = true)
    (hopen : task.status.terminal = false) : Linked db'.queue db'.events := by
  cases h with
  | untouched op heq =>
    rw [heq]
    have hop : createsTrackerTask (.onRow taskId op) = false := rfl
    exact hl.step clk hop
  | rejected f error i event change hid hevent hsame hstatus hheld heq =>
    rw [heq]
    exact hl.reject htask htracker hid hheld hsame
  | rebuilt i event state change ops hid hops hrebuilt hqueue =>
    have hnew : (inheritedAttribution db event).status ≠ "ambiguous" :=
      inheritedAttribution_status (hl.open_event htask htracker hid hopen hrebuilt.found)
    rw [hqueue, hrebuilt.events]
    refine Linked.run ?_ clk hops
    refine (hl.pass (fun id row _ => spreadAttribution_same _ _ _ id row) ?_).pass
      (fun id row _ => updateAt_same hrebuilt.same id row) ?_
    · intro tid row j event' hrow htr hj hevent' hamb'
      by_contra hrowopen
      refine spreadAttribution_status (fun h => hrowopen ?_) hnew hamb'
      exact hl.closed tid row j event' hrow htr hj hevent' h
    · intro tid row j event' hrow htr hj hevent' hamb'
      by_cases hji : j = i
      · rw [if_pos hji, Option.getD_some, hrebuilt.status] at hamb'
        exact absurd hamb' hnew
      · rw [if_neg hji] at hamb'
        rw [Table.update_rows, Option.map_eq_some_iff] at hevent'
        obtain ⟨event₀, hevent₀, rfl⟩ := hevent'
        by_contra hrowopen
        refine spreadAttribution_status (fun h => hrowopen ?_) hnew hamb'
        exact hl.closed tid row j event₀ hrow htr hj hevent₀ h

-- ------------------------------------------------------------
-- Facts along a pass
-- ------------------------------------------------------------

theorem spreadOver_facts (db : Db) (i : Nat) (event : PostbackRow) (source clickId : String) :
    facts (spreadOver db i event) source clickId = facts db source clickId :=
  facts_update rfl (fun id row _ => spreadAttribution_same _ _ _ id row) source clickId

theorem Rebuilt.facts {db db' : Db} {i : Nat} {event : PostbackRow}
    {change : PostbackRow → PostbackRow} {state : ClickState}
    (h : Rebuilt db i event change state db') (source clickId : String) :
    facts db' source clickId = facts db source clickId := by
  have hspread : Tracker.facts db' source clickId =
      Tracker.facts (spreadOver db i event) source clickId :=
    facts_update h.events (fun id row _ => updateAt_same h.same id row) source clickId
  rw [hspread]
  exact spreadOver_facts db i event source clickId

/-- The events of a click that a rebuild for `ad` aggregates. -/
def counted (db : Db) (source clickId : String) (ad : Option Uuid) : List PostbackRow :=
  ((inbox db source clickId).filter fun entry =>
    entry.2.attributionStatus != "ambiguous" && entry.2.fbAdFk == ad).map (·.2)

theorem rebuildClickState_eq (db : Db) (source clickId : String) (attribution : AttributionResult) :
    rebuildClickState db source clickId attribution =
      (proposed (counted db source clickId attribution.adId) attribution).map fun new =>
        match db.clicks source clickId with
        | some stored => mergeClick stored new
        | none => new := by
  have hlist : (db.events.entries.map (·.2)).filter
      (countedFor source clickId attribution.adId) =
        counted db source clickId attribution.adId := by
    simp only [counted, inbox, List.filter_filter, List.filter_map]
    congr 1
    refine List.filter_congr fun entry _ => ?_
    simp only [Function.comp, countedFor]
    cases ofClick source clickId entry.2 <;> cases entry.2.isDuplicate <;> simp
  exact congrArg (fun rows => (proposed rows attribution).map fun new =>
    match db.clicks source clickId with
    | some stored => mergeClick stored new
    | none => new) hlist

theorem counted_facts {db : Db} {source clickId : String} {ad : Option Uuid} :
    ∀ fact ∈ (counted db source clickId ad).map PostbackRow.fact,
      fact ∈ facts db source clickId := by
  intro fact hfact
  simp only [counted, List.map_map, List.mem_map, List.mem_filter] at hfact
  obtain ⟨entry, ⟨hmem, -⟩, rfl⟩ := hfact
  exact List.mem_map.mpr ⟨entry, hmem, rfl⟩

theorem counted_all {db : Db} {source clickId : String} {ad : Option Uuid}
    (h : ∀ entry ∈ inbox db source clickId,
      entry.2.attributionStatus ≠ "ambiguous" ∧ entry.2.fbAdFk = ad) :
    (counted db source clickId ad).map PostbackRow.fact = facts db source clickId := by
  have hall : (inbox db source clickId).filter (fun entry =>
      entry.2.attributionStatus != "ambiguous" && entry.2.fbAdFk == ad) =
        inbox db source clickId := by
    rw [List.filter_eq_self]
    intro entry hentry
    simpa using h entry hentry
  rw [counted, hall, List.map_map]
  rfl

theorem proposed_nonempty {events : List PostbackRow} {attribution : AttributionResult}
    {st : ClickState} (h : proposed events attribution = some st) : events ≠ [] := by
  rintro rfl
  simp [proposed] at h

/-- What a rebuild leaves is backed by the events, if what it found was. -/
theorem rebuildClickState_sound {db : Db} {source clickId : String}
    {attribution : AttributionResult} {st : ClickState}
    (h : rebuildClickState db source clickId attribution = some st)
    (hstored : ∀ stored, db.clicks source clickId = some stored →
      Sound (facts db source clickId) stored) :
    facts db source clickId ≠ [] ∧ Sound (facts db source clickId) st := by
  rw [rebuildClickState_eq, Option.map_eq_some_iff] at h
  obtain ⟨new, hnew, hst⟩ := h
  have hsound := (sound_of_columns (proposed_columns hnew)).mono counted_facts
  refine ⟨?_, ?_⟩
  · obtain ⟨row, hrow⟩ := List.exists_mem_of_ne_nil _ (proposed_nonempty hnew)
    exact List.ne_nil_of_mem (counted_facts _ (List.mem_map_of_mem hrow))
  · cases hstate : db.clicks source clickId with
    | none => simpa [hstate, ← hst] using hsound
    | some stored =>
      simp only [hstate] at hst
      rw [← hst]
      exact mergeClick_sound (hstored stored hstate) hsound

theorem rebuildClickState_columns {db : Db} {source clickId : String}
    {attribution : AttributionResult} {st : ClickState}
    (h : rebuildClickState db source clickId attribution = some st)
    (hstored : ∀ stored, db.clicks source clickId = some stored →
      Sound (facts db source clickId) stored)
    (hshot : OneShot (facts db source clickId))
    (hall : ∀ entry ∈ inbox db source clickId,
      entry.2.attributionStatus ≠ "ambiguous" ∧ entry.2.fbAdFk = attribution.adId) :
    st.columns = summary (facts db source clickId) := by
  rw [rebuildClickState_eq, Option.map_eq_some_iff] at h
  obtain ⟨new, hnew, hst⟩ := h
  have hcolumns := (proposed_columns hnew).trans (congrArg summary (counted_all hall))
  cases hstate : db.clicks source clickId with
  | none => simpa [hstate, ← hst] using hcolumns
  | some stored =>
    simp only [hstate] at hst
    rw [← hst]
    exact mergeClick_columns (hstored stored hstate) hshot hcolumns

-- ------------------------------------------------------------
-- The invariant
-- ------------------------------------------------------------

/-- Every event of the click that is no duplicate was projected for `ad`. -/
def Settled (db : Db) (source clickId : String) (ad : Uuid) : Prop :=
  ∀ entry ∈ inbox db source clickId, entry.2.fbAdFk = some ad ∧
    entry.2.processedAt.isSome = true ∧ entry.2.attributionStatus ≠ "ambiguous"

structure Inv (source clickId : String) (db : Db) : Prop where
  linked : Linked db.queue db.events
  oneShot : OneShot (facts db source clickId)
  origin : db.clicks source clickId ≠ none → facts db source clickId ≠ []
  sound : ∀ st, db.clicks source clickId = some st → Sound (facts db source clickId) st
  settled : ∀ ad, Settled db source clickId ad → facts db source clickId ≠ [] →
    ∃ st, db.clicks source clickId = some st ∧ st.columns = summary (facts db source clickId)

variable {source clickId : String} {db db' : Db}

theorem Inv.empty (source clickId : String) : Inv source clickId Db.empty where
  linked := by
    constructor <;> intro tid <;> intros <;> simp_all [Db.empty, Table.empty]
  oneShot := ⟨Nat.zero_le _, Nat.zero_le _⟩
  origin := fun h => absurd rfl h
  sound := fun st h => by cases h
  settled := fun ad _ h => absurd rfl h

theorem Inv.frame (h : Inv source clickId db) (hl : Linked db'.queue db'.events)
    (hinbox : inbox db' source clickId = inbox db source clickId)
    (hclicks : db'.clicks source clickId = db.clicks source clickId) : Inv source clickId db' := by
  have hfacts : facts db' source clickId = facts db source clickId := by simp only [facts, hinbox]
  constructor
  · exact hl
  · exact hfacts ▸ h.oneShot
  · rw [hclicks, hfacts]
    exact h.origin
  · rw [hclicks, hfacts]
    exact h.sound
  · simp only [Settled, hinbox, hclicks, hfacts]
    exact h.settled

theorem Inv.unsettled (h : Inv source clickId db) (hl : Linked db'.queue db'.events)
    (hfacts : ∀ fact ∈ facts db source clickId, fact ∈ facts db' source clickId)
    (hshot : OneShot (facts db' source clickId))
    (hclicks : db'.clicks source clickId = db.clicks source clickId)
    (hopen : ∀ ad, ¬ Settled db' source clickId ad) : Inv source clickId db' where
  linked := hl
  oneShot := hshot
  origin := by
    intro hsome hnil
    have hne := h.origin (hclicks ▸ hsome)
    obtain ⟨fact, hfact⟩ := List.exists_mem_of_ne_nil _ hne
    simpa [hnil] using hfacts fact hfact
  sound := fun st hst => (h.sound st (hclicks ▸ hst)).mono hfacts
  settled := fun ad hs => absurd hs (hopen ad)

theorem mem_inbox_updateAt {i : Nat} {event : PostbackRow} {change : PostbackRow → PostbackRow}
    (hevents : db'.events = db.events.updateAt i fun row => some (change row))
    (hevent : db.events.rows i = some event) (hsame : SameEvent event (change event))
    (hdup : event.isDuplicate = false) :
    (i, change event) ∈ inbox db' event.source event.clickId := by
  rw [mem_inbox]
  refine ⟨by simp [hevents, hevent], ?_, hsame.isDuplicate.trans hdup⟩
  simp [ofClick, hsame.source, hsame.clickId]

theorem inbox_other {change : Nat → PostbackRow → Option PostbackRow}
    (hevents : db'.events = db.events.update change)
    (hsame : ∀ id row, db.events.rows id = some row → SameEvent row ((change id row).getD row))
    (hother : ∀ id row, db.events.rows id = some row → ofClick source clickId row = true →
      change id row = none) : inbox db' source clickId = inbox db source clickId := by
  rw [inbox_update hevents hsame]
  conv_rhs => rw [← List.map_id (inbox db source clickId)]
  refine List.map_congr_left fun entry hentry => ?_
  obtain ⟨hrow, hof, -⟩ := mem_inbox.mp hentry
  simp [hother entry.1 entry.2 hrow hof]

theorem ofClick_iff {row : PostbackRow} :
    ofClick source clickId row = true ↔ row.source = source ∧ row.clickId = clickId := by
  simp [ofClick]

theorem spreadAttribution_own {i : Nat} {event : PostbackRow}
    (h : event.attributionStatus ≠ "ambiguous") :
    ((spreadAttribution i event (inheritedAttribution db event) i event).getD event).fbAdFk =
      (inheritedAttribution db event).adId := by
  cases hfk : event.fbAdFk with
  | some ad => simp [spreadAttribution, hfk, inheritedAttribution_adId hfk]
  | none =>
    cases had : (inheritedAttribution db event).adId with
    | none => simp [spreadAttribution, had, hfk]
    | some ad => simp [spreadAttribution, had, hfk, ofClick, h]

theorem Inv.rejected {taskId i : Nat} {task : TaskRow} {event : PostbackRow}
    {change : PostbackRow → PostbackRow} (h : Inv source clickId db)
    (hl : Linked db'.queue db'.events) (htask : db.queue.rows taskId = some task)
    (htracker : isTrackerEvent task = true) (hid : eventIdOf task = some i)
    (hevent : db.events.rows i = some event) (hsame : ∀ row, SameEvent row (change row))
    (hstatus : ∀ row, (change row).attributionStatus = "ambiguous")
    (hevents : db'.events = db.events.updateAt i fun row => some (change row))
    (hclicks : db'.clicks = db.clicks) : Inv source clickId db' := by
  have hfacts : facts db' source clickId = facts db source clickId :=
    facts_update hevents (fun id row _ => updateAt_same hsame id row) source clickId
  by_cases hclick : event.source = source ∧ event.clickId = clickId
  · obtain ⟨rfl, rfl⟩ := hclick
    have hdup := h.linked.original taskId task i event htask htracker hid hevent
    refine h.unsettled hl (fun fact hfact => hfacts ▸ hfact) (hfacts ▸ h.oneShot)
      (by rw [hclicks]) fun ad hs => ?_
    exact (hs _ (mem_inbox_updateAt hevents hevent (hsame event) hdup)).2.2 (hstatus event)
  · refine h.frame hl (inbox_other hevents (fun id row _ => updateAt_same hsame id row) ?_)
      (by rw [hclicks])
    intro id row hrow hof
    refine if_neg fun hid => hclick ?_
    rw [hid, hevent] at hrow
    cases hrow
    exact ofClick_iff.mp hof

section Rebuilt

variable {i : Nat} {event : PostbackRow} {change : PostbackRow → PostbackRow} {state : ClickState}

theorem Inv.rebuilt_elsewhere (h : Inv source clickId db) (hl : Linked db'.queue db'.events)
    (hr : Rebuilt db i event change state db')
    (hclick : ¬ (event.source = source ∧ event.clickId = clickId)) : Inv source clickId db' := by
  have hspread : inbox (spreadOver db i event) source clickId = inbox db source clickId := by
    refine inbox_other rfl (fun id row _ => spreadAttribution_same _ _ _ id row) ?_
    intro id row hrow hof
    have hne : ofClick event.source event.clickId row = false := by
      rw [Bool.eq_false_iff]
      intro hof'
      obtain ⟨hs, hc⟩ := ofClick_iff.mp hof
      obtain ⟨hs', hc'⟩ := ofClick_iff.mp hof'
      exact hclick ⟨hs' ▸ hs, hc' ▸ hc⟩
    simp [spreadAttribution, hne]
  have hothers : (∀ id row, (spreadOver db i event).events.rows id = some row →
        ofClick source clickId row = true → (if id = i then some (change row) else none) = none) →
      inbox db' source clickId = inbox (spreadOver db i event) source clickId :=
    inbox_other hr.events fun id row _ => updateAt_same hr.same id row
  refine h.frame hl ((hothers ?_).trans hspread) ?_
  · intro id row hrow hof
    refine if_neg fun hid => hclick ?_
    have hmine := spreadAttribution_same i event (inheritedAttribution db event) i event
    simp only [spreadOver, Table.update_rows, hid, hr.found, Option.map_some,
      Option.some.injEq] at hrow
    obtain ⟨hs, hc⟩ := ofClick_iff.mp hof
    rw [← hrow] at hs hc
    exact ⟨hmine.source ▸ hs, hmine.clickId ▸ hc⟩
  · rw [hr.clicks]
    exact if_neg fun hsc => hclick ⟨hsc.1.symm, hsc.2.symm⟩

/-- After a pass, a settled inbox was all aggregated by its rebuild. -/
theorem Rebuilt.aggregated (hr : Rebuilt db i event change state db')
    (hamb : event.attributionStatus ≠ "ambiguous") (hdup : event.isDuplicate = false) {ad : Uuid}
    (hs : Settled db' event.source event.clickId ad) :
    ∀ entry ∈ inbox (spreadOver db i event) event.source event.clickId,
      entry.2.attributionStatus ≠ "ambiguous" ∧
        entry.2.fbAdFk = (inheritedAttribution db event).adId := by
  let own := (spreadAttribution i event (inheritedAttribution db event) i event).getD event
  have hown : (spreadOver db i event).events.rows i = some own := by
    simp [spreadOver, hr.found, own]
  have hmine : SameEvent event own :=
    spreadAttribution_same i event (inheritedAttribution db event) i event
  have hownAd : own.fbAdFk = (inheritedAttribution db event).adId := spreadAttribution_own hamb
  -- the event of this pass is settled for the ad the pass found
  have hfound : (inheritedAttribution db event).adId = some ad := by
    have hmem : (i, change own) ∈ inbox db' event.source event.clickId := by
      have h : (i, change own) ∈ inbox db' own.source own.clickId :=
        mem_inbox_updateAt hr.events hown (hr.same own) (hmine.isDuplicate.trans hdup)
      rwa [hmine.source, hmine.clickId] at h
    have hset := (hs _ hmem).1
    rw [hr.ad, hownAd] at hset
    cases hf : (inheritedAttribution db event).adId <;> simp [hf] at hset ⊢
    exact hset
  intro entry hentry
  obtain ⟨hrow, hof, hnodup⟩ := mem_inbox.mp hentry
  by_cases hei : entry.1 = i
  · rw [hei, hown] at hrow
    rw [← Option.some.inj hrow]
    exact ⟨spreadAttribution_status hamb (inheritedAttribution_status hamb), hownAd⟩
  · have hset := hs entry (mem_inbox.mpr
      ⟨by simp [hr.events, hrow, hei], hof, hnodup⟩)
    exact ⟨hset.2.2, hset.1.trans hfound.symm⟩

theorem Inv.rebuilt_here (h : Inv event.source event.clickId db) (hl : Linked db'.queue db'.events)
    (hr : Rebuilt db i event change state db') (hamb : event.attributionStatus ≠ "ambiguous")
    (hdup : event.isDuplicate = false) : Inv event.source event.clickId db' := by
  have hfacts := hr.facts event.source event.clickId
  have hmid := (spreadOver_facts db i event event.source event.clickId).trans hfacts.symm
  have hstored : ∀ stored, (spreadOver db i event).clicks event.source event.clickId = some stored →
      Sound (facts (spreadOver db i event) event.source event.clickId) stored := by
    intro stored hst
    rw [spreadOver_facts]
    exact h.sound stored hst
  have hnow : db'.clicks event.source event.clickId = some state := by simp [hr.clicks]
  obtain ⟨hne, hsound⟩ := rebuildClickState_sound hr.projected hstored
  constructor
  · exact hl
  · exact hfacts ▸ h.oneShot
  · exact fun _ => hmid ▸ hne
  · intro st hst
    rw [hnow] at hst
    cases hst
    exact hmid ▸ hsound
  · intro ad hs _
    refine ⟨state, hnow, ?_⟩
    rw [← hmid]
    refine rebuildClickState_columns hr.projected hstored ?_ (hr.aggregated hamb hdup hs)
    rw [spreadOver_facts]
    exact h.oneShot

end Rebuilt

theorem Inv.pass {clk : Clock} {taskId : Nat} {task : TaskRow} (h : Inv source clickId db)
    (htask : db.queue.rows taskId = some task) (htracker : isTrackerEvent task = true)
    (hopen : task.status.terminal = false) (hpass : Pass clk db taskId task db') :
    Inv source clickId db' := by
  have hl := hpass.linked h.linked htask htracker hopen
  cases hpass with
  | untouched op heq => exact h.frame hl (by rw [heq]; rfl) (by rw [heq])
  | rejected f error i event change hid hevent hsame hstatus hheld heq =>
    exact h.rejected hl htask htracker hid hevent hsame hstatus (by rw [heq]; rfl)
      (by rw [heq]; rfl)
  | rebuilt i event state change ops hid hops hrebuilt hqueue =>
    by_cases hclick : event.source = source ∧ event.clickId = clickId
    · obtain ⟨rfl, rfl⟩ := hclick
      exact h.rebuilt_here hl hrebuilt
        (h.linked.open_event htask htracker hid hopen hrebuilt.found)
        (h.linked.original taskId task i event htask htracker hid hrebuilt.found)
    · exact h.rebuilt_elsewhere hl hrebuilt hclick

-- ------------------------------------------------------------
-- Ingest
-- ------------------------------------------------------------

/-- What an ingest stores: nothing, the audit row of a duplicate, or an event
that no stored event is a duplicate of, with its task. -/
inductive Ingested (clk : Clock) (db : Db) (db' : Db) : Prop
  | nothing (heq : db' = db)
  | duplicate (row : PostbackRow) (hdup : row.isDuplicate = true)
      (heq : db' = { db with events := db.events.insert row })
  | event (a : Accepted) (row : PostbackRow) (task : NewTask)
      (hfirst : ∀ id row, db.events.rows id = some row → duplicates a row = false)
      (hsource : row.source = a.source) (hclick : row.clickId = a.clickId)
      (htype : row.eventType = a.eventType) (hdup : row.isDuplicate = false)
      (hstatus : row.attributionStatus ≠ "ambiguous") (hopen : row.processedAt = none)
      (hid : eventIdOf (task.row clk) = some db.events.next)
      (heq : db' = { db with
        events := db.events.insert row, queue := db.queue.insert (task.row clk) })

theorem storeEvent_ingested {isoformat : Int → String} {clk : Clock} {event : PostbackEvent}
    {a : Accepted} {result : IngestResult}
    (hfirst : ∀ id row, db.events.rows id = some row → duplicates a row = false)
    (h : storeEvent isoformat db clk event a = .ok (db', result)) : Ingested clk db db' := by
  simp only [storeEvent] at h
  split at h
  · cases h
  · split at h
    · cases h
    · have heq := (Prod.mk.inj (Except.ok.inj h)).1.symm
      refine .event a _ _ hfirst ?_ ?_ ?_ ?_ ?_ ?_ ?_ heq
      · rfl
      · rfl
      · rfl
      · rfl
      · simp only [newRow]
        exact resolveAttribution_status db.ads event.fbAdId event.raw
      · rfl
      · exact trackerTask_eventId isoformat clk a db.events.next event.receivedAt

theorem ingestPostback_ingested {isoformat : Int → String} {clk : Clock} {event : PostbackEvent}
    {recordDuplicate : Bool} {result : IngestResult}
    (h : ingestPostback isoformat db clk event recordDuplicate = .ok (db', result)) :
    Ingested clk db db' := by
  cases ha : event.accept with
  | error e =>
    rw [ingestPostback, ha] at h
    cases h
  | ok a =>
    cases hlatest : latestBy db.events (duplicates a) with
    | some existing =>
      rw [ingestPostback, ha] at h
      simp only [bind, Except.bind, hlatest, pure, Except.pure, ingestDuplicate,
        Except.ok.injEq] at h
      split at h
      · exact .nothing (Prod.mk.inj h).1.symm
      · exact .duplicate _ rfl (Prod.mk.inj h).1.symm
    | none =>
      rw [ingestPostback, ha] at h
      simp only [bind, Except.bind, hlatest] at h
      exact storeEvent_ingested (fun id row hrow => latestBy_eq_none hlatest hrow) h

theorem timesOf_append (l l' : List Fact) (kind : EventType) :
    timesOf (l ++ l') kind = timesOf l kind ++ timesOf l' kind := by
  simp [timesOf]

/-- The dedupe check lets one registration and one first deposit of a click through. -/
theorem timesOf_first {a : Accepted}
    (hfirst : ∀ id row, db.events.rows id = some row → duplicates a row = false)
    (hkind : a.eventType ≠ .redeposit) :
    timesOf (facts db a.source a.clickId) a.eventType = [] := by
  rw [timesOf, List.map_eq_nil_iff, List.filter_eq_nil_iff]
  intro fact hfact hsame
  obtain ⟨entry, hentry, rfl⟩ := List.mem_map.mp hfact
  obtain ⟨hrow, hof, hdup⟩ := mem_inbox.mp hentry
  obtain ⟨hs, hc⟩ := ofClick_iff.mp hof
  have hno := hfirst entry.1 entry.2 hrow
  simp only [PostbackRow.fact, beq_iff_eq] at hsame
  simp [duplicates, hs, hc, hdup, hsame, hkind] at hno

theorem oneShot_append {a : Accepted} {time : Int}
    (hfirst : ∀ id row, db.events.rows id = some row → duplicates a row = false)
    (h : OneShot (facts db a.source a.clickId)) :
    OneShot (facts db a.source a.clickId ++ [(a.eventType, time)]) := by
  have hnew : ∀ kind, kind ≠ .redeposit → (timesOf (facts db a.source a.clickId) kind).length ≤ 1 →
      (timesOf (facts db a.source a.clickId ++ [(a.eventType, time)]) kind).length ≤ 1 := by
    intro kind hkind hle
    rw [timesOf_append]
    by_cases hk : a.eventType = kind
    · subst hk
      rw [timesOf_first hfirst hkind]
      simp [timesOf]
    · simpa [timesOf, hk] using hle
  exact ⟨hnew .registration (by simp) h.1, hnew .ftd (by simp) h.2⟩

theorem Inv.ingested {clk : Clock} (h : Inv source clickId db) (hi : Ingested clk db db') :
    Inv source clickId db' := by
  cases hi with
  | nothing heq => exact heq ▸ h
  | duplicate row hdup heq =>
    subst heq
    refine h.frame (h.linked.insertDuplicate row) ?_ rfl
    rw [inbox_insert rfl, hdup]
    simp
  | event a row task hfirst hsource hclick htype hdup hstatus hopen hid heq =>
    subst heq
    have hl := h.linked.insertEvent hdup hstatus hid
    have hinbox : inbox
          { db with events := db.events.insert row, queue := db.queue.insert (task.row clk) }
          source clickId = inbox db source clickId ++
        if ofClick source clickId row && !row.isDuplicate then [(db.events.next, row)] else [] :=
      inbox_insert rfl source clickId
    by_cases hof : ofClick source clickId row = true
    · obtain ⟨rfl, rfl⟩ := ofClick_iff.mp hof
      rw [hof, hdup] at hinbox
      have hfacts : facts { db with
          events := db.events.insert row, queue := db.queue.insert (task.row clk) }
          row.source row.clickId = facts db row.source row.clickId ++ [row.fact] := by
        simp [facts, hinbox]
      refine h.unsettled hl ?_ ?_ rfl ?_
      · intro fact hfact
        rw [hfacts]
        exact List.mem_append_left _ hfact
      · rw [hfacts, PostbackRow.fact, htype, hsource, hclick]
        exact oneShot_append hfirst (hsource ▸ hclick ▸ h.oneShot)
      · intro ad hs
        have hnew := (hs (db.events.next, row) (by simp [hinbox])).2.1
        simp [hopen] at hnew
    · refine h.frame hl ?_ rfl
      rw [hinbox]
      simp [hof]

-- ------------------------------------------------------------
-- Runs
-- ------------------------------------------------------------

theorem Inv.step (isoformat : Int → String) (h : Inv source clickId db) (label : Label) :
    Inv source clickId (Tracker.step isoformat db label) := by
  cases label with
  | ingest clk event recordDuplicate =>
    cases hok : ingestPostback isoformat db clk event recordDuplicate with
    | error e =>
      simp only [Tracker.step, hok]
      exact h
    | ok out =>
      simp only [Tracker.step, hok]
      exact h.ingested (ingestPostback_ingested hok)
  | process clk taskId f =>
    cases hsome : processEventTask isoformat db clk taskId f with
    | none =>
      simp only [Tracker.step, hsome]
      exact h
    | some out =>
      obtain ⟨task, htask, htracker, hopen, hpass⟩ := processEventTask_pass hsome
      simp only [Tracker.step, hsome]
      exact h.pass htask htracker hopen hpass
  | queue clk op => exact h.frame (h.linked.step clk op.foreign) rfl rfl
  | catalog ads => exact h.frame h.linked rfl rfl

theorem Inv.run (isoformat : Int → String) (source clickId : String) (labels : List Label) :
    Inv source clickId (Lib.run (Tracker.step isoformat) Db.empty labels) :=
  run_preserves (fun _ label h => h.step isoformat label) (Inv.empty source clickId) labels

theorem Inv.columns (h : Inv source clickId db) {ad : Uuid} (hs : Settled db source clickId ad) :
    (db.clicks source clickId).map ClickState.columns =
      if facts db source clickId = [] then none else some (summary (facts db source clickId)) := by
  by_cases hnil : facts db source clickId = []
  · rw [if_pos hnil]
    cases hst : db.clicks source clickId with
    | none => rfl
    | some st => exact absurd hnil (h.origin (by simp [hst]))
  · obtain ⟨st, hst, hcols⟩ := h.settled ad hs hnil
    rw [if_neg hnil, hst, Option.map_some, hcols]

/-- Two runs with the same events of a click, in whatever order they were
ingested and projected and whatever else happened, end in the same columns once
every event is projected for its ad: the earliest times of the events and the
confirmation they make. -/
theorem projection_order_independent (isoformat : Int → String) (labels labels' : List Label)
    {source clickId : String} {ad ad' : Uuid}
    (hsettled : Settled (run (step isoformat) Db.empty labels) source clickId ad)
    (hsettled' : Settled (run (step isoformat) Db.empty labels') source clickId ad')
    (hsame : (facts (run (step isoformat) Db.empty labels) source clickId).Perm
      (facts (run (step isoformat) Db.empty labels') source clickId)) :
    ((run (step isoformat) Db.empty labels).clicks source clickId).map ClickState.columns =
        ((run (step isoformat) Db.empty labels').clicks source clickId).map ClickState.columns ∧
      ∀ events, events = facts (run (step isoformat) Db.empty labels) source clickId → events ≠ [] →
        ∃ st, (run (step isoformat) Db.empty labels).clicks source clickId = some st ∧
          st.registrationAt = (timesOf events .registration).min? ∧
          st.ftdAt = (timesOf events .ftd).min? ∧
          st.confirmedDepositAt = confirmedDepositAt st.registrationAt st.ftdAt ∧
          st.registration = st.registrationAt.isSome ∧ st.ftd = st.ftdAt.isSome ∧
          st.confirmedDeposit = st.confirmedDepositAt.isSome ∧
          st.redeposits = (timesOf events .redeposit).length := by
  have hinv := Inv.run isoformat source clickId labels
  have hinv' := Inv.run isoformat source clickId labels'
  refine ⟨?_, ?_⟩
  · rw [hinv.columns hsettled, hinv'.columns hsettled', summary_perm hsame]
    simp only [← List.length_eq_zero_iff, hsame.length_eq]
  · rintro events rfl hne
    obtain ⟨st, hst, hcols⟩ := hinv.settled ad hsettled hne
    simp only [ClickState.columns, summary, Columns.mk.injEq] at hcols
    obtain ⟨hr, hf, hc, hra, hfa, hca, hrd⟩ := hcols
    refine ⟨st, hst, hra, hfa, ?_, ?_, ?_, ?_, hrd⟩
    · rw [hca, hra, hfa]
    · rw [hr, hra]
    · rw [hf, hfa]
    · rw [hc, hca]

instance {ad : Uuid} : Decidable (Settled db source clickId ad) :=
  inferInstanceAs (Decidable (∀ entry ∈ inbox db source clickId, _))

def arrival (t : Int) (kind : String) (occurredAt : Int) : Label :=
  .ingest ⟨t, t, t⟩
    { clickId := some "c1", fbAdId := some "ad1", eventType := some kind, receivedAt := t
      providerEventId := some kind, occurredAt := some occurredAt } true

/-- The oldest open event is claimed and the task `id` is projected at its first attempt. -/
def projection (t : Int) (id : Nat) : List Label :=
  [.queue ⟨t, t, t⟩ ⟨.claimEvent 7 600 [], rfl⟩, .process ⟨t, t, t⟩ id ⟨some 7, some 1⟩]

def catalogOne : Label :=
  .catalog fun fbAdId => if fbAdId = "ad1" then some 3 else none

def inOrder : List Label :=
  [catalogOne, arrival 100 "reg" 10, arrival 101 "ftd" 20, arrival 102 "redeposit" 30] ++
    projection 110 0 ++ projection 111 1 ++ projection 112 2

/-- The same events backwards, each projected before the next one arrives. -/
def backwards : List Label :=
  [catalogOne, arrival 100 "redeposit" 30] ++ projection 110 0 ++ [arrival 120 "ftd" 20] ++
    projection 121 1 ++ [arrival 130 "reg" 10] ++ projection 131 2

theorem projection_order_independent_three :
    ((run (step toString) Db.empty inOrder).clicks "adsetpro" "c1").map ClickState.columns =
      ((run (step toString) Db.empty backwards).clicks "adsetpro" "c1").map ClickState.columns ∧
    ((run (step toString) Db.empty backwards).clicks "adsetpro" "c1").map ClickState.columns =
      some ⟨true, true, true, some 10, some 20, some 20, 1⟩ :=
  ⟨(@projection_order_independent toString inOrder backwards "adsetpro" "c1" 3 3
    (by decide +kernel) (by decide +kernel) (by decide +kernel)).1, by decide +kernel⟩

end StopBot.Tracker
