import StopBot.Tasks.Lifecycle
import StopBot.Tracker.Projection

/-!
# The projection does not depend on the order

Events of a click arrive in any order, are projected in any order, and some
passes run before the ad is known. Whatever happened on the way, once every
event of the click is settled the projected columns are a function of the set
of events. The inbox keeps one registration and one deposit per click; without
that the confirmation, which the first pass that can compute it decides, would
depend on the order.
-/

namespace StopBot.Tracker

open Lib Tasks

-- ------------------------------------------------------------
-- What the events of a click say
-- ------------------------------------------------------------

structure Columns where
  registration : Bool
  ftd : Bool
  confirmedDeposit : Bool
  registrationAt : Option Int
  ftdAt : Option Int
  confirmedDepositAt : Option Int
  redeposits : Nat
  deriving DecidableEq, Repr

def ClickState.columns (st : ClickState) : Columns :=
  { registration := st.registration
    ftd := st.ftd
    confirmedDeposit := st.confirmedDeposit
    registrationAt := st.registrationAt
    ftdAt := st.ftdAt
    confirmedDepositAt := st.confirmedDepositAt
    redeposits := st.redeposits }

abbrev Fact := EventType × Int

def PostbackRow.fact (row : PostbackRow) : Fact := (row.eventType, row.occurredAt)

def timesOf (facts : List Fact) (kind : EventType) : List Int :=
  (facts.filter fun fact => fact.1 == kind).map (·.2)

def summary (facts : List Fact) : Columns :=
  let registrationAt := (timesOf facts .registration).min?
  let ftdAt := (timesOf facts .ftd).min?
  let confirmedAt := confirmedDepositAt registrationAt ftdAt
  { registration := registrationAt.isSome
    ftd := ftdAt.isSome
    confirmedDeposit := confirmedAt.isSome
    registrationAt
    ftdAt
    confirmedDepositAt := confirmedAt
    redeposits := (timesOf facts .redeposit).length }

theorem times_eq (events : List PostbackRow) (kind : EventType) :
    times events kind = timesOf (events.map PostbackRow.fact) kind := by
  simp [times, timesOf, List.filter_map, PostbackRow.fact, Function.comp_def]

theorem timesOf_perm {facts facts' : List Fact} (h : facts.Perm facts') (kind : EventType) :
    (timesOf facts kind).Perm (timesOf facts' kind) :=
  (h.filter _).map _

theorem min?_perm {l l' : List Int} (h : l.Perm l') : l.min? = l'.min? := by
  cases hmin : l'.min? with
  | none => rw [List.min?_eq_none_iff] at hmin ⊢; exact List.Perm.eq_nil (hmin ▸ h)
  | some m =>
    rw [List.min?_eq_some_iff] at hmin ⊢
    exact ⟨h.mem_iff.mpr hmin.1, fun b hb => hmin.2 b (h.mem_iff.mp hb)⟩

theorem summary_perm {facts facts' : List Fact} (h : facts.Perm facts') :
    summary facts = summary facts' := by
  simp only [summary, min?_perm (timesOf_perm h _), (timesOf_perm h _).length_eq]

-- ------------------------------------------------------------
-- The inbox of a click
-- ------------------------------------------------------------

def inbox (db : Db) (source clickId : String) : List (Nat × PostbackRow) :=
  db.events.entries.filter fun entry => ofClick source clickId entry.2 && !entry.2.isDuplicate

def facts (db : Db) (source clickId : String) : List Fact :=
  (inbox db source clickId).map fun entry => entry.2.fact

/-- Nothing that the inbox or the facts of an event depend on is different. -/
structure SameEvent (row row' : PostbackRow) : Prop where
  source : row'.source = row.source
  clickId : row'.clickId = row.clickId
  isDuplicate : row'.isDuplicate = row.isDuplicate
  fact : row'.fact = row.fact

theorem mem_inbox {db : Db} {source clickId : String} {id : Nat} {row : PostbackRow} :
    (id, row) ∈ inbox db source clickId ↔
      db.events.rows id = some row ∧ ofClick source clickId row = true ∧
        row.isDuplicate = false := by
  simp [inbox, Table.mem_entries]

theorem inbox_update {db db' : Db} {change : Nat → PostbackRow → Option PostbackRow}
    (hevents : db'.events = db.events.update change)
    (hsame : ∀ id row, db.events.rows id = some row → SameEvent row ((change id row).getD row))
    (source clickId : String) :
    inbox db' source clickId =
      (inbox db source clickId).map fun entry =>
      (entry.1, (change entry.1 entry.2).getD entry.2) := by
  simp only [inbox, hevents, Table.entries_update, List.filter_map]
  congr 1
  refine List.filter_congr fun entry hentry => ?_
  have h := hsame entry.1 entry.2 (Table.mem_entries.mp hentry)
  simp [ofClick, h.source, h.clickId, h.isDuplicate]

theorem facts_update {db db' : Db} {change : Nat → PostbackRow → Option PostbackRow}
    (hevents : db'.events = db.events.update change)
    (hsame : ∀ id row, db.events.rows id = some row → SameEvent row ((change id row).getD row))
    (source clickId : String) : facts db' source clickId = facts db source clickId := by
  rw [facts, inbox_update hevents hsame, List.map_map, facts]
  refine List.map_congr_left fun entry hentry => ?_
  exact (hsame entry.1 entry.2 (mem_inbox.mp hentry).1).fact

theorem inbox_insert {db db' : Db} {row : PostbackRow}
    (hevents : db'.events = db.events.insert row) (source clickId : String) :
    inbox db' source clickId = inbox db source clickId ++
      if ofClick source clickId row && !row.isDuplicate then [(db.events.next, row)] else [] := by
  simp only [inbox, hevents, Table.entries_insert, List.filter_append, List.filter_singleton,
    Bool.cond_eq_ite]

-- ------------------------------------------------------------
-- The projected row
-- ------------------------------------------------------------

structure Sound (events : List Fact) (st : ClickState) : Prop where
  registration : st.registration = st.registrationAt.isSome
  ftd : st.ftd = st.ftdAt.isSome
  confirmedDeposit : st.confirmedDeposit = st.confirmedDepositAt.isSome
  registrationAt : ∀ t, st.registrationAt = some t → t ∈ timesOf events .registration
  ftdAt : ∀ t, st.ftdAt = some t → t ∈ timesOf events .ftd
  confirmedDepositAt : ∀ t, st.confirmedDepositAt = some t →
    ∃ r ∈ timesOf events .registration, ∃ f ∈ timesOf events .ftd, t = max r f

theorem confirmedDepositAt_eq_some {r f : Option Int} {t : Int}
    (h : confirmedDepositAt r f = some t) : ∃ x y, r = some x ∧ f = some y ∧ t = max x y := by
  cases r <;> cases f <;> simp [confirmedDepositAt] at h
  exact ⟨_, _, rfl, rfl, h.symm⟩

theorem timesOf_mono {l l' : List Fact} (h : ∀ x ∈ l, x ∈ l') {kind : EventType} {t : Int}
    (ht : t ∈ timesOf l kind) : t ∈ timesOf l' kind := by
  simp only [timesOf, List.mem_map, List.mem_filter] at ht ⊢
  obtain ⟨fact, ⟨hmem, hkind⟩, rfl⟩ := ht
  exact ⟨fact, ⟨h fact hmem, hkind⟩, rfl⟩

theorem Sound.mono {l l' : List Fact} {st : ClickState} (h : Sound l st) (hsub : ∀ x ∈ l, x ∈ l') :
    Sound l' st where
  registration := h.registration
  ftd := h.ftd
  confirmedDeposit := h.confirmedDeposit
  registrationAt := fun t ht => timesOf_mono hsub (h.registrationAt t ht)
  ftdAt := fun t ht => timesOf_mono hsub (h.ftdAt t ht)
  confirmedDepositAt := by
    intro t ht
    obtain ⟨r, hr, f, hf, rfl⟩ := h.confirmedDepositAt t ht
    exact ⟨r, timesOf_mono hsub hr, f, timesOf_mono hsub hf, rfl⟩

theorem proposed_columns {events : List PostbackRow} {attribution : AttributionResult}
    {st : ClickState} (h : proposed events attribution = some st) :
    st.columns = summary (events.map PostbackRow.fact) := by
  simp only [proposed, bind, Option.bind_eq_some_iff, pure, Option.some.injEq] at h
  obtain ⟨_, -, rfl⟩ := h
  simp only [ClickState.columns, summary, times_eq]

theorem sound_of_columns {events : List Fact} {st : ClickState} (h : st.columns = summary events) :
    Sound events st := by
  simp only [ClickState.columns, summary, Columns.mk.injEq] at h
  obtain ⟨hr, hf, hc, hra, hfa, hca, -⟩ := h
  refine ⟨by rw [hr, hra], by rw [hf, hfa], by rw [hc, hca], ?_, ?_, ?_⟩
  · exact fun t ht => List.min?_mem (hra ▸ ht)
  · exact fun t ht => List.min?_mem (hfa ▸ ht)
  · intro t ht
    obtain ⟨x, y, hx, hy, rfl⟩ := confirmedDepositAt_eq_some (hca ▸ ht)
    exact ⟨x, List.min?_mem hx, y, List.min?_mem hy, rfl⟩

theorem merge_least (a b : Option Int) : (least a b <|> a <|> b) = least a b := by
  cases a <;> cases b <;> rfl

theorem least_mem {a b : Option Int} {t : Int} (h : least a b = some t) :
    a = some t ∨ b = some t := by
  cases a <;> cases b <;> simp [least] at h ⊢ <;> omega

theorem mergeClick_sound {events : List Fact} {stored new : ClickState} (hs : Sound events stored)
    (hn : Sound events new) : Sound events (mergeClick stored new) := by
  constructor
  · simp only [mergeClick, merge_least, hs.registration, hn.registration]
    cases stored.registrationAt <;> cases new.registrationAt <;> rfl
  · simp only [mergeClick, merge_least, hs.ftd, hn.ftd]
    cases stored.ftdAt <;> cases new.ftdAt <;> rfl
  · simp only [mergeClick, hs.confirmedDeposit, hn.confirmedDeposit]
    cases stored.confirmedDepositAt <;> cases new.confirmedDepositAt <;> rfl
  · intro t ht
    simp only [mergeClick, merge_least] at ht
    exact (least_mem ht).elim (hs.registrationAt t) (hn.registrationAt t)
  · intro t ht
    simp only [mergeClick, merge_least] at ht
    exact (least_mem ht).elim (hs.ftdAt t) (hn.ftdAt t)
  · intro t ht
    simp only [mergeClick] at ht
    cases hc : stored.confirmedDepositAt with
    | some u => exact hs.confirmedDepositAt t (by simpa [hc] using ht)
    | none => exact hn.confirmedDepositAt t (by simpa [hc] using ht)

def OneShot (events : List Fact) : Prop :=
  (timesOf events .registration).length ≤ 1 ∧ (timesOf events .ftd).length ≤ 1

theorem min?_of_length_le_one {l : List Int} (h : l.length ≤ 1) {t : Int} (ht : t ∈ l) :
    l.min? = some t := by
  match l, h with
  | [x], _ =>
    rw [List.mem_singleton.mp ht]
    rfl

theorem least_min? {l : List Int} {a : Option Int} (h : ∀ t, a = some t → t ∈ l) :
    least a l.min? = l.min? := by
  cases ha : a with
  | none => rfl
  | some t =>
    have hmem := h t ha
    cases hm : l.min? with
    | none => rw [List.min?_eq_none_iff] at hm; simp [hm] at hmem
    | some m =>
      have hle := (List.min?_eq_some_iff.mp hm).2 t hmem
      simp only [least]
      rw [Int.min_eq_right hle]

/-- A sound row, merged with the row of all events, is the row of all events. -/
theorem mergeClick_columns {events : List Fact} {stored new : ClickState} (hs : Sound events stored)
    (hshot : OneShot events) (hn : new.columns = summary events) :
    (mergeClick stored new).columns = summary events := by
  have hsound := mergeClick_sound hs (sound_of_columns hn)
  simp only [ClickState.columns, summary, Columns.mk.injEq] at hn ⊢
  obtain ⟨-, -, -, hra, hfa, hca, hrd⟩ := hn
  have hreg : (mergeClick stored new).registrationAt = (timesOf events .registration).min? := by
    simp only [mergeClick, merge_least, hra]
    exact least_min? hs.registrationAt
  have hftd : (mergeClick stored new).ftdAt = (timesOf events .ftd).min? := by
    simp only [mergeClick, merge_least, hfa]
    exact least_min? hs.ftdAt
  have hconf : (mergeClick stored new).confirmedDepositAt =
      confirmedDepositAt (timesOf events .registration).min? (timesOf events .ftd).min? := by
    simp only [mergeClick]
    cases hc : stored.confirmedDepositAt with
    | none => simpa using hca
    | some t =>
      -- the stored confirmation was made by the one registration and the one deposit
      obtain ⟨r, hr, f, hf, rfl⟩ := hs.confirmedDepositAt t hc
      rw [min?_of_length_le_one hshot.1 hr, min?_of_length_le_one hshot.2 hf]
      rfl
  exact ⟨by rw [hsound.registration, hreg], by rw [hsound.ftd, hftd],
    by rw [hsound.confirmedDeposit, hconf], hreg, hftd, hconf, hrd⟩

-- ------------------------------------------------------------
-- Tasks and events
-- ------------------------------------------------------------

/-- Every tracker task is the only one of a stored event that is no duplicate,
and has ended once the event is given up as ambiguous. -/
structure Linked (q : Queue) (events : Table PostbackRow) : Prop where
  bounded : ∀ tid row i, q.rows tid = some row → isTrackerEvent row = true →
    eventIdOf row = some i → i < events.next
  single : ∀ tid tid' row row' i, q.rows tid = some row → q.rows tid' = some row' →
    isTrackerEvent row = true → isTrackerEvent row' = true →
    eventIdOf row = some i → eventIdOf row' = some i → tid = tid'
  original : ∀ tid row i event, q.rows tid = some row → isTrackerEvent row = true →
    eventIdOf row = some i → events.rows i = some event → event.isDuplicate = false
  closed : ∀ tid row i event, q.rows tid = some row → isTrackerEvent row = true →
    eventIdOf row = some i → events.rows i = some event →
    event.attributionStatus = "ambiguous" → row.status.terminal = true

theorem tracker_step {clk : Clock} {row row' : TaskRow} (h : RowStep clk row row')
    (htracker : isTrackerEvent row' = true) :
    isTrackerEvent row = true ∧ eventIdOf row = eventIdOf row' := by
  obtain ⟨htype, -, hpayload⟩ := h.identity
  simp only [isTrackerEvent, htype, beq_iff_eq] at htracker ⊢
  refine ⟨htracker, ?_⟩
  rw [eventIdOf, eventIdOf, hpayload (by rw [htracker]; decide)]

theorem Linked.step {q : Queue} {events : Table PostbackRow} (h : Linked q events) (clk : Clock)
    {op : QueueOp} (hop : createsTrackerTask op = false) :
    Linked (Tasks.step q (clk, op)) events := by
  have hback : ∀ tid row', (Tasks.step q (clk, op)).rows tid = some row' →
      isTrackerEvent row' = true → ∃ row, q.rows tid = some row ∧ isTrackerEvent row = true ∧
        eventIdOf row = eventIdOf row' ∧
          (row.status.terminal = true → row'.status.terminal = true) := by
    intro tid row' hrow' htracker
    cases hrow : q.rows tid with
    | none =>
      obtain ⟨task, rfl, -, rfl⟩ := step_created _ hrow hrow'
      simp only [createsTrackerTask] at hop
      simp [isTrackerEvent, NewTask.row] at htracker
      simp [htracker] at hop
    | some row =>
      obtain ⟨row'', hrow'', hstep⟩ := step_stored (clk, op) hrow
      rw [hrow'] at hrow''
      cases hrow''
      obtain ⟨ht, he⟩ := tracker_step hstep htracker
      exact ⟨row, rfl, ht, he, fun hterm => (hstep.frozen hterm).status ▸ hterm⟩
  constructor
  · intro tid row' i hrow' ht hi
    obtain ⟨row, hrow, ht', he, -⟩ := hback tid row' hrow' ht
    exact h.bounded tid row i hrow ht' (he.trans hi)
  · intro tid tid' row row' i hrow hrow' ht ht' hi hi'
    obtain ⟨r, hr, hrt, hre, -⟩ := hback tid row hrow ht
    obtain ⟨r', hr', hrt', hre', -⟩ := hback tid' row' hrow' ht'
    exact h.single tid tid' r r' i hr hr' hrt hrt' (hre.trans hi) (hre'.trans hi')
  · intro tid row' i event hrow' ht hi hevent
    obtain ⟨row, hrow, ht', he, -⟩ := hback tid row' hrow' ht
    exact h.original tid row i event hrow ht' (he.trans hi) hevent
  · intro tid row' i event hrow' ht hi hevent hamb
    obtain ⟨row, hrow, ht', he, hterm⟩ := hback tid row' hrow' ht
    exact hterm (h.closed tid row i event hrow ht' (he.trans hi) hevent hamb)

theorem Linked.pass {q : Queue} {events : Table PostbackRow} (h : Linked q events)
    {change : Nat → PostbackRow → Option PostbackRow}
    (hsame : ∀ id row, events.rows id = some row → SameEvent row ((change id row).getD row))
    (hstatus : ∀ tid row i event, q.rows tid = some row → isTrackerEvent row = true →
      eventIdOf row = some i → events.rows i = some event →
      ((change i event).getD event).attributionStatus = "ambiguous" →
      row.status.terminal = true) :
    Linked q (events.update change) where
  bounded := h.bounded
  single := h.single
  original := by
    intro tid row i event' hrow ht hi hevent'
    rw [Table.update_rows, Option.map_eq_some_iff] at hevent'
    obtain ⟨event, hevent, rfl⟩ := hevent'
    exact (hsame i event hevent).isDuplicate.trans (h.original tid row i event hrow ht hi hevent)
  closed := by
    intro tid row i event' hrow ht hi hevent' hamb
    rw [Table.update_rows, Option.map_eq_some_iff] at hevent'
    obtain ⟨event, hevent, rfl⟩ := hevent'
    exact hstatus tid row i event hrow ht hi hevent hamb

theorem Linked.insertDuplicate {q : Queue} {events : Table PostbackRow} (h : Linked q events)
    (row : PostbackRow) : Linked q (events.insert row) := by
  -- no task points past the sequence, so none points at the new row
  have hold : ∀ tid task i event, q.rows tid = some task → isTrackerEvent task = true →
      eventIdOf task = some i → (events.insert row).rows i = some event →
      events.rows i = some event := by
    intro tid task i event htask ht hi hevent
    have hlt := h.bounded tid task i htask ht hi
    rwa [Table.insert_rows, if_neg (by omega)] at hevent
  exact {
    bounded := fun tid task i htask ht hi => Nat.lt_succ_of_lt (h.bounded tid task i htask ht hi)
    single := h.single
    original := fun tid task i event htask ht hi hevent =>
      h.original tid task i event htask ht hi (hold tid task i event htask ht hi hevent)
    closed := fun tid task i event htask ht hi hevent =>
      h.closed tid task i event htask ht hi (hold tid task i event htask ht hi hevent) }

theorem Linked.insertEvent {q : Queue} {events : Table PostbackRow} (h : Linked q events)
    {row : PostbackRow} (hrow : row.isDuplicate = false)
    (hstatus : row.attributionStatus ≠ "ambiguous")
    {task : TaskRow} (htask : eventIdOf task = some events.next) :
    Linked (q.insert task) (events.insert row) := by
  have hrows := h.insertDuplicate row
  constructor
  · intro tid t i ht htr hi
    rw [Table.insert_rows] at ht
    split at ht
    · cases ht
      rw [htask] at hi
      cases hi
      exact Nat.lt_succ_self _
    · exact hrows.bounded tid t i ht htr hi
  · intro tid tid' t t' i ht ht' htr htr' hi hi'
    rw [Table.insert_rows] at ht ht'
    split at ht <;> split at ht' <;> rename_i hid hid'
    · rw [hid, hid']
    · cases ht
      rw [htask] at hi
      cases hi
      exact absurd (h.bounded tid' t' _ ht' htr' hi') (Nat.lt_irrefl _)
    · cases ht'
      rw [htask] at hi'
      cases hi'
      exact absurd (h.bounded tid t _ ht htr hi) (Nat.lt_irrefl _)
    · exact h.single tid tid' t t' i ht ht' htr htr' hi hi'
  · intro tid t i event ht htr hi hevent
    rw [Table.insert_rows] at ht
    split at ht
    · cases ht
      rw [htask] at hi
      cases hi
      rw [Table.insert_rows, if_pos rfl] at hevent
      cases hevent
      exact hrow
    · exact hrows.original tid t i event ht htr hi hevent
  · intro tid t i event ht htr hi hevent hamb
    rw [Table.insert_rows] at ht
    split at ht
    · cases ht
      rw [htask] at hi
      cases hi
      rw [Table.insert_rows, if_pos rfl] at hevent
      cases hevent
      exact absurd hamb hstatus
    · exact hrows.closed tid t i event ht htr hi hevent hamb

-- ------------------------------------------------------------
-- What an ingest reads and writes
-- ------------------------------------------------------------

theorem resolveAttribution_status (ads : String → Option Uuid) (fbAdId : Option String)
    (raw : Obj) :
    (resolveAttribution ads fbAdId raw).status ≠ "ambiguous" := by
  simp only [resolveAttribution]
  split
  · simp
  · split <;> simp

theorem latestBy_eq_none {t : Table PostbackRow} {p : PostbackRow → Bool} (h : latestBy t p = none)
    {id : Nat} {row : PostbackRow} (hrow : t.rows id = some row) : p row = false := by
  have hnil := Sql.first_eq_none h
  rw [List.filter_eq_nil_iff] at hnil
  simpa using hnil (id, row) (Table.mem_entries.mpr hrow)

theorem trackerTask_eventId (isoformat : Int → String) (clk : Clock) (a : Accepted) (eventId : Nat)
    (receivedAt : Int) :
    eventIdOf ((trackerTask isoformat clk a eventId receivedAt).row clk) = some eventId := by
  simp [eventIdOf, trackerTask, NewTask.row, Obj.get?]

end StopBot.Tracker
