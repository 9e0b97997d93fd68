import StopBot.Tracker.Order

/-!
# Concurrent ingests

An ingest takes the advisory lock of its dedupe key, looks for a stored event
that it duplicates, and then writes and commits. Between the two, transactions
of other keys read and commit. What the inbox stores is told by identities: the
click of a one-shot event, the provider id of a redeposit.
-/

namespace StopBot.Tracker

open Lib Tasks

-- ------------------------------------------------------------
-- Identities and locks
-- ------------------------------------------------------------

def EventType.text : EventType → String
  | .registration => "registration"
  | .ftd => "ftd"
  | .redeposit => "redeposit"

def Accepted.dedupeKey (a : Accepted) : String :=
  if a.eventType = .redeposit then a.source ++ ":provider:" ++ a.providerEventId.getD ""
  else a.source ++ ":click:" ++ a.clickId ++ ":" ++ a.eventType.text

abbrev Identity := String × EventType × String

def identityOf (source : String) (eventType : EventType) (clickId : String)
    (providerEventId : Option String) : Identity :=
  (source, eventType, if eventType = .redeposit then providerEventId.getD "" else clickId)

def Accepted.identity (a : Accepted) : Identity :=
  identityOf a.source a.eventType a.clickId a.providerEventId

def PostbackRow.identity (row : PostbackRow) : Identity :=
  identityOf row.source row.eventType row.clickId row.providerEventId

-- ------------------------------------------------------------
-- Transactions
-- ------------------------------------------------------------

structure Txn where
  event : PostbackEvent
  accepted : Accepted
  recordDuplicate : Bool
  existing : Option (Nat × PostbackRow)

structure Inbox where
  db : Db
  txns : List Txn

inductive Act
  | begin (event : PostbackEvent) (recordDuplicate : Bool)
  | finish (clk : Clock) (i : Nat)

section
variable (hashtext : String → Int) (isoformat : Int → String)

/-- The lock is taken and the stored events are read; an ingest whose lock is
taken waits. -/
def beginIngest (s : Inbox) (event : PostbackEvent) (recordDuplicate : Bool) : Option Inbox :=
  match event.accept with
  | .error _ => none
  | .ok a =>
    if s.txns.any fun t => hashtext t.accepted.dedupeKey == hashtext a.dedupeKey then none
    else
      let existing := latestBy s.db.events (duplicates a)
      some { s with txns := s.txns ++ [{ event, accepted := a, recordDuplicate, existing }] }

/-- What a transaction leaves behind; one that raises is rolled back. -/
def Txn.commit (t : Txn) (db : Db) (clk : Clock) : Db :=
  match t.existing with
  | some existing => (ingestDuplicate db clk t.event t.accepted t.recordDuplicate existing).1
  | none =>
    match storeEvent isoformat db clk t.event t.accepted with
    | .ok (db', _) => db'
    | .error _ => db

def act (s : Inbox) : Act → Option Inbox
  | .begin event recordDuplicate => beginIngest hashtext s event recordDuplicate
  | .finish clk i => s.txns[i]?.map fun t =>
    { db := t.commit isoformat s.db clk, txns := s.txns.eraseIdx i }

end

def begun (acts : List Act) : List PostbackEvent :=
  acts.filterMap fun
    | .begin event _ => some event
    | .finish _ _ => none

def originals (db : Db) : List (Nat × PostbackRow) :=
  db.events.entries.filter fun entry => !entry.2.isDuplicate

def identities (db : Db) : List Identity :=
  (originals db).map fun entry => entry.2.identity

def tasksOf (db : Db) (eventId : Nat) : List (Nat × TaskRow) :=
  db.queue.entries.filter fun entry => isTrackerEvent entry.2 && eventIdOf entry.2 == some eventId

-- ------------------------------------------------------------
-- Postbacks
-- ------------------------------------------------------------

def Accepted.fitsColumns (a : Accepted) (event : PostbackEvent) : Bool :=
  a.source.length ≤ 32 && a.clickId.length ≤ 128 && a.providerEventId.all (·.length ≤ 128) &&
    event.fbAdId.all (·.length ≤ 64) &&
    (resolveAttribution (fun _ => none) event.fbAdId event.raw).fbAdId.all (·.length ≤ 64)

/-- A postback that the checks accept and whose values fit their columns. -/
def PostbackEvent.valid (event : PostbackEvent) : Bool :=
  match event.accept with
  | .error _ => false
  | .ok a => a.fitsColumns event

def lookupId (event : PostbackEvent) (a : Accepted) : Option String :=
  storedProviderId (newRow event a none none false "")

/-- No registration and no deposit carries the provider id of the redeposit. -/
def Unshared (events : List PostbackEvent) (a : Accepted) : Prop :=
  a.eventType = .redeposit → ∀ other ∈ events, ∀ b, other.accept = .ok b →
    b.eventType ≠ .redeposit → b.source = a.source → lookupId other b ≠ a.providerEventId

/-- Nothing but the same event has its click, type and time. -/
def Clear (events : List PostbackEvent) (event : PostbackEvent) (a : Accepted) : Prop :=
  ∀ other ∈ events, ∀ b, other.accept = .ok b → b.clickId = a.clickId →
    b.eventType = a.eventType → other.receivedAt = event.receivedAt → b.identity = a.identity

/-- `datetime.isoformat` of an aware time: a date of ten characters, then the
time, with or without microseconds, and the offset. -/
structure IsoText (isoformat : Int → String) : Prop where
  date : ∀ t, ':' ∉ (isoformat t).toList.take 10
  long : ∀ t, 25 ≤ (isoformat t).toList.length
  short : ∀ t, (isoformat t).toList.length ≤ 32

-- ------------------------------------------------------------
-- Keys of the tasks
-- ------------------------------------------------------------

/-- `tracker:event:`. -/
def keyHead : List Char := "tracker:event:".toList

theorem length_keyHead : keyHead.length = 14 := by decide

def taskKey (source : String) (eventId : Nat) (iso : String) : List Char :=
  keyHead ++ (source.toList ++ ':' :: (toString eventId).toList) ++ ':' :: iso.toList

theorem toList_parts (head source digits iso : String) :
    (toString head ++ toString source ++ toString ":" ++ digits ++ toString ":" ++
      toString iso).toList = head.toList ++ (source.toList ++ ':' :: digits.toList) ++ ':' ::
        iso.toList := by
  have hcolon : ":".toList = [':'] := rfl
  have hself : ∀ text : String, toString text = text := fun _ => rfl
  simp only [hself, String.toList_append, hcolon, List.append_assoc, List.cons_append,
    List.nil_append]

theorem trackerTask_key {isoformat : Int → String} (hiso : IsoText isoformat) {clk : Clock}
    {a : Accepted} {eventId : Nat} {receivedAt : Int} (hsource : a.source.length ≤ 32)
    (hid : (toString eventId).toList.length ≤ 40) :
    (trackerTask isoformat clk a eventId receivedAt).idempotencyKey.toList =
      taskKey a.source eventId (isoformat receivedAt) := by
  have hshort := hiso.short receivedAt
  have hlength : (taskKey a.source eventId (isoformat receivedAt)).length ≤ 128 := by
    simp only [taskKey, List.length_append, List.length_cons, String.length_toList,
      length_keyHead] at hshort hid ⊢
    omega
  simp only [trackerTask, PyText.clip, String.toList_ofList]
  rw [toList_parts]
  exact List.take_of_length_le hlength

theorem iso_aligned {isoformat : Int → String} (hiso : IsoText isoformat) {t t' : Int}
    {x x' : List Char}
    (h : x ++ ':' :: (isoformat t).toList = x' ++ ':' :: (isoformat t').toList) : x = x' := by
  have hshift : ∀ {t t' : Int} {v : List Char},
      (isoformat t).toList ≠ v ++ ':' :: (isoformat t').toList := by
    intro t t' v heq
    have hlong := hiso.long t'
    have hshort := hiso.short t
    have hcolon : ':' ∈ (isoformat t).toList.take 10 := by
      have hlen := congrArg List.length heq
      simp only [List.length_append, List.length_cons] at hlen
      rw [heq, List.take_append]
      refine List.mem_append_right _ ?_
      obtain ⟨n, hn⟩ : ∃ n, 10 - v.length = n + 1 := ⟨9 - v.length, by omega⟩
      rw [hn, List.take_succ_cons]
      exact List.mem_cons_self
    exact hiso.date t hcolon
  obtain ⟨w, rfl, hw⟩ | ⟨w, rfl, hw⟩ := List.append_eq_append_iff.mp h
  · cases w with
    | nil => simp
    | cons c w =>
      obtain ⟨-, hw⟩ := List.cons.inj hw
      exact absurd hw hshift
  · cases w with
    | nil => simp
    | cons c w =>
      obtain ⟨-, hw⟩ := List.cons.inj hw
      exact absurd hw hshift

theorem taskKey_eventId {isoformat : Int → String} (hiso : IsoText isoformat)
    {source source' : String} {i j : Nat} {t t' : Int}
    (h : taskKey source i (isoformat t) = taskKey source' j (isoformat t')) : i = j := by
  have hxs := congrArg List.reverse (List.append_cancel_left (iso_aligned hiso h))
  simp only [List.reverse_append, List.reverse_cons, List.append_assoc] at hxs
  have hdigits : ∀ (n : Nat) (rest : List Char),
      ((toString n).toList.reverse ++ ([':'] ++ rest)).takeWhile (· != ':') =
        (toString n).toList.reverse := by
    intro n rest
    have hall : ∀ c ∈ (toString n).toList.reverse, (c != ':') = true := by
      intro c hc
      have hcolon := PyText.notMem_toString_nat (c := ':') (by decide) n
      rw [bne_iff_ne]
      rintro rfl
      exact hcolon (List.mem_reverse.mp hc)
    rw [List.takeWhile_append_of_pos hall]
    simp
  apply PyText.toString_nat_inj
  rw [← List.reverse_inj, ← hdigits i, ← hdigits j, hxs]

-- ------------------------------------------------------------
-- What a commit leaves behind
-- ------------------------------------------------------------

structure Describes (event : PostbackEvent) (a : Accepted) (row : PostbackRow) : Prop where
  source : row.source = a.source
  clickId : row.clickId = a.clickId
  eventType : row.eventType = a.eventType
  providerEventId : row.providerEventId = a.providerEventId
  receivedAt : row.receivedAt = event.receivedAt
  lookup : storedProviderId row = lookupId event a

theorem describes_newRow (event : PostbackEvent) (a : Accepted) (fbAdId : Option String)
    (fbAdFk : Option Uuid) (isDuplicate : Bool) (status : String) :
    Describes event a (newRow event a fbAdId fbAdFk isDuplicate status) :=
  ⟨rfl, rfl, rfl, rfl, rfl, rfl⟩

theorem Describes.identity {event : PostbackEvent} {a : Accepted} {row : PostbackRow}
    (h : Describes event a row) : row.identity = a.identity := by
  simp only [PostbackRow.identity, Accepted.identity, h.source, h.clickId, h.eventType,
    h.providerEventId]

/-- The commit of a transaction: nothing new where the row is there already, the
audit row of a duplicate, or the event with its task. -/
inductive Committed (isoformat : Int → String) (clk : Clock) (t : Txn) (db : Db) : Db → Prop
  | kept (id : Nat) (row : PostbackRow) (hexisting : t.existing = some (id, row)) :
      Committed isoformat clk t db db
  | duplicate (id : Nat) (row audit : PostbackRow) (hexisting : t.existing = some (id, row))
      (hdup : audit.isDuplicate = true) (haudit : Describes t.event t.accepted audit) :
      Committed isoformat clk t db { db with events := db.events.insert audit }
  | taken (hexisting : t.existing = none)
      (htaken : dedupTaken db.events t.accepted t.event.receivedAt = true) :
      Committed isoformat clk t db db
  | refused (hexisting : t.existing = none) (htaken : keyTaken db.queue
      (trackerTask isoformat clk t.accepted db.events.next t.event.receivedAt).idempotencyKey =
        true) :
      Committed isoformat clk t db db
  | event (row : PostbackRow) (hexisting : t.existing = none) (hdup : row.isDuplicate = false)
      (hstatus : row.attributionStatus ≠ "ambiguous") (hrow : Describes t.event t.accepted row) :
      Committed isoformat clk t db { db with
        events := db.events.insert row
        queue := db.queue.insert ((trackerTask isoformat clk t.accepted db.events.next
          t.event.receivedAt).row clk) }

theorem commit_committed (isoformat : Int → String) (clk : Clock) (t : Txn) (db : Db) :
    Committed isoformat clk t db (t.commit isoformat db clk) := by
  unfold Txn.commit
  cases hexisting : t.existing with
  | some existing =>
    simp only [ingestDuplicate]
    split
    · exact .kept _ _ hexisting
    · exact .duplicate _ _ _ hexisting rfl ⟨rfl, rfl, rfl, rfl, rfl, rfl⟩
  | none =>
    simp only [storeEvent]
    split
    · rename_i heq
      split at heq
      · cases heq
      · split at heq
        · cases heq
        · obtain rfl := (Prod.mk.inj (Except.ok.inj heq)).1
          generalize hattribution :
            resolveAttribution db.ads t.event.fbAdId t.event.raw = attribution
          have hstatus := resolveAttribution_status db.ads t.event.fbAdId t.event.raw
          rw [hattribution] at hstatus
          exact .event _ hexisting rfl hstatus (describes_newRow ..)
    · rename_i heq
      split at heq
      · rename_i htaken
        exact .taken hexisting htaken
      · split at heq
        · rename_i htaken
          exact .refused hexisting htaken
        · cases heq

-- ------------------------------------------------------------
-- The stored events
-- ------------------------------------------------------------

structure Stored (isoformat : Int → String) (seen : List PostbackEvent) (db : Db) : Prop where
  described : ∀ id row, db.events.rows id = some row → ∃ event ∈ seen, ∃ a,
    event.accept = .ok a ∧ Describes event a row
  single : ∀ id id' row row', db.events.rows id = some row → db.events.rows id' = some row' →
    row.isDuplicate = false → row'.isDuplicate = false → row.identity = row'.identity → id = id'
  duplicate : ∀ id row, db.events.rows id = some row → row.isDuplicate = true →
    ∃ event ∈ seen, ∃ a, event.accept = .ok a ∧ Describes event a row ∧
      ∃ id' row', db.events.rows id' = some row' ∧ duplicates a row' = true
  linked : Linked db.queue db.events
  tasked : ∀ id row, db.events.rows id = some row → row.isDuplicate = false →
    ∃ tid task, db.queue.rows tid = some task ∧ isTrackerEvent task = true ∧
      eventIdOf task = some id
  keys : ∀ tid task, db.queue.rows tid = some task → ¬ keyHead <+: task.idempotencyKey.toList ∨
    ∃ source id t, id < db.events.next ∧
      task.idempotencyKey.toList = taskKey source id (isoformat t)

/-- An inbox before the first postback, beside tasks of other kinds. -/
structure Fresh (db : Db) : Prop where
  events : db.events = Table.empty
  tasks : ∀ tid task, db.queue.rows tid = some task → isTrackerEvent task = false
  keys : ∀ tid task, db.queue.rows tid = some task → ¬ keyHead <+: task.idempotencyKey.toList

section
variable {hashtext : String → Int} {isoformat : Int → String} {seen : List PostbackEvent} {db : Db}
  {event : PostbackEvent} {a : Accepted} {row : PostbackRow}

theorem Fresh.stored (h : Fresh db) : Stored isoformat seen db := by
  have hnone : ∀ id row, db.events.rows id ≠ some row := by
    intro id row hrow
    rw [h.events] at hrow
    cases hrow
  have htask : ∀ tid task, db.queue.rows tid = some task → isTrackerEvent task ≠ true := by
    intro tid task hrow
    simp [h.tasks tid task hrow]
  exact {
    described := fun id row hrow => absurd hrow (hnone id row)
    single := fun id _ row _ hrow => absurd hrow (hnone id row)
    duplicate := fun id row hrow => absurd hrow (hnone id row)
    linked := {
      bounded := fun tid task _ hrow ht => absurd ht (htask tid task hrow)
      single := fun tid _ task _ _ hrow _ ht => absurd ht (htask tid task hrow)
      original := fun tid task _ _ hrow ht => absurd ht (htask tid task hrow)
      closed := fun tid task _ _ hrow ht => absurd ht (htask tid task hrow) }
    tasked := fun id row hrow => absurd hrow (hnone id row)
    keys := fun tid task hrow => .inl (h.keys tid task hrow) }

theorem Stored.seen_mono (h : Stored isoformat seen db) {seen' : List PostbackEvent}
    (hsub : ∀ event ∈ seen, event ∈ seen') : Stored isoformat seen' db where
  described id row hrow := by
    obtain ⟨event, hmem, hrest⟩ := h.described id row hrow
    exact ⟨event, hsub event hmem, hrest⟩
  single := h.single
  duplicate id row hrow hdup := by
    obtain ⟨event, hmem, hrest⟩ := h.duplicate id row hrow hdup
    exact ⟨event, hsub event hmem, hrest⟩
  linked := h.linked
  tasked := h.tasked
  keys := h.keys

theorem rows_insert {t : Table PostbackRow} {new row : PostbackRow} {id : Nat}
    (h : (t.insert new).rows id = some row) : (id = t.next ∧ row = new) ∨ t.rows id = some row := by
  rw [Table.insert_rows] at h
  split at h
  · rename_i hid
    exact .inl ⟨hid, (Option.some.inj h).symm⟩
  · exact .inr h

theorem rows_insert_of_rows {α : Type} {t : Table α} {new row : α} {id : Nat}
    (h : t.rows id = some row) : (t.insert new).rows id = some row := by
  have := Table.lt_next_of_rows h
  rw [Table.insert_rows, if_neg (by omega), h]

theorem Stored.insertAudit (h : Stored isoformat seen db) (hmem : event ∈ seen)
    (haccept : event.accept = .ok a) (hrow : Describes event a row) (hdup : row.isDuplicate = true)
    {id : Nat} {original : PostbackRow} (horiginal : db.events.rows id = some original)
    (hdups : duplicates a original = true) :
    Stored isoformat seen { db with events := db.events.insert row } where
  described id' row' hrow' := by
    obtain ⟨rfl, rfl⟩ | hold := rows_insert hrow'
    · exact ⟨event, hmem, a, haccept, hrow⟩
    · exact h.described id' row' hold
  single id₁ id₂ row₁ row₂ h₁ h₂ hd₁ hd₂ heq := by
    obtain ⟨-, rfl⟩ | hold₁ := rows_insert h₁
    · simp [hdup] at hd₁
    · obtain ⟨-, rfl⟩ | hold₂ := rows_insert h₂
      · simp [hdup] at hd₂
      · exact h.single id₁ id₂ row₁ row₂ hold₁ hold₂ hd₁ hd₂ heq
  duplicate id' row' hrow' hdup' := by
    obtain ⟨rfl, rfl⟩ | hold := rows_insert hrow'
    · exact ⟨event, hmem, a, haccept, hrow, id, original, rows_insert_of_rows horiginal, hdups⟩
    · obtain ⟨event', hmem', a', ha', hd', id'', row'', hrow'', hdups'⟩ :=
        h.duplicate id' row' hold hdup'
      exact ⟨event', hmem', a', ha', hd', id'', row'', rows_insert_of_rows hrow'', hdups'⟩
  linked := h.linked.insertDuplicate row
  tasked id' row' hrow' hdup' := by
    obtain ⟨-, rfl⟩ | hold := rows_insert hrow'
    · simp [hdup] at hdup'
    · exact h.tasked id' row' hold hdup'
  keys tid task htask := by
    obtain hother | ⟨source, id', t, hlt, hkey⟩ := h.keys tid task htask
    · exact .inl hother
    · exact .inr ⟨source, id', t, Nat.lt_succ_of_lt hlt, hkey⟩

theorem Stored.insertEvent (h : Stored isoformat seen db) (hmem : event ∈ seen)
    (haccept : event.accept = .ok a) (hrow : Describes event a row) (hdup : row.isDuplicate = false)
    (hstatus : row.attributionStatus ≠ "ambiguous")
    (hfirst : ∀ id old, db.events.rows id = some old → old.isDuplicate = false →
      old.identity ≠ a.identity)
    {clk : Clock} (hkey : (trackerTask isoformat clk a db.events.next
      event.receivedAt).idempotencyKey.toList =
        taskKey a.source db.events.next (isoformat event.receivedAt)) :
    Stored isoformat seen { db with
      events := db.events.insert row
      queue := db.queue.insert ((trackerTask isoformat clk a db.events.next
        event.receivedAt).row clk) } where
  described id' row' hrow' := by
    obtain ⟨rfl, rfl⟩ | hold := rows_insert hrow'
    · exact ⟨event, hmem, a, haccept, hrow⟩
    · exact h.described id' row' hold
  single id₁ id₂ row₁ row₂ h₁ h₂ hd₁ hd₂ heq := by
    obtain ⟨hid₁, rfl⟩ | hold₁ := rows_insert h₁
    · obtain ⟨hid₂, -⟩ | hold₂ := rows_insert h₂
      · rw [hid₁, hid₂]
      · exact absurd (heq.symm.trans hrow.identity) (hfirst id₂ row₂ hold₂ hd₂)
    · obtain ⟨-, rfl⟩ | hold₂ := rows_insert h₂
      · exact absurd (heq.trans hrow.identity) (hfirst id₁ row₁ hold₁ hd₁)
      · exact h.single id₁ id₂ row₁ row₂ hold₁ hold₂ hd₁ hd₂ heq
  duplicate id' row' hrow' hdup' := by
    obtain ⟨-, rfl⟩ | hold := rows_insert hrow'
    · simp [hdup] at hdup'
    · obtain ⟨event', hmem', a', ha', hd', id'', row'', hrow'', hdups'⟩ :=
        h.duplicate id' row' hold hdup'
      exact ⟨event', hmem', a', ha', hd', id'', row'', rows_insert_of_rows hrow'', hdups'⟩
  linked := h.linked.insertEvent hdup hstatus (trackerTask_eventId isoformat clk a _ _)
  tasked id' row' hrow' hdup' := by
    obtain ⟨rfl, rfl⟩ | hold := rows_insert hrow'
    · exact ⟨db.queue.next, _, by rw [Table.insert_rows, if_pos rfl], rfl,
        trackerTask_eventId isoformat clk a _ _⟩
    · obtain ⟨tid, task, htask, ht, hid⟩ := h.tasked id' row' hold hdup'
      exact ⟨tid, task, rows_insert_of_rows htask, ht, hid⟩
  keys tid task htask := by
    rw [Table.insert_rows] at htask
    split at htask
    · obtain rfl := Option.some.inj htask
      exact .inr ⟨a.source, db.events.next, event.receivedAt, Nat.lt_succ_self _, hkey⟩
    · obtain hother | ⟨source, id', t, hlt, hkey'⟩ := h.keys tid task htask
      · exact .inl hother
      · exact .inr ⟨source, id', t, Nat.lt_succ_of_lt hlt, hkey'⟩

theorem Stored.keyFree (h : Stored isoformat seen db) (hiso : IsoText isoformat) {key : String}
    {source : String} {t : Int}
    (hkey : key.toList = taskKey source db.events.next (isoformat t)) :
    keyTaken db.queue key = false := by
  rw [Bool.eq_false_iff]
  intro htaken
  unfold keyTaken at htaken
  obtain ⟨⟨tid, task⟩, hentry, heq⟩ := List.any_eq_true.mp htaken
  have htask := Table.mem_entries.mp hentry
  obtain rfl := beq_iff_eq.mp heq
  obtain hother | ⟨source', id, t', hlt, hkey'⟩ := h.keys tid task htask
  · apply hother
    rw [hkey, taskKey, List.append_assoc]
    exact List.prefix_append _ _
  · have := taskKey_eventId hiso (hkey.symm.trans hkey')
    omega

-- ------------------------------------------------------------
-- Transactions in progress
-- ------------------------------------------------------------

theorem dedupeKey_of_identity {a b : Accepted} (h : a.identity = b.identity) :
    a.dedupeKey = b.dedupeKey := by
  simp only [Accepted.identity, identityOf, Prod.mk.injEq] at h
  obtain ⟨hsource, htype, hname⟩ := h
  unfold Accepted.dedupeKey
  rw [hsource, htype] at *
  split <;> simp_all

def Over (db : Db) (event : PostbackEvent) (a : Accepted) : Prop :=
  ∃ id row, db.events.rows id = some row ∧
    ((row.isDuplicate = false ∧ row.identity = a.identity) ∨ duplicates a row = true ∨
      (row.clickId = a.clickId ∧ row.eventType = a.eventType ∧ row.receivedAt = event.receivedAt))

/-- Beside the stored events, what the open transactions have read. -/
structure Progress (isoformat : Int → String) (seen : List PostbackEvent) (s : Inbox) : Prop where
  stored : Stored isoformat seen s.db
  accepted : ∀ t ∈ s.txns, t.event ∈ seen ∧ t.event.accept = .ok t.accepted
  first : ∀ t ∈ s.txns, t.existing = none → ∀ id row, s.db.events.rows id = some row →
    row.isDuplicate = false → row.identity ≠ t.accepted.identity
  found : ∀ t ∈ s.txns, ∀ id row, t.existing = some (id, row) →
    s.db.events.rows id = some row ∧ duplicates t.accepted row = true
  locked : s.txns.Pairwise fun t u => t.accepted.identity ≠ u.accepted.identity
  settled : ∀ event ∈ seen, (∃ t ∈ s.txns, t.event = event) ∨
    ∀ a, event.accept = .ok a → Over s.db event a
  counted : s.db.events.next + s.txns.length ≤ seen.length

theorem accept_redeposit (h : event.accept = .ok a) (htype : a.eventType = .redeposit) :
    ∃ provider, a.providerEventId = some provider := by
  unfold PostbackEvent.accept at h
  split at h
  · cases h
  · simp only at h
    split at h
    · cases h
    · split at h
      · cases h
      · rename_i hprovider
        obtain rfl := Except.ok.inj h
        exact Option.ne_none_iff_exists'.mp fun hnone => hprovider ⟨htype, hnone⟩

theorem storedProviderId_of_some {provider : String} (h : row.providerEventId = some provider) :
    storedProviderId row = some provider := by
  simp [storedProviderId, h]

theorem duplicates_of_identity {event' : PostbackEvent} {b : Accepted} (ha : event.accept = .ok a)
    (hb : event'.accept = .ok b) (hrow : Describes event' b row) (hdup : row.isDuplicate = false)
    (hidentity : row.identity = a.identity) : duplicates a row = true := by
  simp only [PostbackRow.identity, Accepted.identity, identityOf, Prod.mk.injEq] at hidentity
  obtain ⟨hsource, htype, hname⟩ := hidentity
  by_cases hredeposit : a.eventType = .redeposit
  · obtain ⟨provider, hprovider⟩ := accept_redeposit ha hredeposit
    obtain ⟨provider', hprovider'⟩ :=
      accept_redeposit hb (hrow.eventType.symm.trans (htype.trans hredeposit))
    rw [← hrow.providerEventId] at hprovider'
    simp only [htype, hredeposit, if_true, hprovider, hprovider', Option.getD_some] at hname
    simp [duplicates, hsource, hdup, hredeposit, hprovider, storedProviderId_of_some hprovider',
      hname]
  · simp only [htype, hredeposit, if_false] at hname
    simp [duplicates, hsource, hdup, hredeposit, hname, htype]

/-- What the lookup finds has the identity, unless a provider id is shared. -/
theorem identity_of_duplicates {events : List PostbackEvent} {event' : PostbackEvent} {b : Accepted}
    (hmem : event' ∈ events) (hb : event'.accept = .ok b)
    (hrow : Describes event' b row) (hunshared : Unshared events a)
    (hdup : duplicates a row = true) : row.isDuplicate = false ∧ row.identity = a.identity := by
  simp only [duplicates, Bool.and_eq_true, beq_iff_eq, Bool.not_eq_true'] at hdup
  obtain ⟨⟨hsource, hfirst⟩, hmatch⟩ := hdup
  refine ⟨hfirst, ?_⟩
  by_cases hredeposit : a.eventType = .redeposit
  · simp only [hredeposit, if_true, Bool.and_eq_true, beq_iff_eq] at hmatch
    have htype : b.eventType = .redeposit := by
      by_contra hne
      exact hunshared hredeposit event' hmem b hb hne (hrow.source.symm.trans hsource)
        (hrow.lookup.symm.trans hmatch.2)
    obtain ⟨provider, hprovider⟩ := accept_redeposit hb htype
    rw [← hrow.providerEventId] at hprovider
    have hsame : row.providerEventId = a.providerEventId := by
      rw [hprovider, ← storedProviderId_of_some hprovider, hmatch.2]
    simp [PostbackRow.identity, Accepted.identity, identityOf, hsource, hsame,
      hrow.eventType, htype,
      hredeposit]
  · simp only [hredeposit, if_false, Bool.and_eq_true, beq_iff_eq] at hmatch
    simp [PostbackRow.identity, Accepted.identity, identityOf, hsource, hmatch, hredeposit]

variable {s s' : Inbox}

theorem Progress.begin {recordDuplicate : Bool} (h : Progress isoformat seen s)
    (hbegin : beginIngest hashtext s event recordDuplicate = some s') :
    Progress isoformat (seen ++ [event]) s' := by
  unfold beginIngest at hbegin
  split at hbegin
  · cases hbegin
  · rename_i a haccept
    split at hbegin
    · cases hbegin
    · rename_i hfree
      obtain rfl := Option.some.inj hbegin
      have hself : event ∈ seen ++ [event] := by simp
      have hstored : Stored isoformat (seen ++ [event]) s.db :=
        h.stored.seen_mono fun e he => List.mem_append_left _ he
      have hnew : ∀ t ∈ s.txns ++ [⟨event, a, recordDuplicate,
          latestBy s.db.events (duplicates a)⟩], t ∈ s.txns ∨
            t = ⟨event, a, recordDuplicate, latestBy s.db.events (duplicates a)⟩ := by
        intro t ht
        simpa using ht
      exact {
        stored := hstored
        accepted := fun t ht => by
          obtain ht | rfl := hnew t ht
          · obtain ⟨hmem, hok⟩ := h.accepted t ht
            exact ⟨List.mem_append_left _ hmem, hok⟩
          · exact ⟨hself, haccept⟩
        first := fun t ht hexisting id row hrow hdup hidentity => by
          obtain ht | rfl := hnew t ht
          · exact h.first t ht hexisting id row hrow hdup hidentity
          · obtain ⟨event', -, b, hb, hdescribes⟩ := hstored.described id row hrow
            have hmissed := latestBy_eq_none hexisting hrow
            rw [duplicates_of_identity haccept hb hdescribes hdup hidentity] at hmissed
            cases hmissed
        found := fun t ht id row hexisting => by
          obtain ht | rfl := hnew t ht
          · exact h.found t ht id row hexisting
          · have hmem := Sql.first_mem hexisting
            rw [List.mem_filter] at hmem
            exact ⟨Table.mem_entries.mp hmem.1, hmem.2⟩
        locked := by
          rw [List.pairwise_append]
          refine ⟨h.locked, List.pairwise_singleton _ _, ?_⟩
          intro t ht u hu
          obtain rfl := List.mem_singleton.mp hu
          intro hidentity
          apply hfree
          rw [List.any_eq_true]
          exact ⟨t, ht, by rw [beq_iff_eq, dedupeKey_of_identity hidentity]⟩
        settled := fun e he => by
          obtain he | he := List.mem_append.mp he
          · obtain ⟨t, ht, rfl⟩ | hover := h.settled e he
            · exact .inl ⟨t, List.mem_append_left _ ht, rfl⟩
            · exact .inr hover
          · obtain rfl := List.mem_singleton.mp he
            exact .inl ⟨_, List.mem_append_right _ (List.mem_singleton.mpr rfl), rfl⟩
        counted := by
          have := h.counted
          simp only [List.length_append, List.length_singleton] at this ⊢
          omega }

theorem Committed.grows {clk : Clock} {t : Txn} {db' : Db} (h : Committed isoformat clk t db db')
    {id : Nat} (hrow : db.events.rows id = some row) : db'.events.rows id = some row := by
  cases h with
  | kept _ _ _ => exact hrow
  | duplicate _ _ _ _ _ _ => exact rows_insert_of_rows hrow
  | taken _ _ => exact hrow
  | refused _ _ => exact hrow
  | event _ _ _ _ _ => exact rows_insert_of_rows hrow

theorem Committed.original {clk : Clock} {t : Txn} {db' : Db}
    (h : Committed isoformat clk t db db') {id : Nat} (hrow : db'.events.rows id = some row)
    (hdup : row.isDuplicate = false) :
    db.events.rows id = some row ∨ row.identity = t.accepted.identity := by
  cases h with
  | kept _ _ _ => exact .inl hrow
  | duplicate _ _ audit _ haudit _ =>
    obtain ⟨-, rfl⟩ | hold := rows_insert hrow
    · simp [haudit] at hdup
    · exact .inl hold
  | taken _ _ => exact .inl hrow
  | refused _ _ => exact .inl hrow
  | event _ _ _ _ hdescribes =>
    obtain ⟨-, rfl⟩ | hold := rows_insert hrow
    · exact .inr hdescribes.identity
    · exact .inl hold

theorem Committed.counted {clk : Clock} {t : Txn} {db' : Db}
    (h : Committed isoformat clk t db db') : db'.events.next ≤ db.events.next + 1 := by
  cases h with
  | kept _ _ _ => exact Nat.le_succ _
  | duplicate _ _ _ _ _ _ => exact Nat.le_refl _
  | taken _ _ => exact Nat.le_succ _
  | refused _ _ => exact Nat.le_succ _
  | event _ _ _ _ _ => exact Nat.le_refl _

theorem Over.mono {db' : Db} (h : Over db event a)
    (hgrows : ∀ id row, db.events.rows id = some row → db'.events.rows id = some row) :
    Over db' event a := by
  obtain ⟨id, row, hrow, hcase⟩ := h
  exact ⟨id, row, hgrows id row hrow, hcase⟩

/-- A commit keeps the inbox in order and settles its postback. -/
theorem Progress.commit (h : Progress isoformat seen s) (hiso : IsoText isoformat)
    (hids : (toString s.db.events.next).toList.length ≤ 40) {t : Txn} (ht : t ∈ s.txns)
    (hsource : t.accepted.source.length ≤ 32) {clk : Clock} {db' : Db}
    (hc : Committed isoformat clk t s.db db') :
    Stored isoformat seen db' ∧ Over db' t.event t.accepted := by
  obtain ⟨hmem, haccept⟩ := h.accepted t ht
  have hkey := @trackerTask_key isoformat hiso clk t.accepted s.db.events.next t.event.receivedAt
    hsource hids
  cases hc with
  | kept id row hexisting =>
    obtain ⟨hrow, hdup⟩ := h.found t ht id row hexisting
    exact ⟨h.stored, id, row, hrow, .inr (.inl hdup)⟩
  | duplicate id row audit hexisting hdup haudit =>
    obtain ⟨hrow, hdups⟩ := h.found t ht id row hexisting
    exact ⟨h.stored.insertAudit hmem haccept haudit hdup hrow hdups, id, row,
      rows_insert_of_rows hrow, .inr (.inl hdups)⟩
  | taken hexisting htaken =>
    refine ⟨h.stored, ?_⟩
    obtain ⟨⟨id, row⟩, hentry, hmatch⟩ := List.any_eq_true.mp htaken
    simp only [Bool.and_eq_true, beq_iff_eq] at hmatch
    exact ⟨id, row, Table.mem_entries.mp hentry, .inr (.inr ⟨hmatch.1.1, hmatch.1.2, hmatch.2⟩)⟩
  | refused hexisting htaken =>
    rw [h.stored.keyFree hiso hkey] at htaken
    cases htaken
  | event row hexisting hdup hstatus hrow =>
    refine ⟨h.stored.insertEvent hmem haccept hrow hdup hstatus (h.first t ht hexisting) hkey,
      s.db.events.next, row, ?_, .inl ⟨hdup, hrow.identity⟩⟩
    rw [Table.insert_rows, if_pos rfl]

theorem Progress.finish (h : Progress isoformat seen s) (hiso : IsoText isoformat)
    (hids : (toString s.db.events.next).toList.length ≤ 40)
    (hsource : ∀ t ∈ s.txns, t.accepted.source.length ≤ 32) {clk : Clock} {i : Nat} {t : Txn}
    (hi : s.txns[i]? = some t) :
    Progress isoformat seen { db := t.commit isoformat s.db clk, txns := s.txns.eraseIdx i } := by
  have ht := List.mem_of_getElem? hi
  have hc := commit_committed isoformat clk t s.db
  obtain ⟨hstored, hover⟩ := h.commit hiso hids ht (hsource t ht) hc
  have hsub := List.eraseIdx_sublist s.txns i
  have hgrows : ∀ id row, s.db.events.rows id = some row →
      (t.commit isoformat s.db clk).events.rows id = some row := fun id row => hc.grows
  have hlocked : ∀ u ∈ s.txns.eraseIdx i, t.accepted.identity ≠ u.accepted.identity := by
    intro u hu
    obtain ⟨j, hj, hju⟩ := List.mem_eraseIdx_iff_getElem?.mp hu
    obtain ⟨hilt, hit⟩ := List.getElem?_eq_some_iff.mp hi
    obtain ⟨hjlt, hjt⟩ := List.getElem?_eq_some_iff.mp hju
    have hpairs := List.pairwise_iff_getElem.mp h.locked
    obtain hlt | hgt := Nat.lt_or_gt_of_ne hj
    · have := hpairs j i hjlt hilt hlt
      rw [hit, hjt] at this
      exact this.symm
    · have := hpairs i j hilt hjlt hgt
      rwa [hit, hjt] at this
  exact {
    stored := hstored
    accepted := fun u hu => h.accepted u (hsub.mem hu)
    first := fun u hu hexisting id row hrow hdup => by
      obtain hold | hidentity := hc.original hrow hdup
      · exact h.first u (hsub.mem hu) hexisting id row hold hdup
      · rw [hidentity]
        exact hlocked u hu
    found := fun u hu id row hexisting => by
      obtain ⟨hrow, hdup⟩ := h.found u (hsub.mem hu) id row hexisting
      exact ⟨hgrows id row hrow, hdup⟩
    locked := h.locked.sublist hsub
    settled := fun e he => by
      obtain ⟨u, hu, rfl⟩ | hdone := h.settled e he
      · obtain ⟨j, hjlt, hj⟩ := List.getElem_of_mem hu
        by_cases hij : j = i
        · subst hij
          obtain rfl : u = t := by
            rw [List.getElem?_eq_getElem hjlt, hj] at hi
            exact Option.some.inj hi
          refine .inr fun a ha => ?_
          obtain rfl := Except.ok.inj ((h.accepted u hu).2.symm.trans ha)
          exact hover
        · refine .inl ⟨u, List.mem_eraseIdx_iff_getElem?.mpr ⟨j, hij, ?_⟩, rfl⟩
          rw [List.getElem?_eq_getElem hjlt, hj]
      · exact .inr fun a ha => (hdone a ha).mono hgrows
    counted := by
      have hcounted := h.counted
      have hnext := hc.counted
      obtain ⟨hilt, -⟩ := List.getElem?_eq_some_iff.mp hi
      rw [List.length_eraseIdx_of_lt hilt]
      simp only at hnext ⊢
      omega }

-- ------------------------------------------------------------
-- Schedules
-- ------------------------------------------------------------

/-- The ids of the table are of type `bigint`. -/
def idLimit : Nat := 2 ^ 63

theorem digits_of_lt {n : Nat} (h : n ≤ idLimit) : (toString n).toList.length ≤ 40 := by
  have hlt : n < 10 ^ 40 := Nat.lt_of_le_of_lt h (by decide)
  simpa using (Nat.length_toDigits_le_iff (by decide) (by decide)).mpr hlt

theorem source_of_valid (h : event.valid = true) (ha : event.accept = .ok a) :
    a.source.length ≤ 32 := by
  unfold PostbackEvent.valid at h
  rw [ha] at h
  simp only [Accepted.fitsColumns, Bool.and_eq_true, decide_eq_true_eq] at h
  exact h.1.1.1.1

/-- Every schedule keeps the inbox in order. -/
theorem Progress.run (hiso : IsoText isoformat) {acts : List Act} (h : Progress isoformat seen s)
    (hvalid : ∀ event ∈ seen ++ begun acts, event.valid = true)
    (hcount : (seen ++ begun acts).length ≤ idLimit)
    (hrun : acts.foldlM (act hashtext isoformat) s = some s') :
    Progress isoformat (seen ++ begun acts) s' := by
  induction acts generalizing seen s with
  | nil =>
    obtain rfl := Option.some.inj hrun
    simpa [begun] using h
  | cons step rest ih =>
    rw [List.foldlM_cons, Option.bind_eq_bind, Option.bind_eq_some_iff] at hrun
    obtain ⟨mid, hmid, hrest⟩ := hrun
    cases step with
    | begin event recordDuplicate =>
      have hseen : seen ++ begun (.begin event recordDuplicate :: rest) =
          seen ++ [event] ++ begun rest := by
        simp [begun]
      rw [hseen] at hvalid hcount ⊢
      simp only [act] at hmid
      exact ih (h.begin hmid) hvalid hcount hrest
    | finish clk i =>
      simp only [act] at hmid
      obtain ⟨t, hi, rfl⟩ := Option.map_eq_some_iff.mp hmid
      have hseen : seen ++ begun (.finish clk i :: rest) = seen ++ begun rest := by
        simp [begun]
      rw [hseen] at hvalid hcount ⊢
      have hnext : s.db.events.next ≤ idLimit := by
        have := h.counted
        rw [List.length_append] at hcount
        omega
      have hsource : ∀ u ∈ s.txns, u.accepted.source.length ≤ 32 := by
        intro u hu
        obtain ⟨hmem, haccept⟩ := h.accepted u hu
        exact source_of_valid (hvalid _ (List.mem_append_left _ hmem)) haccept
      exact ih (h.finish hiso (digits_of_lt hnext) hsource hi) hvalid hcount hrest

theorem Fresh.progress (h : Fresh db) : Progress isoformat [] { db, txns := [] } where
  stored := h.stored
  accepted := by simp
  first := by simp
  found := by simp
  locked := .nil
  settled := by simp
  counted := by simp [h.events, Table.empty]

theorem Unshared.of_identity {event' : PostbackEvent} {b : Accepted} (h : Unshared seen a)
    (ha : event.accept = .ok a) (hb : event'.accept = .ok b) (hidentity : b.identity = a.identity) :
    Unshared seen b := by
  intro hredeposit
  simp only [Accepted.identity, identityOf, Prod.mk.injEq] at hidentity
  obtain ⟨hsource, htype, hname⟩ := hidentity
  have hredeposit' : a.eventType = .redeposit := htype.symm.trans hredeposit
  obtain ⟨provider, hprovider⟩ := accept_redeposit ha hredeposit'
  obtain ⟨provider', hprovider'⟩ := accept_redeposit hb hredeposit
  simp only [hredeposit, hredeposit', if_true, hprovider, hprovider', Option.getD_some] at hname
  rw [hprovider', hname, ← hprovider, hsource]
  exact h hredeposit'

theorem Stored.identity_mem (h : Stored isoformat seen db) (ha : event.accept = .ok a)
    (hover : Over db event a)
    (hunshared : Unshared seen a) (hclear : Clear seen event a) : a.identity ∈ identities db := by
  have hmem : ∀ {id row}, db.events.rows id = some row → row.isDuplicate = false →
      row.identity = a.identity → a.identity ∈ identities db := by
    intro id row hrow hdup hidentity
    refine List.mem_map.mpr ⟨(id, row), ?_, hidentity⟩
    exact List.mem_filter.mpr ⟨Table.mem_entries.mpr hrow, by simp [hdup]⟩
  have hdups : ∀ {b : Accepted} {id : Nat} {row : PostbackRow}, b.identity = a.identity →
      Unshared seen b → db.events.rows id = some row → duplicates b row = true →
      a.identity ∈ identities db := by
    intro b id row hb hunshared' hrow hdup
    obtain ⟨event', hmem', c, hc, hdescribes⟩ := h.described id row hrow
    obtain ⟨hfirst, hidentity⟩ := identity_of_duplicates hmem' hc hdescribes hunshared' hdup
    exact hmem hrow hfirst (hidentity.trans hb)
  obtain ⟨id, row, hrow, ⟨hdup, hidentity⟩ | hdup | ⟨hclick, htype, htime⟩⟩ := hover
  · exact hmem hrow hdup hidentity
  · exact hdups rfl hunshared hrow hdup
  · obtain ⟨event', hmem', b, hb, hdescribes⟩ := h.described id row hrow
    have hidentity : b.identity = a.identity :=
      hclear event' hmem' b hb (hdescribes.clickId.symm.trans hclick)
        (hdescribes.eventType.symm.trans htype) (hdescribes.receivedAt.symm.trans htime)
    cases hdup : row.isDuplicate with
    | false => exact hmem hrow hdup (hdescribes.identity.trans hidentity)
    | true =>
      obtain ⟨event'', -, c, hc, hdescribes', id', original, horiginal, hdups'⟩ :=
        h.duplicate id row hrow hdup
      have hc' : c.identity = a.identity :=
        hdescribes'.identity.symm.trans (hdescribes.identity.trans hidentity)
      exact hdups hc' (hunshared.of_identity ha hc hc') horiginal hdups'

theorem Stored.nodup_identities (h : Stored isoformat seen db) : (identities db).Nodup := by
  unfold identities
  rw [List.Nodup, List.pairwise_map]
  refine (db.events.entries_pairwise.filter _).imp_of_mem ?_
  rintro ⟨id, row⟩ ⟨id', row'⟩ hmem hmem' hlt heq
  obtain ⟨hrow, hdup⟩ := List.mem_filter.mp hmem
  obtain ⟨hrow', hdup'⟩ := List.mem_filter.mp hmem'
  have hid := h.single id id' row row' (Table.mem_entries.mp hrow) (Table.mem_entries.mp hrow')
    (by simpa using hdup) (by simpa using hdup') heq
  exact Nat.ne_of_lt hlt hid

theorem Stored.one_task (h : Stored isoformat seen db) {id : Nat}
    (hrow : db.events.rows id = some row) (hdup : row.isDuplicate = false) :
    (tasksOf db id).length = 1 := by
  obtain ⟨tid, task, htask, htracker, hevent⟩ := h.tasked id row hrow hdup
  have hpairs : (tasksOf db id).Pairwise fun a b => a.1 < b.1 :=
    db.queue.entries_pairwise.filter _
  have hmem : (tid, task) ∈ tasksOf db id :=
    List.mem_filter.mpr ⟨Table.mem_entries.mpr htask, by simp [htracker, hevent]⟩
  have honly : ∀ entry ∈ tasksOf db id, entry.1 = tid := by
    rintro ⟨tid', task'⟩ hentry
    obtain ⟨htask', hmatch⟩ := List.mem_filter.mp hentry
    simp only [Bool.and_eq_true, beq_iff_eq] at hmatch
    exact h.linked.single tid' tid task' task id (Table.mem_entries.mp htask') htask hmatch.1
      htracker hmatch.2 hevent
  cases htasks : tasksOf db id with
  | nil => simp [htasks] at hmem
  | cons first rest =>
    cases rest with
    | nil => rfl
    | cons second rest =>
      rw [htasks] at hpairs honly
      have hlt := (List.pairwise_cons.mp hpairs).1 second List.mem_cons_self
      rw [honly first (by simp), honly second (by simp)] at hlt
      exact absurd hlt (Nat.lt_irrefl _)

/-- Whatever the order and the interleaving of the ingests: every event stored is
one of the postbacks, no event is stored twice, each has one processing task, and
a postback is stored unless its click, type and time are also those of another
event or its provider id is that of a one-shot event. -/
theorem ingest_exactly_once (hiso : IsoText isoformat) (hdb : Fresh db) {acts : List Act}
    (hvalid : ∀ event ∈ begun acts, event.valid = true) (hcount : (begun acts).length ≤ idLimit)
    (hrun : acts.foldlM (act hashtext isoformat) { db, txns := [] } = some s')
    (hdone : s'.txns = []) :
    (identities s'.db).Nodup ∧
    (∀ name ∈ identities s'.db, ∃ event ∈ begun acts, ∃ a, event.accept = .ok a ∧
      a.identity = name) ∧
    (∀ event ∈ begun acts, ∀ a, event.accept = .ok a → Clear (begun acts) event a →
      Unshared (begun acts) a → a.identity ∈ identities s'.db) ∧
    ∀ entry ∈ originals s'.db, (tasksOf s'.db entry.1).length = 1 := by
  have h : Progress isoformat (begun acts) s' := by
    simpa using hdb.progress.run hiso (by simpa using hvalid) (by simpa using hcount) hrun
  refine ⟨h.stored.nodup_identities, fun name hname => ?_,
    fun event hevent a ha hclear hunshared => ?_,
    fun entry hentry => ?_⟩
  · obtain ⟨⟨id, row⟩, hentry, rfl⟩ := List.mem_map.mp hname
    obtain ⟨hrow, -⟩ := List.mem_filter.mp hentry
    obtain ⟨event, hevent, a, ha, hdescribes⟩ :=
      h.stored.described id row (Table.mem_entries.mp hrow)
    exact ⟨event, hevent, a, ha, hdescribes.identity.symm⟩
  · obtain ⟨t, ht, -⟩ | hover := h.settled event hevent
    · simp [hdone] at ht
    · exact h.stored.identity_mem ha (hover a ha) hunshared hclear
  · obtain ⟨hrow, hdup⟩ := List.mem_filter.mp hentry
    exact h.stored.one_task (Table.mem_entries.mp hrow) (by simpa using hdup)

end

def noon : Int → String := fun _ => "2026-08-19T12:00:00+00:00"

theorem noon_isoText : IsoText noon := by
  refine ⟨fun t => ?_, fun t => ?_, fun t => ?_⟩ <;> unfold noon <;> decide

theorem fresh_empty : Fresh Db.empty where
  events := rfl
  tasks _ _ h := by cases h
  keys _ _ h := by cases h

def postback (kind provider : String) (receivedAt : Int) : PostbackEvent :=
  { clickId := some "c1", fbAdId := none, eventType := some kind, receivedAt
    providerEventId := some provider }

def overlapping (first second : PostbackEvent) : List Act :=
  [.begin first true, .begin second true, .finish ⟨0, 0, 0⟩ 1, .finish ⟨0, 0, 0⟩ 0]

def inTurn (first second : PostbackEvent) : List Act :=
  [.begin first true, .finish ⟨0, 0, 0⟩ 0, .begin second true, .finish ⟨0, 0, 0⟩ 0]

def inboxAfter (acts : List Act) : Option Inbox :=
  acts.foldlM (act (fun key => key.length) noon) { db := Db.empty, txns := [] }

/-- The transactions left open by a schedule, and the identities it stored. -/
def summaryAfter (acts : List Act) : Option (Nat × List Identity) :=
  (inboxAfter acts).map fun s => (s.txns.length, identities s.db)

theorem ingest_exactly_once_two :
    ∃ s, inboxAfter (overlapping (postback "reg" "tx-1" 1) (postback "redep" "tx-2" 2)) = some s ∧
      s.txns = [] ∧ (identities s.db).Nodup ∧ identities s.db =
        [("adsetpro", .redeposit, "tx-2"), ("adsetpro", .registration, "c1")] := by
  have hsummary : summaryAfter (overlapping (postback "reg" "tx-1" 1) (postback "redep" "tx-2" 2)) =
      some (0, [("adsetpro", .redeposit, "tx-2"), ("adsetpro", .registration, "c1")]) := by
    decide +kernel
  have hvalid : ∀ event ∈ begun (overlapping (postback "reg" "tx-1" 1) (postback "redep" "tx-2" 2)),
      event.valid = true := by
    decide +kernel
  obtain ⟨s, hs, heq⟩ := Option.map_eq_some_iff.mp hsummary
  obtain ⟨htxns, hids⟩ := Prod.mk.inj heq
  have hdone := List.length_eq_zero_iff.mp htxns
  exact ⟨s, hs, hdone,
    (ingest_exactly_once noon_isoText fresh_empty hvalid (by decide) hs hdone).1, hids⟩

/-- One provider id on a registration and a redeposit: whether the redeposit is
stored depends on the order. -/
theorem shared_provider_id_order :
    summaryAfter (inTurn (postback "reg" "tx" 1) (postback "redep" "tx" 2)) =
      some (0, [("adsetpro", .registration, "c1")]) ∧
    summaryAfter (inTurn (postback "redep" "tx" 2) (postback "reg" "tx" 1)) =
      some (0, [("adsetpro", .redeposit, "tx"), ("adsetpro", .registration, "c1")]) ∧
    (begun (inTurn (postback "reg" "tx" 1) (postback "redep" "tx" 2))).Perm
      (begun (inTurn (postback "redep" "tx" 2) (postback "reg" "tx" 1))) := by
  refine ⟨by decide +kernel, by decide +kernel, ?_⟩
  exact List.Perm.swap _ _ []

end StopBot.Tracker
