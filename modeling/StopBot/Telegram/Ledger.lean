import StopBot.Telegram.Deliveries

/-!
# What every operation keeps

The rows of the outbox refer to each other and stay closed once they are
settled. One lemma for each way the tables change (a row-wise update, an
event, a delivery, an incident, a claim); the operations are made of these.
-/

namespace StopBot.Telegram

open Lib Outbox

variable {s s' : Outbox} {d d' : Delivery} {id : Nat}

def Delivery.settled (d : Delivery) : Bool :=
  d.state == .sent || d.state == .unknown || d.state == .superseded

/-- What no statement changes of a row. -/
structure Kept (d d' : Delivery) : Prop where
  event : d'.eventId = d.eventId
  recipient : d'.recipientId = d.recipientId
  settled : d.settled = true → d'.state = d.state
  dead : d'.state = .dead → d.state = .dead ∧ d'.lastErrorCode = d.lastErrorCode ∨
    d'.lastErrorCode ≠ some unauthorizedCode

structure Moves (d d' : Delivery) : Prop extends Kept d d' where
  queued : d'.queued = true → d.queued = true ∨ d.state = .leased
  leased : d'.state = .leased → d.state = .leased ∧ d'.leaseToken = d.leaseToken

def boundAcks (spec : EventSpec) : Prop :=
  ∀ i, spec.incidentId = some i → ∀ a ∈ spec.actions, a.kind = "ack_incident" →
    a.targetType = "incident" ∧ a.targetId = toString i ∧
      (sqlGeneration a.targetPayload).isSome = true

structure Claimed (s : Outbox) (c : Claim) : Prop where
  row : ∃ d, s.deliveries.rows c.deliveryId = some d ∧ d.eventId = c.eventId ∧
    d.recipientId = c.recipientId
  event : ∃ e, s.events.rows c.eventId = some e ∧ e.spec = c.event
  acks : boundAcks c.event

structure Ledger (s : Outbox) : Prop where
  stored : ∀ id d, s.deliveries.rows id = some d → ∃ e, s.events.rows d.eventId = some e
  created : ∀ id e, s.events.rows id = some e → e.createdAt ≤ s.now
  anchored : ∀ id e i, s.events.rows id = some e → e.spec.incidentId = some i →
    (s.incidents.rows i).isSome = true
  unique : ∀ id d id' d', s.deliveries.rows id = some d → s.deliveries.rows id' = some d' →
    d.eventId = d'.eventId → d.recipientId = d'.recipientId → id = id'
  keys : ∀ id e id' e', s.events.rows id = some e → s.events.rows id' = some e' →
    e.dedupeKey = e'.dedupeKey → id = id'
  claimed : ∀ token c, s.claims.rows token = some c → Claimed s c
  revivable : ∀ id d, s.deliveries.rows id = some d → d.state = .dead →
    d.lastErrorCode ≠ some unauthorizedCode
  reissued : ∀ id e source r, s.events.rows id = some e → e.dedupeKey = .reissue source r →
    ∃ id d, s.deliveries.rows id = some d ∧ d.eventId = source ∧ d.recipientId = r ∧
      (d.state = .unknown ∨ d.state = .superseded)
  auth : ∀ id e i g, s.events.rows id = some e → e.dedupeKey = .authOpen i g →
    e.spec.incidentId = some i

/-- A reissue has its source delivery closed; the key of an authorization
incident names the incident. -/
structure KeyFits (s : Outbox) (key : DedupeKey) (spec : EventSpec) : Prop where
  source : ∀ source r, key = .reissue source r →
    ∃ id d, s.deliveries.rows id = some d ∧ d.eventId = source ∧ d.recipientId = r ∧
      (d.state = .unknown ∨ d.state = .superseded)
  auth : ∀ i g, key = .authOpen i g → spec.incidentId = some i

-- ------------------------------------------------------------
-- Rows
-- ------------------------------------------------------------

theorem Delivery.queued_iff : d.queued = true ↔ d.state = .pending ∨ d.state = .retry := by
  simp [Delivery.queued]

theorem leasedBy_iff {token : Nat} :
    d.leasedBy token = true ↔ d.state = .leased ∧ d.leaseToken = some token := by
  simp [Delivery.leasedBy]

theorem unstarted_open (h : d.unstarted = true) : d.queued = true ∨ d.state = .leased := by
  simp only [Delivery.unstarted, Bool.or_eq_true, Bool.and_eq_true, beq_iff_eq] at h
  exact h.imp id And.left

theorem settled_not_open (h : d.settled = true) : d.queued = false ∧ d.state ≠ .leased := by
  cases hs : d.state <;> simp_all [Delivery.settled, Delivery.queued]

theorem Moves.refl (d : Delivery) : Moves d d :=
  ⟨⟨rfl, rfl, fun _ => rfl, fun h => .inl ⟨h, rfl⟩⟩, .inl, fun h => ⟨h, rfl⟩⟩

theorem Moves.close (hopen : d.queued = true ∨ d.state = .leased) (hevent : d'.eventId = d.eventId)
    (hrecipient : d'.recipientId = d.recipientId)
    (hclosed : d'.queued = false ∧ d'.state ≠ .leased)
    (hdead : d'.state = .dead → d'.lastErrorCode ≠ some unauthorizedCode) : Moves d d' where
  event := hevent
  recipient := hrecipient
  settled := by
    intro hs
    obtain ⟨hq, hl⟩ := settled_not_open hs
    rcases hopen with hopen | hopen
    · rw [hq] at hopen
      cases hopen
    · exact absurd hopen hl
  queued := by
    intro hq
    rw [hclosed.1] at hq
    cases hq
  leased := fun hl => absurd hl hclosed.2
  dead := fun hd => .inr (hdead hd)

theorem Moves.supersede {now : Int} {code : String} {detail : Option String}
    (hopen : d.queued = true ∨ d.state = .leased) : Moves d (d.supersede now code detail) :=
  .close hopen rfl rfl ⟨rfl, by simp [Delivery.supersede]⟩ (by simp [Delivery.supersede])

theorem Moves.requeue (hleased : d.state = .leased) (hevent : d'.eventId = d.eventId)
    (hrecipient : d'.recipientId = d.recipientId) (hretry : d'.state = .retry) : Moves d d' where
  event := hevent
  recipient := hrecipient
  settled := fun hs => absurd hleased (settled_not_open hs).2
  queued := fun _ => .inr hleased
  leased := fun hl => by simp [hretry] at hl
  dead := fun hd => by simp [hretry] at hd

-- ------------------------------------------------------------
-- Row-wise updates
-- ------------------------------------------------------------

theorem update_rows_iff {t : Table Delivery} {change : Nat → Delivery → Option Delivery} :
    (t.update change).rows id = some d' ↔
      ∃ d, t.rows id = some d ∧ d' = (change id d).getD d := by
  rw [Table.update_rows, Option.map_eq_some_iff]
  exact exists_congr fun d => and_congr_right fun _ => eq_comm

theorem update_kept {t : Table Delivery} {change : Nat → Delivery → Option Delivery}
    (hchange : ∀ id d d', t.rows id = some d → change id d = some d' → Kept d d')
    (h : t.rows id = some d) :
    ∃ d', (t.update change).rows id = some d' ∧ Kept d d' := by
  refine ⟨(change id d).getD d, update_rows_iff.mpr ⟨d, h, rfl⟩, ?_⟩
  cases hc : change id d with
  | none => exact (Moves.refl d).toKept
  | some d' => exact hchange id d d' h hc

theorem update_kept_back {t : Table Delivery} {change : Nat → Delivery → Option Delivery}
    (hchange : ∀ id d d', t.rows id = some d → change id d = some d' → Kept d d')
    (h : (t.update change).rows id = some d') : ∃ d, t.rows id = some d ∧ Kept d d' := by
  obtain ⟨d, hd, rfl⟩ := update_rows_iff.mp h
  obtain ⟨d'', hd'', hm⟩ := update_kept hchange hd
  rw [update_rows_iff] at hd''
  obtain ⟨was, hwas, rfl⟩ := hd''
  rw [hd] at hwas
  cases hwas
  exact ⟨d, hd, hm⟩

theorem Ledger.update (h : Ledger s) {change : Nat → Delivery → Option Delivery}
    (hchange : ∀ id d d', s.deliveries.rows id = some d → change id d = some d' → Kept d d') :
    Ledger { s with deliveries := s.deliveries.update change } where
  stored := by
    intro id d' hd'
    obtain ⟨d, hd, hm⟩ := update_kept_back hchange hd'
    rw [hm.event]
    exact h.stored id d hd
  created := h.created
  anchored := h.anchored
  unique := by
    intro id d id' d' hd hd' hevent hrecipient
    obtain ⟨was, hwas, hm⟩ := update_kept_back hchange hd
    obtain ⟨was', hwas', hm'⟩ := update_kept_back hchange hd'
    rw [hm.event, hm'.event] at hevent
    rw [hm.recipient, hm'.recipient] at hrecipient
    exact h.unique id was id' was' hwas hwas' hevent hrecipient
  keys := h.keys
  claimed := by
    intro token c hc
    obtain ⟨⟨d, hd, hevent, hrecipient⟩, hstored, hacks⟩ := h.claimed token c hc
    obtain ⟨d', hd', hm⟩ := update_kept hchange hd
    exact ⟨⟨d', hd', hm.event.trans hevent, hm.recipient.trans hrecipient⟩, hstored, hacks⟩
  revivable := by
    intro id d' hd' hdead
    obtain ⟨d, hd, hm⟩ := update_kept_back hchange hd'
    rcases hm.dead hdead with ⟨hwas, hcode⟩ | hcode
    · rw [hcode]
      exact h.revivable id d hd hwas
    · exact hcode
  reissued := by
    intro id e source r he hkey
    obtain ⟨id', d, hd, hevent, hrecipient, hclosed⟩ := h.reissued id e source r he hkey
    obtain ⟨d', hd', hm⟩ := update_kept hchange hd
    have hsettled : d.settled = true := by
      rcases hclosed with hclosed | hclosed <;> simp [Delivery.settled, hclosed]
    exact ⟨id', d', hd', hm.event.trans hevent, hm.recipient.trans hrecipient,
      by rwa [hm.settled hsettled]⟩
  auth := h.auth

theorem amend_rows_self {change : Delivery → Option Delivery} (hd : s.deliveries.rows id = some d) :
    (s.amend id change).deliveries.rows id = some ((change d).getD d) := by
  simp [Outbox.amend, hd]

theorem amend_rows_ne {change : Delivery → Option Delivery} {row : Nat} (hne : id ≠ row) :
    (s.amend row change).deliveries.rows id = s.deliveries.rows id := by
  simp [Outbox.amend, hne]

theorem Ledger.amend (h : Ledger s) {change : Delivery → Option Delivery} {row : Nat}
    (hchange : ∀ d d', s.deliveries.rows row = some d → change d = some d' → Kept d d') :
    Ledger (s.amend row change) := by
  refine h.update fun id d d' hd hc => ?_
  split at hc
  · subst id
    exact hchange d d' hd hc
  · cases hc

-- ------------------------------------------------------------
-- The other tables
-- ------------------------------------------------------------

theorem Ledger.passes (h : Ledger s) (elapsed : Nat) : Ledger (s.passes elapsed) where
  stored := h.stored
  created := by
    intro id e he
    have := h.created id e he
    simp only [Outbox.passes]
    omega
  anchored := h.anchored
  unique := h.unique
  keys := h.keys
  claimed := fun token c hc => ⟨(h.claimed token c hc).row, (h.claimed token c hc).event,
    (h.claimed token c hc).acks⟩
  revivable := h.revivable
  reissued := h.reissued
  auth := h.auth

theorem Ledger.aside (h : Ledger s) (recipients : Table Recipient) (config : Config)
    (slots : Nat → Nat → Option Slot) :
    Ledger { s with recipients := recipients, config := config, slots := slots } where
  stored := h.stored
  created := h.created
  anchored := h.anchored
  unique := h.unique
  keys := h.keys
  claimed := fun token c hc => ⟨(h.claimed token c hc).row, (h.claimed token c hc).event,
    (h.claimed token c hc).acks⟩
  revivable := h.revivable
  reissued := h.reissued
  auth := h.auth

theorem Ledger.incidents (h : Ledger s) {incidents : Table Incident}
    (hkept : ∀ i, (s.incidents.rows i).isSome = true → (incidents.rows i).isSome = true) :
    Ledger { s with incidents := incidents } where
  stored := h.stored
  created := h.created
  anchored := fun id e i he hi => hkept i (h.anchored id e i he hi)
  unique := h.unique
  keys := h.keys
  claimed := fun token c hc => ⟨(h.claimed token c hc).row, (h.claimed token c hc).event,
    (h.claimed token c hc).acks⟩
  revivable := h.revivable
  reissued := h.reissued
  auth := h.auth

theorem Ledger.newClaim (h : Ledger s) {c : Claim} (hc : Claimed s c) :
    Ledger { s with claims := s.claims.insert c } where
  stored := h.stored
  created := h.created
  anchored := h.anchored
  unique := h.unique
  keys := h.keys
  claimed := by
    intro token c' hc'
    rw [Table.insert_rows] at hc'
    split at hc'
    · cases hc'
      exact ⟨hc.row, hc.event, hc.acks⟩
    · exact ⟨(h.claimed token c' hc').row, (h.claimed token c' hc').event,
        (h.claimed token c' hc').acks⟩
  revivable := h.revivable
  reissued := h.reissued
  auth := h.auth

-- ------------------------------------------------------------
-- Events and deliveries
-- ------------------------------------------------------------

theorem insert_rows_kept {α : Type} {t : Table α} {row new : α} (h : t.rows id = some row) :
    (t.insert new).rows id = some row := by
  rw [Table.insert_rows, if_neg (Nat.ne_of_lt (Table.lt_next_of_rows h)), h]

theorem eventWith_none {key : DedupeKey} (h : s.eventWith key = none) :
    ∀ id e, s.events.rows id = some e → e.dedupeKey ≠ key := by
  intro id e he hkey
  simp only [Outbox.eventWith, Option.map_eq_none_iff, List.find?_eq_none, Prod.forall,
    Table.mem_entries] at h
  exact h id e he (by simp [hkey])

theorem eventWith_some {key : DedupeKey} (h : s.eventWith key = some id) :
    ∃ e, s.events.rows id = some e ∧ e.dedupeKey = key := by
  obtain ⟨⟨i, e⟩, hfind, rfl⟩ := Option.map_eq_some_iff.mp h
  have hmem := List.mem_of_find?_eq_some hfind
  have hkey := List.find?_some hfind
  exact ⟨e, Table.mem_entries.mp hmem, by simpa using hkey⟩

theorem Ledger.newEvent (h : Ledger s) {key : DedupeKey} {spec : EventSpec}
    (hnew : s.eventWith key = none)
    (hincident : ∀ i, spec.incidentId = some i → (s.incidents.rows i).isSome = true)
    (hfits : KeyFits s key spec) :
    Ledger { s with events := s.events.insert ⟨spec, key, s.now⟩ } where
  stored := by
    intro id d hd
    obtain ⟨e, he⟩ := h.stored id d hd
    exact ⟨e, insert_rows_kept he⟩
  created := by
    intro id e he
    rw [Table.insert_rows] at he
    split at he
    · cases he
      exact Int.le_refl _
    · exact h.created id e he
  anchored := by
    intro id e i he hi
    rw [Table.insert_rows] at he
    split at he
    · cases he
      exact hincident i hi
    · exact h.anchored id e i he hi
  unique := h.unique
  keys := by
    intro id e id' e' he he' hkey
    rw [Table.insert_rows] at he he'
    split at he <;> split at he'
    · rename_i hid hid'
      rw [hid, hid']
    · cases he
      exact absurd hkey.symm (eventWith_none hnew id' e' he')
    · cases he'
      exact absurd hkey (eventWith_none hnew id e he)
    · exact h.keys id e id' e' he he' hkey
  claimed := by
    intro token c hc
    obtain ⟨hrow, ⟨e, he, hspec⟩, hacks⟩ := h.claimed token c hc
    exact ⟨hrow, ⟨e, insert_rows_kept he, hspec⟩, hacks⟩
  revivable := h.revivable
  reissued := by
    intro id e source r he hkey
    rw [Table.insert_rows] at he
    split at he
    · cases he
      exact hfits.source source r hkey
    · exact h.reissued id e source r he hkey
  auth := by
    intro id e i g he hkey
    rw [Table.insert_rows] at he
    split at he
    · cases he
      exact hfits.auth i g hkey
    · exact h.auth id e i g he hkey

theorem delivered_iff {eventId recipient : Nat} :
    s.delivered eventId recipient = true ↔ ∃ id d, s.deliveries.rows id = some d ∧
      d.eventId = eventId ∧ d.recipientId = recipient := by
  have hany := @Table.entries_any _ s.deliveries fun d : Delivery =>
    d.eventId == eventId && d.recipientId == recipient
  simpa [Outbox.delivered] using hany

theorem Ledger.insertDelivery (h : Ledger s) (hevent : ∃ e, s.events.rows d.eventId = some e)
    (hstate : d.state = .pending) : Ledger (s.insertDelivery d) := by
  unfold Outbox.insertDelivery
  split
  · exact h
  · rename_i hnew
    have hnone : ∀ id d', s.deliveries.rows id = some d' → d'.eventId = d.eventId →
        d'.recipientId ≠ d.recipientId := by
      intro id d' hd' hevent hrecipient
      exact hnew (delivered_iff.mpr ⟨id, d', hd', hevent, hrecipient⟩)
    exact
      { stored := by
          intro id d' hd'
          rw [Table.insert_rows] at hd'
          split at hd'
          · cases hd'
            exact hevent
          · exact h.stored id d' hd'
        created := h.created
        anchored := h.anchored
        unique := by
          intro id a id' b ha hb heq hrec
          rw [Table.insert_rows] at ha hb
          split at ha <;> split at hb
          · rename_i hid hid'
            rw [hid, hid']
          · cases ha
            exact absurd hrec.symm (hnone id' b hb heq.symm)
          · cases hb
            exact absurd hrec (hnone id a ha heq)
          · exact h.unique id a id' b ha hb heq hrec
        keys := h.keys
        claimed := by
          intro token c hc
          obtain ⟨⟨row, hrow, hids⟩, hstored, hacks⟩ := h.claimed token c hc
          exact ⟨⟨row, insert_rows_kept hrow, hids⟩, hstored, hacks⟩
        revivable := by
          intro id d' hd' hdead
          rw [Table.insert_rows] at hd'
          split at hd'
          · cases hd'
            rw [hstate] at hdead
            cases hdead
          · exact h.revivable id d' hd' hdead
        reissued := by
          intro id e source r he hkey
          obtain ⟨id', row, hrow, hids⟩ := h.reissued id e source r he hkey
          exact ⟨id', row, insert_rows_kept hrow, hids⟩
        auth := h.auth }

-- ------------------------------------------------------------
-- Enqueue
-- ------------------------------------------------------------

theorem foldl_insertDelivery_frame (ds : List Delivery) (s : Outbox) :
    ds.foldl insertDelivery s =
      { s with deliveries := (ds.foldl insertDelivery s).deliveries } := by
  induction ds generalizing s with
  | nil => rfl
  | cons d ds ih =>
    have hstep : s.insertDelivery d = { s with deliveries := (s.insertDelivery d).deliveries } := by
      unfold Outbox.insertDelivery
      split <;> rfl
    rw [List.foldl_cons, ih, hstep]

theorem insertDelivery_kept (hd : s.deliveries.rows id = some d) (new : Delivery) :
    (s.insertDelivery new).deliveries.rows id = some d := by
  unfold Outbox.insertDelivery
  split
  · exact hd
  · exact insert_rows_kept hd

theorem foldl_insertDelivery_kept (ds : List Delivery) (hd : s.deliveries.rows id = some d) :
    (ds.foldl insertDelivery s).deliveries.rows id = some d := by
  induction ds generalizing s with
  | nil => exact hd
  | cons new ds ih => exact ih (insertDelivery_kept hd new)

theorem foldl_insertDelivery_back (ds : List Delivery)
    (hd : (ds.foldl insertDelivery s).deliveries.rows id = some d) :
    s.deliveries.rows id = some d ∨
      s.deliveries.next ≤ id ∧ d ∈ ds ∧ s.delivered d.eventId d.recipientId = false := by
  induction ds generalizing s with
  | nil => exact .inl hd
  | cons new ds ih =>
    rcases ih hd with hd | ⟨hnext, hmem, hfree⟩
    · unfold Outbox.insertDelivery at hd
      split at hd
      · exact .inl hd
      · rename_i hfree
        rw [Table.insert_rows] at hd
        split at hd
        · rename_i hid
          cases hd
          exact .inr ⟨hid ▸ Nat.le_refl _, List.mem_cons_self, Bool.eq_false_iff.mpr hfree⟩
        · exact .inl hd
    · refine .inr ⟨?_, List.mem_cons_of_mem _ hmem, ?_⟩
      · unfold Outbox.insertDelivery at hnext
        split at hnext
        · exact hnext
        · exact Nat.le_trans (Nat.le_succ _) hnext
      · rw [Bool.eq_false_iff] at hfree ⊢
        intro hthere
        obtain ⟨i, row, hrow, hids⟩ := delivered_iff.mp hthere
        exact hfree (delivered_iff.mpr ⟨i, row, insertDelivery_kept hrow new, hids⟩)

structure Fresh (s : Outbox) (spec : EventSpec) (eventId id : Nat) (d : Delivery) : Prop where
  absent : s.deliveries.rows id = none
  next : s.deliveries.next ≤ id
  event : d.eventId = eventId
  state : d.state = .pending
  addressed : d.recipientId ∈ (s.addressed spec).map fun entry => entry.1
  first : s.delivered eventId d.recipientId = false

def GivesWay (s : Outbox) (spec : EventSpec) (d d' : Delivery) : Prop :=
  (∃ i, spec.incidentId = some i ∧ s.incidentOf d = some i) ∧
    d.recipientId ∈ (s.addressed spec).map (fun entry => entry.1) ∧
    d.unstarted = true ∧ d' = d.supersede s.now "newer_incident_snapshot" none

structure Enqueued (s s' : Outbox) (key : DedupeKey) (spec : EventSpec) (eventId : Nat)
    (created : Bool) : Prop where
  frame : s' = { s with events := s'.events, deliveries := s'.deliveries }
  event : if created then s.eventWith key = none ∧ eventId = s.events.next ∧
      s'.events = s.events.insert ⟨spec, key, s.now⟩ ∧
      ∀ i, spec.incidentId = some i → (s.incidents.rows i).isSome = true
    else s.eventWith key = some eventId ∧ s'.events = s.events
  kept : ∀ id d, s.deliveries.rows id = some d → ∃ d', s'.deliveries.rows id = some d' ∧
    (d' = d ∨ created = true ∧ GivesWay s spec d d')
  back : ∀ id d', s'.deliveries.rows id = some d' →
    (∃ d, s.deliveries.rows id = some d ∧ (d' = d ∨ created = true ∧ GivesWay s spec d d')) ∨
      Fresh s spec eventId id d'
  cleared : created = true → ∀ i, spec.incidentId = some i → ∀ id d,
    s.deliveries.rows id = some d → s'.deliveries.rows id = some d → s.incidentOf d = some i →
    d.recipientId ∈ (s.addressed spec).map (fun entry => entry.1) → d.unstarted = false

theorem mem_scheduled {zones : Zones} {eventId : Nat} {spec : EventSpec}
    (h : d ∈ scheduled zones s eventId spec) :
    d.eventId = eventId ∧ d.state = .pending ∧
      d.recipientId ∈ (s.addressed spec).map fun entry => entry.1 := by
  simp only [Outbox.scheduled, List.mem_filterMap, Prod.exists] at h
  obtain ⟨r, row, hmem, hd⟩ := h
  split at hd
  · obtain ⟨at_, -, rfl⟩ := Option.map_eq_some_iff.mp hd
    exact ⟨rfl, rfl, List.mem_map.mpr ⟨(r, row), hmem, rfl⟩⟩
  · cases hd

theorem foldl_scheduled_back {zones : Zones} {eventId : Nat} {spec : EventSpec} {base : Outbox}
    (hd : ((scheduled zones base eventId spec).foldl insertDelivery base).deliveries.rows
      id = some d)
    (hbase : base.deliveries = s.deliveries) (haddressed : base.addressed spec = s.addressed spec) :
    s.deliveries.rows id = some d ∨ Fresh s spec eventId id d := by
  rcases foldl_insertDelivery_back _ hd with hd | ⟨hnext, hmem, hfree⟩
  · exact .inl (hbase ▸ hd)
  · obtain ⟨hevent, hstate, hto⟩ := mem_scheduled hmem
    rw [hbase] at hnext
    rw [haddressed] at hto
    refine .inr ⟨s.deliveries.unused id hnext, hnext, hevent, hstate, hto, ?_⟩
    rw [← hevent]
    simpa only [Outbox.delivered, hbase] using hfree

theorem giveWay_eq {base : Outbox} {incident eventId : Nat} {recipients : List Nat}
    {older new : Event} (hold : base.events.rows d.eventId = some older)
    (hnew : base.events.rows eventId = some new) (hle : older.createdAt ≤ new.createdAt) :
    base.giveWay incident eventId recipients d =
      if older.spec.incidentId = some incident ∧ d.eventId ≠ eventId ∧ d.recipientId ∈ recipients ∧
          d.unstarted = true then
        some (d.supersede base.now "newer_incident_snapshot" none)
      else none := by
  simp only [Outbox.giveWay, Outbox.eventOf, hold, hnew, hle, and_true]

theorem foldl_insertDelivery_ledger {ds : List Delivery} (h : Ledger s)
    (hds : ∀ d ∈ ds, (∃ e, s.events.rows d.eventId = some e) ∧ d.state = .pending) :
    Ledger (ds.foldl insertDelivery s) := by
  induction ds generalizing s with
  | nil => exact h
  | cons d ds ih =>
    obtain ⟨hevent, hstate⟩ := hds d List.mem_cons_self
    refine ih (h.insertDelivery hevent hstate) fun d' hd' => ?_
    have hevents : (s.insertDelivery d).events = s.events := by
      unfold Outbox.insertDelivery
      split <;> rfl
    rw [hevents]
    exact hds d' (List.mem_cons_of_mem _ hd')

theorem enqueue_repeated {zones : Zones} {key : DedupeKey} {spec : EventSpec} {eventId : Nat}
    (hkey : s.eventWith key = some eventId) (h : s.enqueue zones key spec = some s') :
    s' = (scheduled zones s eventId spec).foldl insertDelivery s := by
  unfold Outbox.enqueue Outbox.eventFor at h
  simp only [hkey] at h
  split at h
  · cases h
  · split at h
    · cases h
    · split at h
      · cases h
      · split at h
        · rename_i hcreated
          cases hcreated
        · exact (Option.some.inj h).symm

theorem enqueue_new {zones : Zones} {key : DedupeKey} {spec : EventSpec}
    (hkey : s.eventWith key = none) (h : s.enqueue zones key spec = some s') :
    (∀ i, spec.incidentId = some i → (s.incidents.rows i).isSome = true) ∧
      ∃ base, base = (scheduled zones { s with events := s.events.insert ⟨spec, key, s.now⟩ }
          s.events.next spec).foldl insertDelivery
          { s with events := s.events.insert ⟨spec, key, s.now⟩ } ∧
        match spec.incidentId with
        | some i => s' = base.supersedeOlder i s.events.next
            ((s.addressed spec).map fun entry => entry.1)
        | none => s' = base := by
  unfold Outbox.enqueue Outbox.eventFor at h
  simp only [hkey] at h
  split at h
  · cases h
  · split at h
    · cases h
    · rename_i hforeign
      refine ⟨?_, _, rfl, ?_⟩
      · intro i hi
        cases hrow : s.incidents.rows i with
        | some row => rfl
        | none => simp [hi, hrow] at hforeign
      · split at h
        · cases h
        · cases hi : spec.incidentId with
          | none =>
            simp only [hi] at h
            exact (Option.some.inj h).symm
          | some i =>
            simp only [hi] at h
            exact (Option.some.inj h).symm

/-- What the insertions of a new event leave, before older rows give way. -/
structure Inserted (s base : Outbox) (key : DedupeKey) (spec : EventSpec) : Prop where
  frame : base = { s with events := s.events.insert ⟨spec, key, s.now⟩,
                          deliveries := base.deliveries }
  kept : ∀ id d, s.deliveries.rows id = some d → base.deliveries.rows id = some d
  back : ∀ id d, base.deliveries.rows id = some d →
    s.deliveries.rows id = some d ∨ Fresh s spec s.events.next id d

section Supersede
variable {base : Outbox} {key : DedupeKey} {spec : EventSpec} {i : Nat}

theorem Inserted.events (hb : Inserted s base key spec) :
    base.now = s.now ∧ base.events = s.events.insert ⟨spec, key, s.now⟩ ∧
      base.events.rows s.events.next = some ⟨spec, key, s.now⟩ := by
  have hevents : base.events = s.events.insert ⟨spec, key, s.now⟩ := by rw [hb.frame]
  refine ⟨by rw [hb.frame], hevents, ?_⟩
  rw [hevents, Table.insert_rows, if_pos rfl]

/-- What the statement does to a row that was stored before. -/
theorem Inserted.older (hb : Inserted s base key spec) (hl : Ledger s)
    (hi : spec.incidentId = some i) (hd : s.deliveries.rows id = some d) : ∃ d',
      (base.supersedeOlder i s.events.next
        ((s.addressed spec).map fun entry => entry.1)).deliveries.rows id = some d' ∧
      ((d' = d ∧ (s.incidentOf d = some i →
          d.recipientId ∈ (s.addressed spec).map (fun entry => entry.1) → d.unstarted = false)) ∨
        GivesWay s spec d d') := by
  obtain ⟨hnow, hevents, hnew⟩ := hb.events
  obtain ⟨e, he⟩ := hl.stored id d hd
  have he' : base.events.rows d.eventId = some e := by rw [hevents, insert_rows_kept he]
  have hle : e.createdAt ≤ s.now := hl.created _ _ he
  have hne : d.eventId ≠ s.events.next := Nat.ne_of_lt (Table.lt_next_of_rows he)
  have hinc : s.incidentOf d = e.spec.incidentId := by
    simp [Outbox.incidentOf, Outbox.eventOf, he]
  refine ⟨_, update_rows_iff.mpr ⟨d, hb.kept id d hd, rfl⟩, ?_⟩
  rw [giveWay_eq he' hnew hle]
  split
  · rename_i hcond
    exact .inr ⟨⟨i, hi, hinc.trans hcond.1⟩, hcond.2.2.1, hcond.2.2.2, by rw [hnow]; rfl⟩
  · rename_i hcond
    refine .inl ⟨rfl, fun hcard hto => ?_⟩
    rw [Bool.eq_false_iff]
    intro hunstarted
    exact hcond ⟨hinc.symm.trans hcard, hne, hto, hunstarted⟩

/-- The new rows are of the new event and stay. -/
theorem Inserted.fresh_stays (hb : Inserted s base key spec)
    (hfresh : Fresh s spec s.events.next id d)
    {recipients : List Nat} : base.giveWay i s.events.next recipients d = none := by
  obtain ⟨-, -, hnew⟩ := hb.events
  have hsame : base.events.rows d.eventId = some ⟨spec, key, s.now⟩ := by rw [hfresh.event, hnew]
  rw [giveWay_eq hsame hnew (Int.le_refl _), if_neg fun hc => hc.2.1 hfresh.event]

/-- A row that gives way changes. -/
theorem unstarted_of_supersede {now : Int} {reason : String} {error : Option String}
    (h : d.supersede now reason error = d) : d.unstarted = false := by
  have hstate : d.state = .superseded := (congrArg Delivery.state h).symm
  rw [Bool.eq_false_iff]
  intro hunstarted
  obtain ⟨hq, hl⟩ := settled_not_open (d := d) (by simp [Delivery.settled, hstate])
  rcases unstarted_open hunstarted with hopen | hopen
  · rw [hq] at hopen
    cases hopen
  · exact absurd hopen hl

theorem Inserted.superseded (hb : Inserted s base key spec) (hl : Ledger s)
    (hi : spec.incidentId = some i) (hkey : s.eventWith key = none)
    (hincident : ∀ i, spec.incidentId = some i → (s.incidents.rows i).isSome = true) :
    Enqueued s (base.supersedeOlder i s.events.next ((s.addressed spec).map fun entry => entry.1))
      key spec s.events.next true := by
  obtain ⟨-, hevents, -⟩ := hb.events
  refine ⟨?_, ⟨hkey, rfl, hevents, hincident⟩, ?_, ?_, ?_⟩
  · simp only [Outbox.supersedeOlder]
    rw [hb.frame]
  · intro id d hd
    obtain ⟨d', hd', hmove⟩ := hb.older hl hi hd
    exact ⟨d', hd', hmove.imp And.left fun hway => ⟨rfl, hway⟩⟩
  · intro id d' hd'
    obtain ⟨was, hwas, rfl⟩ := update_rows_iff.mp hd'
    rcases hb.back id was hwas with hwas' | hfresh
    · obtain ⟨d'', hd'', hmove⟩ := hb.older hl hi hwas'
      obtain rfl := Option.some.inj (hd'.symm.trans hd'')
      exact .inl ⟨was, hwas', hmove.imp And.left fun hway => ⟨rfl, hway⟩⟩
    · rw [hb.fresh_stays hfresh]
      exact .inr hfresh
  · intro _ j hj id d hd hd' hcard hto
    obtain rfl : i = j := Option.some.inj (hi.symm.trans hj)
    obtain ⟨d'', hd'', ⟨rfl, hclear⟩ | ⟨-, -, -, hway⟩⟩ := hb.older hl hi hd
    · exact hclear hcard hto
    · obtain rfl := Option.some.inj (hd'.symm.trans hd'')
      exact unstarted_of_supersede hway.symm

end Supersede

theorem enqueue_spec (hl : Ledger s) {zones : Zones} {key : DedupeKey} {spec : EventSpec}
    (h : s.enqueue zones key spec = some s') :
    ∃ eventId created, Enqueued s s' key spec eventId created := by
  cases hkey : s.eventWith key with
  | some eventId =>
    have hs' := enqueue_repeated hkey h
    refine ⟨eventId, false, ?_, ⟨hkey, ?_⟩, ?_, ?_, fun hc => by cases hc⟩
    · rw [hs', foldl_insertDelivery_frame]
    · rw [hs', foldl_insertDelivery_frame]
    · intro id d hd
      exact ⟨d, hs' ▸ foldl_insertDelivery_kept _ hd, .inl rfl⟩
    · intro id d' hd'
      rw [hs'] at hd'
      exact (foldl_scheduled_back hd' rfl rfl).imp (fun hd => ⟨d', hd, .inl rfl⟩) fun hfresh =>
        hfresh
  | none =>
    obtain ⟨hincident, base, hbase, hs'⟩ := enqueue_new hkey h
    have hb : Inserted s base key spec := by
      refine ⟨?_, ?_, ?_⟩
      · rw [hbase]
        exact foldl_insertDelivery_frame _ _
      · intro id d hd
        rw [hbase]
        exact foldl_insertDelivery_kept _ hd
      · intro id d hd
        rw [hbase] at hd
        exact foldl_scheduled_back hd rfl rfl
    refine ⟨s.events.next, true, ?_⟩
    cases hi : spec.incidentId with
    | none =>
      simp only [hi] at hs'
      subst hs'
      refine ⟨by rw [hb.frame], ⟨hkey, rfl, hb.events.2.1, hincident⟩, ?_, ?_, ?_⟩
      · exact fun id d hd => ⟨d, hb.kept id d hd, .inl rfl⟩
      · exact fun id d' hd' =>
          (hb.back id d' hd').imp (fun hd => ⟨d', hd, .inl rfl⟩) fun hfresh => hfresh
      · intro _ i hsome
        rw [hi] at hsome
        cases hsome
    | some i =>
      simp only [hi] at hs'
      subst hs'
      exact hb.superseded hl hi hkey hincident

theorem Ledger.enqueue (hl : Ledger s) {zones : Zones} {key : DedupeKey} {spec : EventSpec}
    (hfits : KeyFits s key spec)
    (h : s.enqueue zones key spec = some s') : Ledger s' := by
  cases hkey : s.eventWith key with
  | some eventId =>
    rw [enqueue_repeated hkey h]
    refine foldl_insertDelivery_ledger hl fun d hd => ?_
    obtain ⟨hevent, hstate, -⟩ := mem_scheduled hd
    obtain ⟨e, he, -⟩ := eventWith_some hkey
    exact ⟨⟨e, hevent ▸ he⟩, hstate⟩
  | none =>
    obtain ⟨hincident, base, hbase, hs'⟩ := enqueue_new hkey h
    have hledger : Ledger base := by
      rw [hbase]
      refine foldl_insertDelivery_ledger (hl.newEvent hkey hincident hfits) fun d hd => ?_
      obtain ⟨hevent, hstate, -⟩ := mem_scheduled hd
      refine ⟨⟨⟨spec, key, s.now⟩, ?_⟩, hstate⟩
      rw [hevent, Table.insert_rows, if_pos rfl]
    cases hi : spec.incidentId with
    | none =>
      simp only [hi] at hs'
      exact hs' ▸ hledger
    | some i =>
      simp only [hi] at hs'
      rw [hs']
      refine hledger.update fun id d d' _ hc => ?_
      simp only [Outbox.giveWay] at hc
      split at hc
      · split at hc
        · rename_i hguard
          cases hc
          exact (Moves.supersede (unstarted_open hguard.2.2.2.1)).toKept
        · cases hc
      · cases hc

theorem Enqueued.settled {key : DedupeKey} {spec : EventSpec} {eventId : Nat} {created : Bool}
    (h : Enqueued s s' key spec eventId created) (hd : s.deliveries.rows id = some d)
    (hsettled : d.settled = true) : s'.deliveries.rows id = some d := by
  obtain ⟨d', hd', rfl | ⟨-, -, -, hunstarted, -⟩⟩ := h.kept id d hd
  · exact hd'
  · obtain ⟨hq, hl⟩ := settled_not_open hsettled
    rcases unstarted_open hunstarted with hopen | hopen
    · rw [hq] at hopen
      cases hopen
    · exact absurd hopen hl

-- ------------------------------------------------------------
-- Operations
-- ------------------------------------------------------------

theorem Ledger.transition (hl : Ledger s) {zones : Zones} {incident : Nat} {generation : Int}
    {status : IncidentStatus} {key : DedupeKey} {spec : EventSpec}
    (hreissue : ∀ source r, key ≠ .reissue source r) (hauth : ∀ i g, key ≠ .authOpen i g)
    (h : s.transition zones incident generation status key spec = some s') : Ledger s' := by
  unfold Outbox.transition at h
  split at h
  · cases h
  · split at h
    · cases h
    · refine Ledger.enqueue ?_ ⟨fun source r hk => absurd hk (hreissue source r),
        fun i g hk => absurd hk (hauth i g)⟩ h
      exact hl.incidents fun i hi => by simpa using hi

theorem Ledger.openIncident (hl : Ledger s) {zones : Zones} {i : Incident} {key : DedupeKey}
    {spec : EventSpec} (hreissue : ∀ source r, key ≠ .reissue source r)
    (hauth : ∀ j g, key = .authOpen j g → j = s.incidents.next)
    (h : s.openIncident zones i key spec = some s') : Ledger s' := by
  unfold Outbox.openIncident at h
  split at h
  · cases h
  · refine Ledger.enqueue ?_ ⟨fun source r hk => absurd hk (hreissue source r),
      fun j g hk => by rw [hauth j g hk]⟩ h
    refine hl.incidents fun j hj => ?_
    obtain ⟨row, hrow⟩ := Option.isSome_iff_exists.mp hj
    rw [insert_rows_kept hrow]
    rfl

theorem Ledger.openAuthIncident (hl : Ledger s) {zones : Zones}
    (h : s.openAuthIncident zones = some s') : Ledger s' := by
  unfold Outbox.openAuthIncident at h
  split at h
  · cases h
    exact hl
  · exact hl.openIncident (fun source r hk => by cases hk) (fun j g hk => by cases hk; rfl) h

theorem Ledger.resolveAuthIncident (hl : Ledger s) {zones : Zones}
    (h : s.resolveAuthIncident zones = some s') : Ledger s' := by
  unfold Outbox.resolveAuthIncident at h
  split at h
  · cases h
    exact hl
  · split at h
    · cases h
      exact hl
    · exact hl.transition (fun source r hk => by cases hk) (fun i g hk => by cases hk) h

theorem boundAcks_of_claimMatches {spec : EventSpec} {i : Nat} {incident : Incident}
    (hi : spec.incidentId = some i) (h : spec.claimMatches i incident = true) : boundAcks spec := by
  intro j hj a ha hkind
  rw [hi] at hj
  cases hj
  simp only [EventSpec.claimMatches, Bool.and_eq_true, List.all_eq_true] at h
  have hbinds := h.2 a ha
  simp only [ActionSpec.bindsAck, hkind, bne_self_eq_false, Bool.false_or, Bool.and_eq_true,
    beq_iff_eq] at hbinds
  obtain ⟨⟨htype, htarget⟩, hread⟩ := hbinds
  exact ⟨htype, htarget, by rw [hread]; rfl⟩

theorem boundAcks_of_matchesNow {e : Event} (he : s.eventOf d = some e)
    (h : s.matchesNow d = true) : boundAcks e.spec := by
  cases hi : e.spec.incidentId with
  | none =>
    intro i hsome
    rw [hi] at hsome
    cases hsome
  | some i =>
    simp only [Outbox.matchesNow, he, Option.any_some, hi] at h
    cases hrow : s.incidents.rows i with
    | none => simp [hrow] at h
    | some incident => exact boundAcks_of_claimMatches hi (by simpa [hrow] using h)

theorem Ledger.retireStaleGeneration (hl : Ledger s) : Ledger s.retireStaleGeneration := by
  refine hl.update fun id d d' _ hc => ?_
  split at hc
  · rename_i hguard
    cases hc
    simp only [Bool.and_eq_true] at hguard
    exact (Moves.supersede (.inl hguard.1)).toKept
  · cases hc

theorem candidate_spec {req : ClaimRequest} {locked : List Nat}
    (h : s.candidate req locked = some (id, d)) :
    s.deliveries.rows id = some d ∧ s.claimable req.gatewayGeneration (id, d) = true := by
  unfold Outbox.candidate at h
  split at h
  · have hmem := Sql.first_mem h
    rw [List.mem_filter, Table.mem_entries, Bool.and_eq_true] at hmem
    exact ⟨hmem.1, hmem.2.1⟩
  · cases h

/-- A claim retires stale deliveries and then takes nothing or one claimable row. -/
theorem claim_cases {req : ClaimRequest} {locked : List Nat} (h : s.claim req locked = some s') :
    s' = s.retireStaleGeneration ∨
      ∃ base id d e, base = s.retireStaleGeneration ∧ base.deliveries.rows id = some d ∧
        base.claimable req.gatewayGeneration (id, d) = true ∧ base.eventOf d = some e ∧
        s' = { base.amend id fun row => some (leaseRow req base.claims.next base.now row) with
          claims := base.claims.insert (base.claimOf id d e) } := by
  unfold Outbox.claim at h
  split at h
  · cases h
  · dsimp only at h
    split at h
    · exact .inl (Option.some.inj h).symm
    · rename_i id d hcand
      obtain ⟨hd, hclaimable⟩ := candidate_spec hcand
      split at h
      · exact .inl (Option.some.inj h).symm
      · rename_i e he
        exact .inr ⟨_, id, d, e, rfl, hd, hclaimable, he, (Option.some.inj h).symm⟩

theorem claimable_iff {generation : Int} : s.claimable generation (id, d) = true ↔
    d.queued = true ∧ d.scheduledAt ≤ s.now ∧ d.botGeneration = generation ∧
      s.receives d = true ∧ s.matchesNow d = true ∧ s.activeIncident authIncidentKey = none ∧
      s.inTurn id d = true := by
  simp [Outbox.claimable, and_assoc]

theorem leaseRow_kept {req : ClaimRequest} {token : Nat} {now : Int} (h : d.queued = true) :
    Kept d (leaseRow req token now d) where
  event := rfl
  recipient := rfl
  settled := fun hs => by
    rw [(settled_not_open hs).1] at h
    cases h
  dead := fun hd => by cases hd

theorem Ledger.claim (hl : Ledger s) {req : ClaimRequest} {locked : List Nat}
    (h : s.claim req locked = some s') : Ledger s' := by
  rcases claim_cases h with rfl | ⟨base, id, d, e, rfl, hd, hclaimable, he, rfl⟩
  · exact hl.retireStaleGeneration
  · obtain ⟨hqueued, -, -, -, hmatch, -⟩ := claimable_iff.mp hclaimable
    have hrow : ∀ row row', s.retireStaleGeneration.deliveries.rows id = some row →
        some (leaseRow req s.retireStaleGeneration.claims.next s.retireStaleGeneration.now row) =
          some row' → Kept row row' := by
      intro row row' hrow hc
      rw [hd] at hrow
      cases hrow
      cases hc
      exact leaseRow_kept hqueued
    have hleased := hl.retireStaleGeneration.amend hrow
    refine hleased.newClaim ⟨?_, ⟨e, he, rfl⟩, boundAcks_of_matchesNow he hmatch⟩
    exact ⟨_, amend_rows_self hd, rfl, rfl⟩

theorem heldRow_spec {token : Nat} {c : Claim} (h : s.heldRow token c = some d) :
    s.deliveries.rows c.deliveryId = some d ∧ d.state = .leased ∧ d.leaseToken = some token := by
  obtain ⟨hd, hheld⟩ := Option.filter_eq_some_iff.mp h
  exact ⟨hd, leasedBy_iff.mp hheld⟩

theorem Ledger.closeHeld (hl : Ledger s) {token : Nat} {c : Claim} {close : Delivery → Delivery}
    (hrow : s.heldRow token c = some d) (hclose : d.state = .leased → Moves d (close d)) :
    Ledger (s.amend c.deliveryId fun row => some (close row)) := by
  obtain ⟨hd, hleased, -⟩ := heldRow_spec hrow
  refine hl.amend fun row row' hrow' hc => ?_
  rw [hd] at hrow'
  cases hrow'
  cases hc
  exact (hclose hleased).toKept

theorem Moves.start {now : Int} {kind : OperationKind} : Moves d
    { d with
      externalStartedAt := d.externalStartedAt <|> some now
      externalOperationKind := some kind } :=
  ⟨⟨rfl, rfl, fun _ => rfl, fun h => .inl ⟨h, rfl⟩⟩, .inl, fun h => ⟨h, rfl⟩⟩

theorem externalStarted_cases (s : Outbox) (token : Nat) (c : Claim) (kind : OperationKind)
    (generation : Int) (fingerprint : String) :
    (s.externalStarted token c kind generation fingerprint).1 = s ∧
        (s.externalStarted token c kind generation fingerprint).2 ≠ .ready ∨
      (∃ d code detail, s.heldRow token c = some d ∧
        s.externalStarted token c kind generation fingerprint =
          (s.amend c.deliveryId fun d => some (d.supersede s.now code detail), .superseded)) ∨
      ∃ d, s.heldRow token c = some d ∧
        (d.leaseExpiresAt.any fun expires => s.now < expires) = true ∧
        s.externalStarted token c kind generation fingerprint =
          (s.amend c.deliveryId fun d => some
            { d with
              externalStartedAt := d.externalStartedAt <|> some s.now
              externalOperationKind := some kind }, .ready) := by
  unfold Outbox.externalStarted
  dsimp only
  split
  · split
    · rename_i row hrow
      exact .inr (.inl ⟨row, _, _, hrow, rfl⟩)
    · refine .inl ⟨rfl, ?_⟩
      split <;> simp
  · split
    · split
      · rename_i hrow
        cases hheld : s.heldRow token c with
        | none => simp [hheld] at hrow
        | some row => exact .inr (.inl ⟨row, _, _, rfl, rfl⟩)
      · exact .inl ⟨rfl, by simp⟩
    · split
      · rename_i hrow
        cases hheld : s.heldRow token c with
        | none => simp [hheld] at hrow
        | some row => exact .inr (.inr ⟨row, rfl, by simpa [hheld] using hrow, rfl⟩)
      · exact .inl ⟨rfl, by simp⟩

theorem Ledger.externalStarted (hl : Ledger s) {token : Nat} {c : Claim} {kind : OperationKind}
    {generation : Int} {fingerprint : String} :
    Ledger (s.externalStarted token c kind generation fingerprint).1 := by
  rcases externalStarted_cases s token c kind generation fingerprint with
    ⟨hsame, -⟩ | ⟨d, code, detail, hrow, heq⟩ | ⟨d, hrow, -, heq⟩
  · rw [hsame]
    exact hl
  · rw [heq]
    exact hl.closeHeld hrow fun hleased => .supersede (.inr hleased)
  · rw [heq]
    exact hl.closeHeld hrow fun _ => .start

theorem Ledger.sent (hl : Ledger s) {token : Nat} {c : Claim} {messageId : Int}
    (h : s.sent token c messageId = some s') : Ledger s' := by
  unfold Outbox.sent at h
  split at h
  · cases h
  · split at h
    · rename_i hrow
      cases hheld : s.heldRow token c with
      | none => simp [hheld] at hrow
      | some row =>
        cases h
        refine Ledger.aside (s := s.amend c.deliveryId _) ?_ s.recipients s.config _
        refine hl.closeHeld hheld fun hleased => ?_
        exact .close (.inr hleased) rfl rfl ⟨rfl, by simp⟩ (by simp)
    · cases h
      exact hl

/-- Whatever a failure is decided to be, the row is closed or goes back to the
queue; only a row that goes back carries the code of a 401. -/
theorem Moves.fail {now : Int} {decision : FailureDecision} {detail : String}
    (hleased : d.state = .leased)
    (hstate : decision.state = .retry ∨ decision.state = .unknown ∨
      decision.state = .dead ∧ decision.errorCode ≠ unauthorizedCode) :
    Moves d (Delivery.fail d now decision detail) := by
  rcases hstate with hstate | hstate | ⟨hstate, hcode⟩
  · exact .requeue hleased rfl rfl hstate
  · exact .close (.inr hleased) rfl rfl (by simp [Delivery.fail, Delivery.queued, hstate])
      (by simp [Delivery.fail, hstate])
  · exact .close (.inr hleased) rfl rfl (by simp [Delivery.fail, Delivery.queued, hstate])
      (by simpa [Delivery.fail] using fun _ => hcode)

theorem prepareFailure_cases {zones : Zones} {c : Claim} {error : GatewayError}
    {fingerprint : Option String} {prepared : Outbox} {decision : FailureDecision} {detail : String}
    (h : s.prepareFailure zones c error fingerprint = some (prepared, decision, detail)) :
    (prepared = s ∧ error.kind ≠ .unauthorized ∧
        decision = decideDeliveryFailure error c.attemptCount c.maxAttempts s.now) ∨
      (prepared = s ∧ error.kind = .unauthorized ∧ decision.state = .dead ∧
        decision.errorCode ≠ unauthorizedCode ∧ decision.disableRecipientDelivery = false) ∨
      (s.openAuthIncident zones = some prepared ∧ error.kind = .unauthorized ∧
        decision = decideDeliveryFailure error c.attemptCount c.maxAttempts s.now ∧
        (0 < c.botGeneration && fingerprint.any fun f => s.config.authorizes c.botGeneration f) =
          true) := by
  unfold Outbox.prepareFailure at h
  dsimp only at h
  split at h
  · rename_i hkind
    split at h
    · rename_i hguard
      obtain ⟨opened, hopened, heq⟩ := Option.map_eq_some_iff.mp h
      simp only [Prod.mk.injEq] at heq
      obtain ⟨rfl, rfl, -⟩ := heq
      exact .inr (.inr ⟨hopened, hkind, rfl, hguard⟩)
    · simp only [Option.some.injEq, Prod.mk.injEq] at h
      obtain ⟨rfl, rfl, -⟩ := h
      exact .inr (.inl ⟨rfl, hkind, rfl,
        (by decide : "stale_bot_generation" ≠ unauthorizedCode), rfl⟩)
  · rename_i hkind
    simp only [Option.some.injEq, Prod.mk.injEq] at h
    obtain ⟨rfl, rfl, -⟩ := h
    exact .inl ⟨rfl, hkind, rfl⟩

theorem failure_cases {zones : Zones} {token : Nat} {c : Claim} {error : GatewayError}
    {fingerprint : Option String} (h : s.failure zones token c error fingerprint = some s') :
    s' = s ∨ ∃ prepared decision detail d,
      s.prepareFailure zones c error fingerprint = some (prepared, decision, detail) ∧
      s.heldRow token c = some d ∧
      ((s.staleAfterFailure c error decision = true ∧
          s' = s.amend c.deliveryId fun d => some (d.supersede s.now
            "stale_incident_snapshot_after_failure" (some detail))) ∨
        (s.staleAfterFailure c error decision = false ∧ ∃ failed reissued,
          failed = prepared.amend c.deliveryId
            (fun d => some (Delivery.fail d s.now decision detail)) ∧
          failed.reissueAfterFailure zones c error decision = some reissued ∧
          s' = if decision.disableRecipientDelivery then
            reissued.disableRecipientDelivery c.recipientId else reissued)) := by
  unfold Outbox.failure at h
  obtain ⟨⟨prepared, decision, detail⟩, hprepared, h⟩ := Option.bind_eq_some_iff.mp h
  dsimp only at h
  split at h
  · exact .inl (Option.some.inj h).symm
  · rename_i hheld
    obtain ⟨d, hd⟩ := Option.ne_none_iff_exists'.mp (by simpa using hheld)
    refine .inr ⟨prepared, decision, detail, d, hprepared, hd, ?_⟩
    split at h
    · rename_i hstale
      exact .inl ⟨hstale, (Option.some.inj h).symm⟩
    · rename_i hstale
      obtain ⟨reissued, hreissued, h⟩ := Option.map_eq_some_iff.mp h
      exact .inr ⟨Bool.eq_false_iff.mpr hstale, _, reissued, rfl, hreissued, h.symm⟩

theorem Ledger.reissue (hl : Ledger s) {zones : Zones} {source r : Nat} {spec : EventSpec}
    {generation : Option Int} {status : Option IncidentStatus}
    (hclosed : ∃ id d, s.deliveries.rows id = some d ∧ d.eventId = source ∧ d.recipientId = r ∧
      (d.state = .unknown ∨ d.state = .superseded))
    (h : s.reissue zones source spec r generation status = some s') : Ledger s' := by
  unfold Outbox.reissue at h
  split at h
  · refine hl.enqueue ⟨fun source' r' hkey => ?_, fun i g hkey => by cases hkey⟩ h
    cases hkey
    exact hclosed
  · cases h
    exact hl

theorem Ledger.retireBacklog (hl : Ledger s) (recipient : Nat) (code detail : String) :
    Ledger (s.retireBacklog recipient code detail) := by
  refine hl.update fun id d d' _ hc => ?_
  split at hc
  · rename_i hguard
    cases hc
    simp only [Bool.and_eq_true] at hguard
    exact (Moves.supersede (unstarted_open hguard.2)).toKept
  · cases hc

theorem Ledger.disableRecipientDelivery (hl : Ledger s) (recipient : Nat) :
    Ledger (s.disableRecipientDelivery recipient) :=
  (hl.aside (s.recipients.updateAt recipient fun r => some { r with isEnabled := false }) s.config
    s.slots).retireBacklog recipient _ _

theorem Claimed.held {c : Claim} {token : Nat} (h : Claimed s c)
    (hrow : s.heldRow token c = some d) :
    d.eventId = c.eventId ∧ d.recipientId = c.recipientId := by
  obtain ⟨row, hrow', hids⟩ := h.row
  rw [(heldRow_spec hrow).1] at hrow'
  cases hrow'
  exact hids

theorem openAuthIncident_enqueued (hl : Ledger s) {zones : Zones}
    (h : s.openAuthIncident zones = some s') :
    s' = s ∨ ∃ base generation spec eventId created, Ledger base ∧
      base = { s with incidents := s.incidents.insert ⟨authIncidentKey, generation, .opened⟩ } ∧
      spec.incidentId = some s.incidents.next ∧
      Enqueued base s' (.authOpen s.incidents.next generation) spec eventId created := by
  unfold Outbox.openAuthIncident at h
  split at h
  · exact .inl (Option.some.inj h).symm
  · dsimp only at h
    unfold Outbox.openIncident at h
    split at h
    · cases h
    · have hbase : Ledger { s with
          incidents := s.incidents.insert
            ⟨authIncidentKey, s.nextGeneration authIncidentKey, .opened⟩ } := by
        refine hl.incidents fun j hj => ?_
        obtain ⟨row, hrow⟩ := Option.isSome_iff_exists.mp hj
        rw [insert_rows_kept hrow]
        rfl
      obtain ⟨eventId, created, he⟩ := enqueue_spec hbase h
      exact .inr ⟨_, _, _, eventId, created, hbase, rfl, rfl, he⟩

theorem openAuthIncident_held (hl : Ledger s) {zones : Zones}
    (h : s.openAuthIncident zones = some s') (hd : s.deliveries.rows id = some d) :
    s'.deliveries.rows id = some d := by
  rcases openAuthIncident_enqueued hl h with
    rfl | ⟨base, generation, spec, eventId, created, -, rfl,
    hspec, he⟩
  · exact hd
  · obtain ⟨d', hd', rfl | ⟨-, ⟨i, hi, hcard⟩, -⟩⟩ := he.kept id d hd
    · exact hd'
    · -- no stored delivery is about the incident that was just inserted
      rw [hspec] at hi
      cases hi
      obtain ⟨e, he'⟩ := hl.stored id d hd
      simp only [Outbox.incidentOf, Outbox.eventOf, he', Option.bind_some] at hcard
      have hsome := hl.anchored _ _ _ he' hcard
      rw [s.incidents.unused _ (Nat.le_refl _)] at hsome
      cases hsome

theorem prepareFailure_state {zones : Zones} {c : Claim} {error : GatewayError}
    {fingerprint : Option String} {prepared : Outbox} {decision : FailureDecision} {detail : String}
    (h : s.prepareFailure zones c error fingerprint = some (prepared, decision, detail)) :
    decision.state = .retry ∨ decision.state = .unknown ∨
      decision.state = .dead ∧ decision.errorCode ≠ unauthorizedCode := by
  rcases prepareFailure_cases h with ⟨-, -, rfl⟩ | ⟨-, -, hdead, hcode, -⟩ | ⟨-, -, rfl, -⟩
  · exact decideDeliveryFailure_state error _ _ _
  · exact .inr (.inr ⟨hdead, hcode⟩)
  · exact decideDeliveryFailure_state error _ _ _

theorem Ledger.prepared (hl : Ledger s) {zones : Zones} {c : Claim} {error : GatewayError}
    {fingerprint : Option String} {prepared : Outbox} {decision : FailureDecision} {detail : String}
    (h : s.prepareFailure zones c error fingerprint = some (prepared, decision, detail))
    (hd : s.deliveries.rows id = some d) :
    Ledger prepared ∧ prepared.deliveries.rows id = some d := by
  rcases prepareFailure_cases h with ⟨rfl, -⟩ | ⟨rfl, -⟩ | ⟨hopened, -⟩
  · exact ⟨hl, hd⟩
  · exact ⟨hl, hd⟩
  · exact ⟨hl.openAuthIncident hopened, openAuthIncident_held hl hopened hd⟩

theorem Ledger.failed (hl : Ledger s) {zones : Zones} {c : Claim} {error : GatewayError}
    {fingerprint : Option String} {prepared : Outbox} {decision : FailureDecision} {detail : String}
    (h : s.prepareFailure zones c error fingerprint = some (prepared, decision, detail))
    (hd : s.deliveries.rows id = some d) (hleased : d.state = .leased) :
    Ledger (prepared.amend id fun d => some (Delivery.fail d s.now decision detail)) := by
  have hready := hl.prepared h hd
  refine hready.1.amend fun row row' hrow heq => ?_
  rw [hready.2] at hrow
  cases hrow
  cases heq
  exact (Moves.fail hleased (prepareFailure_state h)).toKept

theorem Ledger.failure (hl : Ledger s) {zones : Zones} {token : Nat} {c : Claim}
    {error : GatewayError} {fingerprint : Option String} (hc : Claimed s c)
    (h : s.failure zones token c error fingerprint = some s') : Ledger s' := by
  rcases failure_cases h with rfl | ⟨prepared, decision, detail, d, hprepared, hheld,
    ⟨-, rfl⟩ | ⟨-, failed, reissued, hfailed, hreissued, rfl⟩⟩
  · exact hl
  · exact hl.closeHeld hheld fun hleased => .supersede (.inr hleased)
  · obtain ⟨hd, hleased, -⟩ := heldRow_spec hheld
    have hready := hl.prepared hprepared hd
    have hledger : Ledger failed := by
      rw [hfailed]
      exact hl.failed hprepared hd hleased
    have hreissue : Ledger reissued := by
      unfold Outbox.reissueAfterFailure at hreissued
      split at hreissued
      · rename_i hre
        refine hledger.reissue
          ⟨c.deliveryId, Delivery.fail d s.now decision detail, ?_, ?_⟩ hreissued
        · rw [hfailed]
          exact amend_rows_self hready.2
        · have hunknown : decision.state = .unknown := by
            simp only [Outbox.reissuesAfterFailure, Bool.and_eq_true, beq_iff_eq] at hre
            exact hre.1.1
          exact ⟨(hc.held hheld).1, (hc.held hheld).2, .inl hunknown⟩
      · cases hreissued
        exact hledger
    split
    · exact hreissue.disableRecipientDelivery c.recipientId
    · exact hreissue

theorem Ledger.superseded (hl : Ledger s) {zones : Zones} {token : Nat} {c : Claim}
    {reason : String} {withReissue : Bool} (hc : Claimed s c)
    (h : s.superseded zones token c reason withReissue = some s') : Ledger s' := by
  unfold Outbox.superseded at h
  split at h
  · cases h
    exact hl
  · rename_i hsome
    obtain ⟨d, hheld⟩ := Option.ne_none_iff_exists'.mp (by simpa using hsome)
    have hclosed : Ledger (s.amend c.deliveryId fun d => some (d.supersede s.now
        "incident_snapshot_reissued" (some (PyText.clip 500 reason)))) :=
      hl.closeHeld hheld fun hleased => .supersede (.inr hleased)
    dsimp only at h
    split at h
    · refine hclosed.reissue ⟨c.deliveryId, d.supersede s.now "incident_snapshot_reissued"
        (some (PyText.clip 500 reason)), ?_, ?_⟩ h
      · exact amend_rows_self (heldRow_spec hheld).1
      · exact ⟨(hc.held hheld).1, (hc.held hheld).2, .inr rfl⟩
    · cases h
      exact hclosed

-- ------------------------------------------------------------
-- Recovery
-- ------------------------------------------------------------

theorem expireRow_moves {now : Int} (h : expireRow now d = some d') : Moves d d' := by
  unfold Outbox.expireRow at h
  split at h
  · rename_i hreturns
    cases h
    simp only [Delivery.returns, Delivery.expired, Bool.and_eq_true, beq_iff_eq] at hreturns
    exact .requeue hreturns.1.1 rfl rfl rfl
  · split at h
    · rename_i hambiguous
      cases h
      simp only [Delivery.ambiguous, Delivery.expired, Bool.and_eq_true, beq_iff_eq] at hambiguous
      exact .close (.inr hambiguous.1.1.1) rfl rfl ⟨rfl, by simp⟩ (by simp)
    · cases h

theorem expireRow_ambiguous {now : Int} (h : Delivery.ambiguous d now = true) :
    ∃ d', expireRow now d = some d' ∧ d'.state = .unknown ∧ d'.eventId = d.eventId ∧
      d'.recipientId = d.recipientId := by
  have hnot : Delivery.returns d now = false := by
    simp only [Delivery.ambiguous, Bool.and_eq_true, beq_iff_eq] at h
    rw [Bool.eq_false_iff]
    intro hreturns
    simp only [Delivery.returns, Bool.and_eq_true, Bool.or_eq_true, beq_iff_eq] at hreturns
    rcases hreturns.2 with hnone | hedit
    · simp [Option.isNone_iff_eq_none.mp hnone] at h
    · rw [hedit] at h
      simp at h
  simp only [Outbox.expireRow, hnot, h, if_true, Bool.false_eq_true, if_false]
  exact ⟨_, rfl, rfl, rfl, rfl⟩

/-- The expiry pass with the deliveries it has to reissue still closed. -/
structure Expiring (s : Outbox) (todo : List (Nat × Delivery)) : Prop where
  ledger : Ledger s
  closed : ∀ entry ∈ todo, ∃ d, s.deliveries.rows entry.1 = some d ∧
    d.eventId = entry.2.eventId ∧ d.recipientId = entry.2.recipientId ∧ d.state = .unknown

theorem expiring_start (hl : Ledger s) :
    Expiring { s with deliveries := s.deliveries.update fun _ => expireRow s.now }
      (s.deliveries.entries.filter fun entry => Delivery.ambiguous entry.2 s.now) where
  ledger := hl.update fun _ _ _ _ hc => (expireRow_moves hc).toKept
  closed := by
    rintro ⟨id, d⟩ hmem
    rw [List.mem_filter, Table.mem_entries] at hmem
    obtain ⟨d', hd', hstate, hevent, hrecipient⟩ := expireRow_ambiguous hmem.2
    exact ⟨d', update_rows_iff.mpr ⟨d, hmem.1, by rw [hd']; rfl⟩, hevent, hrecipient, hstate⟩

theorem reissueExpired_cases {zones : Zones} (h : s.reissueExpired zones d = some s') :
    s' = s ∨ ∃ e i generation status, s.eventOf d = some e ∧
      e.spec.eventType ≠ "incident_snapshot_reissued" ∧ e.spec.incidentId = some i ∧
      s.enqueue zones (.reissue d.eventId d.recipientId)
        (reissueSpec e.spec d.recipientId i generation status) = some s' := by
  unfold Outbox.reissueExpired at h
  split at h
  · exact .inl (Option.some.inj h).symm
  · rename_i e he
    split at h
    · exact .inl (Option.some.inj h).symm
    · rename_i htype
      unfold Outbox.reissue at h
      split at h
      · rename_i i hi
        exact .inr ⟨e, i, _, _, he, htype, hi, h⟩
      · exact .inl (Option.some.inj h).symm

theorem Expiring.step {zones : Zones} {entry : Nat × Delivery} {todo : List (Nat × Delivery)}
    (hx : Expiring s (entry :: todo)) (h : s.reissueExpired zones entry.2 = some s') :
    Expiring s' todo := by
  have htodo : ∀ other ∈ todo, ∃ d, s.deliveries.rows other.1 = some d ∧
      d.eventId = other.2.eventId ∧ d.recipientId = other.2.recipientId ∧ d.state = .unknown :=
    fun other hmem => hx.closed other (List.mem_cons_of_mem _ hmem)
  rcases reissueExpired_cases h with rfl | ⟨e, i, generation, status, -, -, -, henqueue⟩
  · exact ⟨hx.ledger, htodo⟩
  · obtain ⟨d, hd, hevent, hrecipient, hstate⟩ := hx.closed entry List.mem_cons_self
    refine ⟨hx.ledger.enqueue ⟨fun source r hkey => ?_, fun j g hkey => by cases hkey⟩ henqueue,
      fun other hmem => ?_⟩
    · cases hkey
      exact ⟨entry.1, d, hd, hevent, hrecipient, .inl hstate⟩
    · obtain ⟨d, hd, hids⟩ := htodo other hmem
      obtain ⟨eventId, created, henqueued⟩ := enqueue_spec hx.ledger henqueue
      exact ⟨d, henqueued.settled hd (by simp [Delivery.settled, hids.2.2]), hids⟩

theorem Expiring.run {zones : Zones} {todo : List (Nat × Delivery)} (hx : Expiring s todo)
    (h : todo.foldlM (fun s entry => s.reissueExpired zones entry.2) s = some s') : Ledger s' := by
  induction todo generalizing s with
  | nil =>
    cases h
    exact hx.ledger
  | cons entry todo ih =>
    rw [List.foldlM_cons] at h
    obtain ⟨next, hnext, h⟩ := Option.bind_eq_some_iff.mp h
    exact ih (hx.step hnext) h

theorem Ledger.reconcile (hl : Ledger s) {zones : Zones} (h : s.reconcile zones = some s') :
    Ledger s' :=
  (expiring_start hl).run h

/-- Only rows in `retry` are revived: no closed delivery has the code of a 401. -/
theorem Ledger.refreshAuthGate (hl : Ledger s) {zones : Zones}
    (h : s.refreshAuthGate zones = some s') : Ledger s' := by
  obtain ⟨resolved, hresolved, rfl⟩ := Option.map_eq_some_iff.mp h
  have hledger := hl.resolveAuthIncident hresolved
  refine hledger.update fun id d d' hd hc => ?_
  split at hc
  · rename_i hguard
    cases hc
    simp only [Bool.and_eq_true, Bool.or_eq_true, beq_iff_eq] at hguard
    rcases hguard.1 with hretry | hdead
    · exact ⟨rfl, rfl, fun hs => by simp [Delivery.settled, hretry] at hs, fun h => by cases h⟩
    · exact absurd hguard.2 (hledger.revivable id d hd hdead)
  · cases hc

theorem Ledger.apply (hl : Ledger s) {zones : Zones} {op : Op} (h : s.apply zones op = some s') :
    Ledger s' := by
  cases op with
  | transition incident generation status key spec =>
    exact hl.transition (fun source r hk => by cases hk) (fun i g hk => by cases hk) h
  | openIncident i key spec =>
    exact hl.openIncident (fun source r hk => by cases hk) (fun j g hk => by cases hk) h
  | enqueue key spec =>
    exact hl.enqueue ⟨fun source r hk => (by cases hk), fun i g hk => (by cases hk)⟩ h
  | claim req locked => exact hl.claim h
  | externalStarted token kind generation fingerprint =>
    obtain ⟨c, -, rfl⟩ := Option.map_eq_some_iff.mp h
    exact hl.externalStarted
  | sent token messageId =>
    obtain ⟨c, -, h⟩ := Option.bind_eq_some_iff.mp h
    exact hl.sent h
  | failure token error fingerprint =>
    obtain ⟨c, hc, h⟩ := Option.bind_eq_some_iff.mp h
    exact hl.failure (hl.claimed token c hc) h
  | superseded token reason withReissue =>
    obtain ⟨c, hc, h⟩ := Option.bind_eq_some_iff.mp h
    exact hl.superseded (hl.claimed token c hc) h
  | reconcile => exact hl.reconcile h
  | refreshAuthGate => exact hl.refreshAuthGate h
  | authProbeFailed => exact hl.openAuthIncident h
  | addRecipient r =>
    cases h
    exact hl.aside _ _ _
  | setRecipient id r =>
    cases h
    exact hl.aside _ _ _
  | retireBacklog recipient code detail =>
    cases h
    exact hl.retireBacklog recipient code detail
  | configure config =>
    cases h
    exact hl.aside _ _ _

theorem Ledger.step (hl : Ledger s) {zones : Zones} (e : Nat × Op) : Ledger (s.step zones e) := by
  unfold Outbox.step
  dsimp only
  cases happly : (s.passes e.1).apply zones e.2 with
  | none => exact hl.passes e.1
  | some s' => exact (hl.passes e.1).apply happly

theorem Ledger.init : Ledger Outbox.init := by
  constructor <;> intros <;> simp_all [Outbox.init, Table.empty]

end StopBot.Telegram
