import StopBot.Telegram.Ledger

/-!
# No live card waits behind a dead one

A delivery is claimed in turn: behind no older queued card of its incident and
recipient, and only while its event matches the incident. A card that lost its
match therefore has to leave the queue before it can hold up a newer one. New
snapshots see to that; the condition below names the steps that do not.
-/

namespace StopBot.Telegram

open Lib Outbox

variable {s s' : Outbox} {d d' : Delivery} {id i r : Nat} {zones : Zones}

def Delivery.isOpen (d : Delivery) : Bool :=
  d.queued || d.state == .leased

def Alone (s : Outbox) (i r : Nat) : Prop :=
  ∀ a da b db, s.deliveries.rows a = some da → s.deliveries.rows b = some db →
    s.isCard i r da = true → s.isCard i r db = true → da.state = .leased → db.state = .leased →
    a = b

/-- Of the open cards of an incident to a recipient, a queued one before a matching one matches. -/
def InOrder (s : Outbox) (i r : Nat) : Prop :=
  ∀ a da b db, s.deliveries.rows a = some da → s.deliveries.rows b = some db →
    s.isCard i r da = true → s.isCard i r db = true → da.queued = true → db.isOpen = true →
    s.older (a, da) (b, db) = true → s.matchesNow db = true → s.matchesNow da = true

structure Cards (s : Outbox) : Prop where
  alone : ∀ i r, Alone s i r
  inOrder : ∀ i r, InOrder s i r

-- ------------------------------------------------------------
-- The steps that keep the order
-- ------------------------------------------------------------

namespace Outbox

/-- A leased card that may go back to the queue: it still matches, or nothing
that matches waits behind it. -/
def returnable (s : Outbox) (entry : Nat × Delivery) : Bool :=
  s.matchesNow entry.2 || !(s.incidentOf entry.2).any fun i =>
    s.deliveries.entries.any fun other =>
      s.isCard i entry.2.recipientId other.2 && other.2.queued && s.older entry other &&
        s.matchesNow other.2

/-- An event that is stored already brings new rows only to recipients without
an open card of its incident. -/
def joins (zones : Zones) (s : Outbox) (key : DedupeKey) (spec : EventSpec) : Bool :=
  (s.eventWith key).all fun eventId => (scheduled zones s eventId spec).all fun d =>
    s.delivered d.eventId d.recipientId || !(s.incidentOf d).any fun i =>
      s.deliveries.entries.any fun other => s.isCard i d.recipientId other.2 && other.2.isOpen

/-- The event of a transition is new and addressed to everyone who has a queued
card of the incident before another open one. -/
def reaches (s : Outbox) (incident : Nat) (key : DedupeKey) (spec : EventSpec) : Bool :=
  s.deliveries.entries.all fun entry =>
    !(entry.2.queued && s.deliveries.entries.any fun other =>
        s.isCard incident entry.2.recipientId entry.2 &&
          s.isCard incident entry.2.recipientId other.2 && other.2.isOpen && s.older entry other) ||
      ((s.eventWith key).isNone && (s.addressed spec).any fun r => r.1 == entry.2.recipientId)

def unauthorizes (s : Outbox) (c : Claim) (error : GatewayError) (fingerprint : Option String) :
    Bool :=
  error.kind == .unauthorized && 0 < c.botGeneration &&
    fingerprint.any fun f => s.config.authorizes c.botGeneration f

/-- What keeps the cards in order: a row goes back to the queue only if it may,
a replayed event joins no open card, a transition reaches those who wait. -/
def orderly (zones : Zones) (s : Outbox) : Op → Bool
  | .transition incident _ _ key spec =>
    s.reaches incident (.text key) { spec with incidentId := some incident } &&
      s.joins zones (.text key) { spec with incidentId := some incident }
  | .openIncident _ key spec =>
    s.joins zones (.text key) { spec with incidentId := some s.incidents.next }
  | .enqueue key spec => s.joins zones (.text key) spec
  | .failure token error fingerprint =>
    (s.claims.rows token).all fun c => (s.heldRow token c).all fun d =>
      !s.unauthorizes c error fingerprint || s.returnable (c.deliveryId, d)
  | .reconcile => s.deliveries.entries.all fun entry =>
      !Delivery.returns entry.2 s.now || s.returnable entry
  | .refreshAuthGate => (s.activeIncident authIncidentKey).all fun id =>
      (s.incidents.rows id).all fun i =>
        let key := DedupeKey.authResolved id i.generation
        let spec := { authRecovered i.generation with incidentId := some id }
        s.reaches id key spec && s.joins zones key spec
  | _ => true

end Outbox

-- ------------------------------------------------------------
-- Reading a card
-- ------------------------------------------------------------

theorem isOpen_iff : d.isOpen = true ↔ d.queued = true ∨ d.state = .leased := by
  simp [Delivery.isOpen]

theorem isOpen_of_queued (h : d.queued = true) : d.isOpen = true := isOpen_iff.mpr (.inl h)

theorem isCard_iff : s.isCard i r d = true ↔ s.incidentOf d = some i ∧ d.recipientId = r := by
  simp [Outbox.isCard]

theorem isCard_kept (h : Kept d d') : s.isCard i r d' = s.isCard i r d := by
  simp only [Outbox.isCard, Outbox.incidentOf, Outbox.eventOf, h.event, h.recipient]

theorem matchesNow_kept (h : Kept d d') : s.matchesNow d' = s.matchesNow d := by
  simp only [Outbox.matchesNow, Outbox.eventOf, h.event]

theorem older_kept {a b : Nat} {da da' db db' : Delivery} (ha : Kept da da') (hb : Kept db db') :
    s.older (a, da') (b, db') = s.older (a, da) (b, db) := by
  simp only [Outbox.older, Outbox.eventOf, ha.event, hb.event]

theorem older_iff {a b : Nat} {da db : Delivery} {ea eb : Event} (ha : s.eventOf da = some ea)
    (hb : s.eventOf db = some eb) : s.older (a, da) (b, db) = true ↔
      ea.createdAt < eb.createdAt ∨ ea.createdAt = eb.createdAt ∧ a < b := by
  simp [Outbox.older, ha, hb]

def Returnable (s : Outbox) (id : Nat) (d : Delivery) : Prop :=
  s.matchesNow d = true ∨ ∀ i b db, s.incidentOf d = some i → s.deliveries.rows b = some db →
    s.isCard i d.recipientId db = true → db.queued = true → s.older (id, d) (b, db) = true →
    s.matchesNow db = false

theorem returnable_iff : s.returnable (id, d) = true ↔ Returnable s id d := by
  simp only [Outbox.returnable, Returnable, Bool.or_eq_true, Bool.not_eq_true', Option.any_eq_false,
    List.any_eq_false, Prod.forall, Table.mem_entries, Bool.and_eq_true, not_and,
    Bool.not_eq_true, and_imp]
  refine or_congr_right ?_
  constructor
  · intro h i b db hi hb hcard hq holder
    exact h i hi b db hb hcard hq holder
  · intro h i hi b db hb hcard hq holder
    exact h i b db hi hb hcard hq holder

-- ------------------------------------------------------------
-- Row-wise updates
-- ------------------------------------------------------------

theorem Cards.update (h : Cards s) {change : Nat → Delivery → Option Delivery}
    (hchange : ∀ id d d', s.deliveries.rows id = some d → change id d = some d' →
      Moves d d' ∧ (d.state = .leased → d'.queued = true → Returnable s id d)) :
    Cards { s with deliveries := s.deliveries.update change } := by
  -- every row goes back to one it is a move of, and one that came back to the queue may
  have hback : ∀ id d', (s.deliveries.update change).rows id = some d' →
      ∃ d, s.deliveries.rows id = some d ∧ Moves d d' ∧
        (d.state = .leased → d'.queued = true → Returnable s id d) := by
    intro id d' hd'
    obtain ⟨d, hd, rfl⟩ := update_rows_iff.mp hd'
    refine ⟨d, hd, ?_⟩
    cases hc : change id d with
    | none => exact ⟨.refl d, fun hl hq => by simp [Delivery.queued, hl] at hq⟩
    | some new => exact hchange id d new hd hc
  constructor
  · intro i r a da b db ha hb hca hcb hla hlb
    obtain ⟨wa, hwa, hma, -⟩ := hback a da ha
    obtain ⟨wb, hwb, hmb, -⟩ := hback b db hb
    exact h.alone i r a wa b wb hwa hwb (isCard_kept hma.toKept ▸ hca)
      (isCard_kept hmb.toKept ▸ hcb) (hma.leased hla).1 (hmb.leased hlb).1
  · intro i r a da b db ha hb hca hcb hqa hob holder hmatch
    obtain ⟨wa, hwa, hma, hra⟩ := hback a da ha
    obtain ⟨wb, hwb, hmb, -⟩ := hback b db hb
    have hca' : s.isCard i r wa = true := isCard_kept hma.toKept ▸ hca
    have hcb' : s.isCard i r wb = true := isCard_kept hmb.toKept ▸ hcb
    have holder' : s.older (a, wa) (b, wb) = true :=
      (@older_kept s a b wa da wb db hma.toKept hmb.toKept) ▸ holder
    have hmatch' : s.matchesNow wb = true := matchesNow_kept hmb.toKept ▸ hmatch
    have hob' : wb.queued = true ∨ wb.state = .leased :=
      (isOpen_iff.mp hob).elim hmb.queued fun hl => .inr (hmb.leased hl).1
    have hgoal : s.matchesNow wa = true := by
      rcases hma.queued hqa with hqa' | hla
      · exact h.inOrder i r a wa b wb hwa hwb hca' hcb' hqa' (isOpen_iff.mpr hob') holder' hmatch'
      rcases hob' with hqb | hlb
      · rcases hra hla hqa with hm | hnone
        · exact hm
        · obtain ⟨hi, hr⟩ := isCard_iff.mp hca'
          rw [hnone i b wb hi hwb (hr ▸ hcb') hqb holder'] at hmatch'
          cases hmatch'
      · -- both were leased, so they are one card
        have hsame := h.alone i r a wa b wb hwa hwb hca' hcb' hla hlb
        subst hsame
        rw [hwa] at hwb
        cases hwb
        exact hmatch'
    exact (matchesNow_kept hma.toKept).trans hgoal

theorem Cards.amend (h : Cards s) {change : Delivery → Option Delivery}
    (hchange : ∀ d d', s.deliveries.rows id = some d → change d = some d' →
      Moves d d' ∧ (d.state = .leased → d'.queued = true → Returnable s id d)) :
    Cards (s.amend id change) := by
  refine h.update fun row d d' hd hc => ?_
  split at hc
  · rename_i heq
    subst heq
    exact hchange d d' hd hc
  · cases hc

theorem Cards.close (h : Cards s) {change : Nat → Delivery → Option Delivery}
    (hchange : ∀ id d d', s.deliveries.rows id = some d → change id d = some d' →
      Moves d d' ∧ d'.queued = false) :
    Cards { s with deliveries := s.deliveries.update change } := by
  refine h.update fun id d d' hd hc => ?_
  obtain ⟨hmoves, hclosed⟩ := hchange id d d' hd hc
  refine ⟨hmoves, fun _ hq => ?_⟩
  rw [hclosed] at hq
  cases hq

theorem Cards.passes (h : Cards s) (elapsed : Nat) : Cards (s.passes elapsed) :=
  ⟨h.alone, h.inOrder⟩

theorem Cards.aside (h : Cards s) (recipients : Table Recipient) (config : Config)
    (slots : Nat → Nat → Option Slot) :
    Cards { s with recipients := recipients, config := config, slots := slots } :=
  ⟨h.alone, h.inOrder⟩

-- ------------------------------------------------------------
-- Events
-- ------------------------------------------------------------

theorem Enqueued.open_back {key : DedupeKey} {spec : EventSpec} {eventId : Nat} {created : Bool}
    (h : Enqueued s s' key spec eventId created) (hd : s'.deliveries.rows id = some d)
    (hopen : d.isOpen = true) :
    s.deliveries.rows id = some d ∨ Fresh s spec eventId id d := by
  rcases h.back id d hd with ⟨was, hwas, rfl | ⟨-, -, -, -, rfl⟩⟩ | hfresh
  · exact .inl hwas
  · simp [Delivery.isOpen, Delivery.supersede, Delivery.queued] at hopen
  · exact .inr hfresh

theorem Enqueued.eventOf {key : DedupeKey} {spec : EventSpec} {eventId : Nat} {created : Bool}
    (h : Enqueued s s' key spec eventId created) (hl : Ledger s)
    (hd : s.deliveries.rows id = some d) : s'.eventOf d = s.eventOf d := by
  have hevent := h.event
  cases created with
  | true =>
    obtain ⟨e, he⟩ := hl.stored id d hd
    simp only [if_true] at hevent
    simp only [Outbox.eventOf, hevent.2.2.1, insert_rows_kept he, he]
  | false =>
    simp only [Bool.false_eq_true, if_false] at hevent
    simp only [Outbox.eventOf, hevent.2]

theorem Enqueued.incidents {key : DedupeKey} {spec : EventSpec} {eventId : Nat} {created : Bool}
    (h : Enqueued s s' key spec eventId created) : s'.incidents = s.incidents := by
  rw [h.frame]

theorem isCard_eventOf (h : s'.eventOf d = s.eventOf d) : s'.isCard i r d = s.isCard i r d := by
  simp only [Outbox.isCard, Outbox.incidentOf, h]

theorem older_eventOf {a b : Nat} {da db : Delivery} (ha : s'.eventOf da = s.eventOf da)
    (hb : s'.eventOf db = s.eventOf db) : s'.older (a, da) (b, db) = s.older (a, da) (b, db) := by
  simp only [Outbox.older, ha, hb]

theorem matchesNow_eventOf (h : s'.eventOf d = s.eventOf d)
    (hincidents : s'.incidents = s.incidents) :
    s'.matchesNow d = s.matchesNow d := by
  simp only [Outbox.matchesNow, h, hincidents]

theorem Enqueued.fresh_newest {key : DedupeKey} {spec : EventSpec} {eventId a b : Nat}
    {da db : Delivery} (h : Enqueued s s' key spec eventId true) (hl : Ledger s)
    (hfresh : Fresh s spec eventId a da) (hb : s.deliveries.rows b = some db) :
    s'.older (a, da) (b, db) = false := by
  obtain ⟨-, heventId, hevents, -⟩ := h.event
  obtain ⟨e, he⟩ := hl.stored b db hb
  have hea : s'.eventOf da = some ⟨spec, key, s.now⟩ := by
    rw [Outbox.eventOf, hevents, Table.insert_rows, if_pos (hfresh.event.trans heventId)]
  have heb : s'.eventOf db = some e := by rw [h.eventOf hl hb, Outbox.eventOf, he]
  have hcreated : e.createdAt ≤ s.now := hl.created _ _ he
  have hid : b < a := Nat.lt_of_lt_of_le (Table.lt_next_of_rows hb) hfresh.next
  rw [Bool.eq_false_iff]
  intro holder
  rcases (older_iff hea heb).mp holder with hlt | ⟨-, hlt⟩
  · exact absurd hcreated (Int.not_le.mpr hlt)
  · exact absurd hid (Nat.lt_asymm hlt)

theorem Enqueued.fresh_incident {key : DedupeKey} {spec : EventSpec} {eventId : Nat}
    (h : Enqueued s s' key spec eventId true) (hfresh : Fresh s spec eventId id d) :
    s'.incidentOf d = spec.incidentId := by
  obtain ⟨-, heventId, hevents, -⟩ := h.event
  rw [Outbox.incidentOf, Outbox.eventOf, hevents, Table.insert_rows,
    if_pos (hfresh.event.trans heventId), Option.bind_some]

theorem Enqueued.none_queued {key : DedupeKey} {spec : EventSpec} {eventId : Nat}
    (h : Enqueued s s' key spec eventId true) (hd : s.deliveries.rows id = some d)
    (hd' : s'.deliveries.rows id = some d) (hi : spec.incidentId = some i)
    (hcard : s.isCard i r d = true)
    (hto : r ∈ (s.addressed spec).map fun entry => entry.1) : d.queued = false := by
  obtain ⟨hincident, rfl⟩ := isCard_iff.mp hcard
  have hstarted := h.cleared rfl i hi id d hd hd' hincident hto
  rw [Bool.eq_false_iff]
  intro hq
  simp [Delivery.unstarted, hq] at hstarted

/-- The order of the cards after an enqueue. It may be broken before it where
the new event clears the queue. -/
theorem Cards.enqueued {key : DedupeKey} {spec : EventSpec} {eventId : Nat} {created : Bool}
    (hl : Ledger s) (hl' : Ledger s') (he : Enqueued s s' key spec eventId created)
    (halone : ∀ i r, Alone s i r)
    (horder : ∀ i r, InOrder s i r ∨ created = true ∧ spec.incidentId = some i ∧
      r ∈ (s.addressed spec).map fun entry => entry.1)
    (hjoins : created = false → ∀ id d, s'.deliveries.rows id = some d → Fresh s spec eventId id d →
      ∀ i, s.incidentOf d = some i → ∀ b db, s.deliveries.rows b = some db →
        s.isCard i d.recipientId db = true → db.isOpen = false) : Cards s' := by
  -- a row of a repeated event stands alone
  have hsingle : ∀ {a da b db i r}, created = false → s'.deliveries.rows a = some da →
      Fresh s spec eventId a da → s.deliveries.rows b = some db → s'.isCard i r da = true →
      s'.isCard i r db = true → db.isOpen = true → False := by
    intro a da b db i r hc ha hfresh hb hca hcb hopen
    subst hc
    have hevents := he.event.2
    have hsame : ∀ d, s'.isCard i r d = s.isCard i r d := fun d =>
      isCard_eventOf (by simp only [Outbox.eventOf, hevents])
    rw [hsame] at hca hcb
    obtain ⟨hi, hr⟩ := isCard_iff.mp hca
    rw [hjoins rfl a da ha hfresh i hi b db hb (hr ▸ hcb)] at hopen
    cases hopen
  constructor
  · intro i r a da b db ha hb hca hcb hla hlb
    have hold : ∀ {id d}, s'.deliveries.rows id = some d → d.state = .leased →
        s.deliveries.rows id = some d := by
      intro id d hd hleased
      rcases he.open_back hd (isOpen_iff.mpr (.inr hleased)) with hd | hfresh
      · exact hd
      · rw [hfresh.state] at hleased
        cases hleased
    have ha' := hold ha hla
    have hb' := hold hb hlb
    exact halone i r a da b db ha' hb' (isCard_eventOf (he.eventOf hl ha') ▸ hca)
      (isCard_eventOf (he.eventOf hl hb') ▸ hcb) hla hlb
  · intro i r a da b db ha hb hca hcb hqa hob holder hmatch
    rcases he.open_back ha (isOpen_of_queued hqa), he.open_back hb hob with ⟨ha' | hfa, hb' | hfb⟩
    · have hca' : s.isCard i r da = true := isCard_eventOf (he.eventOf hl ha') ▸ hca
      rcases horder i r with horder | ⟨rfl, hi, hto⟩
      · have hgoal := horder a da b db ha' hb' hca'
          (isCard_eventOf (he.eventOf hl hb') ▸ hcb) hqa hob
          (older_eventOf (he.eventOf hl ha') (he.eventOf hl hb') ▸ holder)
          (matchesNow_eventOf (he.eventOf hl hb') he.incidents ▸ hmatch)
        rw [matchesNow_eventOf (he.eventOf hl ha') he.incidents]
        exact hgoal
      · rw [he.none_queued ha' ha hi hca' hto] at hqa
        cases hqa
    · have hca' : s.isCard i r da = true := isCard_eventOf (he.eventOf hl ha') ▸ hca
      cases created with
      | false => exact (hsingle rfl hb hfb ha' hcb hca (isOpen_of_queued hqa)).elim
      | true =>
        obtain ⟨hi, hr⟩ := isCard_iff.mp hcb
        rw [he.fresh_incident hfb] at hi
        rw [he.none_queued ha' ha hi hca' (hr ▸ hfb.addressed)] at hqa
        cases hqa
    · cases created with
      | false => exact (hsingle rfl ha hfa hb' hca hcb hob).elim
      | true =>
        rw [he.fresh_newest hl hfa hb'] at holder
        cases holder
    · -- one recipient has one row of an event
      have hr : da.recipientId = db.recipientId :=
        (isCard_iff.mp hca).2.trans (isCard_iff.mp hcb).2.symm
      have hsame := hl'.unique a da b db ha hb (hfa.event.trans hfb.event.symm) hr
      subst hsame
      rw [ha] at hb
      cases hb
      exact hmatch

theorem joins_spec {key : DedupeKey} {spec : EventSpec} {eventId : Nat}
    (h : s.joins zones key spec = true) (hkey : s.eventWith key = some eventId)
    (hmem : d ∈ scheduled zones s eventId spec)
    (hfree : s.delivered d.eventId d.recipientId = false)
    (hi : s.incidentOf d = some i) {b : Nat} {db : Delivery} (hb : s.deliveries.rows b = some db)
    (hcard : s.isCard i d.recipientId db = true) : db.isOpen = false := by
  simp only [Outbox.joins, hkey, Option.all_some, List.all_eq_true] at h
  have hone := h d hmem
  simp only [hfree, Bool.false_or, hi, Option.any_some, Bool.not_eq_true', List.any_eq_false,
    Prod.forall, Table.mem_entries, Bool.and_eq_true, not_and, Bool.not_eq_true] at hone
  exact hone b db hb hcard

theorem Cards.enqueue {key : DedupeKey} {spec : EventSpec} (hl : Ledger s)
    (hfits : KeyFits s key spec) (hjoins : s.joins zones key spec = true)
    (halone : ∀ i r, Alone s i r)
    (horder : ∀ i r, InOrder s i r ∨ s.eventWith key = none ∧ spec.incidentId = some i ∧
      r ∈ (s.addressed spec).map fun entry => entry.1)
    (h : s.enqueue zones key spec = some s') : Cards s' := by
  obtain ⟨eventId, created, he⟩ := enqueue_spec hl h
  refine Cards.enqueued hl (hl.enqueue hfits h) he halone ?_ ?_
  · intro i r
    refine (horder i r).imp_right fun ⟨hnew, hrest⟩ => ⟨?_, hrest⟩
    cases created with
    | true => rfl
    | false =>
      have hold := he.event.1
      rw [hnew] at hold
      cases hold
  · intro hc id d hd hfresh i hi b db hb hcard
    subst hc
    have hkey := he.event.1
    rw [enqueue_repeated hkey h] at hd
    rcases foldl_insertDelivery_back _ hd with hd | ⟨-, hmem, hfree⟩
    · rw [hfresh.absent] at hd
      cases hd
    · exact joins_spec hjoins hkey hmem hfree hi hb hcard

theorem joins_of_new {key : DedupeKey} {spec : EventSpec} (h : s.eventWith key = none) :
    s.joins zones key spec = true := by
  simp [Outbox.joins, h]

theorem matchesNow_moved {incident : Nat} {change : Incident → Option Incident}
    (hne : s.incidentOf d ≠ some incident) :
    { s with incidents := s.incidents.updateAt incident change }.matchesNow d = s.matchesNow d := by
  unfold Outbox.matchesNow
  have heq : { s with incidents := s.incidents.updateAt incident change }.eventOf d = s.eventOf d :=
    rfl
  rw [heq]
  cases he : s.eventOf d with
  | none => rfl
  | some e =>
    cases hi : e.spec.incidentId with
    | none => simp [hi]
    | some i =>
      have hother : i ≠ incident := by
        rintro rfl
        exact hne (by simp [Outbox.incidentOf, he, hi])
      simp [hi, hother]

theorem reaches_spec {incident : Nat} {key : DedupeKey} {spec : EventSpec}
    (h : s.reaches incident key spec = true) {a b : Nat} {da db : Delivery}
    (ha : s.deliveries.rows a = some da) (hb : s.deliveries.rows b = some db)
    (hca : s.isCard incident r da = true) (hcb : s.isCard incident r db = true)
    (hqa : da.queued = true) (hob : db.isOpen = true) (holder : s.older (a, da) (b, db) = true) :
    s.eventWith key = none ∧ r ∈ (s.addressed spec).map fun entry => entry.1 := by
  simp only [Outbox.reaches, List.all_eq_true, Prod.forall, Table.mem_entries] at h
  obtain ⟨-, rfl⟩ := isCard_iff.mp hca
  have hpair : (s.deliveries.entries.any fun other => s.isCard incident da.recipientId da &&
      s.isCard incident da.recipientId other.2 && other.2.isOpen && s.older (a, da) other) =
        true := by
    rw [List.any_eq_true]
    exact ⟨(b, db), Table.mem_entries.mpr hb, by simp [hca, hcb, hob, holder]⟩
  have hone := h a da ha
  simp only [hqa, hpair, Bool.and_self, Bool.not_true, Bool.false_or, Bool.and_eq_true,
    Option.isNone_iff_eq_none, List.any_eq_true, beq_iff_eq] at hone
  exact ⟨hone.1, List.mem_map.mpr hone.2⟩

theorem Cards.transition (h : Cards s) (hl : Ledger s) {incident : Nat} {generation : Int}
    {status : IncidentStatus} {key : DedupeKey} {spec : EventSpec}
    (hreissue : ∀ source r, key ≠ .reissue source r) (hauth : ∀ i g, key ≠ .authOpen i g)
    (hreaches : s.reaches incident key { spec with incidentId := some incident } = true)
    (hjoins : s.joins zones key { spec with incidentId := some incident } = true)
    (ht : s.transition zones incident generation status key spec = some s') : Cards s' := by
  unfold Outbox.transition at ht
  split at ht
  · cases ht
  split at ht
  · cases ht
  have hmoved : Ledger { s with
      incidents := s.incidents.updateAt incident fun i =>
        some { i with generation := generation, status := status } } :=
    hl.incidents fun i hi => by simpa using hi
  refine Cards.enqueue hmoved
    ⟨fun source r hk => absurd hk (hreissue source r), fun i g hk => absurd hk (hauth i g)⟩
    hjoins h.alone (fun i r => ?_) ht
  by_cases hi : i = incident
  · -- a pair that could fall out of order is one the event reaches
    subst hi
    by_cases hpair : ∃ a da b db, s.deliveries.rows a = some da ∧ s.deliveries.rows b = some db ∧
        s.isCard i r da = true ∧ s.isCard i r db = true ∧ da.queued = true ∧ db.isOpen = true ∧
        s.older (a, da) (b, db) = true
    · obtain ⟨a, da, b, db, ha, hb, hca, hcb, hqa, hob, holder⟩ := hpair
      obtain ⟨hnew, hto⟩ := reaches_spec hreaches ha hb hca hcb hqa hob holder
      exact .inr ⟨hnew, rfl, hto⟩
    · refine .inl fun a da b db ha hb hca hcb hqa hob holder _ => ?_
      exact absurd ⟨a, da, b, db, ha, hb, hca, hcb, hqa, hob, holder⟩ hpair
  · refine .inl fun a da b db ha hb hca hcb hqa hob holder hmatch => ?_
    have hother : ∀ d, s.isCard i r d = true → s.incidentOf d ≠ some incident := by
      intro d hcard hsame
      rw [(isCard_iff.mp hcard).1] at hsame
      exact hi (Option.some.inj hsame)
    rw [matchesNow_moved (hother db hcb)] at hmatch
    rw [matchesNow_moved (hother da hca)]
    exact h.inOrder i r a da b db ha hb hca hcb hqa hob holder hmatch

theorem matchesNow_inserted (hl : Ledger s) (hd : s.deliveries.rows id = some d) (new : Incident) :
    { s with incidents := s.incidents.insert new }.matchesNow d = s.matchesNow d := by
  obtain ⟨e, he⟩ := hl.stored id d hd
  unfold Outbox.matchesNow
  have heq : { s with incidents := s.incidents.insert new }.eventOf d = some e := he
  have heq' : s.eventOf d = some e := he
  rw [heq, heq']
  cases hi : e.spec.incidentId with
  | none => simp [hi]
  | some i =>
    obtain ⟨row, hrow⟩ := Option.isSome_iff_exists.mp (hl.anchored _ _ _ he hi)
    simp [hi, insert_rows_kept hrow, hrow]

theorem Cards.openIncident (h : Cards s) (hl : Ledger s) {i : Incident} {key : DedupeKey}
    {spec : EventSpec} (hreissue : ∀ source r, key ≠ .reissue source r)
    (hauth : ∀ j g, key = .authOpen j g → j = s.incidents.next)
    (hjoins : s.joins zones key { spec with incidentId := some s.incidents.next } = true)
    (ho : s.openIncident zones i key spec = some s') : Cards s' := by
  unfold Outbox.openIncident at ho
  split at ho
  · cases ho
  have hopened : Ledger { s with incidents := s.incidents.insert i } := by
    refine hl.incidents fun j hj => ?_
    obtain ⟨row, hrow⟩ := Option.isSome_iff_exists.mp hj
    rw [insert_rows_kept hrow]
    rfl
  refine Cards.enqueue hopened
    ⟨fun source r hk => absurd hk (hreissue source r), fun j g hk => by rw [hauth j g hk]⟩
    hjoins h.alone (fun j r => .inl ?_) ho
  intro a da b db ha hb hca hcb hqa hob holder hmatch
  rw [matchesNow_inserted hl hb] at hmatch
  rw [matchesNow_inserted hl ha]
  exact h.inOrder j r a da b db ha hb hca hcb hqa hob holder hmatch

theorem eventWith_authOpen (hl : Ledger s) (generation : Int) :
    s.eventWith (.authOpen s.incidents.next generation) = none := by
  cases hkey : s.eventWith (.authOpen s.incidents.next generation) with
  | none => rfl
  | some eventId =>
    obtain ⟨e, he, hk⟩ := eventWith_some hkey
    have hsome := hl.anchored _ _ _ he (hl.auth _ _ _ _ he hk)
    rw [s.incidents.unused _ (Nat.le_refl _)] at hsome
    cases hsome

theorem Cards.openAuthIncident (h : Cards s) (hl : Ledger s)
    (ho : s.openAuthIncident zones = some s') : Cards s' := by
  unfold Outbox.openAuthIncident at ho
  split at ho
  · cases ho
    exact h
  · exact h.openIncident hl (fun source r hk => by cases hk) (fun j g hk => by cases hk; rfl)
      (joins_of_new (eventWith_authOpen hl _)) ho

-- ------------------------------------------------------------
-- Claims
-- ------------------------------------------------------------

theorem Cards.retireStaleGeneration (h : Cards s) : Cards s.retireStaleGeneration := by
  refine h.close fun id d d' _ hc => ?_
  split at hc
  · rename_i hguard
    cases hc
    simp only [Bool.and_eq_true] at hguard
    exact ⟨.supersede (.inl hguard.1), rfl⟩
  · cases hc

theorem inTurn_spec (h : s.inTurn id d = true) (hcard : s.isCard i r d = true) {b : Nat}
    {db : Delivery} (hb : s.deliveries.rows b = some db) (hcb : s.isCard i r db = true) :
    db.state ≠ .leased ∧ (db.queued = true → s.older (b, db) (id, d) = false) := by
  obtain ⟨hi, rfl⟩ := isCard_iff.mp hcard
  simp only [Outbox.inTurn, hi, Bool.not_eq_true', List.any_eq_false, Prod.forall,
    Table.mem_entries,
    Bool.and_eq_true, Bool.or_eq_true, beq_iff_eq, not_and, not_or, Bool.not_eq_true] at h
  exact h b db hb hcb

theorem Cards.claim (h : Cards s) {req : ClaimRequest} {locked : List Nat}
    (hc : s.claim req locked = some s') : Cards s' := by
  rcases claim_cases hc with rfl | ⟨base, id, d, e, hbase, hd, hclaimable, he, rfl⟩
  · exact h.retireStaleGeneration
  have hcards : Cards base := hbase ▸ h.retireStaleGeneration
  obtain ⟨hqueued, -, -, -, -, -, hturn⟩ := claimable_iff.mp hclaimable
  -- a row after the claim is the leased one or was there before
  have hback : ∀ {row d'}, (base.amend id fun row =>
      some (leaseRow req base.claims.next base.now row)).deliveries.rows row = some d' →
      row = id ∧ d' = leaseRow req base.claims.next base.now d ∨
        row ≠ id ∧ base.deliveries.rows row = some d' := by
    intro row d' hd'
    by_cases hrow : row = id
    · subst hrow
      rw [amend_rows_self hd] at hd'
      exact .inl ⟨rfl, (Option.some.inj hd').symm⟩
    · rw [amend_rows_ne hrow] at hd'
      exact .inr ⟨hrow, hd'⟩
  have hkept : Kept d (leaseRow req base.claims.next base.now d) := leaseRow_kept hqueued
  constructor
  · intro i r a da b db ha hb hca hcb hla hlb
    rcases hback ha, hback hb with ⟨⟨rfl, rfl⟩ | ⟨-, ha'⟩, ⟨rfl, rfl⟩ | ⟨-, hb'⟩⟩
    · rfl
    · exact absurd hlb (inTurn_spec hturn ((isCard_kept hkept).symm.trans hca) hb' hcb).1
    · exact absurd hla (inTurn_spec hturn ((isCard_kept hkept).symm.trans hcb) ha' hca).1
    · exact hcards.alone i r a da b db ha' hb' hca hcb hla hlb
  · intro i r a da b db ha hb hca hcb hqa hob holder hmatch
    rcases hback ha, hback hb with ⟨⟨rfl, rfl⟩ | ⟨-, ha'⟩, ⟨rfl, rfl⟩ | ⟨-, hb'⟩⟩
    · exact hmatch
    · cases hqa
    · have hnone := (inTurn_spec hturn ((isCard_kept hkept).symm.trans hcb) ha' hca).2 hqa
      have hbefore : base.older (a, da) (b, d) = true :=
        (older_kept (Moves.refl da).toKept hkept).symm.trans holder
      rw [hnone] at hbefore
      cases hbefore
    · exact hcards.inOrder i r a da b db ha' hb' hca hcb hqa hob holder hmatch

-- ------------------------------------------------------------
-- Boundary and finalizers
-- ------------------------------------------------------------

theorem Cards.closeHeld (h : Cards s) {token : Nat} {c : Claim} {close : Delivery → Delivery}
    (hrow : s.heldRow token c = some d) (hclose : Moves d (close d) ∧ (close d).queued = false) :
    Cards (s.amend c.deliveryId fun row => some (close row)) := by
  obtain ⟨hd, -, -⟩ := heldRow_spec hrow
  refine h.amend fun row row' hrow' hc => ?_
  rw [hd] at hrow'
  cases hrow'
  cases hc
  refine ⟨hclose.1, fun _ hq => ?_⟩
  rw [hclose.2] at hq
  cases hq

theorem Cards.externalStarted (h : Cards s) {token : Nat} {c : Claim} {kind : OperationKind}
    {generation : Int} {fingerprint : String} :
    Cards (s.externalStarted token c kind generation fingerprint).1 := by
  rcases externalStarted_cases s token c kind generation fingerprint with
    ⟨hsame, -⟩ | ⟨d, code, detail, hrow, heq⟩ | ⟨d, hrow, -, heq⟩
  · rw [hsame]
    exact h
  · rw [heq]
    exact h.closeHeld hrow ⟨.supersede (.inr (heldRow_spec hrow).2.1), rfl⟩
  · rw [heq]
    refine h.closeHeld hrow ⟨.start, ?_⟩
    simp [Delivery.queued, (heldRow_spec hrow).2.1]

theorem Cards.sent (h : Cards s) {token : Nat} {c : Claim} {messageId : Int}
    (hs : s.sent token c messageId = some s') : Cards s' := by
  unfold Outbox.sent at hs
  split at hs
  · cases hs
  split at hs
  · rename_i hrow
    cases hheld : s.heldRow token c with
    | none => simp [hheld] at hrow
    | some row =>
      cases hs
      refine Cards.aside (s := s.amend c.deliveryId _) ?_ s.recipients s.config _
      refine h.closeHeld hheld ⟨?_, rfl⟩
      exact .close (.inr (heldRow_spec hheld).2.1) rfl rfl ⟨rfl, by simp⟩ (by simp)
  · cases hs
    exact h

/-- What SQL reads as a generation Python reads as the same. -/
theorem pyGeneration_of_sqlGeneration {payload : Obj} {g : Int}
    (h : sqlGeneration payload = some g) : pyGeneration payload = some g := by
  unfold sqlGeneration Obj.text at h
  unfold pyGeneration
  cases hvalue : payload.get? "generation" with
  | none => simp [hvalue] at h
  | some value =>
    simp only [hvalue, Option.bind_some] at h
    cases htext : value.text with
    | none => simp [htext] at h
    | some text =>
      simp only [htext, Option.ite_none_right_eq_some, Option.some.injEq] at h
      obtain ⟨hnumeral, rfl⟩ := h
      have hdigits := PyText.isDigit_of_isNumeral hnumeral
      -- of the printed values only an integer is a numeral
      cases value with
      | null => cases htext
      | bool b =>
        cases htext
        cases b <;> revert hnumeral <;> decide
      | str text' =>
        cases htext
        exact PyText.int?_of_isNumeral hnumeral
      | num m e =>
        cases htext
        simp only [Json.render] at hnumeral hdigits ⊢
        split at hdigits
        · rename_i he
          subst he
          cases m with
          | ofNat n =>
            have hprint : (toString (Int.ofNat n)).toList = Nat.toDigits 10 n := by
              rw [← Nat.toList_repr]
              rfl
            simp only [if_true, hprint, Nat.ofDigitChars_ten_toDigits]
            simp
          | negSucc n =>
            have hprint : toString (Int.negSucc n) = "-" ++ (n + 1).repr := rfl
            exact absurd (hdigits '-' (by simp only [hprint]; simp)) (by decide)
        · exact absurd (hdigits 'e' (by simp)) (by decide)
      | arr items =>
        cases htext
        exact absurd (hdigits '[' (by simp [Json.render])) (by decide)
      | obj fields =>
        cases htext
        exact absurd (hdigits '\x7b' (by simp [Json.render])) (by decide)

theorem claimMatches_of_matchesIncidentState {spec : EventSpec} {incident : Incident}
    (hi : spec.incidentId = some i) (hacks : boundAcks spec)
    (h : spec.matchesIncidentState i incident = true) : spec.claimMatches i incident = true := by
  simp only [EventSpec.matchesIncidentState, EventSpec.claimMatches, Bool.and_eq_true,
    List.all_eq_true] at h ⊢
  refine ⟨h.1, fun a ha => ?_⟩
  have hbinds := h.2 a ha
  by_cases hkind : a.kind = "ack_incident"
  · obtain ⟨-, -, hread⟩ := hacks i hi a ha hkind
    obtain ⟨g, hg⟩ := Option.isSome_iff_exists.mp hread
    simpa only [ActionSpec.bindsAck, hg, pyGeneration_of_sqlGeneration hg] using hbinds
  · simp [ActionSpec.bindsAck, hkind]

theorem matchesNow_of_isCurrent {c : Claim} {token : Nat} (hc : Claimed s c)
    (hheld : s.heldRow token c = some d) (h : c.incidentId.isSome = true → s.isCurrent c = true) :
    s.matchesNow d = true := by
  obtain ⟨e, he, hspec⟩ := hc.event
  have heq : s.eventOf d = some e := by rw [Outbox.eventOf, (hc.held hheld).1, he]
  simp only [Outbox.matchesNow, heq, Option.any_some, hspec]
  cases hi : c.event.incidentId with
  | none => rfl
  | some i =>
    have hsome : c.incidentId = some i := hi
    have hcurrent := h (by rw [hsome]; rfl)
    simp only [Outbox.isCurrent, hsome] at hcurrent
    cases hrow : s.incidents.rows i with
    | none => simp [hrow] at hcurrent
    | some incident =>
      simp only [hrow, Option.any_some] at hcurrent ⊢
      exact claimMatches_of_matchesIncidentState hi hc.acks hcurrent

theorem Cards.reissue (h : Cards s) (hl : Ledger s) {source recipient : Nat} {spec : EventSpec}
    {generation : Option Int} {status : Option IncidentStatus}
    (hclosed : ∃ id d, s.deliveries.rows id = some d ∧ d.eventId = source ∧
      d.recipientId = recipient ∧
      (d.state = .unknown ∨ d.state = .superseded))
    (hnew : s.eventWith (.reissue source recipient) = none)
    (hr : s.reissue zones source spec recipient generation status = some s') : Cards s' := by
  unfold Outbox.reissue at hr
  split at hr
  · refine Cards.enqueue hl ⟨fun source' r' hkey => ?_, fun i g hkey => by cases hkey⟩
      (joins_of_new hnew) h.alone (fun i r => .inl (h.inOrder i r)) hr
    cases hkey
    exact hclosed
  · cases hr
    exact h

/-- What is still leased was never reissued. -/
theorem eventWith_reissue (hl : Ledger s) (hd : s.deliveries.rows id = some d)
    (hleased : d.state = .leased) : s.eventWith (.reissue d.eventId d.recipientId) = none := by
  cases hkey : s.eventWith (.reissue d.eventId d.recipientId) with
  | none => rfl
  | some eventId =>
    obtain ⟨e, he, hk⟩ := eventWith_some hkey
    obtain ⟨row, was, hwas, hevent, hrecipient, hstate⟩ := hl.reissued _ _ _ _ he hk
    have hsame := hl.unique row was id d hwas hd hevent hrecipient
    subst hsame
    rw [hd] at hwas
    cases hwas
    rcases hstate with hstate | hstate <;> rw [hleased] at hstate <;> cases hstate

theorem Cards.superseded (h : Cards s) (hl : Ledger s) {token : Nat} {c : Claim} {reason : String}
    {withReissue : Bool} (hc : Claimed s c)
    (hs : s.superseded zones token c reason withReissue = some s') : Cards s' := by
  unfold Outbox.superseded at hs
  split at hs
  · cases hs
    exact h
  · rename_i hsome
    obtain ⟨d, hheld⟩ := Option.ne_none_iff_exists'.mp (by simpa using hsome)
    obtain ⟨hd, hleased, -⟩ := heldRow_spec hheld
    have hmoves : Moves d (d.supersede s.now "incident_snapshot_reissued"
        (some (PyText.clip 500 reason))) := .supersede (.inr hleased)
    let close : Delivery → Delivery := fun d =>
      d.supersede s.now "incident_snapshot_reissued" (some (PyText.clip 500 reason))
    have hcards : Cards (s.amend c.deliveryId fun row => some (close row)) :=
      h.closeHeld hheld ⟨hmoves, rfl⟩
    have hledger : Ledger (s.amend c.deliveryId fun row => some (close row)) :=
      hl.closeHeld hheld fun _ => hmoves
    dsimp only at hs
    split at hs
    · obtain ⟨hevent, hrecipient⟩ := hc.held hheld
      refine hcards.reissue hledger ⟨c.deliveryId, _, amend_rows_self hd, hevent,
        hrecipient, .inr rfl⟩
        ?_ hs
      rw [← hevent, ← hrecipient]
      show s.eventWith _ = none
      exact eventWith_reissue hl hd hleased
    · cases hs
      exact hcards

theorem Cards.retireBacklog (h : Cards s) (recipient : Nat) (code detail : String) :
    Cards (s.retireBacklog recipient code detail) := by
  refine h.close fun id d d' _ hc => ?_
  split at hc
  · rename_i hguard
    cases hc
    simp only [Bool.and_eq_true] at hguard
    exact ⟨.supersede (unstarted_open hguard.2), rfl⟩
  · cases hc

theorem returnable_openAuthIncident (hl : Ledger s) (ho : s.openAuthIncident zones = some s')
    (hd : s.deliveries.rows id = some d) (h : Returnable s id d) : Returnable s' id d := by
  rcases openAuthIncident_enqueued hl ho with
    rfl | ⟨base, generation, spec, eventId, created, hbase, rfl,
    hspec, he⟩
  · exact h
  have heq : ∀ {row d}, s.deliveries.rows row = some d → s'.eventOf d = s.eventOf d := fun hrow =>
    he.eventOf hbase hrow
  have hmatch : ∀ {row d}, s.deliveries.rows row = some d → s'.matchesNow d = s.matchesNow d := by
    intro row d hrow
    rw [matchesNow_eventOf (he.eventOf hbase hrow) he.incidents]
    exact matchesNow_inserted hl hrow _
  refine h.imp (fun hm => (hmatch hd).trans hm) fun hnone i b db hi hb hcard hq holder => ?_
  have hi' : s.incidentOf d = some i := by
    rw [← hi]
    simp only [Outbox.incidentOf, heq hd]
  rcases he.open_back hb (isOpen_of_queued hq) with hb' | hfresh
  · rw [hmatch hb']
    exact hnone i b db hi' hb' (isCard_eventOf (heq hb') ▸ hcard) hq
      (older_eventOf (heq hd) (heq hb') ▸ holder)
  · -- the new rows are of the new incident
    cases created with
    | false =>
      have hkey : s.eventWith (.authOpen s.incidents.next generation) = some eventId := he.event.1
      rw [eventWith_authOpen hl] at hkey
      cases hkey
    | true =>
      have hnew := (isCard_iff.mp hcard).1
      rw [he.fresh_incident hfresh, hspec] at hnew
      cases hnew
      obtain ⟨e, hstored⟩ := hl.stored id d hd
      simp only [Outbox.incidentOf, Outbox.eventOf, hstored, Option.bind_some] at hi'
      have hsome := hl.anchored _ _ _ hstored hi'
      rw [s.incidents.unused _ (Nat.le_refl _)] at hsome
      cases hsome

theorem Cards.failure (h : Cards s) (hl : Ledger s) {token : Nat} {c : Claim} {error : GatewayError}
    {fingerprint : Option String} (hc : Claimed s c)
    (hreturn : ∀ d, s.heldRow token c = some d → s.unauthorizes c error fingerprint = true →
      Returnable s c.deliveryId d)
    (hf : s.failure zones token c error fingerprint = some s') : Cards s' := by
  rcases failure_cases hf with rfl | ⟨prepared, decision, detail, d, hprepared, hheld,
    ⟨-, rfl⟩ | ⟨hfresh, failed, reissued, hfailed, hreissued, rfl⟩⟩
  · exact h
  · exact h.closeHeld hheld ⟨.supersede (.inr (heldRow_spec hheld).2.1), rfl⟩
  obtain ⟨hd, hleased, -⟩ := heldRow_spec hheld
  obtain ⟨hprepledger, hprepared_d⟩ := hl.prepared hprepared hd
  -- the row goes back to the queue only if it still matches, or after a 401
  have hready : Cards prepared ∧
      (decision.state = .retry → Returnable prepared c.deliveryId d) := by
    rcases prepareFailure_cases hprepared with ⟨rfl, hkind, -⟩ | ⟨rfl, -, hdead, -⟩ |
      ⟨hopened, hkind, -, hguard⟩
    · refine ⟨h, fun hretry => .inl (matchesNow_of_isCurrent hc hheld fun hsome => ?_)⟩
      simpa [Outbox.staleAfterFailure, hsome, hretry, hkind] using hfresh
    · refine ⟨h, fun hretry => ?_⟩
      rw [hdead] at hretry
      cases hretry
    · refine ⟨h.openAuthIncident hl hopened, fun _ => ?_⟩
      refine returnable_openAuthIncident hl hopened hd (hreturn d hheld ?_)
      simpa [Outbox.unauthorizes, hkind] using hguard
  have hcards : Cards failed := by
    rw [hfailed]
    refine hready.1.amend fun row row' hrow heq => ?_
    rw [hprepared_d] at hrow
    cases hrow
    cases heq
    refine ⟨.fail hleased (prepareFailure_state hprepared), fun _ hq => hready.2 ?_⟩
    have hpending : decision.state ≠ .pending := by
      rcases prepareFailure_state hprepared with hs | hs | ⟨hs, -⟩ <;> simp [hs]
    exact (Delivery.queued_iff.mp hq).resolve_left hpending
  have hreissue : Cards reissued := by
    unfold Outbox.reissueAfterFailure at hreissued
    split at hreissued
    · rename_i hre
      have hunknown : decision.state = .unknown := by
        simp only [Outbox.reissuesAfterFailure, Bool.and_eq_true, beq_iff_eq] at hre
        exact hre.1.1
      obtain ⟨hevent, hrecipient⟩ := hc.held hheld
      have hledger : Ledger failed := by
        rw [hfailed]
        exact hl.failed hprepared hd hleased
      refine hcards.reissue hledger
        ⟨c.deliveryId, Delivery.fail d s.now decision detail, ?_, hevent, hrecipient,
          .inl hunknown⟩ ?_
        hreissued
      · rw [hfailed]
        exact amend_rows_self hprepared_d
      · rw [← hevent, ← hrecipient, hfailed]
        show prepared.eventWith _ = none
        exact eventWith_reissue hprepledger hprepared_d hleased
    · cases hreissued
      exact hcards
  split
  · exact (hreissue.aside _ _ _).retireBacklog _ _ _
  · exact hreissue

-- ------------------------------------------------------------
-- Recovery
-- ------------------------------------------------------------

/-- The expiry pass: the deliveries it has to reissue are closed and were not reissued. -/
structure Unissued (s : Outbox) (todo : List (Nat × Delivery)) : Prop where
  cards : Cards s
  new : ∀ entry ∈ todo, s.eventWith (.reissue entry.2.eventId entry.2.recipientId) = none
  distinct : todo.Pairwise fun a b =>
    (a.2.eventId, a.2.recipientId) ≠ (b.2.eventId, b.2.recipientId)

theorem expireRow_returns {now : Int} (h : expireRow now d = some d') (hq : d'.queued = true) :
    Delivery.returns d now = true := by
  unfold Outbox.expireRow at h
  split at h
  · assumption
  · split at h
    · cases h
      cases hq
    · cases h

theorem unissued_start (h : Cards s) (hl : Ledger s)
    (hreturn : ∀ id d, s.deliveries.rows id = some d → Delivery.returns d s.now = true →
      Returnable s id d) :
    Unissued { s with deliveries := s.deliveries.update fun _ => expireRow s.now }
      (s.deliveries.entries.filter fun entry => Delivery.ambiguous entry.2 s.now) where
  cards := h.update fun id d d' hd hc =>
    ⟨expireRow_moves hc, fun _ hq => hreturn id d hd (expireRow_returns hc hq)⟩
  new := by
    rintro ⟨id, d⟩ hmem
    rw [List.mem_filter, Table.mem_entries] at hmem
    have hleased : d.state = .leased := by
      have hexpired := hmem.2
      simp only [Delivery.ambiguous, Delivery.expired, Bool.and_eq_true, beq_iff_eq] at hexpired
      exact hexpired.1.1.1
    show s.eventWith _ = none
    exact eventWith_reissue hl hmem.1 hleased
  distinct := by
    refine List.Pairwise.filter _ ?_
    refine s.deliveries.entries_pairwise.imp_of_mem fun {a b} ha hb hlt heq => ?_
    simp only [Prod.mk.injEq] at heq
    have hsame := hl.unique a.1 a.2 b.1 b.2 (Table.mem_entries.mp ha) (Table.mem_entries.mp hb)
      heq.1 heq.2
    omega

theorem eventWith_of_enqueued {key other : DedupeKey} {spec : EventSpec} {eventId : Nat}
    {created : Bool} (h : Enqueued s s' key spec eventId created) (hne : other ≠ key)
    (hnone : s.eventWith other = none) : s'.eventWith other = none := by
  have hold := eventWith_none hnone
  cases hkey : s'.eventWith other with
  | none => rfl
  | some id =>
    obtain ⟨e, he, hk⟩ := eventWith_some hkey
    have hevent := h.event
    cases created with
    | false =>
      rw [hevent.2] at he
      exact absurd hk (hold id e he)
    | true =>
      simp only [if_true] at hevent
      rw [hevent.2.2.1, Table.insert_rows] at he
      split at he
      · cases he
        exact absurd hk.symm hne
      · exact absurd hk (hold id e he)

theorem Unissued.step {entry : Nat × Delivery} {todo : List (Nat × Delivery)}
    (hu : Unissued s (entry :: todo)) (hx : Expiring s (entry :: todo))
    (h : s.reissueExpired zones entry.2 = some s') : Unissued s' todo := by
  have hrest : ∀ other ∈ todo, s.eventWith (.reissue other.2.eventId other.2.recipientId) = none :=
    fun other hmem => hu.new other (List.mem_cons_of_mem _ hmem)
  obtain ⟨hfirst, hdistinct⟩ := List.pairwise_cons.mp hu.distinct
  rcases reissueExpired_cases h with rfl | ⟨e, i, generation, status, -, -, -, henqueue⟩
  · exact ⟨hu.cards, hrest, hdistinct⟩
  · obtain ⟨d, hd, hevent, hrecipient, hstate⟩ := hx.closed entry List.mem_cons_self
    refine ⟨?_, fun other hmem => ?_, hdistinct⟩
    · refine Cards.enqueue hx.ledger ⟨fun source r hkey => ?_, fun j g hkey => by cases hkey⟩
        (joins_of_new (hu.new entry List.mem_cons_self)) hu.cards.alone
        (fun i r => .inl (hu.cards.inOrder i r)) henqueue
      cases hkey
      exact ⟨entry.1, d, hd, hevent, hrecipient, .inl hstate⟩
    · obtain ⟨eventId, created, henqueued⟩ := enqueue_spec hx.ledger henqueue
      refine eventWith_of_enqueued henqueued (fun hkey => ?_) (hrest other hmem)
      have hne := hfirst other hmem
      injection hkey with hsource hto
      exact hne (by rw [hsource, hto])

theorem Unissued.run {todo : List (Nat × Delivery)} (hu : Unissued s todo) (hx : Expiring s todo)
    (h : todo.foldlM (fun s entry => s.reissueExpired zones entry.2) s = some s') : Cards s' := by
  induction todo generalizing s with
  | nil =>
    cases h
    exact hu.cards
  | cons entry todo ih =>
    rw [List.foldlM_cons] at h
    obtain ⟨next, hnext, h⟩ := Option.bind_eq_some_iff.mp h
    exact ih (hu.step hx hnext) (hx.step hnext) h

theorem Cards.reconcile (h : Cards s) (hl : Ledger s)
    (hreturn : ∀ id d, s.deliveries.rows id = some d → Delivery.returns d s.now = true →
      Returnable s id d)
    (hr : s.reconcile zones = some s') : Cards s' :=
  (unissued_start h hl hreturn).run (expiring_start hl) hr

theorem Cards.resolveAuthIncident (h : Cards s) (hl : Ledger s)
    (horderly : s.orderly zones .refreshAuthGate = true)
    (hr : s.resolveAuthIncident zones = some s') : Cards s' := by
  unfold Outbox.resolveAuthIncident at hr
  split at hr
  · cases hr
    exact h
  rename_i id hactive
  split at hr
  · cases hr
    exact h
  rename_i i hrow
  simp only [Outbox.orderly, hactive, hrow, Option.all_some, Bool.and_eq_true] at horderly
  exact h.transition hl (fun source r hk => by cases hk) (fun i g hk => by cases hk) horderly.1
    horderly.2 hr

theorem Cards.refreshAuthGate (h : Cards s) (hl : Ledger s)
    (horderly : s.orderly zones .refreshAuthGate = true)
    (hr : s.refreshAuthGate zones = some s') : Cards s' := by
  obtain ⟨resolved, hresolved, rfl⟩ := Option.map_eq_some_iff.mp hr
  have hledger := hl.resolveAuthIncident hresolved
  refine (h.resolveAuthIncident hl horderly hresolved).update fun id d d' hd hc => ?_
  split at hc
  · rename_i hguard
    cases hc
    simp only [Bool.and_eq_true, Bool.or_eq_true, beq_iff_eq] at hguard
    rcases hguard.1 with hretry | hdead
    · refine ⟨⟨⟨rfl, rfl, fun hs => by simp [Delivery.settled, hretry] at hs, fun h => by cases h⟩,
        fun _ => .inl (Delivery.queued_iff.mpr (.inr hretry)), fun hl => by cases hl⟩,
          fun hleased => ?_⟩
      rw [hretry] at hleased
      cases hleased
    · exact absurd hguard.2 (hledger.revivable id d hd hdead)
  · cases hc

-- ------------------------------------------------------------
-- Runs
-- ------------------------------------------------------------

theorem Cards.apply (h : Cards s) (hl : Ledger s) {op : Op} (horderly : s.orderly zones op = true)
    (ha : s.apply zones op = some s') : Cards s' := by
  cases op with
  | transition incident generation status key spec =>
    simp only [Outbox.orderly, Bool.and_eq_true] at horderly
    exact h.transition hl (fun source r hk => by cases hk) (fun i g hk => by cases hk) horderly.1
      horderly.2 ha
  | openIncident i key spec =>
    exact h.openIncident hl (fun source r hk => by cases hk) (fun j g hk => by cases hk) horderly ha
  | enqueue key spec =>
    exact Cards.enqueue hl ⟨fun source r hk => (by cases hk), fun i g hk => (by cases hk)⟩ horderly
      h.alone (fun i r => .inl (h.inOrder i r)) ha
  | claim req locked => exact h.claim ha
  | externalStarted token kind generation fingerprint =>
    obtain ⟨c, -, rfl⟩ := Option.map_eq_some_iff.mp ha
    exact h.externalStarted
  | sent token messageId =>
    obtain ⟨c, -, ha⟩ := Option.bind_eq_some_iff.mp ha
    exact h.sent ha
  | failure token error fingerprint =>
    obtain ⟨c, hc, ha⟩ := Option.bind_eq_some_iff.mp ha
    refine h.failure hl (hl.claimed token c hc) (fun d hheld hauth => ?_) ha
    simp only [Outbox.orderly, hc, hheld, hauth, Option.all_some, Bool.not_true, Bool.false_or]
      at horderly
    exact returnable_iff.mp horderly
  | superseded token reason withReissue =>
    obtain ⟨c, hc, ha⟩ := Option.bind_eq_some_iff.mp ha
    exact h.superseded hl (hl.claimed token c hc) ha
  | reconcile =>
    refine h.reconcile hl (fun id d hd hreturns => ?_) ha
    simp only [Outbox.orderly, List.all_eq_true, Prod.forall, Table.mem_entries] at horderly
    have hone := horderly id d hd
    rw [hreturns, Bool.not_true, Bool.false_or] at hone
    exact returnable_iff.mp hone
  | refreshAuthGate => exact h.refreshAuthGate hl horderly ha
  | authProbeFailed => exact h.openAuthIncident hl ha
  | addRecipient r =>
    cases ha
    exact h.aside _ _ _
  | setRecipient id r =>
    cases ha
    exact h.aside _ _ _
  | retireBacklog recipient code detail =>
    cases ha
    exact h.retireBacklog recipient code detail
  | configure config =>
    cases ha
    exact h.aside _ _ _

theorem Cards.step (h : Cards s) (hl : Ledger s) (e : Nat × Op)
    (horderly : (s.passes e.1).orderly zones e.2 = true) : Cards (s.step zones e) := by
  unfold Outbox.step
  dsimp only
  cases happly : (s.passes e.1).apply zones e.2 with
  | none => exact h.passes e.1
  | some s' => exact (h.passes e.1).apply (hl.passes e.1) horderly happly

theorem Cards.init : Cards Outbox.init := by
  constructor <;> intros <;> intro <;> intros <;> simp_all [Outbox.init, Table.empty]

end StopBot.Telegram
