import StopBot.Lib.PyText
import StopBot.Lib.Runs
import StopBot.Lib.Table

/-!
# Rolling windows

`enqueue_notification_in_rolling_window`: at most one event of a logical key in
a window that ends with the call. Each call is a transaction that takes the
advisory lock of its key, looks for a committed event whose stored key starts
with the logical key and a colon, and inserts its own under a fresh nonce. Any
number of calls are under way at once.
-/

namespace StopBot.Telegram

open Lib

/-- The first forty digits of the digest of a key, and the number of its lock. -/
structure Hashes where
  digest : List Char → List Char
  lock : List Char → Int

/-- `uuid.uuid4().hex`. -/
structure Nonce where
  text : List Char
  hex : ∀ c ∈ text, c ∈ "0123456789abcdef".toList
  length : text.length = 32

def logicalKey (h : Hashes) (raw : List Char) : List Char :=
  if raw.length ≤ 167 then raw else raw.take 126 ++ ':' :: h.digest raw

def concreteKey (logical : List Char) (nonce : Nonce) : List Char :=
  logical ++ ':' :: nonce.text

def matchesKey (logical stored : List Char) : Bool :=
  stored.take logical.length == logical &&
    (stored == logical || (stored.drop logical.length).head? == some ':')

structure WindowEvent where
  rawKey : List Char
  dedupeKey : List Char
  createdAt : Int
  window : Nat
  creator : Nat
  committed : Bool := false
  deriving DecidableEq, Repr

inductive CallPhase
  | waiting
  | locked
  | decided
  | ended
  deriving DecidableEq, Repr

structure WindowCall where
  rawKey : List Char
  window : Nat
  startedAt : Int
  phase : CallPhase := .waiting
  deriving DecidableEq, Repr

def WindowCall.holdsLock (c : WindowCall) : Bool :=
  c.phase == .locked || c.phase == .decided

/-- `NOW() - make_interval(secs => :window)`. -/
def WindowCall.opens (c : WindowCall) : Int :=
  c.startedAt - c.window * 1000000

def WindowEvent.opens (e : WindowEvent) : Int :=
  e.createdAt - e.window * 1000000

structure Windows where
  now : Int
  events : List WindowEvent
  calls : Table WindowCall

def Windows.init : Windows := ⟨0, [], Table.empty⟩

namespace Windows

def found (h : Hashes) (c : WindowCall) (e : WindowEvent) : Bool :=
  e.committed && matchesKey (logicalKey h c.rawKey) e.dedupeKey && c.opens ≤ e.createdAt

/-- `was_created`: nothing is found, and the concrete key is not taken. -/
def creates (h : Hashes) (s : Windows) (c : WindowCall) (nonce : Nonce) : Bool :=
  !(s.events.any fun e => found h c e) &&
    !(s.events.any fun e => e.dedupeKey == concreteKey (logicalKey h c.rawKey) nonce)

def lockTaken (h : Hashes) (s : Windows) (raw : List Char) : Bool :=
  s.calls.entries.any fun entry =>
    entry.2.holdsLock && h.lock (logicalKey h entry.2.rawKey) == h.lock (logicalKey h raw)

inductive Op
  | begin_ (raw : List Char) (window : Nat)
  | acquire (id : Nat)
  | enqueue (id : Nat) (nonce : Nonce)
  | commit (id : Nat)
  | abort (id : Nat)

def setPhase (s : Windows) (id : Nat) (phase : CallPhase) : Table WindowCall :=
  s.calls.updateAt id fun c => some { c with phase }

def acquire (h : Hashes) (s : Windows) (id : Nat) : Windows :=
  match s.calls.rows id with
  | some c =>
    if c.phase = .waiting ∧ lockTaken h s c.rawKey = false then
      { s with calls := s.setPhase id .locked }
    else s
  | none => s

def enqueueOnce (h : Hashes) (s : Windows) (id : Nat) (nonce : Nonce) : Windows :=
  match s.calls.rows id with
  | some c =>
    if c.phase = .locked then
      if creates h s c nonce then
        { s with
          events := s.events ++
            [{ rawKey := c.rawKey, dedupeKey := concreteKey (logicalKey h c.rawKey) nonce
               createdAt := c.startedAt, window := c.window, creator := id }]
          calls := s.setPhase id .decided }
      else { s with calls := s.setPhase id .decided }
    else s
  | none => s

def commit (s : Windows) (id : Nat) : Windows :=
  match s.calls.rows id with
  | some c =>
    if c.phase = .decided then
      { s with
        events := s.events.map fun e => if e.creator = id then { e with committed := true } else e
        calls := s.setPhase id .ended }
    else s
  | none => s

def abort (s : Windows) (id : Nat) : Windows :=
  match s.calls.rows id with
  | some c =>
    if c.phase = .ended then s
    else
      { s with
        events := s.events.filter fun e => e.committed || e.creator != id
        calls := s.setPhase id .ended }
  | none => s

/-- Windows of less than a minute are refused before the transaction. -/
def apply (h : Hashes) (s : Windows) : Op → Windows
  | .begin_ raw window =>
    if window < 60 then s
    else { s with calls := s.calls.insert { rawKey := raw, window, startedAt := s.now } }
  | .acquire id => acquire h s id
  | .enqueue id nonce => enqueueOnce h s id nonce
  | .commit id => commit s id
  | .abort id => abort s id

def passes (s : Windows) (elapsed : Nat) : Windows := { s with now := s.now + elapsed }

def step (h : Hashes) (s : Windows) (e : Nat × Op) : Windows :=
  apply h (s.passes e.1) e.2

end Windows

-- ------------------------------------------------------------
-- Stored keys
-- ------------------------------------------------------------

theorem Nonce.notMem_colon (nonce : Nonce) : ':' ∉ nonce.text := by
  intro hmem
  exact absurd (nonce.hex ':' hmem) (by decide)

theorem matchesKey_iff {logical stored : List Char} :
    matchesKey logical stored = true ↔ stored = logical ∨ logical ++ [':'] <+: stored := by
  simp only [matchesKey, Bool.and_eq_true, Bool.or_eq_true, beq_iff_eq]
  constructor
  · rintro ⟨htake, rfl | hhead⟩
    · exact .inl rfl
    · right
      obtain ⟨tail, htail⟩ := List.head?_eq_some_iff.mp hhead
      refine ⟨tail, ?_⟩
      rw [← List.take_append_drop logical.length stored, htake, htail]
      simp
  · rintro (rfl | ⟨tail, rfl⟩)
    · simp
    · simp

/-- A key and its colon are read from the part before the nonce. -/
theorem prefix_concreteKey_iff {logical other : List Char} {nonce : Nonce} :
    logical ++ [':'] <+: concreteKey other nonce ↔ logical ++ [':'] <+: other ++ [':'] := by
  have hown : other ++ [':'] <+: concreteKey other nonce := ⟨nonce.text, by simp [concreteKey]⟩
  refine ⟨fun h => ?_, fun h => h.trans hown⟩
  rcases List.prefix_or_prefix_of_prefix h hown with hle | hge
  · exact hle
  · -- a longer key would have its colon inside the nonce
    obtain ⟨extra, hextra⟩ := hge
    rcases List.eq_nil_or_concat extra with rfl | ⟨start, last, rfl⟩
    · exact ⟨[], by rw [List.append_nil, ← hextra, List.append_nil]⟩
    · obtain ⟨rest, hrest⟩ := h
      have hlast : last = ':' := by
        rw [List.concat_eq_append, ← List.append_assoc] at hextra
        exact List.head_eq_of_cons_eq (List.append_inj_right' hextra rfl)
      have hnonce : (start ++ [last]) ++ rest = nonce.text := by
        rw [← hextra, concreteKey, List.append_assoc, List.append_assoc] at hrest
        simpa using hrest
      refine absurd ?_ nonce.notMem_colon
      rw [← hnonce, hlast]
      simp

namespace Windows

def Shadows (h : Hashes) (c : WindowCall) (e : WindowEvent) : Prop :=
  logicalKey h c.rawKey ++ [':'] <+: logicalKey h e.rawKey ++ [':'] ∨
    e.dedupeKey = logicalKey h c.rawKey

structure Inv (h : Hashes) (s : Windows) : Prop where
  keyed : ∀ e ∈ s.events, ∃ nonce, e.dedupeKey = concreteKey (logicalKey h e.rawKey) nonce
  pending : ∀ e ∈ s.events, e.committed = false →
    ∃ c, s.calls.rows e.creator = some c ∧ c.phase = .decided ∧ c.rawKey = e.rawKey
  exclusive : ∀ i j c d, s.calls.rows i = some c → s.calls.rows j = some d →
    c.holdsLock = true → d.holdsLock = true →
    h.lock (logicalKey h c.rawKey) = h.lock (logicalKey h d.rawKey) → i = j
  apart : s.events.Pairwise fun e e' => e.rawKey = e'.rawKey → e.createdAt < e'.opens

section
variable {h : Hashes} {s : Windows} {id : Nat} {c : WindowCall}

theorem setPhase_rows (s : Windows) (id : Nat) (phase : CallPhase) (i : Nat) :
    (s.setPhase id phase).rows i =
      (s.calls.rows i).map fun c => if i = id then { c with phase } else c := by
  simp only [setPhase, Table.updateAt_rows]
  congr 1
  funext c
  split_ifs <;> rfl

theorem setPhase_of_ne {phase : CallPhase} {i : Nat} (hne : i ≠ id) :
    (s.setPhase id phase).rows i = s.calls.rows i := by
  simp [setPhase_rows, hne]

theorem setPhase_self {phase : CallPhase} (hc : s.calls.rows id = some c) :
    (s.setPhase id phase).rows id = some { c with phase } := by
  simp [setPhase_rows, hc]

theorem Inv.exclusive_setPhase (hs : Inv h s) (hc : s.calls.rows id = some c) {phase : CallPhase}
    (hkeep : phase = .ended ∨ c.holdsLock = true) :
    ∀ i j d e, (s.setPhase id phase).rows i = some d → (s.setPhase id phase).rows j = some e →
      d.holdsLock = true → e.holdsLock = true →
      h.lock (logicalKey h d.rawKey) = h.lock (logicalKey h e.rawKey) → i = j := by
  have hback : ∀ i d, (s.setPhase id phase).rows i = some d → d.holdsLock = true →
      ∃ d', s.calls.rows i = some d' ∧ d'.holdsLock = true ∧ d'.rawKey = d.rawKey := by
    intro i d hd hlock
    by_cases hi : i = id
    · subst hi
      rw [setPhase_self hc] at hd
      obtain rfl := Option.some.inj hd
      rcases hkeep with rfl | hkeep
      · exact absurd hlock (by simp [WindowCall.holdsLock])
      · exact ⟨c, hc, hkeep, rfl⟩
    · rw [setPhase_of_ne hi] at hd
      exact ⟨d, hd, hlock, rfl⟩
  intro i j d e hd he hdlock helock hsame
  obtain ⟨d', hd', hdlock', hdkey⟩ := hback i d hd hdlock
  obtain ⟨e', he', helock', hekey⟩ := hback j e he helock
  exact hs.exclusive i j d' e' hd' he' hdlock' helock' (by rw [hdkey, hekey, hsame])

theorem Inv.committed_of_locked (hs : Inv h s) (hc : s.calls.rows id = some c)
    (hphase : c.phase = .locked) {e : WindowEvent} (he : e ∈ s.events)
    (hkey : e.rawKey = c.rawKey) :
    e.committed = true := by
  by_contra hpending
  obtain ⟨d, hd, hdecided, hdkey⟩ := hs.pending e he (by simpa using hpending)
  have hsame : e.creator = id := by
    refine hs.exclusive e.creator id d c hd hc ?_ ?_ ?_
    · simp [WindowCall.holdsLock, hdecided]
    · simp [WindowCall.holdsLock, hphase]
    · rw [hdkey, hkey]
  rw [hsame, hc] at hd
  obtain rfl := Option.some.inj hd
  rw [hphase] at hdecided
  cases hdecided

theorem Inv.found_iff (hs : Inv h s) {e : WindowEvent} (he : e ∈ s.events) :
    found h c e = true ↔ e.committed = true ∧ c.opens ≤ e.createdAt ∧ Shadows h c e := by
  obtain ⟨nonce, hnonce⟩ := hs.keyed e he
  simp only [found, Bool.and_eq_true, decide_eq_true_eq, matchesKey_iff, hnonce,
    prefix_concreteKey_iff, Shadows]
  tauto

theorem shadows_same {e : WindowEvent} (hkey : e.rawKey = c.rawKey) : Shadows h c e := by
  rw [Shadows, hkey]
  exact .inl List.prefix_rfl

/-- A call that creates an event finds none of its own key in its window. -/
theorem Inv.apart_of_creates (hs : Inv h s) (hc : s.calls.rows id = some c)
    (hphase : c.phase = .locked) {nonce : Nonce} (hcreates : creates h s c nonce = true)
    {e : WindowEvent} (he : e ∈ s.events) (hkey : e.rawKey = c.rawKey) : e.createdAt < c.opens := by
  by_contra hle
  simp only [creates, Bool.and_eq_true, Bool.not_eq_true', List.any_eq_false] at hcreates
  refine hcreates.1 e he ((hs.found_iff he).mpr ⟨?_, Int.not_lt.mp hle, shadows_same hkey⟩)
  exact hs.committed_of_locked hc hphase he hkey

-- ------------------------------------------------------------
-- Steps
-- ------------------------------------------------------------

theorem Inv.begin_ (hs : Inv h s) (raw : List Char) (window : Nat) :
    Inv h { s with calls := s.calls.insert { rawKey := raw, window, startedAt := s.now } } where
  keyed := hs.keyed
  pending := by
    intro e he hpending
    obtain ⟨c, hc, hrest⟩ := hs.pending e he hpending
    refine ⟨c, ?_, hrest⟩
    rw [Table.insert_rows, if_neg (Nat.ne_of_lt (Table.lt_next_of_rows hc)), hc]
  exclusive := by
    have hold : ∀ i d, (s.calls.insert ⟨raw, window, s.now, .waiting⟩).rows i = some d →
        d.holdsLock = true → s.calls.rows i = some d := by
      intro i d hd hlock
      rw [Table.insert_rows] at hd
      split_ifs at hd
      · obtain rfl := Option.some.inj hd
        cases hlock
      · exact hd
    intro i j c d hc hd hclock hdlock hsame
    exact hs.exclusive i j c d (hold i c hc hclock) (hold j d hd hdlock) hclock hdlock hsame
  apart := hs.apart

theorem Inv.acquire (hs : Inv h s) (id : Nat) : Inv h (acquire h s id) := by
  unfold Windows.acquire
  split
  · rename_i c hc
    split_ifs with hfree
    · obtain ⟨hwaiting, htaken⟩ := hfree
      refine ⟨hs.keyed, fun e he hpending => ?_, fun i j d e hd he hdlock helock hsame =>
        ?_, hs.apart⟩
      · obtain ⟨d, hd, hdecided, hkey⟩ := hs.pending e he hpending
        have hne : e.creator ≠ id := by
          intro heq
          rw [heq, hc] at hd
          obtain rfl := Option.some.inj hd
          rw [hwaiting] at hdecided
          cases hdecided
        exact ⟨d, by rw [setPhase_of_ne hne, hd], hdecided, hkey⟩
      · -- no other transaction held the lock that is taken
        have hother : ∀ k x, k ≠ id → (s.setPhase id .locked).rows k = some x → x.holdsLock = true →
            h.lock (logicalKey h x.rawKey) ≠ h.lock (logicalKey h c.rawKey) := by
          intro k x hk hx hlock heq
          rw [setPhase_of_ne hk] at hx
          have hany := (Table.entries_any (p := fun x : WindowCall => x.holdsLock &&
            h.lock (logicalKey h x.rawKey) == h.lock (logicalKey h c.rawKey))).mpr
            ⟨k, x, hx, by simp [hlock, heq]⟩
          rw [lockTaken, hany] at htaken
          cases htaken
        have hself : ∀ x, (s.setPhase id .locked).rows id = some x → x.rawKey = c.rawKey := by
          intro x hx
          rw [setPhase_self hc] at hx
          obtain rfl := Option.some.inj hx
          rfl
        by_cases hi : i = id
        · by_cases hj : j = id
          · rw [hi, hj]
          · subst hi
            exact absurd (by rw [← hself d hd, hsame]) (hother j e hj he helock)
        · by_cases hj : j = id
          · subst hj
            exact absurd (by rw [← hself e he, hsame]) (hother i d hi hd hdlock)
          · rw [setPhase_of_ne hi] at hd
            rw [setPhase_of_ne hj] at he
            exact hs.exclusive i j d e hd he hdlock helock hsame
    · exact hs
  · exact hs

theorem Inv.pending_setPhase (hs : Inv h s) (hc : s.calls.rows id = some c)
    (hphase : c.phase ≠ .decided) {phase : CallPhase} {e : WindowEvent} (he : e ∈ s.events)
    (hpending : e.committed = false) :
    ∃ d, (s.setPhase id phase).rows e.creator = some d ∧ d.phase = .decided ∧
      d.rawKey = e.rawKey := by
  obtain ⟨d, hd, hdecided, hkey⟩ := hs.pending e he hpending
  have hne : e.creator ≠ id := by
    intro heq
    rw [heq, hc] at hd
    obtain rfl := Option.some.inj hd
    exact hphase hdecided
  exact ⟨d, by rw [setPhase_of_ne hne, hd], hdecided, hkey⟩

theorem Inv.enqueueOnce (hs : Inv h s) (id : Nat) (nonce : Nonce) :
    Inv h (enqueueOnce h s id nonce) := by
  unfold Windows.enqueueOnce
  split
  · rename_i c hc
    split_ifs with hlocked hcreates
    · have hexclusive := hs.exclusive_setPhase hc
        (.inr (by simp [WindowCall.holdsLock, hlocked]) : CallPhase.decided = .ended ∨
          c.holdsLock = true)
      refine ⟨fun e he => ?_, fun e he hpending => ?_, hexclusive, ?_⟩
      · rcases List.mem_append.mp he with he | he
        · exact hs.keyed e he
        · obtain rfl := List.mem_singleton.mp he
          exact ⟨nonce, rfl⟩
      · rcases List.mem_append.mp he with he | he
        · exact hs.pending_setPhase hc (by rw [hlocked]; decide) he hpending
        · obtain rfl := List.mem_singleton.mp he
          exact ⟨_, setPhase_self hc, rfl, rfl⟩
      · refine List.pairwise_append.mpr ⟨hs.apart, List.pairwise_singleton _ _, ?_⟩
        intro e he e' he' hkey
        obtain rfl := List.mem_singleton.mp he'
        exact hs.apart_of_creates hc hlocked hcreates he hkey
    · exact ⟨hs.keyed, fun e he => hs.pending_setPhase hc (by rw [hlocked]; decide) he,
        hs.exclusive_setPhase hc (.inr (by simp [WindowCall.holdsLock, hlocked])), hs.apart⟩
    · exact hs
  · exact hs

theorem Inv.commit (hs : Inv h s) (id : Nat) : Inv h (commit s id) := by
  unfold Windows.commit
  split
  · rename_i c hc
    split_ifs with hdecided
    · have hmap : ∀ e ∈ s.events.map fun e =>
        if e.creator = id then { e with committed := true } else e,
          ∃ e' ∈ s.events, e.rawKey = e'.rawKey ∧ e.dedupeKey = e'.dedupeKey ∧
            e.creator = e'.creator ∧
            (e.committed = false → e'.committed = false ∧ e'.creator ≠ id) := by
        intro e he
        obtain ⟨e', he', rfl⟩ := List.mem_map.mp he
        refine ⟨e', he', ?_⟩
        split_ifs with hcreator
        · exact ⟨rfl, rfl, rfl, fun hfalse => nomatch hfalse⟩
        · exact ⟨rfl, rfl, rfl, fun hfalse => ⟨hfalse, hcreator⟩⟩
      refine ⟨fun e he => ?_, fun e he hpending => ?_, hs.exclusive_setPhase hc (.inl rfl), ?_⟩
      · obtain ⟨e', he', hraw, hkey, -⟩ := hmap e he
        obtain ⟨nonce, hnonce⟩ := hs.keyed e' he'
        exact ⟨nonce, by rw [hraw, hkey, hnonce]⟩
      · obtain ⟨e', he', hraw, -, hcreator, hold⟩ := hmap e he
        obtain ⟨hpending', hne⟩ := hold hpending
        obtain ⟨d, hd, hphase, hkey⟩ := hs.pending e' he' hpending'
        exact ⟨d, by rw [hcreator, setPhase_of_ne hne, hd], hphase, by rw [hkey, hraw]⟩
      · refine List.pairwise_map.mpr (hs.apart.imp fun {a b} hab => ?_)
        intro hkey
        have hab' : a.rawKey = b.rawKey → a.createdAt < b.opens := hab
        split_ifs at hkey ⊢ <;> exact hab' hkey
    · exact hs
  · exact hs

theorem Inv.abort (hs : Inv h s) (id : Nat) : Inv h (abort s id) := by
  unfold Windows.abort
  split
  · rename_i c hc
    split_ifs with hended
    · exact hs
    · refine ⟨fun e he => hs.keyed e (List.mem_of_mem_filter he), fun e he hpending => ?_,
        hs.exclusive_setPhase hc (.inl rfl), hs.apart.filter _⟩
      obtain ⟨he, hkept⟩ := List.mem_filter.mp he
      have hne : e.creator ≠ id := by simpa [hpending] using hkept
      obtain ⟨d, hd, hrest⟩ := hs.pending e he hpending
      exact ⟨d, by rw [setPhase_of_ne hne, hd], hrest⟩
  · exact hs

theorem Inv.step (hs : Inv h s) (e : Nat × Op) : Inv h (step h s e) := by
  have hpassed : Inv h (s.passes e.1) := ⟨hs.keyed, hs.pending, hs.exclusive, hs.apart⟩
  unfold Windows.step
  cases e.2 with
  | begin_ raw window =>
    simp only [apply]
    split_ifs
    · exact hpassed
    · exact hpassed.begin_ raw window
  | acquire id => exact hpassed.acquire id
  | enqueue id nonce => exact hpassed.enqueueOnce id nonce
  | commit id => exact hpassed.commit id
  | abort id => exact hpassed.abort id

theorem Inv.init (h : Hashes) : Inv h Windows.init :=
  ⟨by simp [Windows.init], by simp [Windows.init], (fun i j c d hc => nomatch hc),
    List.Pairwise.nil⟩

end

def Vacant (s : Windows) (c : WindowCall) : Prop :=
  ∀ e ∈ s.events, e.rawKey = c.rawKey → e.createdAt < c.opens

/-- A committed event of another key lies in the window and is read as one of the call's. -/
def Overshadowed (h : Hashes) (s : Windows) (c : WindowCall) : Prop :=
  ∃ e ∈ s.events, e.rawKey ≠ c.rawKey ∧ e.committed = true ∧ c.opens ≤ e.createdAt ∧ Shadows h c e

theorem Inv.creates_iff {h : Hashes} {s : Windows} {id : Nat} {c : WindowCall} {nonce : Nonce}
    (hs : Inv h s) (hc : s.calls.rows id = some c) (hphase : c.phase = .locked)
    (hfresh : ∀ e ∈ s.events, e.dedupeKey ≠ concreteKey (logicalKey h c.rawKey) nonce) :
    creates h s c nonce = true ↔ s.Vacant c ∧ ¬ Overshadowed h s c := by
  constructor
  · intro hcreates
    refine ⟨fun e he hkey => hs.apart_of_creates hc hphase hcreates he hkey, ?_⟩
    rintro ⟨e, he, -, hcommitted, hopens, hshadows⟩
    simp only [creates, Bool.and_eq_true, Bool.not_eq_true', List.any_eq_false] at hcreates
    exact hcreates.1 e he ((hs.found_iff he).mpr ⟨hcommitted, hopens, hshadows⟩)
  · rintro ⟨hvacant, hclear⟩
    simp only [creates, Bool.and_eq_true, Bool.not_eq_true', List.any_eq_false, beq_iff_eq]
    refine ⟨fun e he hfound => ?_, hfresh⟩
    obtain ⟨hcommitted, hopens, hshadows⟩ := (hs.found_iff he).mp hfound
    by_cases hkey : e.rawKey = c.rawKey
    · exact absurd (hvacant e he hkey) (Int.not_lt.mpr hopens)
    · exact hclear ⟨e, he, hkey, hcommitted, hopens, hshadows⟩

end Windows

/-- In every reachable state a call creates an event exactly when none of its
key lies in its window, if and only if its key is not read in another one
(unless its own is there too); two events of one key are always further apart
than the window of the later. -/
theorem rolling_window_exact_iff (h : Hashes) (es : List (Nat × Windows.Op)) :
    (∀ id c nonce, (run (Windows.step h) .init es).calls.rows id = some c → c.phase = .locked →
      (∀ e ∈ (run (Windows.step h) .init es).events,
        e.dedupeKey ≠ concreteKey (logicalKey h c.rawKey) nonce) →
      ((Windows.creates h (run (Windows.step h) .init es) c nonce = true ↔
          (run (Windows.step h) .init es).Vacant c) ↔
        (Windows.Overshadowed h (run (Windows.step h) .init es) c →
          ¬ (run (Windows.step h) .init es).Vacant c))) ∧
    (run (Windows.step h) .init es).events.Pairwise fun e e' =>
      e.rawKey = e'.rawKey → e.createdAt < e'.opens := by
  have hs : Windows.Inv h (run (Windows.step h) .init es) :=
    run_preserves (fun s e hs => hs.step e) (Windows.Inv.init h) es
  refine ⟨fun id c nonce hc hphase hfresh => ?_, hs.apart⟩
  rw [hs.creates_iff hc hphase hfresh]
  tauto

def plainHashes : Hashes := ⟨fun _ => [], fun key => key.foldl (fun n c => n * 1114112 + c.toNat) 0⟩

def Nonce.repeated (c : Char) (hc : c ∈ "0123456789abcdef".toList) : Nonce where
  text := List.replicate 32 c
  hex _ hd := List.eq_of_mem_replicate hd ▸ hc
  length := List.length_replicate

def firstNonce : Nonce := .repeated 'a' (by decide)

def secondNonce : Nonce := .repeated 'b' (by decide)

def jobsCall : WindowCall := { rawKey := "jobs".toList, window := 300, startedAt := 0,
                               phase := .locked }

def singleCall : List (Nat × Windows.Op) := [(0, .begin_ "jobs".toList 300), (0, .acquire 0)]

theorem rolling_window_exact_single :
    Windows.creates plainHashes (run (Windows.step plainHashes) .init singleCall) jobsCall
        firstNonce = true ↔
      (run (Windows.step plainHashes) .init singleCall).Vacant jobsCall := by
  have hevents : (run (Windows.step plainHashes) .init singleCall).events = [] := by decide
  refine ((rolling_window_exact_iff plainHashes singleCall).1 0 jobsCall firstNonce (by decide) rfl
    ?_).mpr ?_
  · rw [hevents]
    exact fun e he => nomatch he
  · rintro ⟨e, he, -⟩
    rw [hevents] at he
    cases he

def shadowedCalls : List (Nat × Windows.Op) :=
  [(0, .begin_ "jobs:sync".toList 300), (0, .acquire 0), (0, .enqueue 0 firstNonce), (0, .commit 0),
    (1000000, .begin_ "jobs".toList 300), (0, .acquire 1)]

def shadowedCall : WindowCall := { jobsCall with startedAt := 1000000 }

/-- The event of "jobs:sync" suppresses that of "jobs". -/
theorem rolling_window_shadowed :
    ¬ ∀ (h : Hashes) (es : List (Nat × Windows.Op)) (id : Nat) (c : WindowCall) (nonce : Nonce),
      (run (Windows.step h) .init es).calls.rows id = some c → c.phase = .locked →
      (∀ e ∈ (run (Windows.step h) .init es).events,
        e.dedupeKey ≠ concreteKey (logicalKey h c.rawKey) nonce) →
      (Windows.creates h (run (Windows.step h) .init es) c nonce = true ↔
        (run (Windows.step h) .init es).Vacant c) := by
  intro h
  have hvacant : (run (Windows.step plainHashes) .init shadowedCalls).Vacant shadowedCall := by
    unfold Windows.Vacant
    decide
  have hcreates := (h plainHashes shadowedCalls 1 shadowedCall secondNonce (by decide) rfl
    (by decide)).mpr hvacant
  exact absurd hcreates (by decide)

end StopBot.Telegram
