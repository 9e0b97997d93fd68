import StopBot.Lib.Runs
import Mathlib.Algebra.GroupWithZero.Nat

/-!
# The lock of a page

`withPageLock` of `page-lock.ts` on one key. Every call leaves a tail behind the
one it found: the new tail settles once the old one has and the slot of the
call is released. A promise job is a step of its own and may come at any time
after it was scheduled, so the runs below include the order of the event loop.
-/

namespace StopBot.Browser

open Lib

inductive LockPhase
  /-- In `awaitTurn`, for the tail the call found. -/
  | waiting
  /-- The turn has come; the call is not resumed yet. -/
  | granted
  /-- The wait was aborted; the call is not resumed yet. -/
  | refused
  | running
  /-- The function is done; its slot is still held. -/
  | settled
  | finished
  /-- The slot is released and the function was never called. -/
  | abandoned
  deriving DecidableEq, Repr

structure LockCall where
  /-- Whether the call came with an `AbortSignal`. -/
  signal : Bool
  phase : LockPhase
  /-- The tail that the call left is settled. -/
  passed : Bool := false
  deriving DecidableEq, Repr

structure PageLock where
  calls : List LockCall := []
  starts : List Nat := []
  deriving DecidableEq, Repr

inductive LockLabel
  /-- `withPageLock` is called, with a signal that may be aborted already. -/
  | enter (signal : Option Bool)
  | abort (call : Nat)
  | complete (call : Nat)
  | turn (call : Nat)
  | resume (call : Nat)
  | release (call : Nat)
  | pass (call : Nat)
  deriving DecidableEq, Repr

/-- The jobs that promises schedule; the other labels are events from outside. -/
def LockLabel.isJob : LockLabel → Bool
  | .turn _ | .resume _ | .release _ | .pass _ => true
  | _ => false

namespace LockPhase

def released : LockPhase → Bool
  | .finished | .abandoned => true
  | _ => false

def started : LockPhase → Bool
  | .running | .settled | .finished => true
  | _ => false

def ended : LockPhase → Bool
  | .settled | .finished | .refused | .abandoned => true
  | _ => false

def jobs : LockPhase → Nat
  | .waiting => 2
  | .granted | .refused | .settled => 1
  | .running | .finished | .abandoned => 0

end LockPhase

namespace PageLock

def phase? (s : PageLock) (i : Nat) : Option LockPhase :=
  (s.calls[i]?).map fun c => c.phase

def open_ (s : PageLock) : Nat → Bool
  | 0 => true
  | i + 1 => (s.calls[i]?).any fun c => c.passed

def setPhase (s : PageLock) (i : Nat) (phase : LockPhase) : PageLock :=
  { s with calls := s.calls.modify i fun c => { c with phase := phase } }

def step (s : PageLock) : LockLabel → PageLock
  | .enter signal =>
    let phase := if signal = some true then .refused else .waiting
    { s with calls := s.calls ++ [{ signal := signal.isSome, phase := phase }] }
  | .abort i =>
    if s.phase? i = some .waiting ∧ (s.calls[i]?).any (fun c => c.signal) = true then
      s.setPhase i .refused
    else s
  | .complete i => if s.phase? i = some .running then s.setPhase i .settled else s
  | .turn i => if s.phase? i = some .waiting ∧ s.open_ i = true then s.setPhase i .granted else s
  | .resume i =>
    if s.phase? i = some .granted then { s.setPhase i .running with starts := i :: s.starts }
    else if s.phase? i = some .refused then s.setPhase i .abandoned
    else s
  | .release i => if s.phase? i = some .settled then s.setPhase i .finished else s
  | .pass i =>
    if (s.calls[i]?).any (fun c => c.phase.released && !c.passed) = true ∧ s.open_ i = true then
      { s with calls := s.calls.modify i fun c => { c with passed := true } }
    else s

end PageLock

variable {s s' : PageLock} {i j : Nat} {c c' : LockCall}

-- ------------------------------------------------------------
-- One call changes at a time
-- ------------------------------------------------------------

def LockPhase.turned (p : LockPhase) : Bool :=
  p == .granted || p.started

structure Changed (s s' : PageLock) (i : Nat) (c c' : LockCall) : Prop where
  before : s.calls[i]? = some c
  after : s'.calls[i]? = some c'
  others : ∀ j, j ≠ i → s'.calls[j]? = s.calls[j]?

inductive CallStep (s : PageLock) (i : Nat) (c : LockCall) : LockLabel → LockCall → Prop
  | abort : c.phase = .waiting → c.signal = true → CallStep s i c (.abort i)
    { c with phase := .refused }
  | complete : c.phase = .running → CallStep s i c (.complete i) { c with phase := .settled }
  | turn : c.phase = .waiting → s.open_ i = true →
      CallStep s i c (.turn i) { c with phase := .granted }
  | start : c.phase = .granted → CallStep s i c (.resume i) { c with phase := .running }
  | abandon : c.phase = .refused → CallStep s i c (.resume i) { c with phase := .abandoned }
  | release : c.phase = .settled → CallStep s i c (.release i) { c with phase := .finished }
  | pass : c.phase.released = true → c.passed = false → s.open_ i = true →
      CallStep s i c (.pass i) { c with passed := true }

/-- Everything a step can do: nothing, a new call, or a change of one call. -/
inductive Stepped (s : PageLock) (e : LockLabel) (s' : PageLock) : Prop
  | same : s' = s → Stepped s e s'
  | enter (signal : Option Bool) (phase : LockPhase) : e = .enter signal →
      phase = (if signal = some true then .refused else .waiting) →
      s' = { s with calls := s.calls ++ [{ signal := signal.isSome, phase := phase }] } →
      Stepped s e s'
  | call (i : Nat) (c c' : LockCall) : Changed s s' i c c' → CallStep s i c e c' →
      s'.starts = (if c.phase = .granted ∧ c'.phase = .running then i :: s.starts else s.starts) →
      Stepped s e s'

theorem phase?_eq {p : LockPhase} : s.phase? i = some p ↔ ∃ c, s.calls[i]? = some c ∧
    c.phase = p := by
  simp [PageLock.phase?]

theorem changed_modify {f : LockCall → LockCall} (h : s.calls[i]? = some c) (starts : List Nat) :
    Changed s { calls := s.calls.modify i f, starts := starts } i c (f c) where
  before := h
  after := by simp [h]
  others := by
    intro j hj
    simp [Ne.symm hj]

theorem step_cases (s : PageLock) (e : LockLabel) : Stepped s e (s.step e) := by
  cases e with
  | enter signal => exact .enter signal _ rfl rfl rfl
  | abort i =>
    simp only [PageLock.step]
    split
    · rename_i h
      obtain ⟨c, hc, hphase⟩ := phase?_eq.mp h.1
      exact .call i c _ (changed_modify hc _) (.abort hphase (by simpa [hc] using h.2))
        (by simp [PageLock.setPhase])
    · exact .same rfl
  | complete i =>
    simp only [PageLock.step]
    split
    · rename_i h
      obtain ⟨c, hc, hphase⟩ := phase?_eq.mp h
      exact .call i c _ (changed_modify hc _) (.complete hphase) (by simp [PageLock.setPhase])
    · exact .same rfl
  | turn i =>
    simp only [PageLock.step]
    split
    · rename_i h
      obtain ⟨c, hc, hphase⟩ := phase?_eq.mp h.1
      exact .call i c _ (changed_modify hc _) (.turn hphase h.2) (by simp [PageLock.setPhase])
    · exact .same rfl
  | resume i =>
    simp only [PageLock.step]
    split
    · rename_i h
      obtain ⟨c, hc, hphase⟩ := phase?_eq.mp h
      exact .call i c _ (changed_modify hc _) (.start hphase) (by simp [hphase])
    · split
      · rename_i h
        obtain ⟨c, hc, hphase⟩ := phase?_eq.mp h
        exact .call i c _ (changed_modify hc _) (.abandon hphase) (by simp [PageLock.setPhase])
      · exact .same rfl
  | release i =>
    simp only [PageLock.step]
    split
    · rename_i h
      obtain ⟨c, hc, hphase⟩ := phase?_eq.mp h
      exact .call i c _ (changed_modify hc _) (.release hphase) (by simp [PageLock.setPhase])
    · exact .same rfl
  | pass i =>
    simp only [PageLock.step]
    split
    · rename_i h
      obtain ⟨hcall, hopen⟩ := h
      cases hc : s.calls[i]? with
      | none => simp [hc] at hcall
      | some c =>
        simp only [hc, Option.any_some, Bool.and_eq_true, Bool.not_eq_true'] at hcall
        refine .call i c _ (changed_modify hc _) (.pass hcall.1 hcall.2 hopen) ?_
        rw [if_neg]
        rintro ⟨hgranted, hrunning⟩
        rw [hgranted] at hcall
        exact absurd hcall.1 (by decide)
    · exact .same rfl

-- ------------------------------------------------------------
-- The chain of tails
-- ------------------------------------------------------------

/-- Tails settle in order, after the slots of their calls, and a turn comes only
behind settled tails. -/
structure Chain (s : PageLock) : Prop where
  settled : ∀ (i j : Nat) (ci cj : LockCall), i < j → s.calls[i]? = some ci →
    s.calls[j]? = some cj →
    cj.passed = true ∨ cj.phase.turned = true → ci.passed = true
  released : ∀ (i : Nat) (c : LockCall), s.calls[i]? = some c → c.passed = true →
    c.phase.released = true
  starts : ∀ i, i ∈ s.starts ↔ ∃ c, s.calls[i]? = some c ∧ c.phase.started = true
  ordered : s.starts.Pairwise fun a b => b < a

theorem Chain.open_before (h : Chain s) (hopen : s.open_ j = true) (hij : i < j)
    (hc : s.calls[i]? = some c) : c.passed = true := by
  cases j with
  | zero => omega
  | succ j =>
    simp only [PageLock.open_] at hopen
    cases hlast : s.calls[j]? with
    | none => simp [hlast] at hopen
    | some last =>
      simp only [hlast, Option.any_some] at hopen
      rcases Nat.lt_succ_iff_lt_or_eq.mp hij with hlt | rfl
      · exact h.settled i j c last hlt hc hlast (.inl hopen)
      · rw [hlast] at hc
        cases hc
        exact hopen

theorem Chain.enter (h : Chain s) {new : LockCall}
    (hnew : new.passed = false ∧ new.phase.turned = false ∧ new.phase.started = false) :
    Chain { s with calls := s.calls ++ [new] } := by
  have hback : ∀ {k ck}, (s.calls ++ [new])[k]? = some ck →
      s.calls[k]? = some ck ∨ k = s.calls.length ∧ ck = new := by
    intro k ck hk
    rcases Nat.lt_or_ge k s.calls.length with hlt | hge
    · rw [List.getElem?_append_left hlt] at hk
      exact .inl hk
    · rw [List.getElem?_append_right hge] at hk
      simp only [List.getElem?_singleton, Option.ite_none_right_eq_some, Option.some.injEq] at hk
      exact .inr ⟨by omega, hk.2.symm⟩
  constructor
  · intro i j ci cj hij hi hj hturned
    rcases hback hj with hj | ⟨-, rfl⟩
    · rcases hback hi with hi | ⟨rfl, -⟩
      · exact h.settled i j ci cj hij hi hj hturned
      · exact absurd (List.getElem?_eq_some_iff.mp hj).1 (by omega)
    · simp [hnew.1, hnew.2.1] at hturned
  · intro i c hc hpassed
    rcases hback hc with hc | ⟨-, rfl⟩
    · exact h.released i c hc hpassed
    · rw [hnew.1] at hpassed
      cases hpassed
  · intro i
    rw [h.starts]
    constructor
    · rintro ⟨c, hc, hstarted⟩
      exact ⟨c, by rw [List.getElem?_append_left (List.getElem?_eq_some_iff.mp hc).1, hc], hstarted⟩
    · rintro ⟨c, hc, hstarted⟩
      rcases hback hc with hc | ⟨-, rfl⟩
      · exact ⟨c, hc, hstarted⟩
      · rw [hnew.2.2] at hstarted
        cases hstarted
  · exact h.ordered

theorem CallStep.not_passed {e : LockLabel} (h : CallStep s i c e c') (hchain : Chain s)
    (hc : s.calls[i]? = some c) : c.passed = false := by
  rw [Bool.eq_false_iff]
  intro hpassed
  have hreleased := hchain.released i c hc hpassed
  cases h with
  | pass _ hnot _ =>
    rw [hnot] at hpassed
    cases hpassed
  | abort hphase | complete hphase | turn hphase | start hphase | abandon hphase | release hphase =>
    rw [hphase] at hreleased
    cases hreleased

/-- A tail settles, and a turn comes, only where the tail before is settled. -/
theorem CallStep.passes_open {e : LockLabel} (h : CallStep s i c e c') (hnot : c.passed = false) :
    (c'.passed = true → s.open_ i = true ∧ c'.phase.released = true) ∧
      (c'.phase.turned = true → c.phase.turned = true ∨ s.open_ i = true) := by
  cases h with
  | pass hreleased _ hopen => exact ⟨fun _ => ⟨hopen, hreleased⟩, .inl⟩
  | turn _ hopen => exact ⟨fun hp => by simp [hnot] at hp, fun _ => .inr hopen⟩
  | complete hphase => exact ⟨fun hp => by simp [hnot] at hp, fun _ => .inl (by rw [hphase]; rfl)⟩
  | start hphase => exact ⟨fun hp => by simp [hnot] at hp, fun _ => .inl (by rw [hphase]; rfl)⟩
  | release hphase => exact ⟨fun hp => by simp [hnot] at hp, fun _ => .inl (by rw [hphase]; rfl)⟩
  | abort => exact ⟨fun hp => by simp [hnot] at hp, fun hturned => by cases hturned⟩
  | abandon => exact ⟨fun hp => by simp [hnot] at hp, fun hturned => by cases hturned⟩

/-- A function is called on resumption from a granted turn, and in no other way. -/
theorem CallStep.started_iff {e : LockLabel} (h : CallStep s i c e c') :
    c'.phase.started = true ↔ c.phase.started = true ∨ c.phase = .granted ∧
      c'.phase = .running := by
  cases h with
  | pass hreleased _ _ =>
    refine ⟨.inl, fun h => h.elim id fun hgranted => ?_⟩
    rw [hgranted.1] at hreleased
    cases hreleased
  | abort hphase => simp [hphase, LockPhase.started]
  | complete hphase => simp [hphase, LockPhase.started]
  | turn hphase => simp [hphase, LockPhase.started]
  | start hphase => simp [hphase, LockPhase.started]
  | abandon hphase => simp [hphase, LockPhase.started]
  | release hphase => simp [hphase, LockPhase.started]

theorem Chain.call {e : LockLabel} (h : Chain s) (hch : Changed s s' i c c')
    (hstep : CallStep s i c e c')
    (hstarts : s'.starts =
      if c.phase = .granted ∧ c'.phase = .running then i :: s.starts else s.starts) : Chain s' := by
  have hnot := hstep.not_passed h hch.before
  obtain ⟨hpass, hturn⟩ := hstep.passes_open hnot
  constructor
  · intro k j ck cj hkj hk hj hturned
    by_cases hji : j = i
    · subst hji
      rw [hch.after] at hj
      cases hj
      rw [hch.others k (by omega)] at hk
      have hbefore : c.phase.turned = true ∨ s.open_ j = true :=
        hturned.elim (fun hp => .inr (hpass hp).1) hturn
      rcases hbefore with hbefore | hopen
      · exact h.settled k j ck c hkj hk hch.before (.inr hbefore)
      · exact h.open_before hopen hkj hk
    · rw [hch.others j hji] at hj
      by_cases hki : k = i
      · -- behind an unsettled tail nothing has passed
        subst hki
        have hpassed := h.settled k j c cj hkj hch.before hj hturned
        rw [hnot] at hpassed
        cases hpassed
      · rw [hch.others k hki] at hk
        exact h.settled k j ck cj hkj hk hj hturned
  · intro j cj hj hpassed
    by_cases hji : j = i
    · subst hji
      rw [hch.after] at hj
      cases hj
      exact (hpass hpassed).2
    · rw [hch.others j hji] at hj
      exact h.released j cj hj hpassed
  · intro j
    have hmem : j ∈ s'.starts ↔ j ∈ s.starts ∨ j = i ∧ c.phase = .granted ∧
        c'.phase = .running := by
      rw [hstarts]
      split
      · rename_i hstart
        simp [hstart, or_comm]
      · rename_i hstart
        simp [hstart]
    rw [hmem, h.starts]
    by_cases hji : j = i
    · subst hji
      simp only [hch.before, hch.after, Option.some.injEq, exists_eq_left', true_and]
      exact hstep.started_iff.symm
    · simp [hch.others j hji, hji]
  · rw [hstarts]
    split
    · rename_i hstart
      refine List.pairwise_cons.mpr ⟨fun k hk => ?_, h.ordered⟩
      obtain ⟨ck, hck, hstarted⟩ := (h.starts k).mp hk
      rcases Nat.lt_trichotomy k i with hlt | rfl | hgt
      · exact hlt
      · rw [hch.before] at hck
        cases hck
        rw [hstart.1] at hstarted
        cases hstarted
      · -- a later call has started, so this one is over
        have hturned : ck.phase.turned = true := by simp [LockPhase.turned, hstarted]
        have hpassed := h.settled i k c ck hgt hch.before hck (.inr hturned)
        rw [hnot] at hpassed
        cases hpassed
    · exact h.ordered

theorem Chain.step (h : Chain s) (e : LockLabel) : Chain (s.step e) := by
  cases step_cases s e with
  | same heq => rw [heq]; exact h
  | enter signal phase _ hphase heq =>
    rw [heq]
    refine h.enter ⟨rfl, ?_, ?_⟩ <;> rw [hphase] <;> split <;> rfl
  | call i c c' hch hstep hstarts => exact h.call hch hstep hstarts

theorem Chain.init : Chain {} := by
  constructor <;> simp

theorem Chain.run (es : List LockLabel) : Chain (run PageLock.step {} es) :=
  run_preserves (fun _ e h => h.step e) Chain.init es

-- ------------------------------------------------------------
-- Aborted calls
-- ------------------------------------------------------------

def PageLock.aborted (s : PageLock) (i : Nat) : Prop :=
  ∃ p, s.phase? i = some p ∧ (p = .refused ∨ p = .abandoned)

theorem phase?_step {p : LockPhase} (h : s.phase? i = some p) (e : LockLabel) :
    (s.step e).phase? i = some p ∨ ∃ c c', c.phase = p ∧ CallStep s i c e c' ∧
      (s.step e).phase? i = some c'.phase := by
  obtain ⟨c, hc, hphase⟩ := phase?_eq.mp h
  cases step_cases s e with
  | same heq =>
    rw [heq]
    exact .inl h
  | enter signal phase _ _ heq =>
    refine .inl (phase?_eq.mpr ⟨c, ?_, hphase⟩)
    rw [heq, List.getElem?_append_left (List.getElem?_eq_some_iff.mp hc).1, hc]
  | call j cj cj' hch hstep _ =>
    by_cases hij : i = j
    · subst hij
      rw [hch.before] at hc
      cases hc
      exact .inr ⟨c, cj', hphase, hstep, phase?_eq.mpr ⟨cj', hch.after, rfl⟩⟩
    · exact .inl (phase?_eq.mpr ⟨c, (hch.others i hij).trans hc, hphase⟩)

theorem PageLock.aborted.step (h : s.aborted i) (e : LockLabel) : (s.step e).aborted i := by
  obtain ⟨p, hp, hwhich⟩ := h
  rcases phase?_step hp e with hsame | ⟨c, c', rfl, hstep, hnow⟩
  · exact ⟨p, hsame, hwhich⟩
  · refine ⟨c'.phase, hnow, ?_⟩
    cases hstep with
    | pass => exact hwhich
    | abandon => exact .inr rfl
    | abort hphase | complete hphase | turn hphase | start hphase | release hphase =>
      rw [hphase] at hwhich
      simp at hwhich

theorem PageLock.aborted.run (h : s.aborted i) (es : List LockLabel) :
    (run PageLock.step s es).aborted i :=
  run_preserves (I := fun s : PageLock => s.aborted i) (fun _ e h => h.step e) h es

theorem Chain.not_started_of_aborted (h : Chain s) (ha : s.aborted i) : i ∉ s.starts := by
  obtain ⟨p, hp, hwhich⟩ := ha
  obtain ⟨c, hc, rfl⟩ := phase?_eq.mp hp
  intro hmem
  obtain ⟨c', hc', hstarted⟩ := (h.starts i).mp hmem
  rw [hc] at hc'
  cases hc'
  rcases hwhich with hphase | hphase <;> rw [hphase] at hstarted <;> cases hstarted

-- ------------------------------------------------------------
-- Jobs
-- ------------------------------------------------------------

def PageLock.jobs (s : PageLock) : Nat :=
  (s.calls.map fun c => c.phase.jobs + if c.passed then 0 else 1).sum

def Effective (s : PageLock) (e : LockLabel) : Prop :=
  e.isJob = true ∧ s.step e ≠ s

def Quiescent (s : PageLock) : Prop :=
  ∀ e, ¬ Effective s e

theorem sum_map_set {α : Type} {l : List α} {g : α → Nat} {a b : α} (h : l[i]? = some a) :
    ((l.set i b).map g).sum + g a = (l.map g).sum + g b := by
  induction l generalizing i with
  | nil => cases h
  | cons b l ih =>
    cases i with
    | zero =>
      cases h
      simp only [List.set_cons_zero, List.map_cons, List.sum_cons]
      omega
    | succ i =>
      have hrest := ih (by simpa using h)
      simp only [List.set_cons_succ, List.map_cons, List.sum_cons]
      omega

theorem Changed.calls (h : Changed s s' i c c') : s'.calls = s.calls.set i c' := by
  apply List.ext_getElem?
  intro j
  by_cases hij : i = j
  · subst hij
    rw [h.after, List.getElem?_set_self (List.getElem?_eq_some_iff.mp h.before).1]
  · rw [h.others j (Ne.symm hij), List.getElem?_set_ne hij]

theorem Effective.jobs_lt {e : LockLabel} (h : Effective s e) : (s.step e).jobs < s.jobs := by
  obtain ⟨hjob, hne⟩ := h
  cases step_cases s e with
  | same heq => exact absurd heq hne
  | enter signal phase he => rw [he] at hjob; cases hjob
  | call i c c' hch hstep _ =>
    have hsum := sum_map_set (g := fun c : LockCall => c.phase.jobs + if c.passed then 0 else 1)
      (b := c') hch.before
    have hless : (c'.phase.jobs + if c'.passed then 0 else 1) <
        c.phase.jobs + if c.passed then 0 else 1 := by
      cases hstep with
      | abort | complete => cases hjob
      | turn hphase | start hphase | abandon hphase | release hphase =>
        simp [hphase, LockPhase.jobs]
      | pass _ hpassed => simp [hpassed]
    rw [PageLock.jobs, PageLock.jobs, hch.calls]
    omega

theorem jobs_length_le {js : List LockLabel} (h : AllSteps PageLock.step Effective s js) :
    js.length ≤ s.jobs := by
  induction js generalizing s with
  | nil => exact Nat.zero_le _
  | cons e js ih =>
    have hless := h.1.jobs_lt
    have hrest := ih h.2
    simp only [List.length_cons]
    omega

def PageLock.pending (s : PageLock) (i : Nat) : Prop :=
  s.phase? i = some .waiting ∨ s.phase? i = some .granted

def PageLock.overBefore (s : PageLock) (i : Nat) : Prop :=
  ∀ j < i, ∃ p, s.phase? j = some p ∧ p.ended = true

theorem PageLock.overBefore.step (h : s.overBefore i) (e : LockLabel) :
    (s.step e).overBefore i := by
  intro j hj
  obtain ⟨p, hp, hover⟩ := h j hj
  rcases phase?_step hp e with hsame | ⟨c, c', rfl, hstep, hnow⟩
  · exact ⟨p, hsame, hover⟩
  · refine ⟨c'.phase, hnow, ?_⟩
    cases hstep with
    | pass => exact hover
    | abandon | release => rfl
    | abort hphase | complete hphase | turn hphase | start hphase =>
      rw [hphase] at hover
      cases hover

theorem pending_step {e : LockLabel} (hjob : e.isJob = true) (h : s.pending i ∨ i ∈ s.starts)
    (hchain : Chain s) : (s.step e).pending i ∨ i ∈ (s.step e).starts := by
  have hchain' := hchain.step e
  rcases h with h | hstarted
  · have hcases : ∀ p, s.phase? i = some p → p = .waiting ∨ p = .granted →
        (s.step e).pending i ∨ i ∈ (s.step e).starts := by
      intro p hp hwhich
      rcases phase?_step hp e with hsame | ⟨c, c', rfl, hstep, hnow⟩
      · rcases hwhich with rfl | rfl
        · exact .inl (.inl hsame)
        · exact .inl (.inr hsame)
      · cases hstep with
        | abort | complete => cases hjob
        | turn => exact .inl (.inr hnow)
        | start =>
          obtain ⟨now, hnow', hphase⟩ := phase?_eq.mp hnow
          exact .inr ((hchain'.starts i).mpr ⟨now, hnow', by rw [hphase]; rfl⟩)
        | abandon hphase | release hphase =>
          rw [hphase] at hwhich
          simp at hwhich
        | pass hreleased =>
          rcases hwhich with hphase | hphase <;> rw [hphase] at hreleased <;> cases hreleased
    exact h.elim (fun hp => hcases _ hp (.inl rfl)) fun hp => hcases _ hp (.inr rfl)
  · refine .inr ?_
    obtain ⟨c, hc, hs⟩ := (hchain.starts i).mp hstarted
    rcases phase?_step (phase?_eq.mpr ⟨c, hc, rfl⟩) e with hsame | ⟨d, d', hd, hstep, hnow⟩
    · obtain ⟨now, hnow', hphase⟩ := phase?_eq.mp hsame
      exact (hchain'.starts i).mpr ⟨now, hnow', by rw [hphase]; exact hs⟩
    · obtain ⟨now, hnow', hphase⟩ := phase?_eq.mp hnow
      refine (hchain'.starts i).mpr ⟨now, hnow', ?_⟩
      rw [hphase, hstep.started_iff]
      exact .inl (hd ▸ hs)

theorem effective_of_phase {e : LockLabel} {p q : LockPhase} (hjob : e.isJob = true)
    (h : s.phase? i = some p) (hnow : (s.step e).phase? i = some q) (hne : p ≠ q) :
    Effective s e := by
  refine ⟨hjob, fun hsame => hne ?_⟩
  rw [hsame, h] at hnow
  exact Option.some.inj hnow

theorem phase?_setPhase {p q : LockPhase} (h : s.phase? i = some p) :
    (s.setPhase i q).phase? i = some q := by
  obtain ⟨c, hc, -⟩ := phase?_eq.mp h
  simp [PageLock.phase?, PageLock.setPhase, hc]

/-- In a state without jobs the tail of an ended call is settled when the one before is. -/
theorem Quiescent.passed {p : LockPhase} (h : Quiescent s) (hp : s.phase? i = some p)
    (hover : p.ended = true) (hopen : s.open_ i = true) : s.open_ (i + 1) = true := by
  obtain ⟨c, hc, rfl⟩ := phase?_eq.mp hp
  have hreleased : c.phase.released = true := by
    cases hphase : c.phase with
    | finished | abandoned => rfl
    | waiting | granted | running => rw [hphase] at hover; cases hover
    | settled =>
      rw [hphase] at hp
      refine absurd (effective_of_phase (e := .release i) (q := .finished) rfl hp ?_ ?_) (h _)
      · simp only [PageLock.step, hp, if_true]
        exact phase?_setPhase hp
      · decide
    | refused =>
      rw [hphase] at hp
      refine absurd (effective_of_phase (e := .resume i) (q := .abandoned) rfl hp ?_ ?_) (h _)
      · simp only [PageLock.step, hp, Option.some.injEq, reduceCtorEq, if_false, if_true]
        exact phase?_setPhase hp
      · decide
  simp only [PageLock.open_, hc, Option.any_some]
  cases hpassed : c.passed with
  | true => rfl
  | false =>
    refine absurd ⟨rfl, fun hsame => ?_⟩ (h (.pass i))
    have hnow := congrArg (fun s : PageLock => (s.calls[i]?).map fun c => c.passed) hsame
    simp [PageLock.step, hc, hreleased, hpassed, hopen] at hnow

/-- Nothing stalls: in a state without jobs, a call behind ended ones is not pending. -/
theorem Quiescent.not_pending (h : Quiescent s) (hover : s.overBefore i) : ¬ s.pending i := by
  have hopen : ∀ j ≤ i, s.open_ j = true := by
    intro j
    induction j with
    | zero => exact fun _ => rfl
    | succ j ih =>
      intro hj
      obtain ⟨p, hp, hp'⟩ := hover j hj
      exact h.passed hp hp' (ih (by omega))
  rintro (hp | hp)
  · refine h (.turn i) (effective_of_phase (q := .granted) rfl hp ?_ (by decide))
    simp only [PageLock.step, hp, hopen i (Nat.le_refl i), and_self, if_true]
    exact phase?_setPhase hp
  · refine h (.resume i) (effective_of_phase (q := .running) rfl hp ?_ (by decide))
    simp only [PageLock.step, hp, if_true]
    exact phase?_setPhase hp

-- ------------------------------------------------------------
-- The lock
-- ------------------------------------------------------------

structure FairMutex (s : PageLock) : Prop where
  /-- At most one function runs. -/
  exclusive : ∀ i j, s.phase? i = some .running → s.phase? j = some .running → i = j
  /-- Functions are called in the order of the calls. -/
  inOrder : s.starts.Pairwise fun later earlier => earlier < later
  /-- Before a function is called, every earlier one is done or its caller was aborted. -/
  behind : ∀ j ∈ s.starts, ∀ i < j,
    s.phase? i = some (if i ∈ s.starts then .finished else .abandoned)
  /-- A call that is aborted while it waits never runs its function. -/
  abortedWaiting : ∀ i c es, s.calls[i]? = some c → c.phase = .waiting → c.signal = true →
    i ∉ (run PageLock.step (s.step (.abort i)) es).starts
  /-- Neither does a call whose signal was aborted before. -/
  abortedBefore : ∀ es, s.calls.length ∉ (run PageLock.step (s.step (.enter (some true))) es).starts
  /-- The jobs of the promises come to an end, -/
  settles : ∀ jobs, AllSteps PageLock.step Effective s jobs → jobs.length ≤ s.jobs
  /-- and then the next caller, with every function before it done, has its turn. -/
  enabled : ∀ i jobs, s.pending i → s.overBefore i → (∀ e ∈ jobs, e.isJob = true) →
    Quiescent (run PageLock.step s jobs) → i ∈ (run PageLock.step s jobs).starts

theorem Chain.exclusive (h : Chain s) (hi : s.phase? i = some .running)
    (hj : s.phase? j = some .running) : i = j := by
  have hlt : ∀ {a b : Nat}, s.phase? a = some .running → s.phase? b = some .running → ¬ a < b := by
    intro a b ha hb hab
    obtain ⟨ca, hca, hpa⟩ := phase?_eq.mp ha
    obtain ⟨cb, hcb, hpb⟩ := phase?_eq.mp hb
    have hpassed := h.settled a b ca cb hab hca hcb (.inr (by rw [hpb]; rfl))
    have hreleased := h.released a ca hca hpassed
    rw [hpa] at hreleased
    cases hreleased
  have hij := hlt hi hj
  have hji := hlt hj hi
  omega

theorem Chain.behind (h : Chain s) (hj : j ∈ s.starts) (hij : i < j) :
    s.phase? i = some (if i ∈ s.starts then .finished else .abandoned) := by
  obtain ⟨cj, hcj, hstarted⟩ := (h.starts j).mp hj
  have hlength : i < s.calls.length := Nat.lt_trans hij (List.getElem?_eq_some_iff.mp hcj).1
  obtain ⟨c, hc⟩ : ∃ c, s.calls[i]? = some c := ⟨_, List.getElem?_eq_getElem hlength⟩
  have hpassed := h.settled i j c cj hij hc hcj (.inr (by simp [LockPhase.turned, hstarted]))
  have hreleased := h.released i c hc hpassed
  refine phase?_eq.mpr ⟨c, hc, ?_⟩
  cases hphase : c.phase with
  | waiting | granted | refused | running | settled => rw [hphase] at hreleased; cases hreleased
  | finished =>
    rw [if_pos ((h.starts i).mpr ⟨c, hc, by rw [hphase]; rfl⟩)]
  | abandoned =>
    rw [if_neg (h.not_started_of_aborted ⟨_, phase?_eq.mpr ⟨c, hc, hphase⟩, .inr rfl⟩)]

theorem Chain.fair (h : Chain s) : FairMutex s where
  exclusive := fun i j hi hj => h.exclusive hi hj
  inOrder := h.ordered
  behind := fun j hj i hij => h.behind hj hij
  abortedWaiting := by
    intro i c es hc hphase hsignal
    have haborted : (s.step (.abort i)).aborted i := by
      have hp : s.phase? i = some .waiting := phase?_eq.mpr ⟨c, hc, hphase⟩
      refine ⟨.refused, ?_, .inl rfl⟩
      simp only [PageLock.step, hp, hc, Option.any_some, hsignal, and_self, if_true]
      exact phase?_setPhase hp
    exact (run_preserves (fun _ e h => h.step e) (h.step (.abort i)) es).not_started_of_aborted
      (haborted.run es)
  abortedBefore := by
    intro es
    have haborted : (s.step (.enter (some true))).aborted s.calls.length :=
      ⟨.refused, by simp [PageLock.step, PageLock.phase?], .inl rfl⟩
    exact (run_preserves (fun _ e h => h.step e) (h.step (.enter (some true)))
      es).not_started_of_aborted
      (haborted.run es)
  settles := fun jobs hjobs => jobs_length_le hjobs
  enabled := by
    intro i jobs hpending hover hjobs hquiet
    have hinv : ∀ s e, (Chain s ∧ s.overBefore i ∧ (s.pending i ∨ i ∈ s.starts)) → e.isJob = true →
        Chain (s.step e) ∧ (s.step e).overBefore i ∧
          ((s.step e).pending i ∨ i ∈ (s.step e).starts) :=
      fun s e hs hjob => ⟨hs.1.step e, hs.2.1.step e, pending_step hjob hs.2.2 hs.1⟩
    obtain ⟨-, hover', hend⟩ := run_invariant hinv ⟨h, hover, .inl hpending⟩
      (allSteps_of_forall (fun e he _ => hjobs e he) s)
    exact hend.resolve_left (hquiet.not_pending hover')

/-- Whatever is called, aborted and completed, in whatever order. -/
theorem page_lock_fair (es : List LockLabel) : FairMutex (run PageLock.step {} es) :=
  (Chain.run es).fair

/-- The second call is aborted while the first one runs; the third waits for the first. -/
example : (run PageLock.step {} [.enter none, .turn 0, .resume 0, .enter (some false), .enter none,
      .abort 1, .resume 1, .pass 1, .turn 2, .complete 0, .release 0, .pass 0, .pass 1, .turn 2,
      .resume 2]).starts = [2, 0] := by
  decide

end StopBot.Browser
