import StopBot.Lib.Runs
import Mathlib.Algebra.Order.Ring.Rat

/-!
# The circuit breaker

`AsyncCircuitBreaker`, one breaker and every call through it. Admission and the
record of a result are sections under the lock of the breaker, and nothing in
them suspends; the wrapped function runs between the two. A call remembers
nothing of its admission but what this file adds for it: the state it was
admitted in, and how often the breaker had opened.
-/

namespace StopBot.Browser

open Lib

inductive CircuitState
  | closed
  | open_
  | halfOpen
  deriving DecidableEq, Repr

/-- Moments are seconds of the monotonic clock. -/
structure Breaker where
  failureThreshold : Int := 3
  recoveryTimeout : Rat := 60
  state : CircuitState := .closed
  failureCount : Int := 0
  openedAt : Option Rat := none
  deriving DecidableEq, Repr

namespace Breaker

def maybeTransitionToHalfOpen (b : Breaker) (now : Rat) : Breaker :=
  if b.state ≠ .open_ then b
  else
    match b.openedAt with
    | none => b
    | some openedAt =>
      if now - openedAt ≥ b.recoveryTimeout then { b with state := .halfOpen } else b

def retryAfter (b : Breaker) (now : Rat) : Rat :=
  max 0 (b.recoveryTimeout - (b.openedAt.map (now - ·)).getD 0)

/-- The section of `check_open`, and of `call` before its function: the breaker
and the error, if it is refused. -/
def checkOpen (b : Breaker) (now : Rat) : Breaker × Option Rat :=
  let b := b.maybeTransitionToHalfOpen now
  (b, if b.state = .open_ then some (b.retryAfter now) else none)

def recordSuccess (b : Breaker) : Breaker :=
  { b with state := .closed, failureCount := 0, openedAt := none }

def recordFailure (b : Breaker) (now : Rat) : Breaker :=
  if b.state = .halfOpen then { b with openedAt := some now, state := .open_ }
  else
    let b := { b with failureCount := b.failureCount + 1 }
    if b.failureCount ≥ b.failureThreshold then { b with state := .open_, openedAt := some now }
    else b

def openUntil (b : Breaker) : Option Rat :=
  if b.state = .open_ then b.openedAt.map (· + b.recoveryTimeout) else none

end Breaker

structure BreakerCall where
  admittedIn : CircuitState
  /-- How often the breaker had opened before the call was admitted. -/
  epoch : Nat
  inFlight : Bool := true
  deriving DecidableEq, Repr

structure Circuit where
  breaker : Breaker
  now : Rat := 0
  /-- The transitions to `OPEN` so far. -/
  opened : Nat := 0
  calls : List BreakerCall := []
  deriving DecidableEq, Repr

inductive CircuitLabel
  | call
  /-- The function of a call returns. -/
  | succeed (call : Nat)
  /-- It raises an `Exception`. -/
  | fail (call : Nat)
  /-- It is cancelled, and the breaker is not told. -/
  | cancel (call : Nat)
  | checkOpen
  | recordSuccess
  | recordFailure
  | advance (seconds : Rat)
  deriving DecidableEq, Repr

namespace Circuit

def init (failureThreshold : Int) (recoveryTimeout : Rat) : Circuit :=
  { breaker := { failureThreshold, recoveryTimeout } }

def inFlight (s : Circuit) (i : Nat) : Bool :=
  (s.calls[i]?).any (·.inFlight)

/-- A call admitted in `HALF_OPEN` that is in flight. -/
def trial (s : Circuit) (i : Nat) : Bool :=
  (s.calls[i]?).any fun c => c.inFlight && c.admittedIn == .halfOpen

/-- A call in flight that was admitted before the last transition to `OPEN`. -/
def stale (s : Circuit) (i : Nat) : Bool :=
  (s.calls[i]?).any fun c => c.inFlight && c.epoch < s.opened

def withBreaker (s : Circuit) (b : Breaker) : Circuit :=
  { s with
    breaker := b
    opened := if s.breaker.state ≠ .open_ ∧ b.state = .open_ then s.opened + 1 else s.opened }

def leave (s : Circuit) (i : Nat) : Circuit :=
  { s with calls := s.calls.modify i fun c => { c with inFlight := false } }

def begin_ (s : Circuit) : Circuit :=
  match s.breaker.checkOpen s.now with
  | (b, some _) => s.withBreaker b
  | (b, none) =>
    let s := s.withBreaker b
    { s with calls := s.calls ++ [{ admittedIn := b.state, epoch := s.opened }] }

def step (s : Circuit) : CircuitLabel → Circuit
  | .call => s.begin_
  | .succeed i => if s.inFlight i then (s.leave i).withBreaker s.breaker.recordSuccess else s
  | .fail i => if s.inFlight i then (s.leave i).withBreaker (s.breaker.recordFailure s.now) else s
  | .cancel i => s.leave i
  | .checkOpen => s.withBreaker (s.breaker.checkOpen s.now).1
  | .recordSuccess => s.withBreaker s.breaker.recordSuccess
  | .recordFailure => s.withBreaker (s.breaker.recordFailure s.now)
  | .advance seconds => if 0 ≤ seconds then { s with now := s.now + seconds } else s

end Circuit

def CircuitLabel.completes : CircuitLabel → Nat → Bool
  | .succeed i, j | .fail i, j => i == j
  | _, _ => false

structure OneTrial (s : Circuit) (e : CircuitLabel) : Prop where
  /-- After it at most one call admitted in `HALF_OPEN` is in flight. -/
  single : ∀ i j, (s.step e).trial i = true → (s.step e).trial j = true → i = j
  /-- If it is the completion of a call from before the last opening, it does not close the
  breaker, -/
  keepsShut : ∀ i, e.completes i = true → s.stale i = true →
    (s.step e).breaker.state = .closed → s.breaker.state = .closed
  /-- and it does not change how long the breaker is open. -/
  keepsTime : ∀ i, e.completes i = true → s.stale i = true →
    (s.step e).breaker.openUntil = s.breaker.openUntil

/-- No call arrives that would be a second trial, and a call from before the last opening completes
only while the breaker is closed, a failure below the threshold of failures or at the very moment
of the opening. -/
def Circuit.orderly (s : Circuit) : CircuitLabel → Prop
  | .call => (s.breaker.maybeTransitionToHalfOpen s.now).state = .halfOpen → ∀ i, s.trial i = false
  | .succeed i => s.stale i = true → s.breaker.state = .closed
  | .fail i => s.stale i = true →
    (s.breaker.state = .closed ∧ s.breaker.failureCount + 1 < s.breaker.failureThreshold) ∨
      (s.breaker.state = .open_ ∧ s.breaker.openedAt = some s.now)
  | _ => True

-- ------------------------------------------------------------
-- What a step does
-- ------------------------------------------------------------

/-- While the breaker is not closed the failures that opened it are counted. -/
def Breaker.Counted (b : Breaker) : Prop :=
  b.state ≠ .closed → b.failureThreshold ≤ b.failureCount ∧ b.openedAt ≠ none

theorem Breaker.Counted.maybeTransitionToHalfOpen {b : Breaker} (h : b.Counted) (now : Rat) :
    (b.maybeTransitionToHalfOpen now).Counted := by
  unfold Breaker.maybeTransitionToHalfOpen
  split
  · exact h
  · rename_i hopen
    split
    · exact h
    · split
      · intro _
        exact h (by rw [not_not.mp hopen]; decide)
      · exact h

theorem Breaker.recordSuccess_counted (b : Breaker) : b.recordSuccess.Counted :=
  fun h => absurd rfl h

theorem Breaker.Counted.recordFailure {b : Breaker} (h : b.Counted) (now : Rat) :
    (b.recordFailure now).Counted := by
  unfold Breaker.recordFailure
  split
  · rename_i hhalf
    intro _
    exact ⟨(h (by rw [hhalf]; decide)).1, by simp⟩
  · dsimp only
    split
    · rename_i hreached
      exact fun _ => ⟨hreached, by simp⟩
    · rename_i hbelow
      intro hstate
      have hcount := (h hstate).1
      omega

namespace Circuit

variable {s : Circuit} {i j : Nat}

@[simp] theorem withBreaker_breaker (b : Breaker) : (s.withBreaker b).breaker = b := rfl

@[simp] theorem withBreaker_trial (b : Breaker) : (s.withBreaker b).trial i = s.trial i := rfl

theorem trial_of_leave (h : (s.leave i).trial j = true) : s.trial j = true := by
  unfold trial leave at h
  rw [List.getElem?_modify] at h
  unfold trial
  cases hc : s.calls[j]? with
  | none => simp [hc] at h
  | some c =>
    by_cases hij : i = j
    · simp [hc, hij] at h
    · simpa [hc, hij] using h

/-- A call is the only way to a new trial. -/
theorem trial_of_step {e : CircuitLabel} (he : e ≠ .call) (h : (s.step e).trial j = true) :
    s.trial j = true := by
  cases e with
  | call => exact absurd rfl he
  | succeed i | fail i =>
    simp only [step] at h
    split at h
    · exact trial_of_leave h
    · exact h
  | cancel i => exact trial_of_leave h
  | checkOpen | recordSuccess | recordFailure => exact h
  | advance seconds =>
    simp only [step] at h
    split at h <;> exact h

theorem begin_cases (s : Circuit) :
    ((s.breaker.maybeTransitionToHalfOpen s.now).state = .open_ ∧
      s.begin_ = s.withBreaker (s.breaker.maybeTransitionToHalfOpen s.now)) ∨
    ((s.breaker.maybeTransitionToHalfOpen s.now).state ≠ .open_ ∧
      s.begin_ = { s.withBreaker (s.breaker.maybeTransitionToHalfOpen s.now) with
        calls := s.calls ++ [⟨(s.breaker.maybeTransitionToHalfOpen s.now).state, s.opened, true⟩]
          }) := by
  by_cases hopen : (s.breaker.maybeTransitionToHalfOpen s.now).state = .open_
  · exact .inl ⟨hopen, by simp [begin_, Breaker.checkOpen, hopen]⟩
  · exact .inr ⟨hopen, by simp [begin_, Breaker.checkOpen, hopen, withBreaker]⟩

theorem begin_trial : s.begin_.trial j = true ↔ s.trial j = true ∨
    (j = s.calls.length ∧ (s.breaker.maybeTransitionToHalfOpen s.now).state = .halfOpen) := by
  rcases begin_cases s with ⟨hopen, heq⟩ | ⟨hopen, heq⟩
  · rw [heq, hopen]
    simp
  · rw [heq]
    rcases Nat.lt_trichotomy j s.calls.length with hlt | rfl | hgt
    · simp [trial, List.getElem?_append_left hlt, Nat.ne_of_lt hlt]
    · simp [trial]
    · have hout : s.calls[j]? = none := List.getElem?_eq_none (by omega)
      have hout' : (s.calls ++
          [⟨(s.breaker.maybeTransitionToHalfOpen s.now).state, s.opened, true⟩])[j]?
          = none := List.getElem?_eq_none (by simp; omega)
      simp [trial, hout, hout', Nat.ne_of_gt hgt]

theorem trial_lt (h : s.trial j = true) : j < s.calls.length := by
  by_contra hout
  simp [trial, List.getElem?_eq_none (Nat.le_of_not_lt hout)] at h

structure Inv (s : Circuit) : Prop where
  single : ∀ i j, s.trial i = true → s.trial j = true → i = j
  counted : s.breaker.Counted

theorem Inv.init (failureThreshold : Int) (recoveryTimeout : Rat) :
    Inv (Circuit.init failureThreshold recoveryTimeout) where
  single := fun i _ hi => absurd hi (by simp [trial, Circuit.init])
  counted := fun h => absurd rfl h

theorem counted_step (h : s.breaker.Counted) (e : CircuitLabel) : (s.step e).breaker.Counted := by
  cases e with
  | call =>
    have hhalf := h.maybeTransitionToHalfOpen s.now
    rcases begin_cases s with ⟨-, heq⟩ | ⟨-, heq⟩ <;> rw [step, heq] <;> exact hhalf
  | succeed i =>
    simp only [step]
    split
    · exact Breaker.recordSuccess_counted _
    · exact h
  | fail i =>
    simp only [step]
    split
    · exact h.recordFailure s.now
    · exact h
  | cancel i => exact h
  | checkOpen => exact h.maybeTransitionToHalfOpen s.now
  | recordSuccess => exact Breaker.recordSuccess_counted _
  | recordFailure => exact h.recordFailure s.now
  | advance seconds =>
    simp only [step]
    split <;> exact h

theorem Inv.step {e : CircuitLabel} (h : Inv s) (he : OneTrial s e) : Inv (s.step e) where
  single := he.single
  counted := counted_step h.counted e

theorem Inv.single_iff (h : Inv s) (e : CircuitLabel) :
    (∀ i j, (s.step e).trial i = true → (s.step e).trial j = true → i = j) ↔
      (e = .call → (s.breaker.maybeTransitionToHalfOpen s.now).state = .halfOpen →
        ∀ i, s.trial i = false) := by
  constructor
  · rintro hsingle rfl hhalf i
    by_contra htrial
    have hi : s.trial i = true := by simpa using htrial
    have hsame := hsingle i s.calls.length (begin_trial.mpr (.inl hi))
      (begin_trial.mpr (.inr ⟨rfl, hhalf⟩))
    have hlt := trial_lt hi
    omega
  · intro hcall i j hi hj
    by_cases he : e = .call
    · subst he
      rcases begin_trial.mp hi with hi | ⟨rfl, hhalf⟩ <;>
        rcases begin_trial.mp hj with hj | ⟨rfl, hhalf'⟩
      · exact h.single i j hi hj
      · rw [hcall rfl hhalf' i] at hi
        cases hi
      · rw [hcall rfl hhalf j] at hj
        cases hj
      · rfl
    · exact h.single i j (trial_of_step he hi) (trial_of_step he hj)

theorem inFlight_of_stale (h : s.stale i = true) : s.inFlight i = true := by
  unfold stale at h
  unfold inFlight
  cases hc : s.calls[i]? with
  | none => simp [hc] at h
  | some c => simpa [hc] using (by simpa [hc] using h : c.inFlight = true ∧ c.epoch < s.opened).1

end Circuit

theorem Breaker.recordSuccess_kept (b : Breaker) :
    ((b.recordSuccess.state = .closed → b.state = .closed) ∧
      b.recordSuccess.openUntil = b.openUntil) ↔
      b.state = .closed := by
  constructor
  · exact fun h => h.1 rfl
  · intro h
    exact ⟨fun _ => h, by simp [Breaker.openUntil, Breaker.recordSuccess, h]⟩

theorem Breaker.Counted.recordFailure_kept {b : Breaker} (h : b.Counted) (now : Rat) :
    (((b.recordFailure now).state = .closed → b.state = .closed) ∧
        (b.recordFailure now).openUntil = b.openUntil) ↔
      (b.state = .closed ∧ b.failureCount + 1 < b.failureThreshold) ∨
        (b.state = .open_ ∧ b.openedAt = some now) := by
  cases hstate : b.state with
  | closed =>
    by_cases hreached : b.failureThreshold ≤ b.failureCount + 1
    · have hnot : ¬ b.failureCount + 1 < b.failureThreshold := by omega
      simp [Breaker.recordFailure, Breaker.openUntil, hstate, hreached, hnot]
    · have hbelow : b.failureCount + 1 < b.failureThreshold := by omega
      simp [Breaker.recordFailure, Breaker.openUntil, hstate, hreached, hbelow]
  | open_ =>
    have hreached : b.failureThreshold ≤ b.failureCount + 1 := by
      have hcount := (h (by rw [hstate]; decide)).1
      omega
    cases hopened : b.openedAt with
    | none => exact absurd hopened (h (by rw [hstate]; decide)).2
    | some openedAt =>
      simp [Breaker.recordFailure, Breaker.openUntil, hstate, hreached, hopened, eq_comm]
  | halfOpen => simp [Breaker.recordFailure, Breaker.openUntil, hstate]

theorem Circuit.Inv.oneTrial_iff {s : Circuit} (h : s.Inv) (e : CircuitLabel) :
    OneTrial s e ↔ s.orderly e := by
  have hparts : OneTrial s e ↔
      (∀ i j, (s.step e).trial i = true → (s.step e).trial j = true → i = j) ∧
      ∀ i, e.completes i = true → s.stale i = true →
        ((s.step e).breaker.state = .closed → s.breaker.state = .closed) ∧
          (s.step e).breaker.openUntil = s.breaker.openUntil :=
    ⟨fun ⟨hsingle, hshut, htime⟩ =>
      ⟨hsingle, fun i hi hstale => ⟨hshut i hi hstale, htime i hi hstale⟩⟩,
      fun ⟨hsingle, hkept⟩ => ⟨hsingle, fun i hi hstale => (hkept i hi hstale).1,
        fun i hi hstale => (hkept i hi hstale).2⟩⟩
  rw [hparts, h.single_iff e]
  cases e with
  | call => simp [Circuit.orderly, CircuitLabel.completes]
  | cancel i | checkOpen | recordSuccess | recordFailure | advance =>
    simp [Circuit.orderly, CircuitLabel.completes]
  | succeed i =>
    simp only [reduceCtorEq, false_implies, true_and, CircuitLabel.completes, beq_iff_eq,
      forall_eq',
      Circuit.orderly]
    refine forall_congr' fun hstale => ?_
    rw [Circuit.step, if_pos (Circuit.inFlight_of_stale hstale)]
    exact s.breaker.recordSuccess_kept
  | fail i =>
    simp only [reduceCtorEq, false_implies, true_and, CircuitLabel.completes, beq_iff_eq,
      forall_eq',
      Circuit.orderly]
    refine forall_congr' fun hstale => ?_
    rw [Circuit.step, if_pos (Circuit.inFlight_of_stale hstale)]
    exact h.counted.recordFailure_kept s.now

/-- Along every run, the breaker admits one trial as far as calls and completions are orderly, and
no further. -/
theorem one_trial_iff_orderly (failureThreshold : Int) (recoveryTimeout : Rat)
    (es : List CircuitLabel) :
    AllSteps Circuit.step OneTrial (.init failureThreshold recoveryTimeout) es ↔
      AllSteps Circuit.step Circuit.orderly (.init failureThreshold recoveryTimeout) es :=
  allSteps_iff_of_invariant (I := Circuit.Inv) (fun _ e h => h.oneTrial_iff e)
    (fun _ _ h he => h.step he) (.init failureThreshold recoveryTimeout) es

/-- Two calls are tried at once after the recovery timeout; and a call from before the opening
closes the breaker. -/
theorem second_trial_and_stale_success :
    ¬ AllSteps Circuit.step OneTrial (.init 3 60)
      [.recordFailure, .recordFailure, .recordFailure, .advance 60, .call, .call] ∧
    ¬ AllSteps Circuit.step OneTrial (.init 3 60)
      [.call, .recordFailure, .recordFailure, .recordFailure, .succeed 0] := by
  constructor
  · rintro ⟨-, -, -, -, -, hsecond, -⟩
    exact absurd (hsecond.single 0 1 (by decide +kernel) (by decide +kernel)) (by decide)
  · rintro ⟨-, -, -, -, hstale, -⟩
    exact absurd (hstale.keepsShut 0 rfl (by decide +kernel) rfl) (by decide +kernel)

end StopBot.Browser
