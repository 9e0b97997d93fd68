import StopBot.Tasks.Lifecycle

/-!
# Lease fencing

Beside the queue, the history a claim is judged by: the last claim of each
row, and how often each claim generation has left `running`. A statement
issued under a lease pair takes effect only for the last claim, on a running
row, inside the lease; and a generation ends at most once.
-/

namespace StopBot.Tasks

open Lib

/-- `lastClaim` is the pair the most recent claim of a row handed out;
`exits id token` counts the transitions of that generation out of `running`. -/
structure Ledger where
  queue : Queue
  lastClaim : Nat → Option (Uuid × Nat)
  exits : Nat → Nat → Nat

def Ledger.initial : Ledger :=
  { queue := Table.empty, lastClaim := fun _ => none, exits := fun _ _ => 0 }

/-- The generation that ends when a row changes from `before` to `after`. -/
def endedGeneration (before after : Option TaskRow) : Option Nat :=
  match before, after with
  | some row, some row' =>
    if row.status = .running ∧ row'.status ≠ .running then some row.leaseToken else none
  | _, _ => none

def Ledger.step (l : Ledger) (e : Clock × QueueOp) : Ledger :=
  let queue := Tasks.step l.queue e
  { queue := queue
    lastClaim := fun id =>
      match claimOf l.queue e with
      | some (claimed, worker) =>
        if claimed = id then (queue.rows id).map fun row => (worker, row.leaseToken)
        else l.lastClaim id
      | none => l.lastClaim id
    exits := fun id token =>
      l.exits id token +
        if endedGeneration (l.queue.rows id) (queue.rows id) = some token then 1 else 0 }

/-- A lease owner is the owner of the last claim. A generation that has ended
once is over: the row is not running under its token. -/
structure Ledger.Sound (l : Ledger) : Prop where
  owner : ∀ id row owner, l.queue.rows id = some row → row.leaseOwner = some owner →
    l.lastClaim id = some (owner, row.leaseToken)
  once : ∀ id token, l.exits id token ≤ 1
  ended : ∀ id token, 0 < l.exits id token → ∃ row, l.queue.rows id = some row ∧
    token ≤ row.leaseToken ∧ (row.status = .running → token < row.leaseToken)

-- ------------------------------------------------------------
-- Fenced statements
-- ------------------------------------------------------------

theorem fencedBy_iff {row : TaskRow} {f : Fence} :
    row.fencedBy f = true ↔
      ∃ owner, f = ⟨some owner, some row.leaseToken⟩ ∧ row.leaseOwner = some owner := by
  obtain ⟨owner, token⟩ := f
  cases owner with
  | none => simp [TaskRow.fencedBy]
  | some owner =>
    cases token with
    | none => simp [TaskRow.fencedBy]
    | some token =>
      simp only [TaskRow.fencedBy, Bool.and_eq_true, beq_iff_eq]
      constructor
      · rintro ⟨howner, rfl⟩
        exact ⟨owner, rfl, howner⟩
      · rintro ⟨_, hf, howner⟩
        cases hf
        exact ⟨howner, rfl⟩

/-- Every statement issued with a lease pair tests it, with the status and the
expiry, in its own `WHERE` clause. -/
theorem RowOp.heldBy_of_fence {op : RowOp} {clk : Clock} {f : Fence} {row row' : TaskRow}
    (hf : op.fence? = some f) (h : op.apply clk row = some row') : row.heldBy clk f = true := by
  cases op <;> simp only [RowOp.fence?, reduceCtorEq, Option.some.injEq] at hf <;> subst hf <;>
    simp only [RowOp.apply] at h
  case markFailedWithCompensation =>
    obtain ⟨failed, hfailed, -⟩ := Option.map_eq_some_iff.mp h
    have hg := (update_eq_some.mp hfailed).1
    grind
  case requeueForRetry =>
    simp only [Tasks.requeueForRetry, Tasks.markFailed] at h
    split at h <;> grind [update_eq_some]
  case requeueUnknownForReconciliation =>
    simp only [Tasks.requeueUnknownForReconciliation, Tasks.markFailed] at h
    split at h <;> grind [update_eq_some]
  all_goals
    have hg := (update_eq_some.mp h).1
    grind

-- ------------------------------------------------------------
-- One operation
-- ------------------------------------------------------------

theorem Effect.leaseOwner {row row' : TaskRow} (h : Effect row row') :
    row'.leaseOwner = row.leaseOwner ∨ row'.leaseOwner = none := by
  obtain ⟨-, hann | hclose | hreq⟩ := h
  · exact .inl hann.leaseOwner
  · exact hclose.leaseOwner
  · exact .inr hreq.leaseOwner

theorem Effect.running {row row' : TaskRow} (h : Effect row row') (hrun : row'.status = .running) :
    row.status = .running := by
  obtain ⟨-, hann | hclose | hreq⟩ := h
  · exact hann.status.symm.trans hrun
  · have hterminal := hclose.terminal
    rw [hrun] at hterminal
    cases hterminal
  · rw [hreq.status] at hrun
    cases hrun

/-- The token of a stored row grows at a claim and is kept by everything else;
a row that is running and was not just claimed was running before. -/
theorem step_token {q : Queue} {id : Nat} {row : TaskRow} (e : Clock × QueueOp)
    (h : q.rows id = some row) :
    ∃ row', (step q e).rows id = some row' ∧
      ((∃ worker, claimOf q e = some (id, worker) ∧ row.status.queued = true ∧
          row'.status = .running ∧ row'.leaseOwner = some worker ∧
          row'.leaseToken = row.leaseToken + 1) ∨
        ((∀ worker, claimOf q e ≠ some (id, worker)) ∧ row'.leaseToken = row.leaseToken ∧
          (row'.leaseOwner = row.leaseOwner ∨ row'.leaseOwner = none) ∧
          (row'.status = .running → row.status = .running))) := by
  obtain ⟨row', h', ⟨worker, hclaim, hrow⟩ | ⟨hclaim, rfl | ⟨op, -, hop⟩⟩⟩ := step_claimOf e h
  · obtain ⟨hrun, howner, htoken, -⟩ := hrow.spec
    exact ⟨row', h', .inl ⟨worker, hclaim, hrow.queued, hrun, howner, htoken⟩⟩
  · exact ⟨row', h', .inr ⟨hclaim, rfl, .inl rfl, fun hrun => hrun⟩⟩
  · have heffect := RowOp.effect hop
    exact ⟨row', h', .inr ⟨hclaim, heffect.kept.leaseToken, heffect.leaseOwner, heffect.running⟩⟩

theorem Ledger.Sound.step {l : Ledger} (hl : l.Sound) (e : Clock × QueueOp) :
    (l.step e).Sound := by
  refine ⟨?_, ?_, ?_⟩
  · intro id row' owner h' howner
    cases h : l.queue.rows id with
    | none =>
      obtain ⟨task, -, -, rfl⟩ := step_created e h h'
      cases howner
    | some row =>
      obtain ⟨row'', h'', hcase⟩ := step_token e h
      rw [show (Tasks.step l.queue e).rows id = some row' from h'] at h''
      cases h''
      rcases hcase with ⟨worker, hclaim, -, -, hworker, -⟩ | ⟨hclaim, htoken, hkeep, -⟩
      · rw [hworker] at howner
        cases howner
        simp [Ledger.step, hclaim, show (Tasks.step l.queue e).rows id = some row' from h']
      · have hlast : (l.step e).lastClaim id = l.lastClaim id := by
          simp only [Ledger.step]
          split
          · rename_i claimed worker hc
            have hne : claimed ≠ id := fun heq => hclaim worker (heq ▸ hc)
            rw [if_neg hne]
          · rfl
        rw [hlast, htoken]
        rcases hkeep with hkeep | hnone
        · exact hl.owner id row owner h (hkeep ▸ howner)
        · rw [hnone] at howner
          cases howner
  · intro id token
    simp only [Ledger.step]
    split
    · rename_i hended
      -- the generation that ends now has not ended before
      have hzero : l.exits id token = 0 := by
        apply Nat.eq_zero_of_not_pos
        intro hpos
        obtain ⟨row, hrow, -, hlt⟩ := hl.ended id token hpos
        rw [hrow] at hended
        cases h' : (Tasks.step l.queue e).rows id with
        | none => simp [endedGeneration, h'] at hended
        | some row' =>
          simp only [endedGeneration, h', Option.ite_none_right_eq_some,
            Option.some.injEq] at hended
          obtain ⟨⟨hrun, -⟩, rfl⟩ := hended
          exact Nat.lt_irrefl _ (hlt hrun)
      exact Nat.le_of_eq (congrArg (· + 1) hzero)
    · exact hl.once id token
  · intro id token hpos
    by_cases hended : endedGeneration (l.queue.rows id)
      ((Tasks.step l.queue e).rows id) = some token
    · cases h : l.queue.rows id with
      | none => simp [endedGeneration, h] at hended
      | some row =>
        obtain ⟨row', h', hcase⟩ := step_token e h
        refine ⟨row', h', ?_⟩
        simp only [endedGeneration, h, h', Option.ite_none_right_eq_some,
          Option.some.injEq] at hended
        obtain ⟨⟨hrun, hleft⟩, rfl⟩ := hended
        rcases hcase with ⟨worker, -, -, hrun', -, -⟩ | ⟨-, htoken, -, -⟩
        · exact absurd hrun' hleft
        · exact ⟨Nat.le_of_eq htoken.symm, fun hrun' => absurd hrun' hleft⟩
    · have hbefore : 0 < l.exits id token := by
        simpa [Ledger.step, hended] using hpos
      obtain ⟨row, h, hle, hlt⟩ := hl.ended id token hbefore
      obtain ⟨row', h', hcase⟩ := step_token e h
      refine ⟨row', h', ?_⟩
      rcases hcase with ⟨worker, -, -, -, -, htoken⟩ | ⟨-, htoken, -, hwas⟩
      · exact ⟨by omega, fun _ => by omega⟩
      · exact ⟨by omega, fun hrun => htoken ▸ hlt (hwas hrun)⟩

-- ------------------------------------------------------------
-- Runs
-- ------------------------------------------------------------

theorem Ledger.initial_sound : Ledger.initial.Sound :=
  ⟨fun _ _ _ h => (nomatch h), fun _ _ => Nat.zero_le 1, fun _ _ h => absurd h (Nat.lt_irrefl 0)⟩

theorem Ledger.run_sound (es : List (Clock × QueueOp)) :
    (run Ledger.step Ledger.initial es).Sound :=
  run_preserves (fun _ e hl => hl.step e) Ledger.initial_sound es

theorem Ledger.run_token {l : Ledger} {id : Nat} {row : TaskRow} (h : l.queue.rows id = some row)
    (fs : List (Clock × QueueOp)) :
    ∃ row', (run Ledger.step l fs).queue.rows id = some row' ∧
      row.leaseToken ≤ row'.leaseToken := by
  refine run_preserves
    (I := fun l : Ledger => ∃ row', l.queue.rows id = some row' ∧ row.leaseToken ≤ row'.leaseToken)
    ?_ ⟨row, h, Nat.le_refl _⟩ fs
  rintro l e ⟨row', h', hle⟩
  obtain ⟨row'', h'', hcase⟩ := step_token e h'
  refine ⟨row'', h'', ?_⟩
  rcases hcase with ⟨-, -, -, -, -, htoken⟩ | ⟨-, htoken, -, -⟩ <;> omega

/-- After any interleaving of operations: the token of a row never decreases
and grows at each claim; a fenced statement takes effect only with the pair of
the row's last claim, on a running row, inside its lease; and each claim
generation has left `running` at most once. -/
theorem lease_fencing (es : List (Clock × QueueOp)) :
    (∀ id row, (run Ledger.step Ledger.initial es).queue.rows id = some row →
      (∀ fs, ∃ row', (run Ledger.step Ledger.initial (es ++ fs)).queue.rows id = some row' ∧
        row.leaseToken ≤ row'.leaseToken) ∧
      (∀ e worker, claimOf (run Ledger.step Ledger.initial es).queue e = some (id, worker) →
        ∃ row', (run Ledger.step Ledger.initial (es ++ [e])).queue.rows id = some row' ∧
          row.leaseToken < row'.leaseToken)) ∧
    (∀ id row clk op f row', (run Ledger.step Ledger.initial es).queue.rows id = some row →
      RowOp.fence? op = some f → op.apply clk row = some row' →
      ∃ owner token, f = ⟨some owner, some token⟩ ∧
        (run Ledger.step Ledger.initial es).lastClaim id = some (owner, token) ∧
        row.status = .running ∧ row.leaseLive clk.wall = true) ∧
    (∀ id token, (run Ledger.step Ledger.initial es).exits id token ≤ 1) := by
  have hsound := Ledger.run_sound es
  refine ⟨fun id row h => ⟨fun fs => ?_, fun e worker hclaim => ?_⟩, ?_, hsound.once⟩
  · rw [run_append]
    exact Ledger.run_token h fs
  · rw [run_append, run_cons, run_nil]
    obtain ⟨row', h', ⟨-, -, -, -, -, htoken⟩ | ⟨hnot, -⟩⟩ := step_token e h
    · exact ⟨row', h', by omega⟩
    · exact absurd hclaim (hnot worker)
  · intro id row clk op f row' h hf happly
    obtain ⟨hrun, hfence, hlive⟩ := heldBy_iff.mp (RowOp.heldBy_of_fence hf happly)
    obtain ⟨owner, rfl, howner⟩ := fencedBy_iff.mp hfence
    exact ⟨owner, row.leaseToken, rfl, hsound.owner id row owner h howner, hrun, hlive⟩

end StopBot.Tasks
