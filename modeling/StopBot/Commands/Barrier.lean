import StopBot.Commands.Ledger
import StopBot.Tasks.Lifecycle

/-!
# One live command per ad

A call looks only at the latest task of its target before it creates another.
That is enough because a live task is always the latest one: a call creates
under the lock of the target, after it saw the latest task ended, and a task
that has ended stays so whatever happens to it.
-/

namespace StopBot.Commands

open Lib Tasks Worker

-- ------------------------------------------------------------
-- Rows and queues
-- ------------------------------------------------------------

theorem isAdCommandOf_step {clk : Clock} {row row' : TaskRow} (h : RowStep clk row row')
    (targetId : String) : isAdCommandOf targetId row' = isAdCommandOf targetId row := by
  obtain ⟨htype, -, hpayload⟩ := h.identity
  by_cases hscan : row.taskType = .observerScan
  · have hother : (TaskType.observerScan == TaskType.metaApiMutation) = false := rfl
    simp only [isAdCommandOf, htype, hscan, hother, Bool.false_and]
  · simp [isAdCommandOf, TaskRow.mutationKind, TaskRow.targetId, htype, hpayload hscan]

theorem isActive_of_step {clk : Clock} {row row' : TaskRow} (h : RowStep clk row row')
    (hactive : isActive row' = true) : isActive row = true := by
  cases hterminal : row.status.terminal with
  | false => simp [isActive, hterminal]
  | true =>
    have hfrozen := h.frozen hterminal
    simp [isActive, hfrozen.status, hterminal] at hactive

theorem step_next (q : Queue) (e : Clock × QueueOp) : q.next ≤ (Tasks.step q e).next := by
  obtain ⟨clk, op⟩ := e
  cases op with
  | create task =>
    simp only [Tasks.step]
    split
    · exact Nat.le_refl _
    · exact Nat.le_succ _
  | claim c gateOpen locked =>
    simp only [Tasks.step]
    split <;> exact Nat.le_refl _
  | claimEvent worker leaseSeconds locked =>
    simp only [Tasks.step]
    split <;> exact Nat.le_refl _
  | onRow id op => exact Nat.le_refl _
  | onAll op => exact Nat.le_refl _

structure Evolves (q q' : Queue) : Prop where
  stored : ∀ id row, q.rows id = some row →
    ∃ clk row', q'.rows id = some row' ∧ RowStep clk row row'
  fresh : ∀ id row', q.rows id = none → q'.rows id = some row' →
    q.next ≤ id ∧ ∀ targetId, isAdCommandOf targetId row' = false
  next : q.next ≤ q'.next

theorem Evolves.refl (q : Queue) : Evolves q q where
  stored := fun _ row h => ⟨⟨0, 0, 0⟩, row, h, .stay⟩
  fresh := fun _ _ h h' => by rw [h] at h'; cases h'
  next := Nat.le_refl _

theorem evolves_elsewhere (q : Queue) (clk : Clock) (op : Elsewhere) :
    Evolves q (Tasks.step q (clk, op.op)) where
  stored := fun _ _ h => ⟨clk, step_stored _ h⟩
  fresh := by
    intro id row' h h'
    obtain ⟨task, hop, rfl, rfl⟩ := step_created _ h h'
    refine ⟨Nat.le_refl _, fun targetId => ?_⟩
    have hforeign := op.foreign
    simp only at hop
    simp only [hop, createsAdCommand] at hforeign
    simp only [isAdCommandOf, TaskRow.mutationKind, NewTask.row, hforeign, Bool.false_and]
  next := step_next _ _

theorem evolves_strengthen (q : Queue) (id : Nat) (clk : Clock) (maxAttempts priority : Int) :
    Evolves q (q.updateAt id (strengthenActiveTask clk maxAttempts priority)) :=
  evolves_elsewhere q clk ⟨.onRow id (.strengthenActiveTask maxAttempts priority), rfl⟩

theorem evolves_reserve (q : Queue) : Evolves q q.reserve where
  stored := (Evolves.refl q).stored
  fresh := (Evolves.refl q).fresh
  next := Nat.le_succ _

theorem Evolves.back {q q' : Queue} (h : Evolves q q') {targetId : String} {id : Nat}
    {row' : TaskRow} (h' : q'.rows id = some row') (had : isAdCommandOf targetId row' = true) :
    ∃ row, q.rows id = some row ∧ isAdCommandOf targetId row = true ∧
      (isActive row' = true → isActive row = true) := by
  cases hrow : q.rows id with
  | none =>
    rw [(h.fresh id row' hrow h').2] at had
    cases had
  | some row =>
    obtain ⟨clk, row'', h'', hstep⟩ := h.stored id row hrow
    rw [h'] at h''
    cases h''
    exact ⟨row, rfl, (isAdCommandOf_step hstep _).symm.trans had, isActive_of_step hstep⟩

theorem Evolves.none {q q' : Queue} (h : Evolves q q') {id : Nat} (hid : id < q.next)
    (hnone : q.rows id = none) : q'.rows id = none := by
  cases h' : q'.rows id with
  | none => rfl
  | some row' =>
    have := (h.fresh id row' hnone h').1
    omega

-- ------------------------------------------------------------
-- What the statements find
-- ------------------------------------------------------------

theorem targetLocked_iff {s : Ledger} {targetId : String} :
    s.targetLocked targetId = true ↔ ∃ c call, s.calls.rows c = some call ∧
      call.pc.locksTarget = true ∧ call.cmd.targetId = targetId := by
  have h := @Table.entries_any _ s.calls fun call =>
    call.pc.locksTarget && call.cmd.targetId == targetId
  simpa [Ledger.targetLocked] using h

theorem latestTask_spec {s : Ledger} {targetId : String} {id : Nat} {row : TaskRow}
    (h : s.latestTask targetId = some (id, row)) :
    s.queue.rows id = some row ∧ isAdCommandOf targetId row = true ∧
      ∀ id' row', s.queue.rows id' = some row' → isAdCommandOf targetId row' = true → id' ≤ id := by
  have hmem := Sql.first_mem h
  rw [List.mem_filter, Table.mem_entries] at hmem
  refine ⟨hmem.1, hmem.2, fun id' row' h' had' => ?_⟩
  have hgreatest := @Sql.first_greatest _ Prod.fst _ _ h (id', row')
  exact hgreatest (List.mem_filter.mpr ⟨Table.mem_entries.mpr h', had'⟩)

theorem latestTask_none {s : Ledger} {targetId : String} (h : s.latestTask targetId = none) :
    ∀ id row, s.queue.rows id = some row → isAdCommandOf targetId row = false := by
  intro id row hrow
  have hempty := Sql.first_eq_none h
  rw [List.filter_eq_nil_iff] at hempty
  exact Bool.not_eq_true _ ▸ hempty (id, row) (Table.mem_entries.mpr hrow)

/-- A live latest task stands as a barrier against every command, with a proof
or without. -/
theorem standingBarrier_none {cmd : Command} {latest : Latest}
    (h : standingBarrier cmd (some latest) = none) : isActive latest.row = false := by
  cases hactive : isActive latest.row with
  | false => rfl
  | true => simp [standingBarrier, targetBarrier, verifiedSafetySupersedesBarrier, hactive] at h

theorem mutationPayload_isAdCommand (host : Host) (cmd : Command) (accountId : String)
    (target : CatalogRow) (key : String) (correlationId : Uuid) (clk : Clock) :
    isAdCommandOf cmd.targetId
      ((createMutationTask cmd (mutationPayload host cmd accountId target) key correlationId).row
        clk) = true := by
  cases hkind : cmd.actionKind <;>
    simp [isAdCommandOf, TaskRow.mutationKind, TaskRow.targetId, createMutationTask, NewTask.row,
      mutationPayload, Obj.text, Json.text, AdActionKind.text, hkind]

theorem checkTarget_ok {host : Host} {now : Int} {cmd : Command} {target : Option CatalogRow}
    {payload : Obj} (h : checkTarget host now cmd target = .ok payload) :
    ∃ accountId ad, payload = mutationPayload host cmd accountId ad := by
  simp only [checkTarget, bind, Except.bind, pure, Except.pure] at h
  repeat' split at h
  all_goals first | exact ⟨_, _, (Except.ok.inj h).symm⟩ | cases h

-- ------------------------------------------------------------
-- The invariant
-- ------------------------------------------------------------

/-- The call has seen the history of its target ended and goes on to create. -/
def Pc.creates : Pc → Bool
  | .cleared _ _ | .admitted _ | .inserted _ _ => true
  | .returning _ work => work.inserted.isSome
  | _ => false

/-- The task a call is about to create is a live command of its target, and the
call holds the target until it is committed. -/
def Pc.Placed (targetId : String) : Pc → Prop
  | .admitted task =>
    ∀ clk, isAdCommandOf targetId (task.row clk) = true ∧ isActive (task.row clk) = true
  | .inserted _ row => isAdCommandOf targetId row = true ∧ isActive row = true
  | .returning _ work => ∀ id row, work.inserted = some (id, row) →
      work.targetLocked = true ∧ isAdCommandOf targetId row = true ∧ isActive row = true
  | _ => True

theorem Pc.Placed.locks {targetId : String} {pc : Pc} (h : pc.Placed targetId)
    (hcreates : pc.creates = true) : pc.locksTarget = true := by
  cases pc with
  | returning receipt work =>
    obtain ⟨⟨id, row⟩, hrow⟩ := Option.isSome_iff_exists.mp hcreates
    exact (h id row hrow).1
  | cleared | admitted | inserted => rfl
  | keyed | unbound | resolved | targeted | reusing | committed | raised | rolledBack =>
    cases hcreates

theorem Pc.Placed.row {targetId : String} {pc : Pc} {id : Nat} {row : TaskRow}
    (h : pc.Placed targetId) (hrow : pc.row? = some (id, row)) :
    pc.creates = true ∧ isAdCommandOf targetId row = true ∧ isActive row = true := by
  cases pc with
  | returning receipt work =>
    have hinserted : work.inserted = some (id, row) := hrow
    exact ⟨by simp [Pc.creates, hinserted], (h id row hinserted).2⟩
  | inserted id' row' =>
    cases hrow
    exact ⟨rfl, h⟩
  | keyed | unbound | resolved | targeted | reusing | cleared | admitted | committed | raised
  | rolledBack => cases hrow

theorem Pc.of_final {pc : Pc} (h : pc.isOpen = false) :
    pc.locksTarget = false ∧ pc.creates = false ∧ pc.row? = none := by
  cases pc with
  | committed | raised | rolledBack => exact ⟨rfl, rfl, rfl⟩
  | keyed | unbound | resolved | targeted | reusing | cleared | admitted | inserted | returning =>
    cases h

structure Inv (s : Ledger) : Prop where
  newest : ∀ targetId id row id' row', s.queue.rows id = some row →
    isAdCommandOf targetId row = true → isActive row = true →
    s.queue.rows id' = some row' → isAdCommandOf targetId row' = true → id' ≤ id
  placed : ∀ c call, s.calls.rows c = some call → call.pc.Placed call.cmd.targetId
  alone : ∀ c d a b, s.calls.rows c = some a → s.calls.rows d = some b →
    a.pc.locksTarget = true → b.pc.locksTarget = true → a.cmd.targetId = b.cmd.targetId → c = d
  quiet : ∀ c call, s.calls.rows c = some call → call.pc.creates = true →
    ∀ id row, s.queue.rows id = some row → isAdCommandOf call.cmd.targetId row = true →
      isActive row = false
  pending : ∀ c call id row, s.calls.rows c = some call → call.pc.row? = some (id, row) →
    id < s.queue.next ∧ s.queue.rows id = none ∧
      ∀ id' row', s.queue.rows id' = some row' → isAdCommandOf call.cmd.targetId row' = true →
        id' < id
  apart : ∀ c d a b id row row', s.calls.rows c = some a → s.calls.rows d = some b →
    a.pc.row? = some (id, row) → b.pc.row? = some (id, row') → c = d

theorem inv_init : Inv Ledger.init where
  newest := fun _ _ _ _ _ h => by cases h
  placed := fun _ _ h => by cases h
  alone := fun _ _ _ _ h => by cases h
  quiet := fun _ _ h => by cases h
  pending := fun _ _ _ _ h => by cases h
  apart := fun _ _ _ _ _ _ _ h => by cases h

theorem Inv.evolves {s : Ledger} (h : Inv s) {q' : Queue} (hq : Evolves s.queue q') :
    Inv { s with queue := q' } where
  newest := by
    intro targetId id row' jd other' hrow' had hactive hother' hadOther
    obtain ⟨row, hrow, hadRow, hback⟩ := hq.back hrow' had
    obtain ⟨other, hother, hadBack, -⟩ := hq.back hother' hadOther
    exact h.newest targetId id row jd other hrow hadRow (hback hactive) hother hadBack
  placed := h.placed
  alone := h.alone
  quiet := by
    intro c call hc hcreates id row' hrow' had
    obtain ⟨row, hrow, hadRow, hback⟩ := hq.back hrow' had
    have hended := h.quiet c call hc hcreates id row hrow hadRow
    cases hactive : isActive row' with
    | false => rfl
    | true => rw [hback hactive] at hended; cases hended
  pending := by
    intro c call id row hc hrow
    obtain ⟨hid, hnone, hbelow⟩ := h.pending c call id row hc hrow
    refine ⟨Nat.lt_of_lt_of_le hid hq.next, hq.none hid hnone, fun id' row' hrow' had => ?_⟩
    obtain ⟨old, hold, hadOld, -⟩ := hq.back hrow' had
    exact hbelow id' old hold hadOld
  apart := h.apart

-- ------------------------------------------------------------
-- Moves of one call
-- ------------------------------------------------------------

theorem setPc_rows {s : Ledger} {c : Nat} {call : Call} (hc : s.calls.rows c = some call) (pc : Pc)
    {d : Nat} {other : Call} :
    (s.setPc c pc).calls.rows d = some other ↔
      (d = c ∧ other = { call with pc := pc }) ∨ (d ≠ c ∧ s.calls.rows d = some other) := by
  by_cases hd : d = c
  · subst hd
    simp [Ledger.setPc, hc, eq_comm]
  · simp [Ledger.setPc, hd]

structure Unclaimed (s : Ledger) (targetId : String) (id : Nat) : Prop where
  lt_next : id < s.queue.next
  rows : s.queue.rows id = none
  above : ∀ id' row', s.queue.rows id' = some row' → isAdCommandOf targetId row' = true → id' < id
  calls : ∀ d other row, s.calls.rows d = some other → other.pc.row? ≠ some (id, row)

/-- What a call may do to itself: take a free target, set out to create once the
history of the target has ended, insert under an unclaimed id, and keep or drop
the row that it has inserted. -/
structure Moves (s : Ledger) (call : Call) (pc : Pc) : Prop where
  locks : pc.locksTarget = true →
    call.pc.locksTarget = true ∨ s.targetLocked call.cmd.targetId = false
  creates : pc.creates = true → call.pc.creates = true ∨
    ∀ id row, s.queue.rows id = some row → isAdCommandOf call.cmd.targetId row = true →
      isActive row = false
  row : ∀ id row, pc.row? = some (id, row) →
    call.pc.row? = some (id, row) ∨ Unclaimed s call.cmd.targetId id
  placed : pc.Placed call.cmd.targetId

theorem Inv.moves {s : Ledger} (h : Inv s) {c : Nat} {call : Call} (hc : s.calls.rows c = some call)
    {pc : Pc} (hpc : Moves s call pc) : Inv (s.setPc c pc) where
  newest := h.newest
  placed := by
    intro d other hd
    obtain ⟨-, rfl⟩ | ⟨-, hd⟩ := (setPc_rows hc pc).mp hd
    · exact hpc.placed
    · exact h.placed d other hd
  alone := by
    -- a call that takes the lock found it free, so no other call has it
    have hsole : ∀ d other, d ≠ c → s.calls.rows d = some other → pc.locksTarget = true →
        other.pc.locksTarget = true → other.cmd.targetId ≠ call.cmd.targetId := by
      intro d other hne hd hlock hother htarget
      cases hpc.locks hlock with
      | inl hlock' => exact hne (h.alone d c other call hd hc hother hlock' htarget)
      | inr hfree =>
        have hlocked := targetLocked_iff.mpr ⟨d, other, hd, hother, htarget⟩
        rw [hfree] at hlocked
        cases hlocked
    intro d e a b hd he hlockA hlockB htarget
    obtain ⟨rfl, rfl⟩ | ⟨hne, hd'⟩ := (setPc_rows hc pc).mp hd <;>
      obtain ⟨rfl, rfl⟩ | ⟨hne', he'⟩ := (setPc_rows hc pc).mp he
    · rfl
    · exact absurd htarget.symm (hsole e b hne' he' hlockA hlockB)
    · exact absurd htarget (hsole d a hne hd' hlockB hlockA)
    · exact h.alone d e a b hd' he' hlockA hlockB htarget
  quiet := by
    intro d other hd hcreates
    obtain ⟨-, rfl⟩ | ⟨-, hd⟩ := (setPc_rows hc pc).mp hd
    · cases hpc.creates hcreates with
      | inl hcreates' => exact h.quiet c call hc hcreates'
      | inr hended => exact hended
    · exact h.quiet d other hd hcreates
  pending := by
    intro d other id row hd hrow
    obtain ⟨-, rfl⟩ | ⟨-, hd⟩ := (setPc_rows hc pc).mp hd
    · cases hpc.row id row hrow with
      | inl hrow' => exact h.pending c call id row hc hrow'
      | inr hfree => exact ⟨hfree.lt_next, hfree.rows, hfree.above⟩
    · exact h.pending d other id row hd hrow
  apart := by
    have hsole : ∀ d other id row row', d ≠ c → s.calls.rows d = some other →
        pc.row? = some (id, row) → other.pc.row? ≠ some (id, row') := by
      intro d other id row row' hne hd hrow hother
      cases hpc.row id row hrow with
      | inl hrow' => exact hne (h.apart d c other call id row' row hd hc hother hrow')
      | inr hfree => exact hfree.calls d other row' hd hother
    intro d e a b id row row' hd he hrowA hrowB
    obtain ⟨rfl, rfl⟩ | ⟨hne, hd'⟩ := (setPc_rows hc pc).mp hd <;>
      obtain ⟨rfl, rfl⟩ | ⟨hne', he'⟩ := (setPc_rows hc pc).mp he
    · rfl
    · exact absurd hrowB (hsole e b id row row' hne' he' hrowA)
    · exact absurd hrowA (hsole d a id row' row hne hd' hrowB)
    · exact h.apart d e a b id row row' hd' he' hrowA hrowB

theorem Moves.refl {s : Ledger} (h : Inv s) {c : Nat} {call : Call}
    (hc : s.calls.rows c = some call) : Moves s call call.pc :=
  ⟨.inl, .inl, fun _ _ => .inl, h.placed c call hc⟩

theorem Moves.of_idle {s : Ledger} {call : Call} {pc : Pc}
    (hlocks : pc.locksTarget = true →
      call.pc.locksTarget = true ∨ s.targetLocked call.cmd.targetId = false)
    (hcreates : pc.creates = false) (hrow : pc.row? = none)
    (hplaced : pc.Placed call.cmd.targetId) :
    Moves s call pc where
  locks := hlocks
  creates := fun h => by rw [hcreates] at h; cases h
  row := fun _ _ h => by rw [hrow] at h; cases h
  placed := hplaced

theorem Moves.of_final {s : Ledger} {call : Call} {pc : Pc} (h : pc.isOpen = false) :
    Moves s call pc := by
  obtain ⟨hlocks, hcreates, hrow⟩ := Pc.of_final h
  refine .of_idle (fun h => by rw [hlocks] at h; cases h) hcreates hrow ?_
  cases pc <;> trivial

theorem atKeyed_moves (s : Ledger) (call : Call) : Moves s call (s.atKeyed call.cmd) := by
  unfold Ledger.atKeyed
  split
  · exact .of_idle (fun h => by cases h) rfl rfl trivial
  · split
    · exact .of_final rfl
    · split
      · exact .of_idle (fun h => by cases h) rfl rfl trivial
      · exact .of_idle (fun h => by cases h) rfl rfl fun _ _ h => by cases h

theorem atUnbound_moves (s : Ledger) (call : Call) : Moves s call (s.atUnbound call.cmd) := by
  unfold Ledger.atUnbound
  split
  · exact .of_final rfl
  · exact .of_idle (fun h => by cases h) rfl rfl trivial

theorem atResolved_moves (s : Ledger) (call : Call) (source : Option Bound) :
    Moves s call (s.atResolved call.cmd source) := by
  unfold Ledger.atResolved
  split
  · exact .of_idle (fun h => by cases h) rfl rfl trivial
  · rename_i hfree
    exact .of_idle (fun _ => .inr (Bool.not_eq_true _ ▸ hfree)) rfl rfl trivial

/-- Without a standing barrier no command of the target is live: a live one
would be the latest. -/
theorem Inv.ended {s : Ledger} (h : Inv s) {cmd : Command}
    (hbarrier : standingBarrier cmd (s.latest cmd.targetId) = none) :
    ∀ id row, s.queue.rows id = some row → isAdCommandOf cmd.targetId row = true →
      isActive row = false := by
  intro id row hrow had
  cases hlatest : s.latestTask cmd.targetId with
  | none =>
    rw [latestTask_none hlatest id row hrow] at had
    cases had
  | some entry =>
    obtain ⟨top, topRow⟩ := entry
    obtain ⟨htop, hadTop, hgreatest⟩ := latestTask_spec hlatest
    simp only [Ledger.latest, hlatest, Option.map_some] at hbarrier
    have hended := standingBarrier_none hbarrier
    cases hactive : isActive row with
    | false => rfl
    | true =>
      have hle := h.newest _ id row top topRow hrow had hactive htop hadTop
      have heq : id = top := Nat.le_antisymm (hgreatest id row hrow had) hle
      subst heq
      rw [htop] at hrow
      cases hrow
      rw [hended] at hactive
      cases hactive

theorem barrierWork_placed (barrier : Latest) (bound : Option (String × Binding))
    (receipt : CommandReceipt) (targetId : String) :
    (Pc.returning receipt { barrierWork barrier with bound := bound }).Placed targetId :=
  fun _ _ h => by cases h

theorem atTargeted_moves {s : Ledger} (h : Inv s) (call : Call) (source : Option Bound)
    (hpc : call.pc = .targeted source) : Moves s call (s.atTargeted call.cmd source) := by
  have hlocks : call.pc.locksTarget = true := by rw [hpc]; rfl
  simp only [Ledger.atTargeted]
  split
  · rename_i hbarrier
    exact ⟨fun _ => .inl hlocks, fun _ => .inr (h.ended hbarrier),
      (fun _ _ h => by cases h), trivial⟩
  · split
    · exact .of_final rfl
    · split
      · exact .of_idle (fun _ => .inl hlocks) rfl rfl (barrierWork_placed _ none _ _)
      · exact .of_idle (fun _ => .inl hlocks) rfl rfl trivial

theorem atReusing_moves (s : Ledger) (call : Call) (barrier : Latest)
    (hpc : call.pc = .reusing barrier) : Moves s call (s.atReusing call.cmd barrier) := by
  have hlocks : call.pc.locksTarget = true := by rw [hpc]; rfl
  unfold Ledger.atReusing
  split
  · exact .of_idle (fun _ => .inl hlocks) rfl rfl trivial
  · split
    · exact .of_final rfl
    · exact .of_idle (fun _ => .inl hlocks) rfl rfl (barrierWork_placed _ _ _ _)

theorem atCleared_moves (s : Ledger) (host : Host) (clk : Clock) (call : Call)
    (source : Option Bound) (latest : Option Latest) (hpc : call.pc = .cleared source latest) :
    Moves s call (s.atCleared host clk call.cmd source latest) := by
  unfold Ledger.atCleared
  split
  · exact .of_final rfl
  · rename_i payload hchecked
    obtain ⟨accountId, ad, rfl⟩ := checkTarget_ok hchecked
    exact ⟨fun _ => .inl (by rw [hpc]; rfl), fun _ => .inl (by rw [hpc]; rfl),
      (fun _ _ h => by cases h), fun clk => ⟨mutationPayload_isAdCommand _ _ _ _ _ _ _, rfl⟩⟩

theorem atInserted_moves {s : Ledger} (call : Call) (id : Nat) (row : TaskRow)
    (hpc : call.pc = .inserted id row) (hplaced : call.pc.Placed call.cmd.targetId) :
    Moves s call (s.atInserted call.cmd id row) := by
  have hlocks : call.pc.locksTarget = true := by rw [hpc]; rfl
  have hcreates : call.pc.creates = true := by rw [hpc]; rfl
  have hrow : call.pc.row? = some (id, row) := by rw [hpc]; rfl
  unfold Ledger.atInserted
  split
  · exact ⟨fun _ => .inl hlocks, fun _ => .inl hcreates, fun _ _ h => .inl (hrow.trans h),
      hpc ▸ hplaced⟩
  · split
    · exact .of_final rfl
    · refine ⟨fun _ => .inl hlocks, fun _ => .inl hcreates, fun _ _ h => .inl (hrow.trans h), ?_⟩
      rintro _ _ ⟨⟩
      exact ⟨rfl, (hplaced.row hrow).2⟩

theorem next_moves {s : Ledger} (h : Inv s) (host : Host) (clk : Clock) {c : Nat} {call : Call}
    (hc : s.calls.rows c = some call) : Moves s call (s.next host clk call) := by
  have hplaced := h.placed c call hc
  unfold Ledger.next
  split <;> rename_i hpc
  · exact atKeyed_moves s call
  · exact atUnbound_moves s call
  · exact atResolved_moves s call _
  · exact atTargeted_moves h call _ hpc
  · exact atReusing_moves s call _ hpc
  · exact atCleared_moves s host clk call _ _ hpc
  · exact atInserted_moves call _ _ hpc hplaced
  · exact .refl h hc

theorem isAdCommandOf_unique {row : TaskRow} {targetId other : String}
    (h : isAdCommandOf targetId row = true) (h' : isAdCommandOf other row = true) :
    targetId = other := by
  simp only [isAdCommandOf, Bool.and_eq_true, beq_iff_eq] at h h'
  exact Option.some.inj (h.2.symm.trans h'.2)

/-- A call that creates is the only one that creates for its target. -/
theorem Inv.creates_alone {s : Ledger} (h : Inv s) {c d : Nat} {a b : Call}
    (hc : s.calls.rows c = some a) (hd : s.calls.rows d = some b) (ha : a.pc.creates = true)
    (hb : b.pc.creates = true) (htarget : a.cmd.targetId = b.cmd.targetId) : c = d :=
  h.alone c d a b hc hd ((h.placed c a hc).locks ha) ((h.placed d b hd).locks hb) htarget

/-- The commit of a new task: it is the latest of its target and the only live one. -/
theorem Inv.fills {s : Ledger} (h : Inv s) {c : Nat} {call : Call} (hc : s.calls.rows c = some call)
    {id : Nat} {row : TaskRow} (hrow : call.pc.row? = some (id, row)) {pc : Pc}
    (hfinal : pc.isOpen = false) : Inv ({ s with queue := s.queue.fill id row }.setPc c pc) := by
  obtain ⟨hid, hnone, habove⟩ := h.pending c call id row hc hrow
  obtain ⟨hcreates, had, -⟩ := (h.placed c call hc).row hrow
  have hclosed := h.moves hc (@Moves.of_final s call pc hfinal)
  have hrows : ∀ i r, (s.queue.fill id row).rows i = some r →
      (i = id ∧ r = row) ∨ (i ≠ id ∧ s.queue.rows i = some r) := by
    intro i r hi
    rw [Table.fill_rows] at hi
    split at hi
    · rename_i heq
      exact .inl ⟨heq.1, (Option.some.inj hi).symm⟩
    · rename_i hne
      exact .inr ⟨fun heq => hne ⟨heq, hid⟩, hi⟩
  -- another call that creates is about another target
  have helse : ∀ d other, (s.setPc c pc).calls.rows d = some other → other.pc.creates = true →
      isAdCommandOf other.cmd.targetId row ≠ true := by
    intro d other hd hother hsame
    obtain ⟨-, rfl⟩ | ⟨hne, hd⟩ := (setPc_rows hc pc).mp hd
    · rw [(Pc.of_final hfinal).2.1] at hother
      cases hother
    · exact hne (h.creates_alone hd hc hother hcreates (isAdCommandOf_unique hsame had))
  refine ⟨?_, hclosed.placed, hclosed.alone, ?_, ?_, hclosed.apart⟩
  · intro targetId i r j r' hi hadI hactive hj hadJ
    obtain ⟨rfl, rfl⟩ | ⟨-, hi'⟩ := hrows i r hi <;> obtain ⟨rfl, rfl⟩ | ⟨-, hj'⟩ := hrows j r' hj
    · exact Nat.le_refl _
    · rw [isAdCommandOf_unique hadI had] at hadJ
      exact Nat.le_of_lt (habove j r' hj' hadJ)
    · rw [isAdCommandOf_unique hadJ had] at hadI
      rw [h.quiet c call hc hcreates i r hi' hadI] at hactive
      cases hactive
    · exact h.newest targetId i r j r' hi' hadI hactive hj' hadJ
  · intro d other hd hother i r hi hadI
    obtain ⟨rfl, rfl⟩ | ⟨-, hi⟩ := hrows i r hi
    · exact absurd hadI (helse d other hd hother)
    · exact hclosed.quiet d other hd hother i r hi hadI
  · intro d other id' row' hd hrow'
    obtain ⟨hid', hnone', habove'⟩ := hclosed.pending d other id' row' hd hrow'
    have hother := ((hclosed.placed d other hd).row hrow').1
    refine ⟨hid', ?_, fun i r hi hadI => ?_⟩
    · obtain ⟨-, rfl⟩ | ⟨hne, hd⟩ := (setPc_rows hc pc).mp hd
      · rw [(Pc.of_final hfinal).2.2] at hrow'
        cases hrow'
      · have hapart : id' ≠ id := fun heq => hne (h.apart d c other call id' row' row hd hc hrow'
          (heq ▸ hrow))
        show (s.queue.fill id row).rows id' = none
        rw [Table.fill_rows, if_neg fun heq => hapart heq.1]
        exact hnone'
    · obtain ⟨rfl, rfl⟩ | ⟨-, hi⟩ := hrows i r hi
      · exact absurd hadI (helse d other hd hother)
      · exact habove' i r hi hadI

-- ------------------------------------------------------------
-- Every step keeps the invariant
-- ------------------------------------------------------------

theorem Inv.frame {s : Ledger} (h : Inv s) (receipts : String → Option Binding)
    (catalog : String → Option CatalogRow) :
    Inv { s with receipts := receipts, catalog := catalog } :=
  ⟨h.newest, h.placed, h.alone, h.quiet, h.pending, h.apart⟩

theorem Inv.begins {s : Ledger} (h : Inv s) (prepared : Except CommandError Command) :
    Inv (s.begin prepared) := by
  unfold Ledger.begin
  split
  · exact h
  · rename_i cmd
    split
    · exact h
    · -- the new call holds nothing, so every fact about two calls is about old ones
      have hrows : ∀ d other, (s.calls.insert { cmd := cmd, pc := .keyed }).rows d = some other →
          other.pc = .keyed ∨ s.calls.rows d = some other := by
        intro d other hd
        rw [Table.insert_rows] at hd
        split at hd
        · cases hd
          exact .inl rfl
        · exact .inr hd
      refine ⟨h.newest, fun d other hd => ?_, fun d e a b hd he hlockA hlockB => ?_,
        fun d other hd hcreates => ?_, fun d other id row hd hrow => ?_,
        fun d e a b id row row' hd he hrowA hrowB => ?_⟩
      · obtain hpc | hd := hrows d other hd
        · rw [hpc]
          trivial
        · exact h.placed d other hd
      · obtain hpc | hd := hrows d a hd
        · rw [hpc] at hlockA
          cases hlockA
        · obtain hpc | he := hrows e b he
          · rw [hpc] at hlockB
            cases hlockB
          · exact h.alone d e a b hd he hlockA hlockB
      · obtain hpc | hd := hrows d other hd
        · rw [hpc] at hcreates
          cases hcreates
        · exact h.quiet d other hd hcreates
      · obtain hpc | hd := hrows d other hd
        · rw [hpc] at hrow
          cases hrow
        · exact h.pending d other id row hd hrow
      · obtain hpc | hd := hrows d a hd
        · rw [hpc] at hrowA
          cases hrowA
        · obtain hpc | he := hrows e b he
          · rw [hpc] at hrowB
            cases hrowB
          · exact h.apart d e a b id row row' hd he hrowA hrowB

theorem Inv.inserts {s : Ledger} (h : Inv s) {c : Nat} {call : Call}
    (hc : s.calls.rows c = some call) {task : NewTask} (hpc : call.pc = .admitted task)
    (clk : Clock) : Inv (s.insertTask c task clk) := by
  unfold Ledger.insertTask
  split
  · exact h
  · split
    · exact h.moves hc (.of_final rfl)
    · refine (h.evolves (evolves_reserve s.queue)).moves hc ⟨fun _ => .inl (by rw [hpc]; rfl),
        fun _ => .inl (by rw [hpc]; rfl), ?_, ?_⟩
      · rintro _ _ ⟨⟩
        refine .inr ⟨Nat.lt_succ_self _, s.queue.unused _ (Nat.le_refl _),
          fun id' row' hrow' _ => Table.lt_next_of_rows hrow', fun d other row hd hrow => ?_⟩
        have := (h.pending d other _ row hd hrow).1
        omega
      · have hplaced := h.placed c call hc
        rw [hpc] at hplaced
        exact hplaced clk

theorem Inv.commits {s : Ledger} (h : Inv s) {c : Nat} {call : Call}
    (hc : s.calls.rows c = some call) {receipt : CommandReceipt} {work : Work}
    (hpc : call.pc = .returning receipt work) (clk : Clock) :
    Inv ((s.publish call.cmd clk work).setPc c (.committed receipt)) := by
  have hstored : Inv ((s.store work).setPc c (.committed receipt)) := by
    cases hrow : work.inserted with
    | none =>
      have hclosed := h.moves hc (@Moves.of_final s call (.committed receipt) rfl)
      simp only [Ledger.store, hrow]
      exact hclosed.frame _ _
    | some entry =>
      obtain ⟨id, row⟩ := entry
      have hfilled := @Inv.fills s h c call hc id row (by rw [hpc]; exact hrow)
        (.committed receipt) rfl
      simp only [Ledger.store, hrow]
      exact hfilled.frame _ _
  unfold Ledger.publish
  cases work.strengthened with
  | none => exact hstored
  | some id => exact hstored.evolves (evolves_strengthen _ id clk _ _)

theorem Inv.advances {s : Ledger} (h : Inv s) (host : Host) (c : Nat) (clk : Clock) :
    Inv (s.advance host c clk) := by
  unfold Ledger.advance
  split
  · exact h
  · rename_i call hc
    split
    · rename_i hpc
      exact h.inserts hc hpc clk
    · rename_i hpc
      exact h.commits hc hpc clk
    · exact h.moves hc (next_moves h host clk hc)

theorem step_inv (host : Host) (s : Ledger) (l : Label) (h : Inv s) : Inv (s.step host l) := by
  cases l with
  | enqueueAdAction args => exact h.begins _
  | enqueueVerifiedPauseCompensation args => exact h.begins _
  | advance c clk => exact h.advances host c clk
  | rollback c =>
    simp only [Ledger.step, Ledger.rollback]
    split
    · exact h
    · rename_i hc
      split
      · exact h.moves hc (.of_final rfl)
      · exact h
  | queue clk op =>
    simp only [Ledger.step]
    split
    · exact h
    · exact h.evolves (evolves_elsewhere _ clk op)
  | observe targetId row => exact h.frame _ _
  | bindCampaignRun key taskId resume runId =>
    simp only [Ledger.step, Ledger.bindCampaignRun]
    split
    · exact h
    · exact h.frame _ _

theorem run_inv (host : Host) (ls : List Label) :
    Inv (reached host ls) :=
  run_preserves (step_inv host) inv_init ls

/-- In every state that calls of the service and transitions of the tasks can
reach, in any order, at most one pause or activate task of an ad is live, and it
is the one with the greatest id. -/
theorem one_live_command (host : Host) (ls : List Label) (targetId : String) (id : Nat)
    (row : TaskRow) (hrow : (reached host ls).queue.rows id = some row)
    (had : isAdCommandOf targetId row = true) (hlive : isActive row = true) :
    ∀ id' row', (reached host ls).queue.rows id' = some row' →
      isAdCommandOf targetId row' = true → id' ≤ id ∧ (isActive row' = true → id' = id) := by
  intro id' row' hrow' had'
  have hinv := run_inv host ls
  have hle := hinv.newest targetId id row id' row' hrow had hlive hrow' had'
  refine ⟨hle, fun hlive' => Nat.le_antisymm hle ?_⟩
  exact hinv.newest targetId id' row' id row hrow' had' hlive' hrow had

-- A concrete run: an automatic pause is rejected, and the next scan creates the
-- second generation under the same incident.

def sampleHost : Host where
  sha256 := fun message =>
    if message = autostopRetryMessage "auto:pause_ad:238:7" 0 then
      "a4fa98c1caf8bdb5324611fa3903466d54c133fc90930dcae5b73449cf95def6"
    else ""
  zoneExists := fun name => name == "UTC"
  isoformat := fun _ => "1970-01-01T00:00:00+00:00"

def sampleAd : CatalogRow :=
  { adAccountId := "900"
    deliveryStatus := some "ACTIVE"
    cabinetTimezone := some "UTC"
    currency := some "USD"
    currencyObservedAt := some 0 }

/-- The request the observer makes on every scan of the incident `token`. -/
def autoStop (fbAdId token : String) : AdAction :=
  { actionKind := .pauseAd
    fbAdId := fbAdId
    requestedBy := autoStopRequestedBy
    idempotencyKey := "auto:pause_ad:" ++ fbAdId ++ ":" ++ token
    maxAttempts := 15 }

def statements (c : Nat) (clk : Clock) : List Label :=
  List.replicate 8 (.advance c clk)

theorem moneyClaim_foreign : createsAdCommand (.claim moneyWorker true []) = false := rfl

def rejectedRun : List Label :=
  .observe "238" (some sampleAd) :: .enqueueAdAction (autoStop "238" "7") ::
    statements 0 (tick 0) ++
    ([.queue (tick 1) ⟨.claim moneyWorker true [], moneyClaim_foreign⟩,
      .queue (tick 2) ⟨.onRow 0 (.markFailed ⟨some 1, some 1⟩ "rejected"
        (some [("outcome", .str "REJECTED")])), rfl⟩] : List Label)

def secondGenerationRun : List Label :=
  rejectedRun ++ .enqueueAdAction (autoStop "238" "7") :: statements 1 (tick 60)

theorem secondGenerationRun_live :
    ∃ row, (reached sampleHost secondGenerationRun).queue.rows 1 = some row ∧
      isActive row = true ∧
      ∀ id' row', (reached sampleHost secondGenerationRun).queue.rows id' =
        some row' → isAdCommandOf "238" row' = true →
          id' ≤ 1 ∧ (isActive row' = true → id' = 1) := by
  have hrun : ((reached sampleHost secondGenerationRun).queue.rows 1).any
      (fun row => isAdCommandOf "238" row && isActive row) = true := by
    decide +kernel
  obtain ⟨row, hrow, hlive⟩ := (Option.any_eq_true _ _).mp hrun
  simp only [Bool.and_eq_true] at hlive
  exact ⟨row, hrow, hlive.2, one_live_command sampleHost _ "238" 1 row hrow hlive.1 hlive.2⟩

end StopBot.Commands
