import StopBot.Commands.Keys

/-!
# What an automatic stop gets back

The observer asks for a pause on every scan of an incident, under one key. The
call is followed here from a state that any run has reached to its commit, with
no other call in between: a new key, and a key whose task was proven rejected,
get a live task; every other bound key gets the receipt it is bound to.
-/

namespace StopBot.Commands

open Lib Tasks Worker
open Rules (validatedCurrencyCode)

variable {host : Host} {s s' : Ledger} {c : Nat} {cmd : Command}

-- ------------------------------------------------------------
-- One call alone
-- ------------------------------------------------------------

def Ledger.enqueue (s : Ledger) (host : Host) (args : AdAction) (clk : Nat → Clock) (n : Nat) :
    Ledger :=
  run (Ledger.step host) s
    (.enqueueAdAction args :: (List.range n).map fun i => .advance s.calls.next (clk i))

theorem enqueue_succ (args : AdAction) (clk : Nat → Clock) (n : Nat) :
    s.enqueue host args clk (n + 1) =
      (s.enqueue host args clk n).advance host s.calls.next (clk n) := by
  simp only [Ledger.enqueue, run_cons, List.range_succ, List.map_append, run_append]
  rfl

/-- The state `s` with one more call under way, and nothing else changed. -/
structure During (s : Ledger) (c : Nat) (call : Call) (s' : Ledger) : Prop where
  queue : s'.queue = s.queue
  receipts : s'.receipts = s.receipts
  catalog : s'.catalog = s.catalog
  calls : ∀ d, s'.calls.rows d = if d = c then some call else s.calls.rows d

theorem During.self {call : Call} (h : During s c call s') : s'.calls.rows c = some call := by
  rw [h.calls, if_pos rfl]

theorem During.begin {args : AdAction} (hcmd : enqueueAdAction args = .ok cmd)
    (hfree : s.keyLocked cmd.commandKey = false) (clk : Nat → Clock) :
    During s s.calls.next ⟨cmd, .keyed⟩ (s.enqueue host args clk 0) := by
  have hbegin : s.enqueue host args clk 0 =
      { s with calls := s.calls.insert { cmd := cmd, pc := .keyed } } := by
    simp [Ledger.enqueue, Ledger.step, Ledger.begin, hcmd, hfree]
  rw [hbegin]
  exact ⟨rfl, rfl, rfl, fun d => Table.insert_rows _ _ d⟩

theorem During.setPc {pc pc' : Pc} (h : During s c ⟨cmd, pc⟩ s') :
    During s c ⟨cmd, pc'⟩ (s'.setPc c pc') where
  queue := h.queue
  receipts := h.receipts
  catalog := h.catalog
  calls := by
    intro d
    by_cases hd : d = c
    · subst hd
      simp [Ledger.setPc, h.self]
    · simp [Ledger.setPc, h.calls, hd]

theorem During.next {pc pc' : Pc} {clk : Clock} (h : During s c ⟨cmd, pc⟩ s')
    (hpc : s'.next host clk ⟨cmd, pc⟩ = pc') (hinsert : ∀ task, pc ≠ .admitted task)
    (hcommit : ∀ receipt work, pc ≠ .returning receipt work) :
    During s c ⟨cmd, pc'⟩ (s'.advance host c clk) := by
  have hadvance : s'.advance host c clk = s'.setPc c pc' := by
    unfold Ledger.advance
    rw [h.self]
    split
    · rename_i hnone
      cases hnone
    · rename_i call hcall
      cases hcall
      split
      · rename_i task htask
        exact absurd htask (hinsert task)
      · rename_i receipt work hreturn
        exact absurd hreturn (hcommit receipt work)
      · rw [hpc]
  rw [hadvance]
  exact h.setPc

theorem During.any_false {call : Call} {p : Call → Bool} (h : During s c call s')
    (hs : (s.calls.entries.any fun entry => p entry.2) = false) (hcall : p call = false) :
    (s'.calls.entries.any fun entry => p entry.2) = false := by
  rw [← Bool.not_eq_true, Table.entries_any] at hs ⊢
  rintro ⟨d, other, hd, hp⟩
  rw [h.calls] at hd
  split at hd
  · cases hd
    rw [hcall] at hp
    cases hp
  · exact hs ⟨d, other, hd, hp⟩

theorem During.targetLocked {call : Call} {targetId : String} (h : During s c call s')
    (hs : s.targetLocked targetId = false) (hcall : call.pc.locksTarget = false) :
    s'.targetLocked targetId = false :=
  h.any_false (p := fun call : Call => call.pc.locksTarget && call.cmd.targetId == targetId) hs
    (by simp [hcall])

theorem During.rowPending {call : Call} {key : String} (h : During s c call s')
    (hs : s.rowPending key = false) (hcall : call.pc.row? = none) : s'.rowPending key = false :=
  h.any_false (p := fun call : Call =>
    call.pc.row?.any fun row : Nat × TaskRow => row.2.idempotencyKey == key) hs (by simp [hcall])

theorem During.receiptPending {call : Call} {key : String} (h : During s c call s')
    (hs : s.receiptPending key = false) (hcall : call.pc.receipt? = none) :
    s'.receiptPending key = false :=
  h.any_false (p := fun call : Call =>
    call.pc.receipt?.any fun receipt : String × Binding => receipt.1 == key) hs (by simp [hcall])

theorem During.getBoundCommand {call : Call} (h : During s c call s') (key : String) :
    s'.getBoundCommand key = s.getBoundCommand key := by
  simp only [Ledger.getBoundCommand, h.receipts, h.queue]

theorem During.latest {call : Call} (h : During s c call s') (targetId : String) :
    s'.latest targetId = s.latest targetId := by
  simp only [Ledger.latest, Ledger.latestTask, h.queue, h.catalog]

-- ------------------------------------------------------------
-- From a cleared target to a live task
-- ------------------------------------------------------------

structure Unused (s : Ledger) (key : String) : Prop where
  queue : keyTaken s.queue key = false
  row : s.rowPending key = false
  receipts : s.receipts key = none
  receipt : s.receiptPending key = false

theorem During.inserts {task : NewTask} {clk : Clock} (h : During s c ⟨cmd, .admitted task⟩ s')
    (hkey : Unused s task.idempotencyKey) :
    During { s with queue := s.queue.reserve } c ⟨cmd, .inserted s.queue.next (task.row clk)⟩
      (s'.advance host c clk) := by
  have hrow : s'.rowPending task.idempotencyKey = false :=
    h.rowPending hkey.row rfl
  have htaken : keyTaken s'.queue task.idempotencyKey = false := by
    rw [h.queue]
    exact hkey.queue
  have hadvance : s'.advance host c clk = { s' with queue := s'.queue.reserve }.setPc c
      (.inserted s'.queue.next (task.row clk)) := by
    unfold Ledger.advance
    rw [h.self]
    simp [Ledger.insertTask, hrow, htaken]
  rw [hadvance, h.queue]
  have hreserved : During { s with queue := s.queue.reserve } c ⟨cmd, .admitted task⟩
      { s' with queue := s.queue.reserve } := ⟨rfl, h.receipts, h.catalog, h.calls⟩
  exact hreserved.setPc

/-- The receipt and the writes of a call that created the task `id`. -/
def createdReceipt (id : Nat) (row : TaskRow) : CommandReceipt :=
  { taskId := id, created := true, state := .queued, correlationId := row.correlationId }

def createdWork (cmd : Command) (id : Nat) (row : TaskRow) : Work :=
  { targetLocked := true
    inserted := some (id, row)
    bound := some (row.idempotencyKey,
      { taskId := id, actionKind := .ad cmd.actionKind, targetId := cmd.targetId }) }

theorem atInserted_of_unused {id : Nat} {row : TaskRow}
    (hpending : s.receiptPending row.idempotencyKey = false)
    (hnone : s.receipts row.idempotencyKey = none) :
    s.atInserted cmd id row = .returning (createdReceipt id row) (createdWork cmd id row) := by
  simp [Ledger.atInserted, hpending, Ledger.bindCommandKey, hnone, createdReceipt, createdWork]

theorem During.commits {receipt : CommandReceipt} {work : Work} {clk : Clock}
    (h : During s c ⟨cmd, .returning receipt work⟩ s') :
    (s'.advance host c clk).calls.rows c = some ⟨cmd, .committed receipt⟩ ∧
      (s'.advance host c clk).queue = (s.publish cmd clk work).queue := by
  have hadvance : s'.advance host c clk =
      (s'.publish cmd clk work).setPc c (.committed receipt) := by
    unfold Ledger.advance
    rw [h.self]
  have hcalls : (s'.publish cmd clk work).calls = s'.calls := by
    unfold Ledger.publish
    cases work.strengthened <;> rfl
  rw [hadvance]
  refine ⟨by simp [Ledger.setPc, hcalls, h.self], ?_⟩
  show (s'.publish cmd clk work).queue = (s.publish cmd clk work).queue
  unfold Ledger.publish
  cases work.strengthened <;> simp only [Ledger.store, h.queue]

/-- A call that found no barrier, and whose ad is admitted, creates a live task. -/
theorem During.creates {source : Option Bound} {latest : Option Latest} {st : Nat → Ledger}
    {clk : Nat → Clock} {m : Nat} {payload : Obj}
    (hst : ∀ n, st (n + 1) = (st n).advance host c (clk n))
    (h : During s c ⟨cmd, .cleared source latest⟩ (st m))
    (hchecked : checkTarget host (clk m).host cmd (s.catalog cmd.targetId) = .ok payload)
    (hkey : Unused s (taskIdentity host cmd source latest).1) :
    ∃ receipt, (st (m + 4)).calls.rows c = some ⟨cmd, .committed receipt⟩ ∧
      ((st (m + 4)).queue.rows receipt.taskId).any isActive = true := by
  let task := createMutationTask cmd payload (taskIdentity host cmd source latest).1
    (taskIdentity host cmd source latest).2
  let row := task.row (clk (m + 1))
  have hadmitted : During s c ⟨cmd, .admitted task⟩ (st (m + 1)) := by
    rw [hst]
    refine h.next ?_ (by simp) (by simp)
    simp only [Ledger.next, Ledger.atCleared, h.catalog, hchecked]
    rfl
  have hinserted : During { s with queue := s.queue.reserve } c
      ⟨cmd, .inserted s.queue.next row⟩ (st (m + 2)) := by
    rw [hst]
    exact hadmitted.inserts hkey
  have hreturning : During { s with queue := s.queue.reserve } c
      ⟨cmd, .returning (createdReceipt s.queue.next row) (createdWork cmd s.queue.next row)⟩
      (st (m + 3)) := by
    rw [hst]
    refine hinserted.next ?_ (by simp) (by simp)
    refine atInserted_of_unused (hinserted.receiptPending hkey.receipt rfl) ?_
    rw [hinserted.receipts]
    exact hkey.receipts
  obtain ⟨hcommitted, hqueue⟩ := @During.commits host _ _ c cmd _ _ (clk (m + 3)) hreturning
  refine ⟨createdReceipt s.queue.next row, ?_, ?_⟩
  · rw [hst]
    exact hcommitted
  · rw [hst, hqueue]
    have hstored : (s.queue.reserve.fill s.queue.next row).rows s.queue.next = some row :=
      if_pos ⟨rfl, Nat.lt_succ_self _⟩
    show ((s.queue.reserve.fill s.queue.next row).rows s.queue.next).any isActive = true
    rw [hstored]
    rfl

-- ------------------------------------------------------------
-- Keys that a call finds unused
-- ------------------------------------------------------------

theorem keyLocked_iff {key : String} :
    s.keyLocked key = true ↔ ∃ c call, s.calls.rows c = some call ∧ call.pc.isOpen = true ∧
      call.cmd.commandKey = key := by
  have h := @Table.entries_any _ s.calls fun call : Call =>
    call.pc.isOpen && call.cmd.commandKey == key
  simpa [Ledger.keyLocked] using h

theorem rowPending_iff {taskKey : String} :
    s.rowPending taskKey = true ↔ ∃ c call id row, s.calls.rows c = some call ∧
      call.pc.row? = some (id, row) ∧ row.idempotencyKey = taskKey := by
  have h := @Table.entries_any _ s.calls fun call : Call =>
    call.pc.row?.any fun row : Nat × TaskRow => row.2.idempotencyKey == taskKey
  simpa [Ledger.rowPending, Option.any_eq_true] using h

theorem receiptPending_iff {boundKey : String} :
    s.receiptPending boundKey = true ↔ ∃ c call binding, s.calls.rows c = some call ∧
      call.pc.receipt? = some (boundKey, binding) := by
  have h := @Table.entries_any _ s.calls fun call : Call =>
    call.pc.receipt?.any fun receipt : String × Binding => receipt.1 == boundKey
  simpa [Ledger.receiptPending, Option.any_eq_true] using h

section
variable {key targetId : String}

theorem Book.rowPending (h : Book host key targetId s) {taskKey : String}
    (hpending : s.rowPending taskKey = true) :
    ∃ c call id row, s.calls.rows c = some call ∧ call.pc.isOpen = true ∧
      NewRow host s call.cmd id row ∧ row.idempotencyKey = taskKey := by
  obtain ⟨c, call, id, row, hc, hrow, hkey⟩ := rowPending_iff.mp hpending
  have hknows := (h.calls c call hc).1
  refine ⟨c, call, id, row, hc, ?_, ?_, hkey⟩
  · cases hopen : call.pc.isOpen with
    | true => rfl
    | false =>
      rw [(Pc.of_final hopen).2.2] at hrow
      cases hrow
  · cases hpc : call.pc with
    | inserted id' row' =>
      rw [hpc] at hknows hrow
      cases hrow
      exact hknows
    | returning receipt work =>
      rw [hpc] at hknows hrow
      exact (hknows.row id row hrow).1
    | _ =>
      rw [hpc] at hrow
      cases hrow

theorem Book.receiptPending (h : Book host key targetId s) {boundKey : String}
    (hpending : s.receiptPending boundKey = true) :
    s.keyLocked boundKey = true ∨ s.rowPending boundKey = true := by
  obtain ⟨c, call, binding, hc, hreceipt⟩ := receiptPending_iff.mp hpending
  have hknows := (h.calls c call hc).1
  cases hpc : call.pc with
  | returning receipt work =>
    rw [hpc] at hknows hreceipt
    obtain ⟨-, -, hnew | ⟨hown, -⟩⟩ := hknows.receipt boundKey binding hreceipt
    · obtain ⟨row, hinserted, hrow⟩ := hnew
      exact .inr (rowPending_iff.mpr ⟨c, call, _, row, hc, by rw [hpc]; exact hinserted, hrow.symm⟩)
    · refine .inl (keyLocked_iff.mpr ⟨c, call, hc, ?_, hown.symm⟩)
      rw [hpc]
      rfl
  | _ =>
    rw [hpc] at hreceipt
    cases hreceipt

theorem Book.unused_own (h : Book host key targetId s) (hkey : ¬ Derived key)
    (hlock : s.keyLocked key = false) (hnone : s.receipts key = none) : Unused s key := by
  have hrow : s.rowPending key = false := by
    rw [← Bool.not_eq_true]
    intro hpending
    obtain ⟨c, call, id, row, hc, hopen, hnew, hown⟩ := h.rowPending hpending
    have hcommand := hnew.origin.own_of_plain (hown.symm ▸ hkey)
    have hlocked := keyLocked_iff.mpr ⟨c, call, hc, hopen, hcommand.symm.trans hown⟩
    rw [hlock] at hlocked
    cases hlocked
  refine ⟨?_, hrow, hnone, ?_⟩
  · rw [← Bool.not_eq_true, keyTaken_iff]
    rintro ⟨id, row, hstored, hown⟩
    have hok := h.rows id row hstored
    have hsome := hok.ledgered targetId (hok.own hown)
    rw [hown, hnone] at hsome
    cases hsome
  · rw [← Bool.not_eq_true]
    intro hpending
    cases h.receiptPending hpending with
    | inl hlocked => rw [hlock] at hlocked; cases hlocked
    | inr hpending => rw [hrow] at hpending; cases hpending

theorem autostopRetryMessage_inj {k k' : String} {m n : Nat}
    (h : autostopRetryMessage k m = autostopRetryMessage k' n) : k = k' ∧ m = n := by
  have hsep : ("\x00" : String).toList = ['\x00'] := by simp
  have hlist : ("fb-agent:auto-pause-retry:v1\x00".toList ++ k.toList) ++
        '\x00' :: (toString m).toList =
      ("fb-agent:auto-pause-retry:v1\x00".toList ++ k'.toList) ++
        '\x00' :: (toString n).toList := by
    have hlist := congrArg String.toList h
    unfold autostopRetryMessage at hlist
    simpa only [String.toList_append, hsep, List.append_assoc, List.cons_append, List.nil_append]
      using hlist
  have hm : '\x00' ∉ (toString m).toList := PyText.notMem_toString_nat (by decide) m
  have hn : '\x00' ∉ (toString n).toList := PyText.notMem_toString_nat (by decide) n
  obtain ⟨hkey, hnum⟩ := PyText.append_last_inj hm hn hlist
  exact ⟨String.toList_inj.mp (List.append_cancel_left hkey), PyText.toString_nat_inj hnum⟩

/-- The key of the next generation, when the digest of its message has no other
preimage: a task under it would be newer than the latest task of the target. -/
theorem Book.unused_retry (h : Book host key targetId s) (hkey : ¬ Derived key)
    (hlock : s.keyLocked key = false) {binding : Binding} (hbinding : s.receipts key = some binding)
    {latest : Latest} (hlatest : s.latest targetId = some latest)
    (hhash : ∀ message, host.sha256 message = host.sha256 (autostopRetryMessage key latest.id) →
      message = autostopRetryMessage key latest.id) :
    Unused s (autostopRetryIdempotencyKey host key latest.id) := by
  have hderived : Derived (autostopRetryIdempotencyKey host key latest.id) := ⟨_, rfl⟩
  have hinj : ∀ k m, autostopRetryIdempotencyKey host key latest.id =
      autostopRetryIdempotencyKey host k m → k = key ∧ m = latest.id := by
    intro k m heq
    have hdigest : host.sha256 (autostopRetryMessage k m) =
        host.sha256 (autostopRetryMessage key latest.id) :=
      (String.append_right_inj _).mp heq.symm
    exact autostopRetryMessage_inj (hhash _ hdigest)
  have hstored : ∀ id row, s.queue.rows id = some row →
      row.idempotencyKey ≠ autostopRetryIdempotencyKey host key latest.id := by
    intro id row hrow heq
    obtain ⟨k, m, other, hretry, hm, hother, had⟩ := (h.rows id row hrow).derived (heq ▸ hderived)
    obtain ⟨rfl, rfl⟩ := hinj k m (heq.symm.trans hretry)
    rw [hbinding] at hother
    cases hother
    rw [((h.receipts _ _ hbinding).own rfl).2] at had
    have hle := (latest_spec hlatest).2.2 id row hrow had
    omega
  have hrow : s.rowPending (autostopRetryIdempotencyKey host key latest.id) = false := by
    rw [← Bool.not_eq_true]
    intro hpending
    obtain ⟨c, call, id, row, hc, hopen, hnew, heq⟩ := h.rowPending hpending
    obtain ⟨m, other, hretry, -⟩ :=
      hnew.origin.retry_of_derived (h.calls c call hc).2.plain (heq ▸ hderived)
    have hlocked := keyLocked_iff.mpr ⟨c, call, hc, hopen, (hinj _ m (heq.symm.trans hretry)).1⟩
    rw [hlock] at hlocked
    cases hlocked
  refine ⟨?_, hrow, ?_, ?_⟩
  · rw [← Bool.not_eq_true, keyTaken_iff]
    rintro ⟨id, row, hid, heq⟩
    exact hstored id row hid heq
  · cases hreceipt : s.receipts (autostopRetryIdempotencyKey host key latest.id) with
    | none => rfl
    | some other =>
      obtain ⟨row, hid, heq⟩ := (h.receipts _ _ hreceipt).derived hderived
      exact absurd heq (hstored _ row hid)
  · rw [← Bool.not_eq_true]
    intro hpending
    cases h.receiptPending hpending with
    | inr hpending => rw [hrow] at hpending; cases hpending
    | inl hlocked =>
      -- no command that is under way has a derived key
      obtain ⟨c, call, hc, -, heq⟩ := keyLocked_iff.mp hlocked
      exact (h.calls c call hc).2.plain (heq ▸ hderived)

end

-- ------------------------------------------------------------
-- The receipt of an automatic stop
-- ------------------------------------------------------------

/-- Nothing blocks a pause of the ad: no barrier stands, and through the whole
call the ad is delivering, its account is known and its currency is confirmed. -/
structure Pausable (s : Ledger) (targetId : String) (clk : Nat → Clock) : Prop where
  barrier : targetBarrier (s.latest targetId) = none
  admitted : ∃ ad, s.catalog targetId = some ad ∧
    (actionSourceStatuses .pauseAd).contains (normalizeDeliveryStatus ad.deliveryStatus) = true ∧
    (requireAdAccountId (.str ad.adAccountId)).isOk = true ∧
    validatedCurrencyCode ad.currency = some "USD" ∧
    ∀ i, currencyEvidenceIsFresh ad.currencyObservedAt (clk i).host = true

/-- A pause by the automatic stop, without a confirmation or a proof. -/
structure Command.IsAutoStop (cmd : Command) : Prop where
  kind : cmd.actionKind = .pauseAd
  requestedBy : cmd.requestedBy = autoStopRequestedBy
  expected : cmd.expected = none
  proof : cmd.proof = none

theorem Pausable.checked {clk : Nat → Clock} (h : Pausable s cmd.targetId clk)
    (hcmd : cmd.IsAutoStop) (i : Nat) : ∃ payload, checkTarget host (clk i).host cmd
    (s.catalog cmd.targetId) = .ok payload := by
  obtain ⟨ad, hcatalog, hdelivery, hidentity, hcurrency, hfresh⟩ := h.admitted
  obtain ⟨accountId, haccount⟩ : ∃ accountId, requireAdAccountId (.str ad.adAccountId) =
      .ok accountId := by
    cases haccount : requireAdAccountId (.str ad.adAccountId) with
    | ok accountId => exact ⟨accountId, rfl⟩
    | error e =>
      rw [haccount] at hidentity
      cases hidentity
  refine ⟨mutationPayload host cmd accountId ad, ?_⟩
  have hguard : requireActionableDelivery .pauseAd ad.deliveryStatus =
      .ok (normalizeDeliveryStatus ad.deliveryStatus) := by
    simp only [requireActionableDelivery, hdelivery, if_true]
  simp [checkTarget, hcatalog, hcmd.expected, hcmd.proof, hcmd.kind, hguard, haccount, hcurrency,
    hfresh i, bind, Except.bind, pure, Except.pure]

section
variable {key targetId : String}

theorem Book.means (h : Book host key targetId s) (htarget : targetId ≠ "") {bound : Bound}
    (hbound : s.getBoundCommand key = some bound) :
    Exact .pauseAd targetId bound.row ∧ bound.means .pauseAd targetId = true := by
  obtain ⟨hbinding, hrow⟩ := getBoundCommand_spec hbound
  have hok := h.receipts _ _ hbinding
  obtain ⟨haction, hsame⟩ := hok.own rfl
  obtain ⟨row, hrow', hexact⟩ := hok.bound _ haction
  simp only at haction hsame hrow' hexact
  rw [hrow] at hrow'
  cases hrow'
  rw [hsame] at hexact
  refine ⟨hexact, ?_⟩
  simp [Bound.means, haction, hsame, hexact.taskType, hexact.kind, textOrEmpty, hexact.target,
    Json.truthy, Json.asStr?, pyStr, htarget]

theorem Book.unbound (h : Book host key targetId s) (hnone : s.getBoundCommand key = none) :
    s.receipts key = none := by
  cases hbinding : s.receipts key with
  | none => rfl
  | some binding =>
    have hok := h.receipts _ _ hbinding
    obtain ⟨row, hrow, -⟩ := hok.bound _ (hok.own rfl).1
    simp [Ledger.getBoundCommand, hbinding, hrow] at hnone

end

theorem During.clears {source : Option Bound} {st : Nat → Ledger} {clk : Nat → Clock} {m : Nat}
    (hst : ∀ n, st (n + 1) = (st n).advance host c (clk n))
    (h : During s c ⟨cmd, .resolved source⟩ (st m)) (hfree : s.targetLocked cmd.targetId = false)
    (hbarrier : targetBarrier (s.latest cmd.targetId) = none) :
    During s c ⟨cmd, .cleared source (s.latest cmd.targetId)⟩ (st (m + 2)) := by
  have htargeted : During s c ⟨cmd, .targeted source⟩ (st (m + 1)) := by
    rw [hst]
    refine h.next ?_ (by simp) (by simp)
    simp [Ledger.next, Ledger.atResolved, h.targetLocked hfree rfl]
  rw [hst]
  refine htargeted.next ?_ (by simp) (by simp)
  simp [Ledger.next, Ledger.atTargeted, htargeted.latest, standingBarrier, hbarrier]

theorem During.resolves {st : Nat → Ledger} {clk : Nat → Clock}
    (hst : ∀ n, st (n + 1) = (st n).advance host c (clk n))
    (h : During s c ⟨cmd, .keyed⟩ (st 0)) {bound : Bound}
    (hbound : s.getBoundCommand cmd.commandKey = some bound)
    (hmeans : bound.means cmd.actionKind cmd.targetId = true) :
    During s c ⟨cmd, if isRejectedAutostopRetrySource bound.row cmd.actionKind cmd.requestedBy then
        .resolved (some bound)
      else .returning
        { taskId := bound.id, created := false, state := commandState bound.row
          correlationId := bound.row.correlationId }
        { targetLocked := false, strengthened := some bound.id }⟩ (st 1) := by
  rw [hst]
  refine h.next ?_ (by simp) (by simp)
  simp [Ledger.next, Ledger.atKeyed, h.getBoundCommand, hbound, receiptForSemantics, hmeans]

section
variable {args : AdAction} {clk : Nat → Clock}

theorem new_key_creates (hargs : enqueueAdAction args = .ok cmd) (hcmd : cmd.IsAutoStop)
    (hlock : s.keyLocked cmd.commandKey = false) (hfree : s.targetLocked cmd.targetId = false)
    (hpausable : Pausable s cmd.targetId clk) (hnone : s.getBoundCommand cmd.commandKey = none)
    (hunused : Unused s cmd.commandKey) :
    ∃ n receipt,
      (s.enqueue host args clk n).calls.rows s.calls.next = some ⟨cmd, .committed receipt⟩ ∧
        ((s.enqueue host args clk n).queue.rows receipt.taskId).any isActive = true := by
  have hst := fun n => @enqueue_succ host s args clk n
  have hkeyed : During s s.calls.next ⟨cmd, .keyed⟩ (s.enqueue host args clk 0) :=
    .begin hargs hlock clk
  have hunbound : During s s.calls.next ⟨cmd, .unbound⟩ (s.enqueue host args clk 1) := by
    rw [hst]
    refine hkeyed.next ?_ (by simp) (by simp)
    simp [Ledger.next, Ledger.atKeyed, hkeyed.getBoundCommand, hnone]
  have hresolved : During s s.calls.next ⟨cmd, .resolved none⟩ (s.enqueue host args clk 2) := by
    rw [hst]
    refine hunbound.next ?_ (by simp) (by simp)
    simp [Ledger.next, Ledger.atUnbound, hunbound.queue, hunused.queue]
  obtain ⟨payload, hchecked⟩ := @Pausable.checked host s cmd clk hpausable hcmd 4
  have hcleared : During s s.calls.next ⟨cmd, .cleared none (s.latest cmd.targetId)⟩
      (s.enqueue host args clk 4) := hresolved.clears hst hfree hpausable.barrier
  exact ⟨_, hcleared.creates hst hchecked hunused⟩

theorem rejected_key_creates (hargs : enqueueAdAction args = .ok cmd) (hcmd : cmd.IsAutoStop)
    (hlock : s.keyLocked cmd.commandKey = false) (hfree : s.targetLocked cmd.targetId = false)
    (hpausable : Pausable s cmd.targetId clk) {bound : Bound}
    (hbound : s.getBoundCommand cmd.commandKey = some bound)
    (hmeans : bound.means cmd.actionKind cmd.targetId = true)
    (hrejected : isRejectedAutostopRetrySource bound.row cmd.actionKind cmd.requestedBy = true)
    {latest : Latest} (hlatest : s.latest cmd.targetId = some latest)
    (hunused : Unused s (autostopRetryIdempotencyKey host cmd.commandKey latest.id)) :
    ∃ n receipt,
      (s.enqueue host args clk n).calls.rows s.calls.next = some ⟨cmd, .committed receipt⟩ ∧
        ((s.enqueue host args clk n).queue.rows receipt.taskId).any isActive = true := by
  have hst := fun n => @enqueue_succ host s args clk n
  have hread := (During.begin hargs hlock clk).resolves hst hbound hmeans
  rw [hrejected] at hread
  have hcleared : During s s.calls.next ⟨cmd, .cleared (some bound) (s.latest cmd.targetId)⟩
      (s.enqueue host args clk 3) := During.clears hst hread hfree hpausable.barrier
  rw [hlatest] at hcleared
  obtain ⟨payload, hchecked⟩ := @Pausable.checked host s cmd clk hpausable hcmd 3
  exact ⟨_, hcleared.creates hst hchecked hunused⟩

/-- A task that has ended is not strengthened, and its receipt comes back. -/
theorem bound_key_replays (hargs : enqueueAdAction args = .ok cmd)
    (hlock : s.keyLocked cmd.commandKey = false) {bound : Bound}
    (hbound : s.getBoundCommand cmd.commandKey = some bound)
    (hmeans : bound.means cmd.actionKind cmd.targetId = true)
    (hrejected : isRejectedAutostopRetrySource bound.row cmd.actionKind cmd.requestedBy = false)
    (hended : isActive bound.row = false) :
    (s.enqueue host args clk 2).calls.rows s.calls.next = some ⟨cmd, .committed
        { taskId := bound.id, created := false, state := commandState bound.row
          correlationId := bound.row.correlationId }⟩ ∧
      ((s.enqueue host args clk 2).queue.rows bound.id).any isActive = false := by
  have hst := fun n => @enqueue_succ host s args clk n
  have hread := (During.begin hargs hlock clk).resolves hst hbound hmeans
  rw [hrejected] at hread
  obtain ⟨hcommitted, hqueue⟩ := @During.commits host _ _ _ cmd _ _ (clk 1) hread
  rw [hst 1, hqueue]
  refine ⟨hcommitted, ?_⟩
  have hterminal : bound.row.status.terminal = true := by simpa [isActive] using hended
  simp [Ledger.publish, Ledger.store, (getBoundCommand_spec hbound).2, strengthenActiveTask,
    Tasks.update, hterminal, hended]

end

/-- In every state that is reached while the callers keep to their keys, an
automatic stop of an ad that nothing blocks returns a receipt. Its task is live
if and only if the key is new or the task it is bound to was proven rejected;
otherwise the receipt that the key is bound to is returned once more. -/
theorem auto_stop_receipt {host : Host} {ls : List Label} {args : AdAction} {cmd : Command}
    {clk : Nat → Clock} (hargs : enqueueAdAction args = .ok cmd) (hcmd : cmd.IsAutoStop)
    (hkey : ¬ Derived cmd.commandKey) (hls : ∀ l ∈ ls, l.Respects cmd.commandKey cmd.targetId)
    (hlock : (reached host ls).keyLocked cmd.commandKey = false)
    (hfree : (reached host ls).targetLocked cmd.targetId = false)
    (hpausable : Pausable (reached host ls) cmd.targetId clk)
    (hhash : ∀ latest, (reached host ls).latest cmd.targetId = some latest → ∀ message,
      host.sha256 message = host.sha256 (autostopRetryMessage cmd.commandKey latest.id) →
        message = autostopRetryMessage cmd.commandKey latest.id) :
    ∃ n receipt,
      ((reached host ls).enqueue host args clk n).calls.rows (reached host ls).calls.next =
        some ⟨cmd, .committed receipt⟩ ∧
      ((((reached host ls).enqueue host args clk n).queue.rows receipt.taskId).any isActive = true ↔
        ∀ bound, (reached host ls).getBoundCommand cmd.commandKey = some bound →
          isRejectedAutostopRetrySource bound.row .pauseAd autoStopRequestedBy = true) ∧
      ∀ bound, (reached host ls).getBoundCommand cmd.commandKey = some bound →
        isRejectedAutostopRetrySource bound.row .pauseAd autoStopRequestedBy = false →
          receipt = { taskId := bound.id, created := false, state := commandState bound.row
                      correlationId := bound.row.correlationId } := by
  have hinv : Inv (reached host ls) := run_inv host ls
  have hbook : Book host cmd.commandKey cmd.targetId (reached host ls) := run_book hkey ls hls
  generalize reached host ls = s at *
  have hended := @Inv.ended s hinv cmd (by simp [standingBarrier, hpausable.barrier])
  cases hbound : s.getBoundCommand cmd.commandKey with
  | none =>
    have hunused := hbook.unused_own hkey hlock (hbook.unbound hbound)
    obtain ⟨n, receipt, hcommitted, hlive⟩ :=
      @new_key_creates host s cmd args clk hargs hcmd hlock hfree hpausable hbound hunused
    exact ⟨n, receipt, hcommitted, by simp [hlive], by simp⟩
  | some bound =>
    obtain ⟨hexact, hmeans⟩ := hbook.means cmd.target_ne hbound
    obtain ⟨hbinding, hrow⟩ := getBoundCommand_spec hbound
    simp only [Option.some.injEq, forall_eq']
    rw [← hcmd.kind] at hmeans ⊢
    rw [← hcmd.requestedBy]
    cases hrejected : isRejectedAutostopRetrySource bound.row cmd.actionKind cmd.requestedBy with
    | true =>
      -- the bound task is a command of the target, so the target has a latest one
      cases hlatest : s.latest cmd.targetId with
      | none =>
        have hnone : s.latestTask cmd.targetId = none := by simpa [Ledger.latest] using hlatest
        have hforeign := latestTask_none hnone _ _ hrow
        rw [hexact.isAdCommand] at hforeign
        cases hforeign
      | some latest =>
        have hunused := hbook.unused_retry hkey hlock hbinding hlatest (hhash latest hlatest)
        obtain ⟨n, receipt, hcommitted, hlive⟩ :=
          @rejected_key_creates host s cmd args clk hargs hcmd
          hlock hfree hpausable bound hbound hmeans hrejected latest hlatest hunused
        exact ⟨n, receipt, hcommitted, by simp [hlive], by simp⟩
    | false =>
      have hreplayed := @bound_key_replays host s cmd args clk hargs hlock bound hbound hmeans
        hrejected (hended _ _ hrow hexact.isAdCommand)
      exact ⟨2, _, hreplayed.1, by simp [hreplayed.2], by simp⟩

-- Two concrete incidents. The pause of the first was rejected and is asked for
-- again; that of the second ended unknown, and the operator who looked at the ad
-- recorded that it is still active.

def autoStopCommand : Command :=
  { actionKind := .pauseAd
    targetId := "238"
    commandKey := "auto:pause_ad:238:7"
    requestedBy := autoStopRequestedBy
    correlationId := 0
    maxAttempts := 15
    params := []
    createdByChatId := none
    expected := none
    proof := none
    target_ne := by decide
    key_length := by decide
    attempts_pos := by decide }

theorem autoStop_command : enqueueAdAction (autoStop "238" "7") = .ok autoStopCommand := by
  rfl

theorem autoStopCommand_plain : ¬ Derived autoStopCommand.commandKey := by
  rintro ⟨digest, h⟩
  have hlist := congrArg (fun key : String => key.toList.take 15) h
  simp [autoStopCommand] at hlist

theorem rejectedRun_respects : ∀ l ∈ rejectedRun, l.Respects "auto:pause_ad:238:7" "238" := by
  intro l hl
  simp only [rejectedRun, statements, List.cons_append, List.mem_cons, List.mem_append,
    List.mem_replicate, List.not_mem_nil, or_false] at hl
  obtain rfl | rfl | ⟨-, rfl⟩ | rfl | rfl := hl
  · trivial
  · intro cmd hcmd
    rw [autoStop_command] at hcmd
    cases hcmd
    exact ⟨autoStopCommand_plain, fun _ => ⟨rfl, rfl⟩⟩
  · trivial
  · intro key hkey
    cases hkey
  · intro key hkey
    cases hkey

theorem sampleHost_digest (message : String)
    (h : sampleHost.sha256 message =
      sampleHost.sha256 (autostopRetryMessage "auto:pause_ad:238:7" 0)) :
    message = autostopRetryMessage "auto:pause_ad:238:7" 0 := by
  by_cases heq : message = autostopRetryMessage "auto:pause_ad:238:7" 0
  · exact heq
  · simp [sampleHost, heq] at h

theorem rejectedRun_next_generation :
    ∃ n receipt, ((reached sampleHost rejectedRun).enqueue sampleHost (autoStop "238" "7")
        (fun _ => tick 60) n).calls.rows (reached sampleHost rejectedRun).calls.next =
          some ⟨autoStopCommand, .committed receipt⟩ ∧
      (((reached sampleHost rejectedRun).enqueue sampleHost (autoStop "238" "7")
        (fun _ => tick 60) n).queue.rows receipt.taskId).any isActive = true := by
  have hfirst : ∀ latest, (reached sampleHost rejectedRun).latest "238" = some latest →
      latest.id = 0 := by
    have hall : ((reached sampleHost rejectedRun).latest "238").all (·.id == 0) = true := by
      decide +kernel
    intro latest hsome
    rw [hsome] at hall
    simpa using hall
  have hbarrier : (targetBarrier ((reached sampleHost rejectedRun).latest "238")).isNone =
      true := by
    decide +kernel
  have hrejected : ∀ bound,
      (reached sampleHost rejectedRun).getBoundCommand "auto:pause_ad:238:7" = some bound →
        isRejectedAutostopRetrySource bound.row .pauseAd autoStopRequestedBy = true := by
    have hall : ((reached sampleHost rejectedRun).getBoundCommand "auto:pause_ad:238:7").all
        (fun bound => isRejectedAutostopRetrySource bound.row .pauseAd autoStopRequestedBy) =
          true := by
      decide +kernel
    intro bound hsome
    rw [hsome] at hall
    exact hall
  have hcatalog : (reached sampleHost rejectedRun).catalog "238" = some sampleAd := by
    decide +kernel
  have hpausable : Pausable (reached sampleHost rejectedRun) "238" fun _ => tick 60 :=
    ⟨Option.isNone_iff_eq_none.mp hbarrier, sampleAd, hcatalog, by decide, by decide +kernel,
      by decide +kernel, fun _ => by decide⟩
  obtain ⟨n, receipt, hcommitted, hlive, -⟩ := @auto_stop_receipt sampleHost rejectedRun
    (autoStop "238" "7") autoStopCommand (fun _ => tick 60) autoStop_command ⟨rfl, rfl, rfl, rfl⟩
    autoStopCommand_plain rejectedRun_respects (by decide +kernel) (by decide +kernel) hpausable
    (fun latest hsome message hdigest => by
      have hid : latest.id = 0 := hfirst latest hsome
      rw [hid] at hdigest ⊢
      exact sampleHost_digest message hdigest)
  exact ⟨n, receipt, hcommitted, hlive.mpr hrejected⟩

def reviewedRun : List Label :=
  .observe "238" (some sampleAd) :: .enqueueAdAction (autoStop "238" "7") ::
    statements 0 (tick 0) ++
    ([.queue (tick 1) ⟨.claim moneyWorker true [], moneyClaim_foreign⟩,
      .queue (tick 2) ⟨.onRow 0 (.markFailed ⟨some 1, some 1⟩ "outcome unknown"
        (some [("outcome", .str "UNKNOWN"), ("reconcile_required", .bool false)])), rfl⟩,
      .queue (tick 3) ⟨.onRow 0 (.recordManualReconciliation "active" "operator:web"), rfl⟩] :
        List Label)

theorem reviewed_auto_stop_replayed :
    (targetBarrier ((reached sampleHost reviewedRun).latest "238")).isNone = true ∧
    ((reached sampleHost reviewedRun).latest "238").any (fun latest =>
      latest.row.status.terminal) = true ∧
    ((reached sampleHost reviewedRun).catalog "238").any (fun ad =>
      normalizeDeliveryStatus ad.deliveryStatus == "ACTIVE" &&
        (requireAdAccountId (.str ad.adAccountId)).isOk &&
        validatedCurrencyCode ad.currency == some "USD" &&
        currencyEvidenceIsFresh ad.currencyObservedAt (tick 60).host) = true ∧
    (((reached sampleHost reviewedRun).enqueue sampleHost (autoStop "238" "7")
        (fun _ => tick 60) 2).calls.rows 1).any (fun call =>
      match call.pc with
      | .committed receipt => receipt == ⟨0, false, .unknown, 0⟩
      | _ => false) = true ∧
    (((reached sampleHost reviewedRun).enqueue sampleHost (autoStop "238" "7")
        (fun _ => tick 60) 2).queue.rows 0).any isActive = false := by
  decide +kernel

end StopBot.Commands
