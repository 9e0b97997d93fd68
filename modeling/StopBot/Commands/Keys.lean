import StopBot.Commands.Barrier

/-!
# What a key stands for

A key is bound once and its receipt never changes. Every pause or activate task
has a receipt under its own key, and a receipt names a task of its action and
its target. The key of a later generation is derived from the key of the
incident and from the task before it, so a row under a derived key is newer than
the task that the key was derived from.

These facts depend on who uses which keys. The observer, Telegram, the operators
and the worker each have a namespace of their own; none of them asks for a
derived key, and the key of an incident is used for the ad of that incident.
-/

namespace StopBot.Commands

open Lib Tasks Worker

/-- A key of the namespace that `_autostop_retry_idempotency_key` writes. -/
def Derived (key : String) : Prop := ∃ digest, key = "auto:pause_ad:retry:" ++ digest

structure Exact (kind : AdActionKind) (targetId : String) (row : TaskRow) : Prop where
  taskType : row.taskType = .metaApiMutation
  kind : row.payload.get? "mutation_kind" = some (.str kind.text)
  target : row.payload.get? "target_id" = some (.str targetId)

variable {host : Host} {key targetId : String} {s s' : Ledger}

theorem Exact.isAdCommand {kind : AdActionKind} {row : TaskRow} (h : Exact kind targetId row) :
    isAdCommandOf targetId row = true := by
  have hkind := h.kind
  cases kind <;>
    simp [isAdCommandOf, TaskRow.mutationKind, TaskRow.targetId, Obj.text, h.taskType, hkind,
      h.target, Json.text, AdActionKind.text]

theorem Exact.mutationKind {kind : AdActionKind} {row : TaskRow} (h : Exact kind targetId row) :
    row.mutationKind = some kind.text := by
  simp [TaskRow.mutationKind, Obj.text, h.kind, Json.text]

theorem Exact.step {kind : AdActionKind} {clk : Clock} {row row' : TaskRow}
    (h : Exact kind targetId row) (hstep : RowStep clk row row') : Exact kind targetId row' := by
  obtain ⟨htype, -, hpayload⟩ := hstep.identity
  have hsame : row'.payload = row.payload := hpayload (by rw [h.taskType]; decide)
  exact ⟨htype.trans h.taskType, hsame ▸ h.kind, hsame ▸ h.target⟩

theorem mutationPayload_exact (host : Host) (cmd : Command) (accountId : String)
    (target : CatalogRow) (taskKey : String) (correlationId : Uuid) (clk : Clock) :
    Exact cmd.actionKind cmd.targetId
      ((createMutationTask cmd (mutationPayload host cmd accountId target) taskKey
        correlationId).row clk) := by
  refine ⟨rfl, ?_, ?_⟩ <;> simp [createMutationTask, NewTask.row, mutationPayload]

theorem AdActionKind.text_injective {kind other : AdActionKind} (h : kind.text = other.text) :
    kind = other := by
  cases kind <;> cases other <;> first | rfl | simp [AdActionKind.text] at h

-- ------------------------------------------------------------
-- What is never taken back
-- ------------------------------------------------------------

structure Grows (s s' : Ledger) : Prop where
  rows : ∀ id row, s.queue.rows id = some row →
    ∃ clk row', s'.queue.rows id = some row' ∧ RowStep clk row row'
  receipts : ∀ key binding, s.receipts key = some binding → s'.receipts key = some binding
  next : s.queue.next ≤ s'.queue.next

def Ledger.Holds (s : Ledger) (id : Nat) (kind : AdActionKind) (targetId : String) : Prop :=
  ∃ row, s.queue.rows id = some row ∧ Exact kind targetId row

theorem Ledger.Holds.grows {id : Nat} {kind : AdActionKind} (h : s.Holds id kind targetId)
    (hs : Grows s s') : s'.Holds id kind targetId := by
  obtain ⟨row, hrow, hexact⟩ := h
  obtain ⟨clk, row', hrow', hstep⟩ := hs.rows id row hrow
  exact ⟨row', hrow', hexact.step hstep⟩

/-- Where the key of a call's task comes from: it is the call's own key, or it is
derived from it and from a task below `below`. -/
inductive Origin (host : Host) (s : Ledger) (cmd : Command) (below : Nat) : String → Prop
  | own : Origin host s cmd below cmd.commandKey
  | retry (m : Nat) (binding : Binding) (hm : m < below)
      (hbinding : s.receipts cmd.commandKey = some binding)
      (htarget : binding.targetId = cmd.targetId) :
      Origin host s cmd below (autostopRetryIdempotencyKey host cmd.commandKey m)

theorem Origin.grows {cmd : Command} {below below' : Nat} {taskKey : String}
    (h : Origin host s cmd below taskKey) (hs : Grows s s') (hbelow : below ≤ below') :
    Origin host s' cmd below' taskKey := by
  cases h with
  | own => exact .own
  | retry m binding hm hbinding htarget =>
    exact .retry m binding (Nat.lt_of_lt_of_le hm hbelow) (hs.receipts _ _ hbinding) htarget

def SourceOk (s : Ledger) (cmd : Command) (source : Option Bound) : Prop :=
  ∀ bound, source = some bound →
    ∃ binding, s.receipts cmd.commandKey = some binding ∧ binding.targetId = cmd.targetId ∧
      bound.id < s.queue.next

theorem SourceOk.grows {cmd : Command} {source : Option Bound} (h : SourceOk s cmd source)
    (hs : Grows s s') : SourceOk s' cmd source := by
  intro bound hbound
  obtain ⟨binding, hbinding, htarget, hid⟩ := h bound hbound
  exact ⟨binding, hs.receipts _ _ hbinding, htarget, Nat.lt_of_lt_of_le hid hs.next⟩

structure NewRow (host : Host) (s : Ledger) (cmd : Command) (id : Nat) (row : TaskRow) : Prop where
  exact : Exact cmd.actionKind cmd.targetId row
  origin : Origin host s cmd id row.idempotencyKey

/-- What a call is about to commit: a new task comes with its receipt, and a
receipt without a new task is under the call's own key. -/
structure WorkOk (host : Host) (s : Ledger) (cmd : Command) (work : Work) : Prop where
  row : ∀ id row, work.inserted = some (id, row) → NewRow host s cmd id row ∧
    ((∃ binding, work.bound = some (row.idempotencyKey, binding) ∧ binding.taskId = id) ∨
      work.bound = none ∧ (s.receipts row.idempotencyKey).isSome = true)
  receipt : ∀ taskKey binding, work.bound = some (taskKey, binding) →
    binding.actionKind = .ad cmd.actionKind ∧ binding.targetId = cmd.targetId ∧
      ((∃ row, work.inserted = some (binding.taskId, row) ∧ taskKey = row.idempotencyKey) ∨
        taskKey = cmd.commandKey ∧ s.Holds binding.taskId cmd.actionKind cmd.targetId)

def Pc.Knows (host : Host) (s : Ledger) (cmd : Command) : Pc → Prop
  | .resolved source | .targeted source => SourceOk s cmd source
  | .reusing barrier => s.Holds barrier.id cmd.actionKind cmd.targetId
  | .cleared source latest =>
    SourceOk s cmd source ∧ ∀ top, latest = some top → top.id < s.queue.next
  | .admitted task =>
    (∀ clk, Exact cmd.actionKind cmd.targetId (task.row clk)) ∧
      Origin host s cmd s.queue.next task.idempotencyKey
  | .inserted id row => NewRow host s cmd id row
  | .returning _ work => WorkOk host s cmd work
  | .keyed | .unbound | .committed _ | .raised _ | .rolledBack => True

theorem Pc.Knows.grows {cmd : Command} {pc : Pc} (h : pc.Knows host s cmd) (hs : Grows s s') :
    pc.Knows host s' cmd := by
  cases pc with
  | resolved source => exact SourceOk.grows h hs
  | targeted source => exact SourceOk.grows h hs
  | reusing barrier => exact Ledger.Holds.grows h hs
  | cleared source latest =>
    exact ⟨h.1.grows hs, fun top htop => Nat.lt_of_lt_of_le (h.2 top htop) hs.next⟩
  | admitted task => exact ⟨h.1, h.2.grows hs hs.next⟩
  | inserted id row => exact ⟨h.exact, h.origin.grows hs (Nat.le_refl _)⟩
  | returning receipt work =>
    refine ⟨fun id row hrow => ?_, fun taskKey binding hbound => ?_⟩
    · obtain ⟨hnew, hbound⟩ := h.row id row hrow
      refine ⟨⟨hnew.exact, hnew.origin.grows hs (Nat.le_refl _)⟩, hbound.imp_right ?_⟩
      rintro ⟨hnone, hsome⟩
      obtain ⟨binding, hbinding⟩ := Option.isSome_iff_exists.mp hsome
      exact ⟨hnone, by rw [hs.receipts _ _ hbinding]; rfl⟩
    · obtain ⟨haction, htarget, htask⟩ := h.receipt taskKey binding hbound
      exact ⟨haction, htarget, htask.imp_right fun ⟨hkey, hholds⟩ => ⟨hkey, hholds.grows hs⟩⟩
  | keyed | unbound | committed | raised | rolledBack => trivial

-- ------------------------------------------------------------
-- The books of an incident
-- ------------------------------------------------------------

/-- A stored row: a command has its receipt, a derived key was derived from an
older task of the same target, and the incident's key is on its own commands. -/
structure RowOk (host : Host) (key targetId : String) (s : Ledger) (id : Nat) (row : TaskRow) :
    Prop where
  exact : ∀ target, isAdCommandOf target row = true → ∃ kind, Exact kind target row
  ledgered : ∀ target, isAdCommandOf target row = true →
    (s.receipts row.idempotencyKey).isSome = true
  derived : Derived row.idempotencyKey → ∃ commandKey m binding,
    row.idempotencyKey = autostopRetryIdempotencyKey host commandKey m ∧ m < id ∧
      s.receipts commandKey = some binding ∧ isAdCommandOf binding.targetId row = true
  own : row.idempotencyKey = key → isAdCommandOf targetId row = true

theorem RowOk.grows {id : Nat} {clk : Clock} {row row' : TaskRow}
    (h : RowOk host key targetId s id row) (hs : Grows s s') (hstep : RowStep clk row row') :
    RowOk host key targetId s' id row' := by
  have hkey := hstep.identity.2.1
  have had := fun target => isAdCommandOf_step hstep target
  refine ⟨fun target htarget => ?_, fun target htarget => ?_, fun hderived => ?_, fun hown => ?_⟩
  · obtain ⟨kind, hexact⟩ := h.exact target (had target ▸ htarget)
    exact ⟨kind, hexact.step hstep⟩
  · have hsome := h.ledgered target (had target ▸ htarget)
    obtain ⟨binding, hbinding⟩ := Option.isSome_iff_exists.mp hsome
    rw [hkey, hs.receipts _ _ hbinding]
    rfl
  · rw [hkey] at hderived ⊢
    obtain ⟨commandKey, m, binding, hretry, hm, hbinding, htarget⟩ := h.derived hderived
    exact ⟨commandKey, m, binding, hretry, hm, hs.receipts _ _ hbinding, (had _).trans htarget⟩
  · exact (had _).trans (h.own (hkey ▸ hown))

/-- A receipt: it names a stored task of its command, a derived key is the key
of that task, and the incident's key is bound to a pause of the incident's ad. -/
structure ReceiptOk (key targetId : String) (s : Ledger) (boundKey : String) (binding : Binding) :
    Prop where
  bound : ∀ kind, binding.actionKind = .ad kind → s.Holds binding.taskId kind binding.targetId
  derived : Derived boundKey →
    ∃ row, s.queue.rows binding.taskId = some row ∧ row.idempotencyKey = boundKey
  own : boundKey = key → binding.actionKind = .ad .pauseAd ∧ binding.targetId = targetId

theorem ReceiptOk.grows {boundKey : String} {binding : Binding}
    (h : ReceiptOk key targetId s boundKey binding) (hs : Grows s s') :
    ReceiptOk key targetId s' boundKey binding := by
  refine ⟨fun kind haction => (h.bound kind haction).grows hs, fun hderived => ?_, h.own⟩
  obtain ⟨row, hrow, hkey⟩ := h.derived hderived
  obtain ⟨clk, row', hrow', hstep⟩ := hs.rows _ row hrow
  exact ⟨row', hrow', hstep.identity.2.1.trans hkey⟩

/-- A command uses no derived key, and uses the incident's key for its ad only. -/
structure Command.Respects (key targetId : String) (cmd : Command) : Prop where
  plain : ¬ Derived cmd.commandKey
  own : cmd.commandKey = key → cmd.actionKind = .pauseAd ∧ cmd.targetId = targetId

structure Book (host : Host) (key targetId : String) (s : Ledger) : Prop where
  calls : ∀ c call, s.calls.rows c = some call →
    call.pc.Knows host s call.cmd ∧ call.cmd.Respects key targetId
  rows : ∀ id row, s.queue.rows id = some row → RowOk host key targetId s id row
  receipts : ∀ boundKey binding, s.receipts boundKey = some binding →
    ReceiptOk key targetId s boundKey binding

theorem book_init : Book host key targetId Ledger.init where
  calls := fun _ _ h => by cases h
  rows := fun _ _ h => by cases h
  receipts := fun _ _ h => by cases h

theorem Grows.of_eq (hqueue : s'.queue = s.queue) (hreceipts : s'.receipts = s.receipts) :
    Grows s s' where
  rows := fun _ row hrow => ⟨⟨0, 0, 0⟩, row, hqueue ▸ hrow, .stay⟩
  receipts := fun _ _ h => hreceipts ▸ h
  next := hqueue ▸ Nat.le_refl _

theorem Book.extend (h : Book host key targetId s) (hs : Grows s s')
    (hcalls : ∀ c call, s'.calls.rows c = some call → s.calls.rows c = some call ∨
      call.pc.Knows host s' call.cmd ∧ call.cmd.Respects key targetId)
    (hrows : ∀ id row', s'.queue.rows id = some row' →
      (∃ row, s.queue.rows id = some row) ∨ RowOk host key targetId s' id row')
    (hreceipts : ∀ boundKey binding, s'.receipts boundKey = some binding →
      s.receipts boundKey = some binding ∨ ReceiptOk key targetId s' boundKey binding) :
    Book host key targetId s' where
  calls := by
    intro c call hc
    cases hcalls c call hc with
    | inl hold =>
      obtain ⟨hknows, hrespects⟩ := h.calls c call hold
      exact ⟨hknows.grows hs, hrespects⟩
    | inr hnew => exact hnew
  rows := by
    intro id row' hrow'
    cases hrows id row' hrow' with
    | inl hold =>
      obtain ⟨row, hrow⟩ := hold
      obtain ⟨clk, row'', hrow'', hstep⟩ := hs.rows id row hrow
      rw [hrow'] at hrow''
      cases hrow''
      exact (h.rows id row hrow).grows hs hstep
    | inr hnew => exact hnew
  receipts := by
    intro boundKey binding hbinding
    cases hreceipts boundKey binding hbinding with
    | inl hold => exact (h.receipts boundKey binding hold).grows hs
    | inr hnew => exact hnew

theorem Book.moves (h : Book host key targetId s) {c : Nat} {call : Call}
    (hc : s.calls.rows c = some call) {pc : Pc} (hpc : pc.Knows host s call.cmd) :
    Book host key targetId (s.setPc c pc) := by
  have hs : Grows s (s.setPc c pc) := .of_eq rfl rfl
  refine h.extend hs (fun d other hd => ?_) (fun _ row hrow => .inl ⟨row, hrow⟩)
    (fun _ _ hbinding => .inl hbinding)
  obtain ⟨-, rfl⟩ | ⟨-, hd⟩ := (setPc_rows hc pc).mp hd
  · exact .inr ⟨hpc.grows hs, (h.calls c call hc).2⟩
  · exact .inl hd

theorem Book.begins (h : Book host key targetId s) {prepared : Except CommandError Command}
    (hcmd : ∀ cmd, prepared = .ok cmd → cmd.Respects key targetId) :
    Book host key targetId (s.begin prepared) := by
  unfold Ledger.begin
  split
  · exact h
  · rename_i cmd
    split
    · exact h
    · refine h.extend (.of_eq rfl rfl) (fun d other hd => ?_) (fun _ row hrow => .inl ⟨row, hrow⟩)
        (fun _ _ hbinding => .inl hbinding)
      simp only [Table.insert_rows] at hd
      split at hd
      · cases hd
        exact .inr ⟨trivial, hcmd cmd rfl⟩
      · exact .inl hd

-- ------------------------------------------------------------
-- What a call learns
-- ------------------------------------------------------------

theorem getBoundCommand_spec {bound : Bound} (h : s.getBoundCommand key = some bound) :
    s.receipts key = some ⟨bound.id, bound.actionKind, bound.targetId⟩ ∧
      s.queue.rows bound.id = some bound.row := by
  simp only [Ledger.getBoundCommand, Option.bind_eq_some_iff, Option.map_eq_some_iff] at h
  obtain ⟨binding, hbinding, row, hrow, rfl⟩ := h
  exact ⟨hbinding, hrow⟩

theorem receiptForSemantics_ok {bound : Bound} {kind : AdActionKind} {receipt : CommandReceipt}
    (h : receiptForSemantics bound kind targetId = .ok receipt) :
    bound.means kind targetId = true ∧ receipt =
      { taskId := bound.id, created := false, state := commandState bound.row
        correlationId := bound.row.correlationId } := by
  unfold receiptForSemantics at h
  split at h
  · rename_i hmeans
    exact ⟨hmeans, (Except.ok.inj h).symm⟩
  · cases h

theorem bindCommandKey_ok {binding : Binding} {inserted : Option (String × Binding)}
    (h : s.bindCommandKey key binding = .ok inserted) :
    inserted = some (key, binding) ∨ inserted = none ∧ (s.receipts key).isSome = true := by
  unfold Ledger.bindCommandKey at h
  split at h
  · exact .inl (Except.ok.inj h).symm
  · rename_i hbound
    split at h
    · cases h
    · split at h
      · exact .inr ⟨(Except.ok.inj h).symm, by rw [hbound]; rfl⟩
      · cases h

theorem WorkOk.of_none {cmd : Command} {work : Work} (hrow : work.inserted = none)
    (hbound : work.bound = none) : WorkOk host s cmd work where
  row := fun _ _ h => by rw [hrow] at h; cases h
  receipt := fun _ _ h => by rw [hbound] at h; cases h

theorem atKeyed_knows (cmd : Command) : (s.atKeyed cmd).Knows host s cmd := by
  unfold Ledger.atKeyed
  split
  · trivial
  · rename_i bound hbound
    obtain ⟨hbinding, hrow⟩ := getBoundCommand_spec hbound
    split
    · trivial
    · rename_i receipt hreceipt
      have hmeans := (receiptForSemantics_ok hreceipt).1
      simp only [Bound.means, Bool.and_eq_true, beq_iff_eq] at hmeans
      split
      · rintro _ ⟨⟩
        exact ⟨_, hbinding, hmeans.2, Table.lt_next_of_rows hrow⟩
      · exact .of_none rfl rfl

theorem latest_spec {latest : Latest} (h : s.latest targetId = some latest) :
    s.queue.rows latest.id = some latest.row ∧ isAdCommandOf targetId latest.row = true ∧
      ∀ id' row', s.queue.rows id' = some row' → isAdCommandOf targetId row' = true →
        id' ≤ latest.id := by
  simp only [Ledger.latest, Option.map_eq_some_iff] at h
  obtain ⟨⟨id, row⟩, htask, rfl⟩ := h
  exact latestTask_spec htask

theorem standingBarrier_some {cmd : Command} {latest : Option Latest} {barrier : Latest}
    (h : standingBarrier cmd latest = some barrier) : latest = some barrier := by
  have hbarrier := (Option.filter_eq_some_iff.mp h).1
  cases latest with
  | none => cases hbarrier
  | some top =>
    simp only [targetBarrier] at hbarrier
    repeat' split at hbarrier
    all_goals first | exact hbarrier | cases hbarrier

theorem atTargeted_knows (h : Book host key targetId s) (cmd : Command) {source : Option Bound}
    (hsource : SourceOk s cmd source) : (s.atTargeted cmd source).Knows host s cmd := by
  simp only [Ledger.atTargeted]
  split
  · refine ⟨hsource, fun top htop => ?_⟩
    exact Table.lt_next_of_rows (latest_spec htop).1
  · rename_i barrier hbarrier
    obtain ⟨hrow, had, -⟩ := latest_spec (standingBarrier_some hbarrier)
    split
    · trivial
    · rename_i haction
      split
      · exact .of_none rfl rfl
      · obtain ⟨kind, hexact⟩ := (h.rows _ _ hrow).exact _ had
        rw [hexact.mutationKind] at haction
        have hkind : kind = cmd.actionKind :=
          AdActionKind.text_injective (Classical.not_not.mp haction)
        exact ⟨_, hrow, hkind ▸ hexact⟩

theorem atReusing_knows (cmd : Command) {barrier : Latest}
    (hbarrier : s.Holds barrier.id cmd.actionKind cmd.targetId) :
    (s.atReusing cmd barrier).Knows host s cmd := by
  unfold Ledger.atReusing
  split
  · exact hbarrier
  · split
    · trivial
    · rename_i inserted hbind
      refine ⟨(fun _ _ h => by cases h), fun taskKey binding hbound => ?_⟩
      obtain hsome | ⟨hnone, -⟩ := bindCommandKey_ok hbind
      · rw [hsome] at hbound
        cases hbound
        exact ⟨rfl, rfl, .inr ⟨rfl, hbarrier⟩⟩
      · rw [hnone] at hbound
        cases hbound

theorem atCleared_knows (cmd : Command) {source : Option Bound} {latest : Option Latest}
    (clk : Clock) (hsource : SourceOk s cmd source)
    (hlatest : ∀ top, latest = some top → top.id < s.queue.next) :
    (s.atCleared host clk cmd source latest).Knows host s cmd := by
  unfold Ledger.atCleared
  split
  · trivial
  · rename_i payload hchecked
    obtain ⟨accountId, ad, rfl⟩ := checkTarget_ok hchecked
    refine ⟨fun clk => mutationPayload_exact _ _ _ _ _ _ _, ?_⟩
    cases source with
    | none => exact .own
    | some bound =>
      obtain ⟨binding, hbinding, htarget, hid⟩ := hsource bound rfl
      refine .retry _ binding ?_ hbinding htarget
      cases latest with
      | none => exact hid
      | some top => exact hlatest top rfl

theorem atInserted_knows (cmd : Command) {id : Nat} {row : TaskRow}
    (hnew : NewRow host s cmd id row) : (s.atInserted cmd id row).Knows host s cmd := by
  unfold Ledger.atInserted
  split
  · exact hnew
  · split
    · trivial
    · rename_i inserted hbind
      refine ⟨?_, fun taskKey binding hbound => ?_⟩
      · rintro _ _ ⟨⟩
        refine ⟨hnew, ?_⟩
        obtain hsome | hnone := bindCommandKey_ok hbind
        · exact .inl ⟨_, hsome, rfl⟩
        · exact .inr hnone
      · obtain hsome | ⟨hnone, -⟩ := bindCommandKey_ok hbind
        · rw [hsome] at hbound
          cases hbound
          exact ⟨rfl, rfl, .inl ⟨row, rfl, rfl⟩⟩
        · rw [hnone] at hbound
          cases hbound

theorem next_knows (h : Book host key targetId s) (clk : Clock) {c : Nat} {call : Call}
    (hc : s.calls.rows c = some call) : (s.next host clk call).Knows host s call.cmd := by
  have hknows := (h.calls c call hc).1
  cases hpc : call.pc <;> rw [hpc] at hknows <;> simp only [Ledger.next, hpc]
  case keyed => exact atKeyed_knows call.cmd
  case unbound =>
    unfold Ledger.atUnbound
    split
    · trivial
    · intro bound hbound
      cases hbound
  case resolved source =>
    unfold Ledger.atResolved
    split <;> exact hknows
  case targeted source => exact atTargeted_knows h call.cmd hknows
  case reusing barrier => exact atReusing_knows call.cmd hknows
  case cleared source latest => exact atCleared_knows call.cmd clk hknows.1 hknows.2
  case inserted id row => exact atInserted_knows call.cmd hknows
  case admitted | returning | committed | raised | rolledBack => exact hknows

-- ------------------------------------------------------------
-- Every step keeps the books
-- ------------------------------------------------------------

theorem Book.evolves (h : Book host key targetId s) {q' : Queue} (hq : Evolves s.queue q')
    (hfresh : ∀ id row', s.queue.rows id = none → q'.rows id = some row' →
      ¬ Derived row'.idempotencyKey ∧ row'.idempotencyKey ≠ key) :
    Book host key targetId { s with queue := q' } := by
  have hs : Grows s { s with queue := q' } := ⟨hq.stored, fun _ _ h => h, hq.next⟩
  refine h.extend hs (fun _ _ hc => .inl hc) (fun id row' hrow' => ?_) (fun _ _ hb => .inl hb)
  cases hrow : s.queue.rows id with
  | some row => exact .inl ⟨row, rfl⟩
  | none =>
    have hforeign := (hq.fresh id row' hrow hrow').2
    obtain ⟨hplain, hother⟩ := hfresh id row' hrow hrow'
    refine .inr ⟨fun target had => ?_, fun target had => ?_, fun hd => absurd hd hplain,
      fun hown => absurd hown hother⟩
    all_goals
      rw [hforeign] at had
      cases had

theorem Book.inserts (h : Book host key targetId s) {c : Nat} {call : Call}
    (hc : s.calls.rows c = some call) {task : NewTask} (hpc : call.pc = .admitted task)
    (clk : Clock) : Book host key targetId (s.insertTask c task clk) := by
  unfold Ledger.insertTask
  split
  · exact h
  · split
    · exact h.moves hc trivial
    · have hknows := (h.calls c call hc).1
      rw [hpc] at hknows
      have hreserved : Book host key targetId { s with queue := s.queue.reserve } :=
        h.evolves (evolves_reserve _) fun id row' hrow hrow' => by
          rw [Table.reserve_rows, hrow] at hrow'
          cases hrow'
      refine hreserved.moves hc ⟨hknows.1 clk, ?_⟩
      have hs : Grows s { s with queue := s.queue.reserve } :=
        ⟨(evolves_reserve _).stored, fun _ _ h => h, Nat.le_succ _⟩
      exact hknows.2.grows hs (Nat.le_refl _)

theorem store_grows {work : Work}
    (hfree : ∀ id row, work.inserted = some (id, row) → s.queue.rows id = none) :
    Grows s (s.store work) where
  rows := by
    intro id row hrow
    refine ⟨⟨0, 0, 0⟩, row, ?_, .stay⟩
    unfold Ledger.store
    cases hinserted : work.inserted with
    | none => exact hrow
    | some entry =>
      have hne : id ≠ entry.1 := by
        rintro rfl
        rw [hfree _ _ hinserted] at hrow
        cases hrow
      exact (if_neg fun heq => hne heq.1).trans hrow
  receipts := by
    intro boundKey binding hbinding
    unfold Ledger.store
    cases work.bound with
    | none => exact hbinding
    | some entry =>
      show (if boundKey = entry.1 then s.receipts boundKey <|> some entry.2
        else s.receipts boundKey) = some binding
      rw [hbinding]
      split <;> rfl
  next := by
    unfold Ledger.store
    cases work.inserted <;> exact Nat.le_refl _

theorem Origin.own_of_plain {cmd : Command} {below : Nat} {taskKey : String}
    (h : Origin host s cmd below taskKey) (hplain : ¬ Derived taskKey) :
    taskKey = cmd.commandKey := by
  cases h with
  | own => rfl
  | retry m binding hm hbinding htarget => exact absurd ⟨_, rfl⟩ hplain

theorem Origin.retry_of_derived {cmd : Command} {below : Nat} {taskKey : String}
    (h : Origin host s cmd below taskKey) (hplain : ¬ Derived cmd.commandKey)
    (hderived : Derived taskKey) :
    ∃ m binding, taskKey = autostopRetryIdempotencyKey host cmd.commandKey m ∧ m < below ∧
      s.receipts cmd.commandKey = some binding ∧ binding.targetId = cmd.targetId := by
  cases h with
  | own => exact absurd hderived hplain
  | retry m binding hm hbinding htarget => exact ⟨m, binding, rfl, hm, hbinding, htarget⟩

theorem NewRow.rowOk {cmd : Command} {id : Nat} {row : TaskRow} (h : NewRow host s cmd id row)
    (hkey : ¬ Derived key) (hcmd : cmd.Respects key targetId)
    (hreceipt : (s.receipts row.idempotencyKey).isSome = true) :
    RowOk host key targetId s id row where
  exact := fun _ had => ⟨_, isAdCommandOf_unique h.exact.isAdCommand had ▸ h.exact⟩
  ledgered := fun _ _ => hreceipt
  derived := by
    intro hderived
    obtain ⟨m, binding, hretry, hm, hbinding, htarget⟩ :=
      h.origin.retry_of_derived hcmd.plain hderived
    exact ⟨_, m, binding, hretry, hm, hbinding, htarget ▸ h.exact.isAdCommand⟩
  own := by
    intro hown
    have hcommand := h.origin.own_of_plain (hown ▸ hkey)
    rw [← (hcmd.own (hcommand.symm.trans hown)).2]
    exact h.exact.isAdCommand

theorem store_rows {work : Work} {id : Nat} {row : TaskRow}
    (h : (s.store work).queue.rows id = some row) :
    work.inserted = some (id, row) ∨ s.queue.rows id = some row := by
  unfold Ledger.store at h
  cases hinserted : work.inserted with
  | none =>
    rw [hinserted] at h
    exact .inr h
  | some entry =>
    rw [hinserted] at h
    simp only [Table.fill_rows] at h
    split at h
    · rename_i heq
      cases h
      rw [heq.1]
      exact .inl rfl
    · exact .inr h

theorem store_receipts {work : Work} {boundKey : String} {binding : Binding}
    (h : (s.store work).receipts boundKey = some binding) :
    work.bound = some (boundKey, binding) ∨ s.receipts boundKey = some binding := by
  unfold Ledger.store at h
  cases hbound : work.bound with
  | none =>
    rw [hbound] at h
    exact .inr h
  | some entry =>
    rw [hbound] at h
    simp only at h
    split at h
    · rename_i heq
      cases hold : s.receipts boundKey with
      | none =>
        rw [hold] at h
        cases h
        rw [heq]
        exact .inl rfl
      | some old =>
        rw [hold] at h
        exact .inr h
    · exact .inr h

theorem Book.stores (h : Book host key targetId s) (hkey : ¬ Derived key) {cmd : Command}
    {work : Work} (hcmd : cmd.Respects key targetId) (hwork : WorkOk host s cmd work)
    (hfree : ∀ id row, work.inserted = some (id, row) → s.queue.rows id = none ∧
      id < s.queue.next) :
    Book host key targetId (s.store work) := by
  have hs : Grows s (s.store work) := store_grows fun id row hrow => (hfree id row hrow).1
  have hstored : ∀ id row, work.inserted = some (id, row) →
      (s.store work).queue.rows id = some row := by
    intro id row hrow
    unfold Ledger.store
    rw [hrow]
    exact if_pos ⟨rfl, (hfree id row hrow).2⟩
  refine h.extend hs (fun _ _ hc => .inl hc) (fun id row hrow => ?_) fun boundKey binding hb => ?_
  · obtain hinserted | hold := store_rows hrow
    · obtain ⟨hnew, hreceipt⟩ := hwork.row id row hinserted
      refine .inr (NewRow.rowOk ⟨hnew.exact, hnew.origin.grows hs (Nat.le_refl _)⟩ hkey hcmd ?_)
      obtain ⟨binding, hbound, -⟩ | ⟨-, hsome⟩ := hreceipt
      · unfold Ledger.store
        rw [hbound]
        simp
      · obtain ⟨binding, hbinding⟩ := Option.isSome_iff_exists.mp hsome
        rw [hs.receipts _ _ hbinding]
        rfl
    · exact .inl ⟨row, hold⟩
  · obtain hbound | hold := store_receipts hb
    · obtain ⟨haction, htarget, hnew | ⟨hown, hholds⟩⟩ := hwork.receipt boundKey binding hbound
      · obtain ⟨row, hinserted, rfl⟩ := hnew
        have hrow := hstored _ _ hinserted
        have hnew := (hwork.row _ _ hinserted).1
        refine .inr ⟨fun kind hkind => ?_, fun _ => ⟨row, hrow, rfl⟩, fun hown => ?_⟩
        · rw [haction] at hkind
          cases hkind
          exact ⟨row, hrow, htarget ▸ hnew.exact⟩
        · have hcommand := hnew.origin.own_of_plain (hown ▸ hkey)
          have hincident := hcmd.own (hcommand.symm.trans hown)
          exact ⟨haction.trans (by rw [hincident.1]), htarget.trans hincident.2⟩
      · refine .inr ⟨fun kind hkind => ?_, fun hderived => absurd (hown ▸ hderived) hcmd.plain,
          fun hincident => ?_⟩
        · rw [haction] at hkind
          cases hkind
          rw [htarget]
          exact hholds.grows hs
        · have hincident := hcmd.own (hown.symm.trans hincident)
          exact ⟨haction.trans (by rw [hincident.1]), htarget.trans hincident.2⟩
    · exact .inl hold

theorem Book.commits (h : Book host key targetId s) (hkey : ¬ Derived key) (hinv : Inv s) {c : Nat}
    {call : Call} (hc : s.calls.rows c = some call) {receipt : CommandReceipt} {work : Work}
    (hpc : call.pc = .returning receipt work) (clk : Clock) :
    Book host key targetId ((s.publish call.cmd clk work).setPc c (.committed receipt)) := by
  obtain ⟨hknows, hcmd⟩ := h.calls c call hc
  rw [hpc] at hknows
  have hstored : Book host key targetId (s.store work) := by
    refine h.stores hkey hcmd hknows fun id row hrow => ?_
    obtain ⟨hid, hnone, -⟩ := hinv.pending c call id row hc (by rw [hpc]; exact hrow)
    exact ⟨hnone, hid⟩
  unfold Ledger.publish
  cases work.strengthened with
  | none => exact hstored.moves hc trivial
  | some id =>
    refine Book.moves (hstored.evolves (evolves_strengthen _ id clk _ _) ?_) hc trivial
    intro id' row' hnone hrow'
    simp [hnone] at hrow'

/-- A label that brings in keys of its own namespace only. -/
def Label.Respects (key targetId : String) : Label → Prop
  | .enqueueAdAction args => ∀ cmd, Commands.enqueueAdAction args = .ok cmd →
      cmd.Respects key targetId
  | .enqueueVerifiedPauseCompensation args =>
    ∀ cmd, Commands.enqueueVerifiedPauseCompensation args = .ok cmd → cmd.Respects key targetId
  | .queue _ op => ∀ newKey, insertedKey? op.op = some newKey → ¬ Derived newKey ∧ newKey ≠ key
  | .bindCampaignRun newKey _ _ _ => ¬ Derived newKey ∧ newKey ≠ key
  | .advance _ _ | .rollback _ | .observe _ _ => True

theorem step_book (hkey : ¬ Derived key) (hinv : Inv s) (h : Book host key targetId s) {l : Label}
    (hl : l.Respects key targetId) : Book host key targetId (s.step host l) := by
  cases l with
  | enqueueAdAction args => exact h.begins hl
  | enqueueVerifiedPauseCompensation args => exact h.begins hl
  | advance c clk =>
    simp only [Ledger.step, Ledger.advance]
    split
    · exact h
    · rename_i call hc
      split
      · rename_i hpc
        exact h.inserts hc hpc clk
      · rename_i hpc
        exact h.commits hkey hinv hc hpc clk
      · exact h.moves hc (next_knows h clk hc)
  | rollback c =>
    simp only [Ledger.step, Ledger.rollback]
    split
    · exact h
    · rename_i hc
      split
      · exact h.moves hc trivial
      · exact h
  | queue clk op =>
    simp only [Ledger.step]
    split
    · exact h
    · refine h.evolves (evolves_elsewhere _ clk op) fun id row' hnone hrow' => ?_
      obtain ⟨task, hop, -, rfl⟩ := step_created _ hnone hrow'
      have hnew : insertedKey? op.op = some task.idempotencyKey := by
        simp only at hop
        rw [hop]
        rfl
      exact hl _ hnew
  | observe targetId row =>
    exact h.extend (.of_eq rfl rfl) (fun _ _ hc => .inl hc) (fun _ row hrow => .inl ⟨row, hrow⟩)
      fun _ _ hb => .inl hb
  | bindCampaignRun newKey taskId resume runId =>
    simp only [Ledger.step, Ledger.bindCampaignRun]
    split
    · exact h
    · rename_i hfree
      simp only [Bool.or_eq_true, not_or, Bool.not_eq_true] at hfree
      refine h.extend ⟨fun _ row hrow => ⟨⟨0, 0, 0⟩, row, hrow, .stay⟩, fun boundKey b hb => ?_,
        Nat.le_refl _⟩ (fun _ _ hc => .inl hc) (fun _ row hrow => .inl ⟨row, hrow⟩)
        fun boundKey b hb => ?_
      · have hne : boundKey ≠ newKey := by
          rintro rfl
          simp [hb] at hfree
        exact (if_neg hne).trans hb
      · simp only at hb
        split at hb
        · rename_i heq
          cases hb
          refine .inr ⟨fun kind hkind => ?_, fun hd => absurd (heq ▸ hd) hl.1,
            fun hown => absurd (heq ▸ hown) hl.2⟩
          cases resume <;> cases hkind
        · exact .inl hb

/-- The books of an incident are in order along every run whose labels keep to
their namespaces. -/
theorem run_book (hkey : ¬ Derived key) (ls : List Label)
    (hls : ∀ l ∈ ls, l.Respects key targetId) :
    Book host key targetId (reached host ls) := by
  have hboth : Inv (reached host ls) ∧
      Book host key targetId (reached host ls) := by
    refine run_invariant (C := fun _ l => Label.Respects key targetId l)
      (I := fun s => Inv s ∧ Book host key targetId s) ?_ ⟨inv_init, book_init⟩
      (allSteps_of_forall (fun l hl _ => hls l hl) _)
    rintro s l ⟨hinv, hbook⟩ hl
    exact ⟨step_inv host s l hinv, step_book hkey hinv hbook hl⟩
  exact hboth.2

end StopBot.Commands
