import StopBot.Commands.AutoStop

/-!
# Receipts stand

What a call answers is what the ledger says under its key, then and ever after:
a key is worked on by one call at a time, a receipt is inserted only where none
is, and it comes with its task. The generations of an auto-stop are set apart,
each has a task of its own under one incident's key.
-/

namespace StopBot.Commands

open Lib Tasks Worker

def Ledger.Commandless (s : Ledger) (key : String) : Prop :=
  ∀ binding kind, s.receipts key = some binding → binding.actionKind ≠ .ad kind

def CommandReceipt.binding (receipt : CommandReceipt) (cmd : Command) : Binding :=
  { taskId := receipt.taskId, actionKind := .ad cmd.actionKind, targetId := cmd.targetId }

/-- The call asked for something that is not there yet: it found no command under
its key, or is about to bind one. -/
def Pc.looking : Pc → Bool
  | .unbound | .resolved _ | .targeted _ | .reusing _ | .cleared _ _ | .admitted _
  | .inserted _ _ => true
  | .returning _ work => work.bound.isSome
  | _ => false

def Pc.Files (s : Ledger) (cmd : Command) : Pc → Prop
  | .reusing barrier => (s.queue.rows barrier.id).isSome = true
  | .admitted task => task.idempotencyKey = cmd.commandKey ∨ Derived task.idempotencyKey
  | .inserted _ row => row.idempotencyKey = cmd.commandKey ∨ Derived row.idempotencyKey
  | .returning _ work => ∀ key binding, work.bound = some (key, binding) →
      (key = cmd.commandKey ∨ Derived key) ∧ s.receipts key = none ∧
        ((∃ row, work.inserted = some (binding.taskId, row)) ∨
          (s.queue.rows binding.taskId).isSome = true)
  | _ => True

def Pc.Answers (s : Ledger) (cmd : Command) : Pc → Prop
  | .resolved source | .targeted source | .cleared source _ => source = none
  | .admitted task => task.idempotencyKey = cmd.commandKey
  | .inserted _ row => row.idempotencyKey = cmd.commandKey
  | .returning receipt work =>
    work.bound = some (cmd.commandKey, receipt.binding cmd) ∨
      work.bound = none ∧ receipt.created = false ∧
        s.receipts cmd.commandKey = some (receipt.binding cmd)
  | .committed receipt => s.receipts cmd.commandKey = some (receipt.binding cmd)
  | _ => True

/-- The auto-stop asks for new generations, all others for one command. -/
def Command.Single (cmd : Command) : Prop := cmd.requestedBy ≠ autoStopRequestedBy

structure Call.Created (call : Call) (receipt : CommandReceipt) : Prop where
  single : call.cmd.Single
  committed : call.pc = .committed receipt
  created : receipt.created = true

structure Filed (s : Ledger) : Prop where
  keys : ∀ c d a b, s.calls.rows c = some a → s.calls.rows d = some b → a.pc.isOpen = true →
    b.pc.isOpen = true → a.cmd.commandKey = b.cmd.commandKey → c = d
  files : ∀ c call, s.calls.rows c = some call → call.pc.Files s call.cmd
  answers : ∀ c call, s.calls.rows c = some call → call.cmd.Single → call.pc.Answers s call.cmd
  fresh : ∀ c call, s.calls.rows c = some call → call.cmd.Single → ¬ Derived call.cmd.commandKey →
    call.pc.looking = true → s.Commandless call.cmd.commandKey
  apart : ∀ c d a b key x y, s.calls.rows c = some a → s.calls.rows d = some b →
    a.pc.receipt? = some (key, x) → b.pc.receipt? = some (key, y) → c = d
  stored : ∀ key binding kind, s.receipts key = some binding → binding.actionKind = .ad kind →
    (s.queue.rows binding.taskId).isSome = true
  once : ∀ c d a b x y, s.calls.rows c = some a → s.calls.rows d = some b → a.Created x →
    b.Created y →
    a.cmd.commandKey = b.cmd.commandKey → c = d

variable {host : Host} {s s' : Ledger} {c : Nat} {call : Call} {cmd : Command} {pc : Pc}

theorem Filed.init : Filed Ledger.init where
  keys := fun _ _ _ _ h => by cases h
  files := fun _ _ h => by cases h
  answers := fun _ _ h => by cases h
  fresh := fun _ _ h => by cases h
  apart := fun _ _ _ _ _ _ _ h => by cases h
  stored := fun _ _ _ h => by cases h
  once := fun _ _ _ _ _ _ h => by cases h

-- ------------------------------------------------------------
-- A queue that goes on
-- ------------------------------------------------------------

theorem Pc.Files.evolves (h : pc.Files s cmd) (hreceipts : s'.receipts = s.receipts)
    (hrows : ∀ id, (s.queue.rows id).isSome = true → (s'.queue.rows id).isSome = true) :
    pc.Files s' cmd := by
  cases pc with
  | reusing barrier => exact hrows _ h
  | returning receipt work =>
    rintro key binding hbound
    obtain ⟨hkey, hnone, htask⟩ := h key binding hbound
    exact ⟨hkey, hreceipts ▸ hnone, htask.imp_right (hrows _)⟩
  | admitted task => exact h
  | inserted id row => exact h
  | _ => trivial

theorem Pc.Answers.congr (h : pc.Answers s cmd) (hreceipts : s'.receipts = s.receipts) :
    pc.Answers s' cmd := by
  cases pc <;> simp only [Pc.Answers, hreceipts] at h ⊢ <;> exact h

theorem Filed.evolves (h : Filed s) (hreceipts : s'.receipts = s.receipts)
    (hcalls : s'.calls = s.calls)
    (hrows : ∀ id, (s.queue.rows id).isSome = true → (s'.queue.rows id).isSome = true) :
    Filed s' where
  keys := hcalls ▸ h.keys
  files := fun d other hd => (h.files d other (hcalls ▸ hd)).evolves hreceipts hrows
  answers := fun d other hd hsingle => (h.answers d other (hcalls ▸ hd) hsingle).congr hreceipts
  fresh := by
    intro d other hd
    simp only [Ledger.Commandless, hreceipts]
    exact h.fresh d other (hcalls ▸ hd)
  apart := hcalls ▸ h.apart
  stored := fun key binding kind hkey haction =>
    hrows _ (h.stored key binding kind (hreceipts ▸ hkey) haction)
  once := hcalls ▸ h.once

theorem Evolves.isSome {q q' : Queue} (h : Evolves q q') (id : Nat)
    (hid : (q.rows id).isSome = true) :
    (q'.rows id).isSome = true := by
  obtain ⟨row, hrow⟩ := Option.isSome_iff_exists.mp hid
  obtain ⟨clk, row', hrow', -⟩ := h.stored id row hrow
  simp [hrow']

-- ------------------------------------------------------------
-- Moves of one call
-- ------------------------------------------------------------

structure Files (s : Ledger) (call : Call) (pc : Pc) : Prop where
  isOpen : pc.isOpen = true → call.pc.isOpen = true
  files : pc.Files s call.cmd
  answers : call.cmd.Single → pc.Answers s call.cmd
  fresh : call.cmd.Single → ¬ Derived call.cmd.commandKey → pc.looking = true →
    s.Commandless call.cmd.commandKey
  receipt : ∀ key x, pc.receipt? = some (key, x) →
    call.pc.receipt? = some (key, x) ∨ s.receiptPending key = false
  committed : ∀ receipt, pc = .committed receipt → call.pc = .committed receipt

theorem Filed.moves (h : Filed s) (hc : s.calls.rows c = some call) (hpc : Files s call pc) :
    Filed (s.setPc c pc) where
  keys := by
    rintro d e a b hd he hopenA hopenB hkey
    obtain ⟨rfl, rfl⟩ | ⟨-, hd'⟩ := (setPc_rows hc pc).mp hd <;>
      obtain ⟨rfl, rfl⟩ | ⟨-, he'⟩ := (setPc_rows hc pc).mp he
    · rfl
    · exact h.keys d e call b hc he' (hpc.isOpen hopenA) hopenB hkey
    · exact h.keys d e a call hd' hc hopenA (hpc.isOpen hopenB) hkey
    · exact h.keys d e a b hd' he' hopenA hopenB hkey
  files := by
    rintro d other hd
    obtain ⟨-, rfl⟩ | ⟨-, hd⟩ := (setPc_rows hc pc).mp hd
    · exact hpc.files.evolves rfl fun _ => id
    · exact (h.files d other hd).evolves rfl fun _ => id
  answers := by
    rintro d other hd hsingle
    obtain ⟨-, rfl⟩ | ⟨-, hd⟩ := (setPc_rows hc pc).mp hd
    · exact (hpc.answers hsingle).congr rfl
    · exact (h.answers d other hd hsingle).congr rfl
  fresh := by
    rintro d other hd hsingle hplain hlooking
    obtain ⟨-, rfl⟩ | ⟨-, hd⟩ := (setPc_rows hc pc).mp hd
    · exact hpc.fresh hsingle hplain hlooking
    · exact h.fresh d other hd hsingle hplain hlooking
  apart := by
    have hsole : ∀ d other key x y, d ≠ c → s.calls.rows d = some other →
        pc.receipt? = some (key, x) →
        other.pc.receipt? ≠ some (key, y) := by
      rintro d other key x y hne hd hx hy
      rcases hpc.receipt key x hx with hold | hfree
      · exact hne (h.apart d c other call key y x hd hc hy hold)
      · have hpending := receiptPending_iff.mpr ⟨d, other, y, hd, hy⟩
        rw [hfree] at hpending
        cases hpending
    rintro d e a b key x y hd he hx hy
    obtain ⟨rfl, rfl⟩ | ⟨hne, hd'⟩ := (setPc_rows hc pc).mp hd <;>
      obtain ⟨rfl, rfl⟩ | ⟨hne', he'⟩ := (setPc_rows hc pc).mp he
    · rfl
    · exact absurd hy (hsole e b key x y hne' he' hx)
    · exact absurd hx (hsole d a key y x hne hd' hy)
    · exact h.apart d e a b key x y hd' he' hx hy
  stored := h.stored
  once := by
    rintro d e a b x y hd he hx hy hkey
    obtain ⟨rfl, rfl⟩ | ⟨-, hd'⟩ := (setPc_rows hc pc).mp hd <;>
      obtain ⟨rfl, rfl⟩ | ⟨-, he'⟩ := (setPc_rows hc pc).mp he
    · rfl
    · exact h.once d e call b x y hc he' ⟨hx.single, hpc.committed x hx.committed,
        hx.created⟩ hy hkey
    · exact h.once d e a call x y hd' hc hx ⟨hy.single, hpc.committed y hy.committed,
        hy.created⟩ hkey
    · exact h.once d e a b x y hd' he' hx hy hkey

theorem Files.of_final (hpc : pc = .rolledBack ∨ ∃ error, pc = .raised error) :
    Files s call pc := by
  rcases hpc with rfl | ⟨error, rfl⟩
  all_goals
    refine ⟨by simp [Pc.isOpen], trivial, fun _ => trivial, by simp [Pc.looking], ?_, by simp⟩
    rintro key x ⟨⟩

theorem Files.of_waiting (hopen : call.pc.isOpen = true) (hpc : pc.isOpen = true)
    (hfiles : pc.Files s call.cmd) (hanswers : call.cmd.Single → pc.Answers s call.cmd)
    (hfresh : call.cmd.Single → ¬ Derived call.cmd.commandKey → s.Commandless call.cmd.commandKey)
    (hreceipt : pc.receipt? = none) : Files s call pc where
  isOpen := fun _ => hopen
  files := hfiles
  answers := hanswers
  fresh := fun hsingle hplain _ => hfresh hsingle hplain
  receipt := fun key x hx => by rw [hreceipt] at hx; cases hx
  committed := by
    rintro receipt rfl
    cases hpc

theorem not_retrySource (hsingle : cmd.Single) (row : TaskRow) :
    isRejectedAutostopRetrySource row cmd.actionKind cmd.requestedBy = false := by
  simp [isRejectedAutostopRetrySource, beq_eq_false_iff_ne.mpr hsingle]

theorem Bound.means_spec {bound : Bound} {kind : AdActionKind} {targetId : String}
    (h : bound.means kind targetId = true) :
    bound.actionKind = .ad kind ∧ bound.targetId = targetId := by
  simp only [Bound.means, Bool.and_eq_true, beq_iff_eq] at h
  exact ⟨h.1.2, h.2⟩

theorem Filed.atKeyed (h : Filed s) (hpc : call.pc = .keyed) :
    Files s call (s.atKeyed call.cmd) := by
  have hopen : call.pc.isOpen = true := by rw [hpc]; rfl
  unfold Ledger.atKeyed
  split
  · rename_i hnone
    refine .of_waiting hopen rfl trivial (fun _ => trivial) ?_ rfl
    rintro - - binding kind hbinding haction
    have hrow := h.stored _ _ _ hbinding haction
    obtain ⟨row, hrow⟩ := Option.isSome_iff_exists.mp hrow
    simp [Ledger.getBoundCommand, hbinding, hrow] at hnone
  · rename_i bound hbound
    obtain ⟨hbinding, hrow⟩ := getBoundCommand_spec hbound
    split
    · exact .of_final (.inr ⟨_, rfl⟩)
    · rename_i receipt hreceipt
      obtain ⟨hmeans, rfl⟩ := receiptForSemantics_ok hreceipt
      obtain ⟨haction, htarget⟩ := Bound.means_spec hmeans
      split
      · rename_i hretry
        refine ⟨fun _ => hopen, trivial, ?_, ?_, by rintro key x ⟨⟩, by simp⟩
        · rintro hsingle
          rw [not_retrySource hsingle] at hretry
          cases hretry
        · rintro hsingle
          rw [not_retrySource hsingle] at hretry
          cases hretry
      · refine ⟨fun _ => hopen, by rintro key binding ⟨⟩,
          ?_, by simp [Pc.looking], by rintro key x ⟨⟩,
          by simp⟩
        rintro -
        refine .inr ⟨rfl, rfl, hbinding.trans ?_⟩
        simp [CommandReceipt.binding, haction, htarget]

theorem Filed.atTargeted (h : Filed s) (hc : s.calls.rows c = some call) {source : Option Bound}
    (hpc : call.pc = .targeted source) : Files s call (s.atTargeted call.cmd source) := by
  have hopen : call.pc.isOpen = true := by rw [hpc]; rfl
  have hsource : call.cmd.Single → source = none := by
    rintro hsingle
    simpa [hpc, Pc.Answers] using h.answers c call hc hsingle
  have hfresh : call.cmd.Single → ¬ Derived call.cmd.commandKey →
      s.Commandless call.cmd.commandKey :=
    fun hsingle hplain => h.fresh c call hc hsingle hplain (by rw [hpc]; rfl)
  simp only [Ledger.atTargeted]
  split
  · exact .of_waiting hopen rfl trivial hsource hfresh rfl
  · rename_i barrier hbarrier
    obtain ⟨hrow, -, -⟩ := latest_spec (standingBarrier_some hbarrier)
    split
    · exact .of_final (.inr ⟨_, rfl⟩)
    · split
      · rename_i hretry
        refine ⟨fun _ => hopen, by rintro key binding ⟨⟩, ?_, by simp [Pc.looking, barrierWork],
          by rintro key x ⟨⟩, by simp⟩
        rintro hsingle
        simp [hsource hsingle] at hretry
      · exact .of_waiting hopen rfl (by simp [Pc.Files, hrow]) (fun _ => trivial) hfresh rfl

theorem bindCommandKey_some {key : String} {binding : Binding} {entry : String × Binding}
    (h : s.bindCommandKey key binding = .ok (some entry)) :
    entry = (key, binding) ∧ s.receipts key = none := by
  unfold Ledger.bindCommandKey at h
  split at h
  · rename_i hnone
    cases h
    exact ⟨rfl, hnone⟩
  · split at h
    · cases h
    · split at h <;> cases h

theorem bindCommandKey_none {key : String} {binding : Binding}
    (h : s.bindCommandKey key binding = .ok none) :
    s.receipts key = some binding := by
  unfold Ledger.bindCommandKey at h
  split at h
  · cases h
  · split at h
    · cases h
    · rename_i bound hbound
      split at h
      · rename_i hsame
        obtain ⟨hbinding, -⟩ := getBoundCommand_spec hbound
        obtain ⟨hid, haction, htarget⟩ := hsame
        rw [hbinding, hid, haction, htarget]
      · cases h

theorem Filed.binds (h : Filed s) (hopen : call.pc.isOpen = true) {receipt : CommandReceipt}
    {work : Work} {key : String}
    (hpending : s.receiptPending key = false) {bound : Option (String × Binding)}
    (hwork : work.bound = bound)
    (hbind : s.bindCommandKey key (receipt.binding call.cmd) = .ok bound)
    (hkey : key = call.cmd.commandKey ∨ Derived key)
    (hown : call.cmd.Single → key = call.cmd.commandKey)
    (htask : (∃ row, work.inserted = some (receipt.taskId, row)) ∨
      (s.queue.rows receipt.taskId).isSome = true)
    (hfresh : call.cmd.Single → ¬ Derived call.cmd.commandKey → s.Commandless call.cmd.commandKey)
    (hold : receipt.created = false ∨ s.queue.rows receipt.taskId = none) :
    Files s call (.returning receipt work) where
  isOpen := fun _ => hopen
  files := by
    rintro key' binding hbound
    rw [hwork] at hbound
    subst hbound
    obtain ⟨heq, hnone⟩ := bindCommandKey_some hbind
    cases heq
    exact ⟨hkey, hnone, htask⟩
  answers := by
    rintro hsingle
    cases bound with
    | some entry =>
      obtain ⟨rfl, -⟩ := bindCommandKey_some hbind
      exact .inl (by rw [hwork, hown hsingle])
    | none =>
      have hreceipt := bindCommandKey_none hbind
      rcases hold with hold | hnew
      · exact .inr ⟨hwork, hold, hown hsingle ▸ hreceipt⟩
      · have hrow := h.stored _ _ call.cmd.actionKind hreceipt rfl
        simp [CommandReceipt.binding, hnew] at hrow
  fresh := fun hsingle hplain _ => hfresh hsingle hplain
  receipt := by
    rintro key' x hx
    rw [Pc.receipt?, hwork] at hx
    subst hx
    obtain ⟨heq, -⟩ := bindCommandKey_some hbind
    cases heq
    exact .inr hpending
  committed := by simp

theorem Filed.next (h : Filed s) (hinv : Inv s) (clk : Clock) (hc : s.calls.rows c = some call) :
    Files s call (s.next host clk call) := by
  have hanswers := h.answers c call hc
  have hfresh := h.fresh c call hc
  have hfiles := h.files c call hc
  have hstay : Files s call call.pc :=
    ⟨id, hfiles, hanswers, hfresh, fun _ _ hx => .inl hx, fun _ => id⟩
  cases hpc : call.pc with
  | keyed => simpa only [Ledger.next, hpc] using h.atKeyed hpc
  | unbound =>
    rw [hpc] at hfresh
    simp only [Ledger.next, hpc, Ledger.atUnbound]
    split
    · exact .of_final (.inr ⟨_, rfl⟩)
    · exact .of_waiting (by rw [hpc]; rfl) rfl trivial (fun _ => rfl)
        (fun hs hp => hfresh hs hp rfl) rfl
  | resolved source =>
    rw [hpc] at hanswers hfresh
    simp only [Ledger.next, hpc, Ledger.atResolved]
    split <;> exact .of_waiting (by rw [hpc]; rfl) rfl trivial hanswers
      (fun hs hp => hfresh hs hp rfl) rfl
  | targeted source => simpa only [Ledger.next, hpc] using h.atTargeted hc hpc
  | reusing barrier =>
    rw [hpc] at hfiles hfresh
    simp only [Ledger.next, hpc, Ledger.atReusing]
    split
    · exact hpc ▸ hstay
    · rename_i hpending
      split
      · exact .of_final (.inr ⟨_, rfl⟩)
      · rename_i bound hbind
        exact h.binds (by rw [hpc]; rfl) (by simpa using hpending) rfl hbind (.inl rfl)
          (fun _ => rfl)
          (.inr hfiles) (fun hs hp => hfresh hs hp rfl) (.inl rfl)
  | cleared source latest =>
    rw [hpc] at hanswers hfresh
    simp only [Ledger.next, hpc, Ledger.atCleared]
    split
    · exact .of_final (.inr ⟨_, rfl⟩)
    · refine .of_waiting (by rw [hpc]; rfl) rfl ?_ ?_ (fun hs hp => hfresh hs hp rfl) rfl
      · cases source with
        | none => exact .inl rfl
        | some bound => exact .inr ⟨_, rfl⟩
      · rintro hsingle
        obtain rfl : source = none := hanswers hsingle
        rfl
  | inserted id row =>
    have hrow := (hinv.pending c call id row hc (by rw [hpc]; rfl)).2.1
    rw [hpc] at hfiles hanswers hfresh
    simp only [Ledger.next, hpc, Ledger.atInserted]
    split
    · exact hpc ▸ hstay
    · rename_i hpending
      split
      · exact .of_final (.inr ⟨_, rfl⟩)
      · rename_i bound hbind
        exact h.binds (by rw [hpc]; rfl) (by simpa using hpending) rfl hbind hfiles hanswers
          (.inl ⟨row, rfl⟩) (fun hs hp => hfresh hs hp rfl) (.inr hrow)
  | admitted | returning | committed | raised | rolledBack =>
    simpa only [Ledger.next, hpc] using hpc ▸ hstay

-- ------------------------------------------------------------
-- Every step keeps the receipts in order
-- ------------------------------------------------------------

theorem Filed.begins (h : Filed s) (prepared : Except CommandError Command) :
    Filed (s.begin prepared) := by
  unfold Ledger.begin
  split
  · exact h
  · rename_i cmd
    split
    · exact h
    · rename_i hlocked
      -- a new call holds its key, and knows nothing yet
      have hrows : ∀ d other, (s.calls.insert { cmd := cmd, pc := .keyed }).rows d = some other →
          d = s.calls.next ∧ other = { cmd := cmd, pc := .keyed } ∨
            s.calls.rows d = some other := by
        intro d other hd
        rw [Table.insert_rows] at hd
        split at hd
        · rename_i heq
          exact .inl ⟨heq, (Option.some.inj hd).symm⟩
        · exact .inr hd
      have hfree : ∀ d other, s.calls.rows d = some other → other.pc.isOpen = true →
          other.cmd.commandKey ≠ cmd.commandKey := by
        intro d other hd hopen hkey
        have hany := @Table.entries_any _ s.calls fun call : Call =>
          call.pc.isOpen && call.cmd.commandKey == cmd.commandKey
        exact hlocked (hany.mpr ⟨d, other, hd, by simp [hopen, hkey]⟩)
      refine ⟨?_, ?_, ?_, ?_, ?_, h.stored, ?_⟩
      · rintro d e a b hd he hopenA hopenB hkey
        obtain ⟨rfl, rfl⟩ | hd := hrows d a hd <;> obtain ⟨rfl, rfl⟩ | he := hrows e b he
        · rfl
        · exact absurd hkey.symm (hfree e b he hopenB)
        · exact absurd hkey (hfree d a hd hopenA)
        · exact h.keys d e a b hd he hopenA hopenB hkey
      · rintro d other hd
        obtain ⟨-, rfl⟩ | hd := hrows d other hd
        · trivial
        · exact (h.files d other hd).evolves rfl fun _ => id
      · rintro d other hd hsingle
        obtain ⟨-, rfl⟩ | hd := hrows d other hd
        · trivial
        · exact (h.answers d other hd hsingle).congr rfl
      · rintro d other hd hsingle hplain hlooking
        obtain ⟨-, rfl⟩ | hd := hrows d other hd
        · cases hlooking
        · exact h.fresh d other hd hsingle hplain hlooking
      · rintro d e a b key x y hd he hx hy
        obtain ⟨rfl, rfl⟩ | hd := hrows d a hd
        · cases hx
        · obtain ⟨rfl, rfl⟩ | he := hrows e b he
          · cases hy
          · exact h.apart d e a b key x y hd he hx hy
      · rintro d e a b x y hd he hx hy hkey
        obtain ⟨rfl, rfl⟩ | hd := hrows d a hd
        · cases hx.committed
        · obtain ⟨rfl, rfl⟩ | he := hrows e b he
          · cases hy.committed
          · exact h.once d e a b x y hd he hx hy hkey

theorem Filed.inserts (h : Filed s) (hc : s.calls.rows c = some call) {task : NewTask}
    (hpc : call.pc = .admitted task) (clk : Clock) : Filed (s.insertTask c task clk) := by
  unfold Ledger.insertTask
  split
  · exact h
  · split
    · exact h.moves hc (.of_final (.inr ⟨_, rfl⟩))
    · have hreserved : Filed { s with queue := s.queue.reserve } :=
        h.evolves rfl rfl (evolves_reserve s.queue).isSome
      have hfiles := h.files c call hc
      have hanswers := h.answers c call hc
      have hfresh := h.fresh c call hc
      rw [hpc] at hfiles hanswers hfresh
      refine hreserved.moves hc (.of_waiting (by rw [hpc]; rfl) rfl hfiles hanswers ?_ rfl)
      exact fun hs hp => hfresh hs hp rfl

/-- What a commit of `work` leaves: its task and its receipt are stored, and nothing is taken
away. -/
structure Ledger.Stores (s : Ledger) (work : Work) (s' : Ledger) : Prop where
  calls : s'.calls = s.calls
  rows : ∀ id, (s.queue.rows id).isSome = true → (s'.queue.rows id).isSome = true
  inserted : ∀ id row, work.inserted = some (id, row) → (s'.queue.rows id).isSome = true
  receipts : ∀ key binding, s.receipts key = some binding → s'.receipts key = some binding
  bound : ∀ key binding, work.bound = some (key, binding) → s'.receipts key = some binding
  kept : ∀ key, (∀ binding, work.bound ≠ some (key, binding)) → s'.receipts key = s.receipts key

section Commits
variable {receipt : CommandReceipt} {work : Work} {d : Nat} {other : Call}

theorem Filed.store_stores (h : Filed s) (hinv : Inv s) (hc : s.calls.rows c = some call)
    (hpc : call.pc = .returning receipt work) : s.Stores work (s.store work) := by
  have hfiles := h.files c call hc
  rw [hpc] at hfiles
  have hgrows : Grows s (s.store work) := store_grows fun id row hrow =>
    (hinv.pending c call id row hc (by rw [hpc]; exact hrow)).2.1
  refine ⟨rfl, ?_, ?_, hgrows.receipts, ?_, ?_⟩
  · intro id hid
    obtain ⟨row, hrow⟩ := Option.isSome_iff_exists.mp hid
    obtain ⟨-, row', hrow', -⟩ := hgrows.rows id row hrow
    simp [hrow']
  · intro id row hrow
    have hid := (hinv.pending c call id row hc (by rw [hpc]; exact hrow)).1
    unfold Ledger.store
    simp [hrow, Table.fill_rows, hid]
  · intro key binding hwork
    unfold Ledger.store
    simp [hwork, (hfiles key binding hwork).2.1]
  · intro key hother
    unfold Ledger.store
    cases hwork : work.bound with
    | none => rfl
    | some entry =>
      have hne : key ≠ entry.1 := by
        rintro rfl
        exact hother entry.2 hwork
      simp [hne]

theorem Filed.commit_files (h : Filed s) (hc : s.calls.rows c = some call)
    (hpc : call.pc = .returning receipt work) (hst : s.Stores work s') (hne : d ≠ c)
    (hd : s.calls.rows d = some other) : other.pc.Files s' other.cmd := by
  have hother := h.files d other hd
  cases hopc : other.pc with
  | returning receipt' work' =>
    rw [hopc] at hother
    rintro key binding hwork
    obtain ⟨hkey, hnone, htask⟩ := hother key binding hwork
    refine ⟨hkey, ?_, htask.imp_right (hst.rows _)⟩
    refine (hst.kept key fun binding' hwork' => hne ?_).trans hnone
    exact h.apart d c other call key binding binding' hd hc (by rw [hopc]; exact hwork)
      (by rw [hpc]; exact hwork')
  | reusing barrier =>
    rw [hopc] at hother
    exact hst.rows _ hother
  | admitted | inserted =>
    rw [hopc] at hother
    exact hother
  | _ => trivial

/-- The call that commits answers with the receipt it wrote, or with the one it found. -/
theorem Filed.commit_own (h : Filed s) (hc : s.calls.rows c = some call)
    (hpc : call.pc = .returning receipt work) (hst : s.Stores work s') (hsingle : call.cmd.Single) :
    s'.receipts call.cmd.commandKey = some (receipt.binding call.cmd) := by
  have hanswers := h.answers c call hc hsingle
  rw [hpc] at hanswers
  rcases hanswers with hwork | ⟨hwork, -, hreceipt⟩
  · exact hst.bound _ _ hwork
  · exact hst.receipts _ _ hreceipt

theorem Filed.commit_answers (h : Filed s) (hst : s.Stores work s')
    (hd : s.calls.rows d = some other)
    (hsingle : other.cmd.Single) : other.pc.Answers s' other.cmd := by
  have hother := h.answers d other hd hsingle
  cases hopc : other.pc with
  | returning receipt' work' =>
    rw [hopc] at hother
    exact hother.imp_right fun hold => ⟨hold.1, hold.2.1, hst.receipts _ _ hold.2.2⟩
  | committed receipt' =>
    rw [hopc] at hother
    exact hst.receipts _ _ hother
  | resolved | targeted | cleared | admitted | inserted =>
    rw [hopc] at hother
    exact hother
  | _ => trivial

/-- The key of the other call is locked, and no derived key. -/
theorem Filed.commit_fresh (h : Filed s) (hc : s.calls.rows c = some call)
    (hpc : call.pc = .returning receipt work) (hst : s.Stores work s') (hne : d ≠ c)
    (hd : s.calls.rows d = some other) (hsingle : other.cmd.Single)
    (hplain : ¬ Derived other.cmd.commandKey) (hlooking : other.pc.looking = true) :
    s'.Commandless other.cmd.commandKey := by
  rintro binding kind hbinding haction
  have hfiles := h.files c call hc
  rw [hpc] at hfiles
  have hopen : other.pc.isOpen = true := by
    cases hopc : other.pc <;> rw [hopc] at hlooking <;> first | rfl | cases hlooking
  refine h.fresh d other hd hsingle hplain hlooking binding kind ?_ haction
  rw [← hbinding]
  refine (hst.kept _ fun binding' hwork => ?_).symm
  rcases (hfiles _ _ hwork).1 with hkey | hderived
  · exact hne (h.keys d c other call hd hc hopen (by rw [hpc]; rfl) hkey)
  · exact hplain hderived

theorem Filed.commit_stored (h : Filed s) (hc : s.calls.rows c = some call)
    (hpc : call.pc = .returning receipt work) (hst : s.Stores work s') {key : String}
    {binding : Binding} {kind : AdActionKind} (hbinding : s'.receipts key = some binding)
    (haction : binding.actionKind = .ad kind) :
    (s'.queue.rows binding.taskId).isSome = true := by
  have hfiles := h.files c call hc
  rw [hpc] at hfiles
  by_cases hbound : ∃ binding', work.bound = some (key, binding')
  · obtain ⟨binding', hwork⟩ := hbound
    obtain rfl : binding' = binding := Option.some.inj ((hst.bound _ _ hwork).symm.trans hbinding)
    obtain ⟨-, -, ⟨row, hrow⟩ | hrow⟩ := hfiles key binding' hwork
    · exact hst.inserted _ _ hrow
    · exact hst.rows _ hrow
  · rw [hst.kept key (not_exists.mp hbound)] at hbinding
    exact hst.rows _ (h.stored key binding kind hbinding haction)

/-- A call that creates finds no receipt, one that has committed left one. -/
theorem Filed.commit_sole (h : Filed s) (hc : s.calls.rows c = some call)
    (hpc : call.pc = .returning receipt work) {x : CommandReceipt}
    (hd : s.calls.rows d = some other)
    (hx : other.Created x) (hsingle : call.cmd.Single) (hcreated : receipt.created = true) :
    other.cmd.commandKey ≠ call.cmd.commandKey := by
  intro hkey
  have hfiles := h.files c call hc
  have hanswers := h.answers c call hc hsingle
  have hother := h.answers d other hd hx.single
  rw [hpc] at hfiles hanswers
  rw [hx.committed] at hother
  rcases hanswers with hwork | ⟨-, hold, -⟩
  · have hnone := (hfiles _ _ hwork).2.1
    rw [← hkey, show s.receipts other.cmd.commandKey = _ from hother] at hnone
    cases hnone
  · rw [hcreated] at hold
    cases hold

/-- A commit adds one receipt where none was, with its task. -/
theorem Filed.commits (h : Filed s) (hinv : Inv s) (hc : s.calls.rows c = some call)
    (hpc : call.pc = .returning receipt work) (clk : Clock) :
    Filed ((s.publish call.cmd clk work).setPc c (.committed receipt)) := by
  have hst := h.store_stores hinv hc hpc
  have hown := fun hsingle => h.commit_own hc hpc hst hsingle
  have hsole : ∀ d other x, s.calls.rows d = some other → other.Created x → call.cmd.Single →
      receipt.created = true → other.cmd.commandKey ≠ call.cmd.commandKey :=
    fun _ _ _ hd hx => h.commit_sole hc hpc hd hx
  have hclosed : Filed ((s.store work).setPc c (.committed receipt)) := by
    refine ⟨?_, ?_, ?_, ?_, ?_, fun _ _ _ => h.commit_stored hc hpc hst, ?_⟩
    · rintro d e a b hd he hopenA hopenB hkey
      obtain ⟨-, rfl⟩ | ⟨-, hd⟩ := (setPc_rows hc (.committed receipt)).mp hd
      · cases hopenA
      · obtain ⟨-, rfl⟩ | ⟨-, he⟩ := (setPc_rows hc (.committed receipt)).mp he
        · cases hopenB
        · exact h.keys d e a b hd he hopenA hopenB hkey
    · rintro d other hd
      obtain ⟨-, rfl⟩ | ⟨hne, hd⟩ := (setPc_rows hc (.committed receipt)).mp hd
      · trivial
      · exact (h.commit_files hc hpc hst hne hd).evolves rfl fun _ => id
    · rintro d other hd hsingle
      obtain ⟨-, rfl⟩ | ⟨-, hd⟩ := (setPc_rows hc (.committed receipt)).mp hd
      · exact hown hsingle
      · exact (h.commit_answers hst hd hsingle).congr rfl
    · rintro d other hd hsingle hplain hlooking
      obtain ⟨-, rfl⟩ | ⟨hne, hd⟩ := (setPc_rows hc (.committed receipt)).mp hd
      · cases hlooking
      · have hfresh := h.commit_fresh hc hpc hst hne hd hsingle hplain hlooking
        exact hfresh
    · rintro d e a b key x y hd he hx hy
      obtain ⟨-, rfl⟩ | ⟨-, hd⟩ := (setPc_rows hc (.committed receipt)).mp hd
      · cases hx
      · obtain ⟨-, rfl⟩ | ⟨-, he⟩ := (setPc_rows hc (.committed receipt)).mp he
        · cases hy
        · exact h.apart d e a b key x y hd he hx hy
    · rintro d e a b x y hd he hx hy hkey
      obtain ⟨rfl, rfl⟩ | ⟨-, hd'⟩ := (setPc_rows hc (.committed receipt)).mp hd <;>
        obtain ⟨rfl, rfl⟩ | ⟨-, he'⟩ := (setPc_rows hc (.committed receipt)).mp he
      · rfl
      · obtain rfl := Pc.committed.inj hx.committed
        exact absurd hkey.symm (hsole e b y he' hy hx.single hx.created)
      · obtain rfl := Pc.committed.inj hy.committed
        exact absurd hkey (hsole d a x hd' hx hy.single hy.created)
      · exact h.once d e a b x y hd' he' hx hy hkey
  unfold Ledger.publish
  cases work.strengthened with
  | none => exact hclosed
  | some id => exact hclosed.evolves rfl rfl (evolves_strengthen _ id clk _ _).isSome

end Commits

theorem Filed.binds_run (h : Filed s) {key : String} {binding : Binding}
    (hfree : (s.receipts key).isSome = false)
    (hpending : s.receiptPending key = false) (hother : ∀ kind, binding.actionKind ≠ .ad kind) :
    Filed { s with receipts := fun k => if k = key then some binding else s.receipts k } where
  keys := h.keys
  files := by
    rintro d other hd
    have hfiles := h.files d other hd
    cases hopc : other.pc with
    | returning receipt work =>
      rw [hopc] at hfiles
      rintro key' binding' hwork
      obtain ⟨hkey, hnone, htask⟩ := hfiles key' binding' hwork
      refine ⟨hkey, ?_, htask⟩
      have hne : key' ≠ key := by
        rintro rfl
        have hsome : s.receiptPending key' = true :=
          receiptPending_iff.mpr ⟨d, other, binding', hd, by rw [hopc]; exact hwork⟩
        rw [hpending] at hsome
        cases hsome
      simpa [hne] using hnone
    | reusing | admitted | inserted =>
      rw [hopc] at hfiles
      exact hfiles
    | _ => trivial
  answers := by
    have hkeep : ∀ key' binding', s.receipts key' = some binding' →
        (if key' = key then some binding else s.receipts key') = some binding' := by
      intro key' binding' hbinding
      rw [if_neg, hbinding]
      rintro rfl
      simp [hbinding] at hfree
    rintro d other hd hsingle
    have hanswers := h.answers d other hd hsingle
    cases hopc : other.pc with
    | returning receipt work =>
      rw [hopc] at hanswers
      exact hanswers.imp_right fun hold => ⟨hold.1, hold.2.1, hkeep _ _ hold.2.2⟩
    | committed receipt =>
      rw [hopc] at hanswers
      exact hkeep _ _ hanswers
    | resolved | targeted | cleared | admitted | inserted =>
      rw [hopc] at hanswers
      exact hanswers
    | _ => trivial
  fresh := by
    rintro d other hd hsingle hplain hlooking binding' kind hbinding
    simp only at hbinding
    split at hbinding
    · cases hbinding
      exact hother kind
    · exact h.fresh d other hd hsingle hplain hlooking binding' kind hbinding
  apart := h.apart
  stored := by
    rintro key' binding' kind hbinding haction
    simp only at hbinding
    split at hbinding
    · cases hbinding
      exact absurd haction (hother kind)
    · exact h.stored key' binding' kind hbinding haction
  once := h.once

theorem Filed.advances (h : Filed s) (hinv : Inv s) (c : Nat) (clk : Clock) :
    Filed (s.advance host c clk) := by
  unfold Ledger.advance
  split
  · exact h
  · rename_i call hc
    split
    · rename_i hpc
      exact h.inserts hc hpc clk
    · rename_i hpc
      exact h.commits hinv hc hpc clk
    · exact h.moves hc (h.next hinv clk hc)

theorem Filed.step (h : Filed s) (hinv : Inv s) (l : Label) : Filed (s.step host l) := by
  cases l with
  | enqueueAdAction args => exact h.begins _
  | enqueueVerifiedPauseCompensation args => exact h.begins _
  | advance c clk => exact h.advances hinv c clk
  | rollback c =>
    simp only [Ledger.step, Ledger.rollback]
    split
    · exact h
    · rename_i hc
      split
      · exact h.moves hc (.of_final (.inl rfl))
      · exact h
  | queue clk op =>
    simp only [Ledger.step]
    split
    · exact h
    · exact h.evolves rfl rfl (evolves_elsewhere _ clk op).isSome
  | observe targetId row => exact h.evolves rfl rfl fun _ => id
  | bindCampaignRun key taskId resume runId =>
    simp only [Ledger.step, Ledger.bindCampaignRun]
    split
    · exact h
    · rename_i hfree
      simp only [Bool.or_eq_true, not_or, Bool.not_eq_true] at hfree
      refine h.binds_run hfree.2 hfree.1 ?_
      cases resume <;> simp

theorem run_filed (host : Host) (ls : List Label) :
    Inv (reached host ls) ∧ Filed (reached host ls) :=
  run_preserves (I := fun s => Inv s ∧ Filed s)
    (fun s l h => ⟨step_inv host s l h.1, h.2.step h.1 l⟩) ⟨inv_init, .init⟩ ls

theorem setPc_kept {d : Nat} (hc : s.calls.rows c = some call)
    (hne : ∀ other, s.calls.rows d = some other → d = c →
    pc = call.pc) : (s.setPc d pc).calls.rows c = some call := by
  by_cases hd : d = c
  · subst hd
    simp [Ledger.setPc, hc, hne call hc rfl]
  · simp [Ledger.setPc, hc, Ne.symm hd]

theorem step_committed (l : Label) {receipt : CommandReceipt} (hc : s.calls.rows c = some call)
    (hpc : call.pc = .committed receipt) : (s.step host l).calls.rows c = some call := by
  cases l with
  | enqueueAdAction args | enqueueVerifiedPauseCompensation args =>
    simp only [Ledger.step, Ledger.begin]
    split
    · exact hc
    · split
      · exact hc
      · have hne : c ≠ s.calls.next := Nat.ne_of_lt (Table.lt_next_of_rows hc)
        rw [Table.insert_rows, if_neg hne, hc]
  | advance d clk =>
    simp only [Ledger.step, Ledger.advance]
    split
    · exact hc
    · rename_i other hd
      have hother : d = c → other = call := by
        rintro rfl
        exact Option.some.inj (hd.symm.trans hc)
      split
      · rename_i task hopc
        have hne : d ≠ c := by
          rintro rfl
          rw [hother rfl, hpc] at hopc
          cases hopc
        simp only [Ledger.insertTask]
        (repeat' split) <;>
          first | exact hc | exact setPc_kept hc fun _ _ heq => absurd heq hne
      · rename_i receipt' work hopc
        have hne : d ≠ c := by
          rintro rfl
          rw [hother rfl, hpc] at hopc
          cases hopc
        refine setPc_kept ?_ fun _ _ heq => absurd heq hne
        simp only [Ledger.publish]
        split <;> exact hc
      · refine setPc_kept hc fun _ _ heq => ?_
        rw [hother heq]
        simp only [Ledger.next, hpc]
  | rollback d =>
    simp only [Ledger.step, Ledger.rollback]
    split
    · exact hc
    · rename_i other hd
      split
      · rename_i hopen
        refine setPc_kept hc fun _ _ heq => ?_
        subst heq
        obtain rfl : other = call := Option.some.inj (hd.symm.trans hc)
        rw [hpc] at hopen
        cases hopen
      · exact hc
  | queue clk op =>
    simp only [Ledger.step]
    split <;> exact hc
  | observe targetId row => exact hc
  | bindCampaignRun key taskId resume runId =>
    simp only [Ledger.step, Ledger.bindCampaignRun]
    split <;> exact hc

/-- Whatever happens later, a command stands as it was answered: its receipt is
in the ledger and its task in the queue. All commands under its key, but for the
generations of an auto-stop, are about the same ad and were answered with the
same task, and no two of them created one. -/
theorem receipts_stand (host : Host) (ls later : List Label) {c : Nat} {call : Call}
    {receipt : CommandReceipt}
    (hc : (reached host ls).calls.rows c = some call) (hpc : call.pc = .committed receipt)
    (hsingle : call.cmd.Single) :
    let s := reached host (ls ++ later)
    s.receipts call.cmd.commandKey = some (receipt.binding call.cmd) ∧
      (s.queue.rows receipt.taskId).isSome = true ∧
      ∀ d other receipt', s.calls.rows d = some other → other.pc = .committed receipt' →
        other.cmd.Single →
        other.cmd.commandKey = call.cmd.commandKey → receipt'.taskId = receipt.taskId ∧
          other.cmd.actionKind = call.cmd.actionKind ∧ other.cmd.targetId = call.cmd.targetId ∧
          (receipt.created = true → receipt'.created = true → d = c) := by
  intro s
  have hfiled : Filed s := (run_filed host (ls ++ later)).2
  have hkept : s.calls.rows c = some call := by
    simp only [s, run_append]
    exact run_preserves (I := fun s : Ledger => s.calls.rows c = some call)
      (fun _ l h => step_committed l h hpc) hc later
  have hreceipt := hfiled.answers c call hkept hsingle
  rw [hpc] at hreceipt
  refine ⟨hreceipt, hfiled.stored _ _ _ hreceipt rfl, ?_⟩
  rintro d other receipt' hd hpc' hsingle' hkey
  have hother := hfiled.answers d other hd hsingle'
  rw [hpc'] at hother
  have hsame : receipt'.binding other.cmd = receipt.binding call.cmd :=
    Option.some.inj (hother.symm.trans (hkey ▸ hreceipt))
  simp only [CommandReceipt.binding, Binding.mk.injEq, BoundAction.ad.injEq] at hsame
  refine ⟨hsame.1, hsame.2.1, hsame.2.2, fun hcreated hcreated' => ?_⟩
  exact hfiled.once d c other call receipt' receipt hd hkept ⟨hsingle', hpc', hcreated'⟩
    ⟨hsingle, hpc, hcreated⟩ hkey

def Pc.answer? : Pc → Option CommandReceipt
  | .committed receipt => some receipt
  | _ => none

theorem Pc.answer?_eq {receipt : CommandReceipt} (h : pc.answer? = some receipt) :
    pc = .committed receipt := by
  cases pc <;> cases h
  rfl

def operatorPause : AdAction :=
  { actionKind := .pauseAd, fbAdId := "238", requestedBy := "operator:web",
    idempotencyKey := "panel:238:1" }

def pausedByOperator : List Label :=
  .observe "238" (some sampleAd) :: .enqueueAdAction operatorPause :: statements 0 (tick 0)

theorem receipts_stand_operator :
    (reached sampleHost (pausedByOperator ++ .enqueueAdAction operatorPause ::
      statements 1 (tick 60))).receipts
      "panel:238:1" = some ⟨0, .ad .pauseAd, "238"⟩ := by
  have hanswered : ((reached sampleHost pausedByOperator).calls.rows 0).any (fun call =>
      call.pc.answer? == some ⟨0, true, .queued, 0⟩ && call.cmd.commandKey == "panel:238:1" &&
        call.cmd.targetId == "238" && call.cmd.actionKind == .pauseAd &&
          call.cmd.requestedBy == "operator:web") =
          true := by decide +kernel
  obtain ⟨call, hc, hcall⟩ := (Option.any_eq_true _ _).mp hanswered
  simp only [Bool.and_eq_true, beq_iff_eq] at hcall
  obtain ⟨⟨⟨⟨hpc, hkey⟩, htarget⟩, haction⟩, hrequested⟩ := hcall
  have hsingle : call.cmd.Single := by
    rw [Command.Single, hrequested]
    decide
  have hstands := (receipts_stand sampleHost pausedByOperator
    (.enqueueAdAction operatorPause :: statements 1 (tick 60)) hc (Pc.answer?_eq hpc) hsingle).1
  rwa [hkey, CommandReceipt.binding, htarget, haction] at hstands

end StopBot.Commands
