import StopBot.Commands.Service

/-!
# The command ledger

The queue, the receipts and the catalog, with the calls of the service that are
under way. A call is one transaction and takes one statement at a time, so a
list of labels is an interleaving of calls with each other and with everything
else that writes the queue. A statement reads what is committed; what a call
wrote is kept with the call and shows when it commits. The advisory locks are
held to the end of the transaction, one to a key and one to a target; a call
that has to wait does not move.

Rows are not deleted here: the retention sweep, which deletes settled tasks and
by cascade their receipts, is left out.
-/

namespace StopBot.Commands

open Lib Tasks Worker

/-- What a call wrote and has not committed, and whether it holds its target. -/
structure Work where
  targetLocked : Bool
  strengthened : Option Nat := none
  inserted : Option (Nat × TaskRow) := none
  bound : Option (String × Binding) := none
  deriving Repr

/-- Where `_enqueue` stands. From `keyed` on it holds the lock of its key, from
`targeted` on the lock of its target. `source` is the rejected auto-stop that
the call is a new generation of. -/
inductive Pc
  | keyed
  | unbound
  | resolved (source : Option Bound)
  | targeted (source : Option Bound)
  | reusing (barrier : Latest)
  | cleared (source : Option Bound) (latest : Option Latest)
  | admitted (task : NewTask)
  | inserted (id : Nat) (row : TaskRow)
  | returning (receipt : CommandReceipt) (work : Work)
  | committed (receipt : CommandReceipt)
  | raised (error : CommandError)
  | rolledBack
  deriving Repr

def Pc.isOpen : Pc → Bool
  | .committed _ | .raised _ | .rolledBack => false
  | _ => true

def Pc.locksTarget : Pc → Bool
  | .targeted _ | .reusing _ | .cleared _ _ | .admitted _ | .inserted _ _ => true
  | .returning _ work => work.targetLocked
  | _ => false

def Pc.row? : Pc → Option (Nat × TaskRow)
  | .inserted id row => some (id, row)
  | .returning _ work => work.inserted
  | _ => none

def Pc.receipt? : Pc → Option (String × Binding)
  | .returning _ work => work.bound
  | _ => none

structure Call where
  cmd : Command
  pc : Pc

structure Ledger where
  queue : Queue
  receipts : String → Option Binding
  catalog : String → Option CatalogRow
  calls : Table Call

def Ledger.init : Ledger :=
  { queue := .empty, receipts := fun _ => none, catalog := fun _ => none, calls := .empty }

-- ------------------------------------------------------------
-- Locks
-- ------------------------------------------------------------

def Ledger.keyLocked (s : Ledger) (key : String) : Bool :=
  s.calls.entries.any fun entry => entry.2.pc.isOpen && entry.2.cmd.commandKey == key

def Ledger.targetLocked (s : Ledger) (targetId : String) : Bool :=
  s.calls.entries.any fun entry => entry.2.pc.locksTarget && entry.2.cmd.targetId == targetId

/-- An insert into the queue under `key` waits for another transaction. -/
def Ledger.rowPending (s : Ledger) (key : String) : Bool :=
  s.calls.entries.any fun entry => entry.2.pc.row?.any fun row => row.2.idempotencyKey == key

/-- An insert into the receipts under `key` waits for another transaction. -/
def Ledger.receiptPending (s : Ledger) (key : String) : Bool :=
  s.calls.entries.any fun entry => entry.2.pc.receipt?.any fun receipt => receipt.1 == key

-- ------------------------------------------------------------
-- Statements
-- ------------------------------------------------------------

def Ledger.getBoundCommand (s : Ledger) (key : String) : Option Bound :=
  (s.receipts key).bind fun binding =>
    (s.queue.rows binding.taskId).map fun row =>
      { id := binding.taskId
        actionKind := binding.actionKind
        targetId := binding.targetId
        row := row }

/-- `ORDER BY task.id DESC LIMIT 1` over the pause and activate tasks of the target. -/
def Ledger.latestTask (s : Ledger) (targetId : String) : Option (Nat × TaskRow) :=
  Sql.first (fun a b => b.1 < a.1)
    (s.queue.entries.filter fun entry => isAdCommandOf targetId entry.2)

def Ledger.latest (s : Ledger) (targetId : String) : Option Latest :=
  (s.latestTask targetId).map fun entry =>
    { id := entry.1
      row := entry.2
      hasPostEvidence := (s.catalog targetId).any (·.hasPostEvidence entry.2) }

/-- `_bind_command_key`: the receipt to insert, none when the same one is there. -/
def Ledger.bindCommandKey (s : Ledger) (key : String) (binding : Binding) :
    Except CommandError (Option (String × Binding)) :=
  match s.receipts key with
  | none => .ok (some (key, binding))
  | some _ =>
    match s.getBoundCommand key with
    | none => .error (.conflict "idempotency binding disappeared during reconciliation")
    | some bound =>
      if bound.id = binding.taskId ∧ bound.actionKind = binding.actionKind ∧
          bound.targetId = binding.targetId then
        .ok none
      else .error (.conflict "idempotency key is bound to another command")

-- ------------------------------------------------------------
-- One call, statement by statement
-- ------------------------------------------------------------

def Ledger.atKeyed (s : Ledger) (cmd : Command) : Pc :=
  match s.getBoundCommand cmd.commandKey with
  | none => .unbound
  | some bound =>
    match receiptForSemantics bound cmd.actionKind cmd.targetId with
    | .error e => .raised e
    | .ok receipt =>
      if isRejectedAutostopRetrySource bound.row cmd.actionKind cmd.requestedBy then
        .resolved (some bound)
      else .returning receipt { targetLocked := false, strengthened := some receipt.taskId }

def outsideLedger : CommandError :=
  .conflict "idempotency key exists outside the command receipt ledger"

def Ledger.atUnbound (s : Ledger) (cmd : Command) : Pc :=
  if keyTaken s.queue cmd.commandKey then .raised outsideLedger else .resolved none

def Ledger.atResolved (s : Ledger) (cmd : Command) (source : Option Bound) : Pc :=
  if s.targetLocked cmd.targetId then .resolved source else .targeted source

def barrierReceipt (barrier : Latest) : CommandReceipt :=
  { taskId := barrier.id
    created := false
    state := commandState barrier.row
    correlationId := barrier.row.correlationId }

def barrierWork (barrier : Latest) : Work :=
  { targetLocked := true
    strengthened := if isActive barrier.row then some barrier.id else none }

def Ledger.atTargeted (s : Ledger) (cmd : Command) (source : Option Bound) : Pc :=
  let latest := s.latest cmd.targetId
  match standingBarrier cmd latest with
  | none => .cleared source latest
  | some barrier =>
    let action := barrier.row.mutationKind.getD "None"
    if action ≠ cmd.actionKind.text then
      let lifecycle := if isActive barrier.row then "active" else "unresolved"
      .raised (.conflict
        ("ad " ++ cmd.targetId ++ " already has " ++ lifecycle ++ " " ++ action ++ " command"))
    else if source.isSome then .returning (barrierReceipt barrier) (barrierWork barrier)
    else .reusing barrier

def Ledger.atReusing (s : Ledger) (cmd : Command) (barrier : Latest) : Pc :=
  if s.receiptPending cmd.commandKey then .reusing barrier
  else
    match s.bindCommandKey cmd.commandKey
        { taskId := barrier.id, actionKind := .ad cmd.actionKind, targetId := cmd.targetId } with
    | .error e => .raised e
    | .ok bound => .returning (barrierReceipt barrier) { barrierWork barrier with bound := bound }

def taskIdentity (host : Host) (cmd : Command) (source : Option Bound) (latest : Option Latest) :
    String × Uuid :=
  match source with
  | none => (cmd.commandKey, cmd.correlationId)
  | some source =>
    let predecessorTaskId := (latest.map Latest.id).getD source.id
    (autostopRetryIdempotencyKey host cmd.commandKey predecessorTaskId, source.row.correlationId)

def Ledger.atCleared (s : Ledger) (host : Host) (clk : Clock) (cmd : Command)
    (source : Option Bound) (latest : Option Latest) : Pc :=
  match checkTarget host clk.host cmd (s.catalog cmd.targetId) with
  | .error e => .raised e
  | .ok payload =>
    let identity := taskIdentity host cmd source latest
    .admitted (createMutationTask cmd payload identity.1 identity.2)

def Ledger.atInserted (s : Ledger) (cmd : Command) (id : Nat) (row : TaskRow) : Pc :=
  if s.receiptPending row.idempotencyKey then .inserted id row
  else
    match s.bindCommandKey row.idempotencyKey
        { taskId := id, actionKind := .ad cmd.actionKind, targetId := cmd.targetId } with
    | .error e => .raised e
    | .ok bound =>
      .returning
        { taskId := id, created := true, state := .queued, correlationId := row.correlationId }
        { targetLocked := true, inserted := some (id, row), bound := bound }

/-- The next place of a call whose statement writes nothing that others see. -/
def Ledger.next (s : Ledger) (host : Host) (clk : Clock) (call : Call) : Pc :=
  match call.pc with
  | .keyed => s.atKeyed call.cmd
  | .unbound => s.atUnbound call.cmd
  | .resolved source => s.atResolved call.cmd source
  | .targeted source => s.atTargeted call.cmd source
  | .reusing barrier => s.atReusing call.cmd barrier
  | .cleared source latest => s.atCleared host clk call.cmd source latest
  | .inserted id row => s.atInserted call.cmd id row
  | pc => pc

def Ledger.setPc (s : Ledger) (c : Nat) (pc : Pc) : Ledger :=
  { s with calls := s.calls.updateAt c fun call => some { call with pc := pc } }

/-- `INSERT INTO task_queue … ON CONFLICT DO NOTHING`; the id is the sequence's. -/
def Ledger.insertTask (s : Ledger) (c : Nat) (task : NewTask) (clk : Clock) : Ledger :=
  if s.rowPending task.idempotencyKey then s
  else if keyTaken s.queue task.idempotencyKey then s.setPc c (.raised outsideLedger)
  else { s with queue := s.queue.reserve }.setPc c (.inserted s.queue.next (task.row clk))

/-- The rows a call inserted become visible; a stored receipt is never replaced. -/
def Ledger.store (s : Ledger) (work : Work) : Ledger :=
  { s with
    queue := match work.inserted with
      | some (id, row) => s.queue.fill id row
      | none => s.queue
    receipts := match work.bound with
      | some (key, binding) =>
        fun k => if k = key then s.receipts k <|> some binding else s.receipts k
      | none => s.receipts }

def Ledger.publish (s : Ledger) (cmd : Command) (clk : Clock) (work : Work) : Ledger :=
  let stored := s.store work
  match work.strengthened with
  | none => stored
  | some id =>
    { stored with
      queue := stored.queue.updateAt id
        (strengthenActiveTask clk cmd.maxAttempts cmd.requestedPriority) }

def Ledger.advance (s : Ledger) (host : Host) (c : Nat) (clk : Clock) : Ledger :=
  match s.calls.rows c with
  | none => s
  | some call =>
    match call.pc with
    | .admitted task => s.insertTask c task clk
    | .returning receipt work => (s.publish call.cmd clk work).setPc c (.committed receipt)
    | _ => s.setPc c (s.next host clk call)

-- ------------------------------------------------------------
-- Steps
-- ------------------------------------------------------------

def createsAdCommand : QueueOp → Bool
  | .create task =>
    task.taskType == .metaApiMutation &&
      (Obj.text task.payload "mutation_kind").any (["pause_ad", "activate_ad"].contains ·)
  | _ => false

/-- An operation of the queue by anyone but this service: no other caller
inserts a pause or activate task. -/
structure Elsewhere where
  op : QueueOp
  foreign : createsAdCommand op = false

def insertedKey? : QueueOp → Option String
  | .create task => some task.idempotencyKey
  | _ => none

/-- `rollback` is a lost connection, an authorizer that raised, or the end of an
enclosing transaction that failed. -/
inductive Label
  | enqueueAdAction (args : AdAction)
  | enqueueVerifiedPauseCompensation (args : PauseCompensation)
  | advance (call : Nat) (clk : Clock)
  | rollback (call : Nat)
  | queue (clk : Clock) (op : Elsewhere)
  | observe (targetId : String) (row : Option CatalogRow)
  | bindCampaignRun (key : String) (taskId : Nat) (resume : Bool) (runId : String)

def Ledger.begin (s : Ledger) (prepared : Except CommandError Command) : Ledger :=
  match prepared with
  | .error _ => s
  | .ok cmd =>
    if s.keyLocked cmd.commandKey then s
    else { s with calls := s.calls.insert { cmd := cmd, pc := .keyed } }

def Ledger.rollback (s : Ledger) (c : Nat) : Ledger :=
  match s.calls.rows c with
  | none => s
  | some call => if call.pc.isOpen then s.setPc c .rolledBack else s

def Ledger.bindCampaignRun (s : Ledger) (key : String) (binding : Binding) : Ledger :=
  if s.receiptPending key || (s.receipts key).isSome then s
  else { s with receipts := fun k => if k = key then some binding else s.receipts k }

def Ledger.step (host : Host) (s : Ledger) : Label → Ledger
  | .enqueueAdAction args => s.begin (Commands.enqueueAdAction args)
  | .enqueueVerifiedPauseCompensation args =>
    s.begin (Commands.enqueueVerifiedPauseCompensation args)
  | .advance c clk => s.advance host c clk
  | .rollback c => s.rollback c
  | .queue clk op =>
    if (insertedKey? op.op).any s.rowPending then s
    else { s with queue := Tasks.step s.queue (clk, op.op) }
  | .observe targetId row =>
    { s with catalog := fun id => if id = targetId then row else s.catalog id }
  | .bindCampaignRun key taskId resume runId =>
    s.bindCampaignRun key
      { taskId := taskId
        actionKind := if resume then .resumeCampaignRun else .abortCampaignRun
        targetId := runId }

abbrev reached (host : Host) (ls : List Label) : Ledger :=
  run (Ledger.step host) Ledger.init ls

end StopBot.Commands
