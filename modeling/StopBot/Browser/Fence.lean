import StopBot.Tasks.Operations

/-!
# The browser fence

`core/tasks/browser_fence.py` with the claims it fences: one gate row in
`system_config`, the shared leases of `browser_operation_leases` and the task
queue. Every transaction is one step at the clock it reads; entering the
maintenance takes several, so the others come in between. Time passes by the
`elapsed` of a step and never runs back.
-/

namespace StopBot.Browser

open Lib Tasks

def browserBacked : TaskType → Bool
  | .metaApiMutation | .observerScan | .campaignCreate => true
  | .trackerEventProcess => false

def browserReadyClaim : TaskType → Bool
  | .metaApiMutation | .campaignCreate => true
  | .observerScan | .trackerEventProcess => false

def boundedLeaseSeconds (value : Int) : Int :=
  max 15 (min value 300)

-- ------------------------------------------------------------
-- Rows
-- ------------------------------------------------------------

structure ConsumedCapability where
  nonce : String
  profileId : String
  expiresAt : Int
  consumedAt : Int
  deriving DecidableEq, Repr

structure Gate where
  owner : String
  source : String
  expiresAt : Int
  consumed : Option ConsumedCapability := none
  deriving DecidableEq, Repr

structure SharedLease where
  operationId : Uuid
  owner : Uuid
  operationKind : String
  target : Option String
  expiresAt : Int
  deriving DecidableEq, Repr

def Gate.live (g : Gate) (wall : Int) : Bool := wall < g.expiresAt

def SharedLease.live (l : SharedLease) (wall : Int) : Bool := wall < l.expiresAt

/-- `EXISTS` of an unexpired gate, as claims and acquisitions ask for it. -/
def gated (gate : Option Gate) (wall : Int) : Bool :=
  gate.any fun g => g.live wall

-- ------------------------------------------------------------
-- Statements on the gate
-- ------------------------------------------------------------

/-- `INSERT … ON CONFLICT (key) DO UPDATE` of an expired gate; none when the
row of another owner is still good. -/
def setGate (wall : Int) (owner operationKind : String) (leaseSeconds : Int)
    (gate : Option Gate) : Option Gate :=
  if gated gate wall then none
  else some { owner, source := operationKind,
              expiresAt := wall + seconds (boundedLeaseSeconds leaseSeconds) }

/-- `_renew` of the maintenance and of its guard; none when no row matched. -/
def renewGate (wall : Int) (owner : String) (leaseSeconds : Int) (gate : Option Gate) :
    Option Gate :=
  gate.bind fun g =>
    if g.owner = owner ∧ g.live wall = true then
      some { g with expiresAt := wall + seconds (boundedLeaseSeconds leaseSeconds) }
    else none

/-- The `DELETE` of `_close`. -/
def deleteGate (owner : String) (gate : Option Gate) : Option Gate :=
  gate.filter fun g => g.owner != owner

def capabilityMaxTtlSeconds : Int := 35

/-- `_CONSUME_MAINTENANCE_CAPABILITY_SQL`; none when no row matched. -/
def consumeCapability (wall : Int) (owner profileId nonce : String) (expiresAtEpoch : Int)
    (gate : Option Gate) : Option Gate :=
  gate.bind fun g =>
    let expires := seconds expiresAtEpoch
    if g.owner = owner ∧ g.live wall = true ∧ g.consumed = none ∧ wall < expires ∧
        expires ≤ wall + seconds capabilityMaxTtlSeconds ∧ expires ≤ g.expiresAt then
      some { g with consumed := some ⟨nonce, profileId, expires, wall⟩ }
    else none

-- ------------------------------------------------------------
-- Shared leases
-- ------------------------------------------------------------

inductive Acquisition
  | acquired
  | blocked
  | duplicateKey
  deriving DecidableEq, Repr

/-- `BrowserOperationFence.__aenter__`: expired leases are deleted and the new
one is inserted unless the gate is set. A repeated id rolls the deletion back. -/
def acquireShared (wall : Int) (gate : Option Gate) (operationId owner : Uuid)
    (operationKind : String) (target : Option String) (leaseSeconds : Int)
    (leases : List SharedLease) : Acquisition × List SharedLease :=
  let kept := leases.filter fun l => l.live wall
  if gated gate wall then (.blocked, kept)
  else if kept.any fun l => l.operationId == operationId then (.duplicateKey, leases)
  else (.acquired, kept ++ [{ operationId, owner, operationKind, target,
                              expiresAt := wall + seconds (boundedLeaseSeconds leaseSeconds) }])

/-- `BrowserOperationFence._renew`. -/
def renewShared (wall : Int) (operationId owner : Uuid) (leaseSeconds : Int)
    (leases : List SharedLease) : List SharedLease :=
  leases.map fun l =>
    if l.operationId = operationId ∧ l.owner = owner ∧ l.live wall = true then
      { l with expiresAt := wall + seconds (boundedLeaseSeconds leaseSeconds) }
    else l

/-- The `DELETE` of `BrowserOperationFence._close`. -/
def releaseShared (operationId owner : Uuid) (leases : List SharedLease) : List SharedLease :=
  leases.filter fun l => !(l.operationId == operationId && l.owner == owner)

-- ------------------------------------------------------------
-- The maintenance owner
-- ------------------------------------------------------------

/-- Where `BrowserExclusiveMaintenance` stands. `quiescent` is between the count
that came out zero and `assert_held`; `entered` tells the two ways to `_close`
apart, after `__aenter__` returned and before. -/
inductive Phase
  | outside
  | draining
  | quiescent
  | inside
  | closing (entered : Bool)
  deriving DecidableEq, Repr

structure Maintenance where
  phase : Phase := .outside
  leaseLost : Bool := false
  deriving DecidableEq, Repr

/-- `__aenter__` has returned and `__aexit__` has not. -/
def Maintenance.entered (m : Maintenance) : Bool :=
  match m.phase with
  | .inside | .closing true => true
  | .outside | .draining | .quiescent | .closing false => false

def Maintenance.renewing (m : Maintenance) : Bool :=
  match m.phase with
  | .draining | .quiescent | .inside => true
  | .outside | .closing _ => false

-- ------------------------------------------------------------
-- The system
-- ------------------------------------------------------------

structure Site where
  wall : Int
  queue : Queue
  gate : Option Gate
  leases : List SharedLease
  owners : String → Maintenance

def Site.init : Site :=
  { wall := 0, queue := Table.empty, gate := none, leases := [], owners := fun _ => {} }

/-- How far the clock of the database has moved, and the other two clocks. -/
structure Instant where
  elapsed : Nat
  now : Int := 0
  host : Int := 0
  deriving DecidableEq, Repr

/-- In a claim of `work` the flag is the readiness of the channel, which only
the claims that need it read. An owner is the hexadecimal uuid of its instance. -/
inductive Label
  | work (op : QueueOp)
  | acquire (operationId owner : Uuid) (operationKind : String) (target : Option String)
      (leaseSeconds : Int)
  | renewLease (operationId owner : Uuid) (leaseSeconds : Int)
  | release (operationId owner : Uuid)
  | enter (owner operationKind : String) (leaseSeconds : Int)
  | poll (owner : String) (pastDeadline : Bool)
  | assertHeld (owner : String) (leaseSeconds : Int)
  | renew (owner : String) (leaseSeconds : Int)
  | renewRaises (owner : String)
  | unwind (owner : String)
  | close (owner : String) (deleted : Bool)
  | adopt (owner : String) (leaseSeconds : Int)
  | consume (owner profileId nonce : String) (expiresAtEpoch : Int)
  deriving Repr

/-- The part of a claim that no row decides: `_BROWSER_READY_CLAIM_SQL` asks for
the channel and the gate, `_CLAIM_SQL` for the gate of browser-backed types. -/
def claimOpen (taskType : TaskType) (channelReady gated : Bool) : Bool :=
  if browserReadyClaim taskType then channelReady && !gated
  else !(browserBacked taskType && gated)

def admitted (gated : Bool) : QueueOp → QueueOp
  | .claim c channelReady locked => .claim c (claimOpen c.taskType channelReady gated) locked
  | op => op

def activeWorkCount (wall : Int) (q : Queue) (leases : List SharedLease) : Nat :=
  (q.entries.countP fun entry => entry.2.status == .running && browserBacked entry.2.taskType) +
    leases.countP fun l => l.live wall

def Site.passes (s : Site) (elapsed : Nat) : Site :=
  { s with wall := s.wall + elapsed }

def Site.clock (s : Site) (i : Instant) : Clock :=
  { now := i.now, wall := s.wall, host := i.host }

def Site.setOwner (s : Site) (owner : String) (m : Maintenance) : Site :=
  { s with owners := fun o => if o = owner then m else s.owners o }

/-- One transaction, or one move of an owner between two, at the time it has. -/
def Site.act (s : Site) (i : Instant) : Label → Site
  | .work op =>
    { s with queue := Tasks.step s.queue (s.clock i, admitted (gated s.gate s.wall) op) }
  | .acquire operationId owner kind target leaseSeconds =>
    { s with leases := (acquireShared s.wall s.gate operationId owner kind target leaseSeconds
        s.leases).2 }
  | .renewLease operationId owner leaseSeconds =>
    { s with leases := renewShared s.wall operationId owner leaseSeconds s.leases }
  | .release operationId owner => { s with leases := releaseShared operationId owner s.leases }
  | .enter owner kind leaseSeconds =>
    let m := s.owners owner
    if m.phase = .outside then
      match setGate s.wall owner kind leaseSeconds s.gate with
      | some gate => { s with gate := some gate }.setOwner owner { m with phase := .draining }
      | none => s
    else s
  | .poll owner pastDeadline =>
    let m := s.owners owner
    if m.phase = .draining then
      if m.leaseLost then s.setOwner owner { m with phase := .closing false }
      else if activeWorkCount s.wall s.queue s.leases = 0 then
        s.setOwner owner { m with phase := .quiescent }
      else if pastDeadline then s.setOwner owner { m with phase := .closing false }
      else s
    else s
  | .assertHeld owner leaseSeconds =>
    let m := s.owners owner
    if m.phase = .quiescent ∨ m.phase = .inside then
      match if m.leaseLost then none else renewGate s.wall owner leaseSeconds s.gate with
      | some gate => { s with gate := some gate }.setOwner owner { m with phase := .inside }
      | none => s.setOwner owner { phase := .closing m.entered, leaseLost := true }
    else s
  | .renew owner leaseSeconds =>
    let m := s.owners owner
    if m.renewing then
      match renewGate s.wall owner leaseSeconds s.gate with
      | some gate => { s with gate := some gate }
      | none => s.setOwner owner { m with leaseLost := true }
    else s
  | .renewRaises owner =>
    let m := s.owners owner
    if m.renewing then s.setOwner owner { m with leaseLost := true } else s
  | .unwind owner =>
    -- the body ends, or an error or a cancellation reaches the owner's task
    let m := s.owners owner
    if m.renewing then s.setOwner owner { m with phase := .closing m.entered } else s
  | .close owner deleted =>
    let m := s.owners owner
    match m.phase with
    | .closing _ =>
      { s with gate := if deleted then deleteGate owner s.gate else s.gate }.setOwner owner
        { m with phase := .outside }
    | _ => s
  | .adopt owner leaseSeconds =>
    match renewGate s.wall owner leaseSeconds s.gate with
    | some gate => { s with gate := some gate }
    | none => s
  | .consume owner profileId nonce expiresAtEpoch =>
    match consumeCapability s.wall owner profileId nonce expiresAtEpoch s.gate with
    | some gate => { s with gate := some gate }
    | none => s

def Site.step (s : Site) (e : Instant × Label) : Site :=
  (s.passes e.1.elapsed).act e.1 e.2

def Site.claimed (s : Site) (e : Instant × Label) : Option (Nat × Uuid) :=
  let s := s.passes e.1.elapsed
  match e.2 with
  | .work op => claimOf s.queue (s.clock e.1, admitted (gated s.gate s.wall) op)
  | _ => none

end StopBot.Browser
