import StopBot.Lib.Jsonb
import StopBot.Lib.PyText

/-!
# Rows of `task_queue`

The columns of `core/models/tasks/task_queue.py`, the enumerations its check
constraints allow, and what the statements of the queue share: the clocks they
read, the lease fence, the scheduling windows and the readings of `result`.
-/

namespace StopBot.Tasks

open Lib

abbrev Uuid := Nat

inductive TaskType
  | metaApiMutation
  | observerScan
  | campaignCreate
  | trackerEventProcess
  deriving DecidableEq, Repr

inductive Status
  | pending
  | running
  | succeeded
  | failed
  | retrying
  | cancelled
  deriving DecidableEq, Repr

inductive Lane
  | money
  | interactive
  | bulk
  | background
  deriving DecidableEq, Repr

/-- `status IN ('pending', 'retrying')`. -/
@[grind =] def Status.queued : Status → Bool
  | .pending | .retrying => true
  | .running | .succeeded | .failed | .cancelled => false

/-- `status IN ('succeeded', 'failed', 'cancelled')`. -/
@[grind =] def Status.terminal : Status → Bool
  | .succeeded | .failed | .cancelled => true
  | .pending | .running | .retrying => false

/-- A row of the queue; its id is the key it is stored under. -/
structure TaskRow where
  taskType : TaskType
  status : Status
  idempotencyKey : String
  payload : Obj
  result : Option Obj := none
  attemptCount : Int := 0
  maxAttempts : Int := 5
  lastError : Option String := none
  requestedBy : String
  createdByChatId : Option Int := none
  createdAt : Int
  updatedAt : Int
  completedAt : Option Int := none
  externalStartedAt : Option Int := none
  lane : Lane
  priority : Int := 0
  availableAt : Int
  deadlineAt : Option Int
  leaseOwner : Option Uuid := none
  leaseToken : Nat := 0
  leaseExpiresAt : Option Int := none
  cancelRequestedAt : Option Int := none
  cancelReason : Option String := none
  correlationId : Uuid := 0
  manualReviewObservation : Option String := none
  manualReviewAt : Option Int := none
  manualReviewBy : Option String := none
  deriving Repr

/-- The instants one statement may read: `NOW()` of its transaction,
`clock_timestamp()`, and the clock of the Python process. -/
structure Clock where
  now : Int
  wall : Int
  host : Int
  deriving DecidableEq, Repr

def seconds (n : Int) : Int := n * 1000000

-- ------------------------------------------------------------
-- Lease fence
-- ------------------------------------------------------------

/-- The pair a worker presents; a token that is not positive is refused. -/
structure Fence where
  owner : Option Uuid
  token : Option Nat
  deriving DecidableEq, Repr

def hasValidFence (f : Fence) : Bool :=
  match f.owner, f.token with
  | some _, some token => 0 < token
  | _, _ => false

/-- `lease_owner = :lease_owner AND lease_token = :lease_token`. -/
def TaskRow.fencedBy (row : TaskRow) (f : Fence) : Bool :=
  match f.owner, f.token with
  | some owner, some token => row.leaseOwner == some owner && row.leaseToken == token
  | _, _ => false

/-- `lease_expires_at > clock_timestamp()`. -/
def TaskRow.leaseLive (row : TaskRow) (wall : Int) : Bool :=
  match row.leaseExpiresAt with
  | some expires => wall < expires
  | none => false

def TaskRow.heldBy (row : TaskRow) (clk : Clock) (f : Fence) : Bool :=
  row.status == .running && row.fencedBy f && row.leaseLive clk.wall

/-- The lease of a running row is over, or the row never had one and is stale. -/
def TaskRow.stuck (row : TaskRow) (now stuckAfterSeconds : Int) : Bool :=
  match row.leaseExpiresAt with
  | some expires => expires ≤ now
  | none => row.updatedAt < now - seconds stuckAfterSeconds

-- ------------------------------------------------------------
-- Readings of `result` and `payload`
-- ------------------------------------------------------------

/-- `COALESCE(result, '{}'::jsonb)`. -/
def TaskRow.resultObj (row : TaskRow) : Obj :=
  row.result.getD []

/-- `COALESCE(result->>key, 'false') = 'true'`. -/
def TaskRow.flag (row : TaskRow) (key : String) : Bool :=
  Obj.text row.resultObj key == some "true"

/-- `COALESCE(result->>'reconcile_required', 'false') = 'true'`. -/
def TaskRow.reconcileRequired (row : TaskRow) : Bool :=
  row.flag "reconcile_required"

/-- `result->>'outcome'`. -/
def TaskRow.outcome (row : TaskRow) : Option String :=
  Obj.text row.resultObj "outcome"

def TaskRow.mutationKind (row : TaskRow) : Option String :=
  Obj.text row.payload "mutation_kind"

def TaskRow.targetId (row : TaskRow) : Option String :=
  Obj.text row.payload "target_id"

-- ------------------------------------------------------------
-- Scheduling windows
-- ------------------------------------------------------------

/-- `_queue_wait_seconds`; the money lane is not in the table and takes the default. -/
def queueWaitSeconds : Lane → Int
  | .interactive => 120
  | .bulk => 30 * 60
  | .background | .money => 120

def executionWindowSeconds : Lane → Int
  | .money => 30
  | .interactive => 120
  | .bulk => 30 * 60
  | .background => 120

def finalizeHeadroomSeconds : Int := 60

def defaultPriority : Lane → Int
  | .money => 100
  | .interactive => 50
  | .bulk => 20
  | .background => 0

/-- `min(30 * 2 ** attempt, 300)`; attempts count up from zero. -/
def retryDelaySeconds (attempt : Int) : Int :=
  min (30 * 2 ^ attempt.toNat) 300

def calcRetryAvailableAt (clk : Clock) (attempt : Int) : Int :=
  clk.host + seconds (retryDelaySeconds attempt)

/-- The queue-wait deadline of a retry, counted from `start`; none for money. -/
def retryDeadline (lane : Lane) (start : Int) : Option Int :=
  if lane = .money then none else some (start + seconds (queueWaitSeconds lane))

/-- `WHEN 'money' THEN 30 WHEN 'bulk' THEN 1800 ELSE 120`, of the duplicate recovery. -/
def recoveryWindowSeconds : Lane → Int
  | .money => 30
  | .bulk => 1800
  | .interactive | .background => 120

/-- `error[:8000]`. -/
def clipError (error : String) : String :=
  PyText.clip 8000 error

end StopBot.Tasks
