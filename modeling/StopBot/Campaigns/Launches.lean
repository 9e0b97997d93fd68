import StopBot.Campaigns.Runs

/-!
# The launch of a campaign, statement by statement

`_launch_one_campaign` of `apps/api/routers/v1/campaigns_create.py` with
`core/campaign_builder/creative_ledger.py`, under READ COMMITTED. What a launch
inserts is visible to others once it commits; a statement that writes the
counter of the offer locks its row until the launch ends, and another launch
waits for it there. The provenance of a preset does not reach the run.
-/

namespace StopBot.Campaigns

open Lib Tasks

-- ------------------------------------------------------------
-- The creative ledger
-- ------------------------------------------------------------

/-- `substring(code from 'CR([0-9]+)$')::int`. -/
def codeNumber (code : String) : Option Nat :=
  let chars := code.toList.reverse
  let digits := chars.takeWhile Char.isDigit
  match chars.dropWhile Char.isDigit with
  | 'R' :: 'C' :: _ => if digits.isEmpty then none else some (Nat.ofDigitChars 10 digits.reverse 0)
  | _ => none

def realMax (st : Store) (offer : String) : Nat :=
  (st.ledger.filterMap fun entry =>
    if entry.1 = offer then codeNumber entry.2 else none).foldl max 0

/-- `record_creative`: a code is recorded once for an offer. -/
def recordCreative (offer code : String) (st : Store) : Store :=
  if st.ledger.contains (offer, code) then st
  else { st with ledger := (offer, code) :: st.ledger }

def Store.setSeq (st : Store) (offer : String) (value : Option Nat) : Store :=
  { st with seq := fun c => if c = offer then value else st.seq c }

-- ------------------------------------------------------------
-- A launch in progress
-- ------------------------------------------------------------

inductive LaunchStage
  | inserted
  | counted (inflight : Nat)
  | read (realMax : Nat)
  | reconciled
  | allocated (base : Nat)
  deriving DecidableEq, Repr

/-- `locked` is the value of the counter before the first write of it, which a
rollback restores. -/
structure Launch where
  config : CampaignConfig
  key : String
  stage : LaunchStage
  locked : Option (Option Nat) := none
  deriving Repr

abbrev Launches := Nat → Option Launch

def Launches.set (ls : Launches) (id : Nat) (launch : Option Launch) : Launches :=
  fun i => if i = id then launch else ls i

def Launches.list (ls : Launches) (next : Nat) : List (Nat × Launch) :=
  (List.range next).filterMap fun id => (ls id).map fun launch => (id, launch)

def holder (ls : Launches) (next id : Nat) (offer : String) : Option Launch :=
  ((ls.list next).find? fun entry =>
    entry.1 != id && entry.2.config.offerCode == offer && entry.2.locked.isSome).map Prod.snd

def inflightRuns (st : Store) (id : Nat) (offer : String) : Nat :=
  (st.runs.entries.filter fun entry =>
    entry.2.config.offerCode == offer && !entry.2.status.terminal && entry.1 != id).length

def launchTask (run : Nat) (key : String) (config : CampaignConfig)
    (correlation : Uuid) : NewTask :=
  { taskType := .campaignCreate
    idempotencyKey := key
    payload := ("run_id", .str (runText run)) :: contextPayload config
    requestedBy := "api_launch"
    correlationId := correlation }

/-- `INSERT … ON CONFLICT (idempotency_key) DO NOTHING`: a run with the key,
committed or not, makes the launch a replay or lets it wait. -/
def runKeyTaken (st : Store) (ls : Launches) (key : String) : Bool :=
  (st.runs.entries.any fun entry => entry.2.idempotencyKey == key) ||
    (ls.list st.runs.next).any fun entry => entry.2.key == key

def beginLaunch (config : CampaignConfig) (key : String) (st : Store) (ls : Launches) :
    Store × Launches :=
  if runKeyTaken st ls key then (st, ls)
  else
    ({ st with runs := st.runs.reserve },
      ls.set st.runs.next (some { config, key, stage := .inserted }))

/-- The counter as a statement of the launch `id` sees it committed. -/
def committedSeq (st : Store) (ls : Launches) (id : Nat) (offer : String) : Option Nat :=
  match holder ls st.runs.next id offer with
  | some other => other.locked.getD none
  | none => st.seq offer

/-- `UPDATE offer_creative_seq SET next_seq = :n WHERE … AND next_seq > :n`. A
row that the condition leaves out is not waited for. -/
def lowerSeq (n id : Nat) (launch : Launch) (st : Store) (ls : Launches) : Store × Launches :=
  let offer := launch.config.offerCode
  if (committedSeq st ls id offer).any (n < ·) then
    if (holder ls st.runs.next id offer).isSome then (st, ls)
    else
      (st.setSeq offer (some n), ls.set id (some { launch with
        stage := .reconciled, locked := some (launch.locked.getD (st.seq offer)) }))
  else (st, ls.set id (some { launch with stage := .reconciled }))

def allocateSpan (id : Nat) (launch : Launch) (st : Store) (ls : Launches) : Store × Launches :=
  let offer := launch.config.offerCode
  let span := totalCodeSpan launch.config
  if span = 0 then
    let base := (committedSeq st ls id offer).getD 0 + 1
    (st, ls.set id (some { launch with stage := .allocated base }))
  else if (holder ls st.runs.next id offer).isSome then (st, ls)
  else
    let newSeq := (st.seq offer).getD 0 + span
    (st.setSeq offer (some newSeq), ls.set id (some { launch with
      stage := .allocated (newSeq - span + 1)
      locked := some (launch.locked.getD (st.seq offer)) }))

def launchedRun (clk : Clock) (launch : Launch) (base : Nat) : CampaignRun :=
  { status := .queued, config := { launch.config with codeStart := base }
    idempotencyKey := launch.key, updatedAt := clk.now }

def commitLaunch (clk : Clock) (correlation : Uuid) (id base : Nat) (launch : Launch) (st : Store)
    (ls : Launches) : Store × Launches :=
  let run := launchedRun clk launch base
  let task := launchTask id launch.key launch.config correlation
  let queue := if keyTaken st.queue task.idempotencyKey then st.queue else
    st.queue.insert (task.row clk)
  ({ st with runs := st.runs.fill id run, queue }, ls.set id none)

def stepLaunch (clk : Clock) (correlation : Uuid) (id : Nat) (st : Store) (ls : Launches) :
    Store × Launches :=
  match ls id with
  | none => (st, ls)
  | some launch =>
    let offer := launch.config.offerCode
    match launch.stage with
    | .inserted =>
      (st, ls.set id (some { launch with stage := .counted (inflightRuns st id offer) }))
    | .counted inflight =>
      (st, ls.set id (some { launch with
        stage := if inflight = 0 then .read (realMax st offer) else .reconciled }))
    | .read n => lowerSeq n id launch st ls
    | .reconciled => allocateSpan id launch st ls
    | .allocated base => commitLaunch clk correlation id base launch st ls

/-- The launch fails and is rolled back; the id of its run is spent. -/
def rollbackLaunch (id : Nat) (st : Store) (ls : Launches) : Store × Launches :=
  match ls id with
  | none => (st, ls)
  | some launch =>
    (match launch.locked with
      | some value => st.setSeq launch.config.offerCode value
      | none => st, ls.set id none)

end StopBot.Campaigns
