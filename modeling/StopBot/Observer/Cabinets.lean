import StopBot.Lib.PyText
import StopBot.Lib.Runs
import StopBot.Observer.StateMachine
import StopBot.Tasks.Row

/-!
# Actors of a cabinet

`core/observer/cabinet_supervisor.py` with the fence of `core/observer/writers.py`.
An actor holds a session lock and a row lease; both can be lost while it still
runs, and a statement may be carried out although its answer never arrives. What
keeps a late actor from writing is the token of the lease, which every write
compares in its own transaction.
-/

namespace StopBot.Observer

open Lib
open Tasks (Clock)

-- ------------------------------------------------------------
-- The lease of a cabinet
-- ------------------------------------------------------------

structure CabinetLease where
  adAccountId : String
  ownerInstance : Uuid
  leaseToken : Nat
  deriving DecidableEq, Repr

/-- A row of `cabinet_runtime`. -/
structure CabinetRuntime where
  ownerInstance : Option Uuid
  leaseToken : Nat
  leaseExpiresAt : Option Int
  nextScanAt : Option Int := none
  lastProgressAt : Int
  lastSnapshotAt : Option Int := none
  stage : String
  lastErrorCode : Option String := none
  deriving DecidableEq, Repr

/-- `owner_instance = :owner AND lease_token = :token`. -/
def CabinetRuntime.ownedBy (row : CabinetRuntime) (lease : CabinetLease) : Bool :=
  row.ownerInstance == some lease.ownerInstance && row.leaseToken == lease.leaseToken

def CabinetRuntime.free (row : CabinetRuntime) (owner : Uuid) (now : Int) : Bool :=
  row.ownerInstance == some owner || row.leaseExpiresAt.all fun expires => expires ≤ now

def boundedTtl (ttlSeconds : Int) : Int := max 5 ttlSeconds

/-- `acquire_cabinet_lease`; none when the row of another owner is still good. -/
def acquireCabinetLease (clk : Clock) (owner : Uuid) (ttlSeconds : Int) :
    Option CabinetRuntime → Option CabinetRuntime
  | none => some { ownerInstance := some owner, leaseToken := 1
                   leaseExpiresAt := some (clk.now + Tasks.seconds (boundedTtl ttlSeconds))
                   lastProgressAt := clk.now, stage := "claimed" }
  | some row =>
    if row.free owner clk.now then
      some { row with
        ownerInstance := some owner
        leaseToken := row.leaseToken + 1
        leaseExpiresAt := some (clk.now + Tasks.seconds (boundedTtl ttlSeconds))
        nextScanAt := none
        lastProgressAt := clk.now
        stage := "claimed"
        lastErrorCode := none }
    else none

/-- `update_cabinet_progress`; none when no row matched. -/
def updateCabinetProgress (clk : Clock) (lease : CabinetLease) (stage : String) (ttlSeconds : Int)
    (hasSnapshot : Bool) (errorCode : Option String) (row : Option CabinetRuntime) :
    Option CabinetRuntime :=
  (row.filter fun r => r.ownedBy lease).map fun r =>
    { r with
      stage := PyText.clip 32 stage
      lastProgressAt := clk.now
      lastSnapshotAt := if hasSnapshot then some clk.now else r.lastSnapshotAt
      lastErrorCode := (errorCode.filter (· ≠ "")).map (PyText.clip 64)
      leaseExpiresAt := some (clk.now + Tasks.seconds (boundedTtl ttlSeconds)) }

/-- `release_cabinet_lease`; none when no row matched. -/
def releaseCabinetLease (clk : Clock) (lease : CabinetLease) (row : Option CabinetRuntime) :
    Option CabinetRuntime :=
  (row.filter fun r => r.ownedBy lease).map fun r =>
    { r with ownerInstance := none, leaseExpiresAt := none, lastProgressAt := clk.now }

/-- `publish_next_scan_at`, on one row. -/
def publishNextScanAt (nextScanAt : Int) (row : CabinetRuntime) : CabinetRuntime :=
  if row.ownerInstance = none then { row with nextScanAt := some nextScanAt } else row

/-- `_lock_and_assert_cabinet_fence`; `assert_cabinet_lease` reads the same of another clock. -/
def cabinetFence (wall : Int) (lease : CabinetLease) (row : Option CabinetRuntime) : Bool :=
  row.any fun r => r.ownedBy lease && r.leaseExpiresAt.any fun expires => wall < expires

-- ------------------------------------------------------------
-- One actor
-- ------------------------------------------------------------

inductive ScanOutcome
  | success
  | empty
  | partialScan
  | error
  | timeout
  | skipped
  deriving DecidableEq, Repr

/-- What `run_cycle` keeps of the summary of a cabinet. -/
structure CabinetResult where
  outcome : ScanOutcome
  error : Option String
  deriving DecidableEq, Repr

inductive ActorFailure
  | timeout
  | exception (name : String)
  deriving DecidableEq, Repr

def ActorFailure.result : ActorFailure → CabinetResult
  | .timeout => ⟨.timeout, some "scan_deadline_exceeded"⟩
  | .exception name => ⟨.error, some name⟩

def ActorFailure.stage : ActorFailure → String
  | .timeout => "timeout"
  | .exception _ => "error"

/-- Where `run_actor` stands; each phase ends with a statement, or with the scan. -/
inductive ActorPhase
  | idle
  | acquiring
  | starting (lease : CabinetLease)
  | scanning (lease : CabinetLease)
  | reporting (lease : CabinetLease) (result : CabinetResult)
  | handling (lease : CabinetLease) (failure : ActorFailure)
  | releasing (lease : Option CabinetLease)
  | unlocking (cleanup : List String)
  | done
  deriving DecidableEq, Repr

def ActorPhase.lease : ActorPhase → Option CabinetLease
  | .starting lease | .scanning lease | .reporting lease _ | .handling lease _ => some lease
  | .releasing lease => lease
  | .idle | .acquiring | .unlocking _ | .done => none

structure Actor where
  adAccountId : String := ""
  ownerInstance : Uuid := 0
  phase : ActorPhase := .idle
  result : Option CabinetResult := none
  deriving DecidableEq, Repr

/-- An exception inside the `try`: the result says so, and a lease is marked before it is
released. -/
def Actor.fail (a : Actor) (lease : Option CabinetLease) (failure : ActorFailure) : Actor :=
  { a with
    result := some failure.result
    phase := match lease with
      | some lease => .handling lease failure
      | none => .releasing none }

def confirmedSnapshot (result : CabinetResult) : Bool :=
  result.outcome == .success || result.outcome == .empty

def reportedError (result : CabinetResult) : Option String :=
  if confirmedSnapshot result then none else result.error

def cleanupFailed (errors : List String) : CabinetResult :=
  ⟨.error, some ("cabinet_cleanup_failed:" ++ ",".intercalate errors)⟩

-- ------------------------------------------------------------
-- The system
-- ------------------------------------------------------------

structure Grant where
  actor : Nat
  lease : CabinetLease
  deriving DecidableEq, Repr

structure Cabinets where
  rows : String → Option CabinetRuntime
  /-- Who holds `fb_agent:cabinet_actor:{account}`. -/
  locks : String → Option Nat
  actors : Nat → Actor
  /-- Every lease that was handed out, the latest first. -/
  granted : List Grant
  /-- Every write that passed the fence, the latest first. -/
  writes : List Grant

def Cabinets.init : Cabinets :=
  { rows := fun _ => none, locks := fun _ => none, actors := fun _ => {}, granted := [],
    writes := [] }

/-- How a statement ends for the one who sent it; it is carried out all the same
when only its answer fails to arrive. -/
inductive Answered
  | answered
  | lost (failure : ActorFailure)
  deriving DecidableEq, Repr

/-- `spawn` is the task of one cabinet in a cycle. A write is a transaction of
the scan, and `crash` ends the process with its session. -/
inductive ActorLabel
  | spawn (actor : Nat) (adAccountId : String) (ownerInstance : Uuid)
  | lock (actor : Nat)
  | acquire (actor : Nat) (ttlSeconds : Int) (answer : Answered)
  | start (actor : Nat) (ttlSeconds : Int) (answer : Answered)
  | scanned (actor : Nat) (result : CabinetResult)
  | raises (actor : Nat) (failure : ActorFailure)
  | report (actor : Nat) (ttlSeconds : Int) (answer : Answered)
  | handle (actor : Nat) (ttlSeconds : Int)
  | cancel (actor : Nat)
  | release (actor : Nat) (failed : Option String)
  | unlock (actor : Nat) (failed : Option String)
  | sessionLost (actor : Nat)
  | crash (actor : Nat)
  | write (grant : Grant)
  | publish (adAccountIds : List String) (nextScanAt : Int)
  deriving Repr

namespace Cabinets

def setActor (s : Cabinets) (actor : Nat) (a : Actor) : Cabinets :=
  { s with actors := fun n => if n = actor then a else s.actors n }

def setRow (s : Cabinets) (account : String) (row : Option CabinetRuntime) : Cabinets :=
  { s with rows := fun a => if a = account then row.or (s.rows account) else s.rows a }

def unlockSession (s : Cabinets) (actor : Nat) : Cabinets :=
  { s with locks := fun account => (s.locks account).filter (· ≠ actor) }

def step (s : Cabinets) (e : Clock × ActorLabel) : Cabinets :=
  let clk := e.1
  match e.2 with
  | .spawn actor adAccountId ownerInstance =>
    -- a task is created once
    if s.actors actor = {} then s.setActor actor { adAccountId, ownerInstance } else s
  | .lock actor =>
    let a := s.actors actor
    if a.phase = .idle then
      if (s.locks a.adAccountId).isSome then
        s.setActor actor { a with phase := .done,
                                  result := some ⟨.skipped, some "cabinet_actor_lock_held"⟩ }
      else
        { s with locks := fun account =>
          if account = a.adAccountId then some actor else s.locks account
          }.setActor actor { a with phase := .acquiring }
    else s
  | .acquire actor ttlSeconds answer =>
    let a := s.actors actor
    if a.phase = .acquiring then
      let row := acquireCabinetLease clk a.ownerInstance ttlSeconds (s.rows a.adAccountId)
      let s := s.setRow a.adAccountId row
      match answer, row with
      | .answered, some row =>
        let lease := ⟨a.adAccountId, a.ownerInstance, row.leaseToken⟩
        { s with granted := ⟨actor, lease⟩ :: s.granted }.setActor actor
          { a with phase := .starting lease }
      | .answered, none =>
        s.setActor actor { a with phase := .releasing none,
                                  result := some ⟨.skipped, some "cabinet_lease_held"⟩ }
      | .lost failure, _ => s.setActor actor (a.fail none failure)
    else s
  | .start actor ttlSeconds answer =>
    let a := s.actors actor
    match a.phase with
    | .starting lease =>
      let row := updateCabinetProgress clk lease "scanning" ttlSeconds false none
        (s.rows lease.adAccountId)
      let s := s.setRow lease.adAccountId row
      match answer with
      | .answered =>
        if row.isSome then s.setActor actor { a with phase := .scanning lease }
        else s.setActor actor
          { a with phase := .releasing (some lease),
                   result := some ⟨.error, some "cabinet_lease_lost_before_scan"⟩ }
      | .lost failure => s.setActor actor (a.fail (some lease) failure)
    | _ => s
  | .scanned actor result =>
    let a := s.actors actor
    match a.phase with
    | .scanning lease =>
      s.setActor actor { a with phase := .reporting lease result, result := some result }
    | _ => s
  | .raises actor failure =>
    let a := s.actors actor
    match a.phase with
    | .acquiring => s.setActor actor (a.fail none failure)
    | .starting lease | .scanning lease | .reporting lease _ =>
      s.setActor actor (a.fail (some lease) failure)
    | _ => s
  | .report actor ttlSeconds answer =>
    let a := s.actors actor
    match a.phase with
    | .reporting lease result =>
      let row := updateCabinetProgress clk lease "idle" ttlSeconds (confirmedSnapshot result)
        (reportedError result) (s.rows lease.adAccountId)
      let s := s.setRow lease.adAccountId row
      match answer with
      | .answered =>
        if row.isSome then s.setActor actor { a with phase := .releasing (some lease) }
        else s.setActor actor
          { a with phase := .releasing (some lease),
                   result := some ⟨.error, some "cabinet_lease_lost"⟩ }
      | .lost failure => s.setActor actor (a.fail (some lease) failure)
    | _ => s
  | .handle actor ttlSeconds =>
    let a := s.actors actor
    match a.phase with
    | .handling lease failure =>
      (s.setRow lease.adAccountId (updateCabinetProgress clk lease failure.stage ttlSeconds false
        failure.result.error (s.rows lease.adAccountId))).setActor actor
          { a with phase := .releasing (some lease) }
    | _ => s
  | .cancel actor =>
    let a := s.actors actor
    match a.phase with
    | .acquiring => s.setActor actor { a with phase := .releasing none }
    | .starting lease | .scanning lease | .reporting lease _ | .handling lease _ =>
      s.setActor actor { a with phase := .releasing (some lease) }
    -- the cleanup lets a cancellation through, and what was left of it is not done
    | .releasing _ | .unlocking _ => s.setActor actor { a with phase := .done }
    | .idle | .done => s
  | .release actor failed =>
    let a := s.actors actor
    match a.phase with
    | .releasing none => s.setActor actor { a with phase := .unlocking [] }
    | .releasing (some lease) =>
      match failed with
      | some name => s.setActor actor { a with phase := .unlocking ["lease:" ++ name] }
      | none =>
        (s.setRow lease.adAccountId
          (releaseCabinetLease clk lease (s.rows lease.adAccountId))).setActor actor
          { a with phase := .unlocking [] }
    | _ => s
  | .unlock actor failed =>
    let a := s.actors actor
    match a.phase with
    | .unlocking cleanup =>
      let errors := cleanup ++ failed.toList.map ("lock:" ++ ·)
      (if failed.isSome then s else s.unlockSession actor).setActor actor
        { a with phase := .done,
                 result := if errors.isEmpty then a.result else some (cleanupFailed errors) }
    | _ => s
  | .sessionLost actor => s.unlockSession actor
  | .crash actor => (s.unlockSession actor).setActor actor { s.actors actor with phase := .done }
  | .write grant =>
    -- a transaction of the actor, which may be carried out after the actor has moved on
    if grant ∈ s.granted ∧ cabinetFence clk.wall grant.lease
      (s.rows grant.lease.adAccountId) = true then
      { s with writes := grant :: s.writes }
    else s
  | .publish adAccountIds nextScanAt =>
    { s with rows := fun account =>
        if account ∈ adAccountIds then (s.rows account).map (publishNextScanAt nextScanAt) else
          s.rows account }

end Cabinets

-- ------------------------------------------------------------
-- What a step can do
-- ------------------------------------------------------------

def ActorPhase.givingBack : ActorPhase → Bool
  | .releasing lease => lease.isSome
  | .idle | .acquiring | .starting _ | .scanning _ | .reporting _ _ | .handling _ _ | .unlocking _
  | .done =>
    false

/-- The actor got the answer to its claim, and its cleanup was carried out. A
session that is lost, a scan that raises and an answer that does not arrive
later on are all in order. -/
def Cabinets.Orderly (s : Cabinets) (e : Clock × ActorLabel) : Prop :=
  match e.2 with
  | .acquire _ _ answer => answer = .answered
  | .release _ failed => failed = none
  | .cancel actor => (s.actors actor).phase.givingBack = false
  | .crash actor => (s.actors actor).phase.lease = none
  | _ => True

instance Cabinets.Orderly.decidable (s : Cabinets) : ∀ e, Decidable (s.Orderly e)
  | (_, .acquire _ _ answer) => inferInstanceAs (Decidable (answer = .answered))
  | (_, .release _ failed) => inferInstanceAs (Decidable (failed = none))
  | (_, .cancel actor) => inferInstanceAs (Decidable ((s.actors actor).phase.givingBack = false))
  | (_, .crash actor) => inferInstanceAs (Decidable ((s.actors actor).phase.lease = none))
  | (_, .spawn ..) | (_, .lock _) | (_, .start ..) | (_, .scanned ..) | (_, .raises ..)
  | (_, .report ..)
  | (_, .handle ..) | (_, .unlock ..) | (_, .sessionLost _) | (_, .write _) | (_, .publish ..) =>
    .isTrue trivial

/-- What a step does to the leases, the row of one cabinet and the two records. -/
inductive Cabinets.Effect (s : Cabinets) (e : Clock × ActorLabel) : Cabinets → Prop
  | idle (locks : String → Option Nat) : Effect s e { s with locks }
  | moves (locks : String → Option Nat) (actor : Nat) (a : Actor)
      (hlease : a.phase.lease = (s.actors actor).phase.lease) :
      Effect s e ({ s with locks }.setActor actor a)
  | progress (actor : Nat) (a : Actor) (lease : CabinetLease) (stage : String) (ttlSeconds : Int)
      (hasSnapshot : Bool) (errorCode : Option String)
      (hlease : a.phase.lease = (s.actors actor).phase.lease) :
      Effect s e ((s.setRow lease.adAccountId (updateCabinetProgress e.1 lease stage ttlSeconds
        hasSnapshot errorCode (s.rows lease.adAccountId))).setActor actor a)
  | grants (actor : Nat) (a : Actor) (account : String) (owner : Uuid) (ttlSeconds : Int)
      (row : CabinetRuntime) (hfree : (s.actors actor).phase.lease = none)
      (hrow : acquireCabinetLease e.1 owner ttlSeconds (s.rows account) = some row)
      (hlease : a.phase.lease = some ⟨account, owner, row.leaseToken⟩) :
      Effect s e ({ s.setRow account (some row) with
        granted := ⟨actor, account, owner, row.leaseToken⟩ :: s.granted }.setActor actor a)
  | unanswered (actor : Nat) (a : Actor) (account : String) (owner : Uuid) (ttlSeconds : Int)
      (hnot : ¬ s.Orderly e) (hlease : a.phase.lease = (s.actors actor).phase.lease) :
      Effect s e ((s.setRow account (acquireCabinetLease e.1 owner ttlSeconds
        (s.rows account))).setActor actor a)
  | drops (locks : String → Option Nat) (actor : Nat) (a : Actor) (hgone : a.phase.lease = none)
      (hnone : s.Orderly e → (s.actors actor).phase.lease = none) :
      Effect s e ({ s with locks }.setActor actor a)
  | releases (actor : Nat) (a : Actor) (lease : CabinetLease)
      (hheld : (s.actors actor).phase.lease = some lease) (hgone : a.phase.lease = none) :
      Effect s e ((s.setRow lease.adAccountId (releaseCabinetLease e.1 lease
        (s.rows lease.adAccountId))).setActor actor a)
  | writes (w : Grant) (hw : w ∈ s.granted)
      (hfence : cabinetFence e.1.wall w.lease (s.rows w.lease.adAccountId) = true) :
      Effect s e { s with writes := w :: s.writes }
  | publishes (rows : String → Option CabinetRuntime) (nextScanAt : Int)
      (hrows : ∀ account, rows account = s.rows account ∨
        rows account = (s.rows account).map (publishNextScanAt nextScanAt)) :
      Effect s e { s with rows }

section
variable {s : Cabinets} {actor : Nat} {a : Actor} {clk : Clock}

theorem fail_lease (failure : ActorFailure) (held : Option CabinetLease) :
    (a.fail held failure).phase.lease = held := by
  cases held <;> rfl

@[simp] theorem setRow_none (account : String) : s.setRow account none = s := by
  simp only [Cabinets.setRow, Option.none_or]
  congr
  funext account'
  split
  · rename_i heq
    rw [heq]
  · rfl

theorem acquire_effect (ttlSeconds : Int) (answer : Answered) :
    s.Effect (clk, .acquire actor ttlSeconds answer)
      (s.step (clk, .acquire actor ttlSeconds answer)) := by
  simp only [Cabinets.step]
  split
  · rename_i hphase
    have hfree : (s.actors actor).phase.lease = none := by rw [hphase]; rfl
    cases answer with
    | lost failure =>
      exact .unanswered actor _ _ _ ttlSeconds (by rintro ⟨⟩) (by rw [fail_lease, hfree])
    | answered =>
      cases hrow : acquireCabinetLease clk (s.actors actor).ownerInstance ttlSeconds
          (s.rows (s.actors actor).adAccountId) with
      | none =>
        rw [setRow_none]
        exact .moves s.locks actor _ hfree.symm
      | some row => exact .grants actor _ _ _ ttlSeconds row hfree hrow rfl
  · exact .idle s.locks

theorem start_effect (ttlSeconds : Int) (answer : Answered) :
    s.Effect (clk, .start actor ttlSeconds answer)
      (s.step (clk, .start actor ttlSeconds answer)) := by
  simp only [Cabinets.step]
  split
  · rename_i lease hphase
    have hheld : (s.actors actor).phase.lease = some lease := by rw [hphase]; rfl
    cases answer with
    | lost failure => exact .progress actor _ _ _ _ _ _ (by rw [fail_lease, hheld])
    | answered =>
      dsimp only
      split
      · exact .progress actor _ _ _ _ _ _ hheld.symm
      · exact .progress actor _ _ _ _ _ _ hheld.symm
  · exact .idle s.locks

theorem report_effect (ttlSeconds : Int) (answer : Answered) :
    s.Effect (clk, .report actor ttlSeconds answer)
      (s.step (clk, .report actor ttlSeconds answer)) := by
  simp only [Cabinets.step]
  split
  · rename_i lease result hphase
    have hheld : (s.actors actor).phase.lease = some lease := by rw [hphase]; rfl
    cases answer with
    | lost failure => exact .progress actor _ _ _ _ _ _ (by rw [fail_lease, hheld])
    | answered =>
      dsimp only
      split
      · exact .progress actor _ _ _ _ _ _ hheld.symm
      · exact .progress actor _ _ _ _ _ _ hheld.symm
  · exact .idle s.locks

theorem raises_effect (failure : ActorFailure) :
    s.Effect (clk, .raises actor failure) (s.step (clk, .raises actor failure)) := by
  simp only [Cabinets.step]
  split
  · rename_i hphase
    exact .moves s.locks actor _ (by rw [fail_lease, hphase]; rfl)
  · rename_i lease hphase
    exact .moves s.locks actor _ (by rw [fail_lease, hphase]; rfl)
  · rename_i lease hphase
    exact .moves s.locks actor _ (by rw [fail_lease, hphase]; rfl)
  · rename_i lease result hphase
    exact .moves s.locks actor _ (by rw [fail_lease, hphase]; rfl)
  · exact .idle s.locks

theorem cancel_effect : s.Effect (clk, .cancel actor) (s.step (clk, .cancel actor)) := by
  simp only [Cabinets.step]
  split
  · rename_i hphase
    exact .moves s.locks actor _ (by rw [hphase]; rfl)
  · rename_i lease hphase
    exact .moves s.locks actor _ (by rw [hphase]; rfl)
  · rename_i lease hphase
    exact .moves s.locks actor _ (by rw [hphase]; rfl)
  · rename_i lease result hphase
    exact .moves s.locks actor _ (by rw [hphase]; rfl)
  · rename_i lease failure hphase
    exact .moves s.locks actor _ (by rw [hphase]; rfl)
  · rename_i lease hphase
    refine .drops s.locks actor _ rfl fun horderly => ?_
    have hgiving : (s.actors actor).phase.givingBack = false := horderly
    rw [hphase] at hgiving ⊢
    simpa [ActorPhase.givingBack, ActorPhase.lease] using hgiving
  · rename_i cleanup hphase
    exact .moves s.locks actor _ (by rw [hphase]; rfl)
  · exact .idle s.locks
  · exact .idle s.locks

theorem release_effect (failed : Option String) :
    s.Effect (clk, .release actor failed) (s.step (clk, .release actor failed)) := by
  simp only [Cabinets.step]
  split
  · rename_i hphase
    exact .moves s.locks actor _ (by rw [hphase]; rfl)
  · rename_i lease hphase
    cases failed with
    | some name => exact .drops s.locks actor _ rfl fun horderly => by cases horderly
    | none => exact .releases actor _ lease (by rw [hphase]; rfl) rfl
  · exact .idle s.locks

theorem step_effect (e : Clock × ActorLabel) : s.Effect e (s.step e) := by
  obtain ⟨clk, label⟩ := e
  cases label with
  | acquire actor ttlSeconds answer => exact acquire_effect ttlSeconds answer
  | start actor ttlSeconds answer => exact start_effect ttlSeconds answer
  | report actor ttlSeconds answer => exact report_effect ttlSeconds answer
  | raises actor failure => exact raises_effect failure
  | cancel actor => exact cancel_effect
  | release actor failed => exact release_effect failed
  | spawn actor account owner =>
    simp only [Cabinets.step]
    split
    · rename_i hnew
      exact .moves s.locks actor _ (by rw [hnew])
    · exact .idle s.locks
  | lock actor =>
    simp only [Cabinets.step]
    split
    · rename_i hphase
      split
      · exact .moves s.locks actor _ (by rw [hphase]; rfl)
      · exact .moves _ actor _ (by rw [hphase]; rfl)
    · exact .idle s.locks
  | scanned actor result =>
    simp only [Cabinets.step]
    split
    · rename_i lease hphase
      exact .moves s.locks actor _ (by rw [hphase]; rfl)
    · exact .idle s.locks
  | handle actor ttlSeconds =>
    simp only [Cabinets.step]
    split
    · rename_i lease failure hphase
      exact .progress actor _ _ _ _ _ _ (by rw [hphase]; rfl)
    · exact .idle s.locks
  | unlock actor failed =>
    simp only [Cabinets.step]
    split
    · rename_i cleanup hphase
      split
      · exact .moves s.locks actor _ (by rw [hphase]; rfl)
      · exact .moves _ actor _ (by rw [hphase]; rfl)
    · exact .idle s.locks
  | sessionLost actor => exact .idle _
  | crash actor => exact .drops _ actor _ rfl id
  | write w =>
    simp only [Cabinets.step]
    split
    · rename_i hw
      exact .writes w hw.1 hw.2
    · exact .idle s.locks
  | publish accounts nextScanAt =>
    refine .publishes _ nextScanAt fun account => ?_
    by_cases hmem : account ∈ accounts
    · exact .inr (if_pos hmem)
    · exact .inl (if_neg hmem)

end

-- ------------------------------------------------------------
-- Statements on the row
-- ------------------------------------------------------------

section
variable {clk : Clock} {lease : CabinetLease} {owner : Uuid} {stage : String} {ttlSeconds : Int}
  {hasSnapshot : Bool} {errorCode : Option String} {row new : CabinetRuntime}
  {stored : Option CabinetRuntime}

theorem ownedBy_iff : row.ownedBy lease = true ↔
    row.ownerInstance = some lease.ownerInstance ∧ row.leaseToken = lease.leaseToken := by
  simp [CabinetRuntime.ownedBy]

theorem acquire_spec (h : acquireCabinetLease clk owner ttlSeconds stored = some new) :
    new.ownerInstance = some owner ∧ new.nextScanAt = none ∧ 0 < new.leaseToken ∧
      ∀ r, stored = some r → new.leaseToken = r.leaseToken + 1 := by
  cases stored with
  | none =>
    obtain rfl := Option.some.inj h
    simp
  | some r =>
    simp only [acquireCabinetLease, Option.ite_none_right_eq_some, Option.some.injEq] at h
    obtain ⟨-, rfl⟩ := h
    simp

theorem update_spec
    (h : updateCabinetProgress clk lease stage ttlSeconds hasSnapshot errorCode stored = some new) :
    ∃ r, stored = some r ∧ r.ownedBy lease = true ∧ new.ownerInstance = r.ownerInstance ∧
      new.leaseToken = r.leaseToken ∧ new.nextScanAt = r.nextScanAt := by
  obtain ⟨r, hr, rfl⟩ := Option.map_eq_some_iff.mp h
  obtain ⟨hstored, howned⟩ := Option.filter_eq_some_iff.mp hr
  exact ⟨r, hstored, howned, rfl, rfl, rfl⟩

theorem release_spec (h : releaseCabinetLease clk lease stored = some new) :
    ∃ r, stored = some r ∧ r.ownedBy lease = true ∧ new.ownerInstance = none ∧
      new.leaseToken = r.leaseToken ∧ new.nextScanAt = r.nextScanAt := by
  obtain ⟨r, hr, rfl⟩ := Option.map_eq_some_iff.mp h
  obtain ⟨hstored, howned⟩ := Option.filter_eq_some_iff.mp hr
  exact ⟨r, hstored, howned, rfl, rfl, rfl⟩

end

-- ------------------------------------------------------------
-- Tokens
-- ------------------------------------------------------------

def Overtaken (later earlier : Grant) : Prop :=
  later.lease.adAccountId = earlier.lease.adAccountId →
    earlier.lease.leaseToken < later.lease.leaseToken

/-- Of two writes to one cabinet the earlier one has no greater token. -/
def InOrder (later earlier : Grant) : Prop :=
  later.lease.adAccountId = earlier.lease.adAccountId →
    earlier.lease.leaseToken ≤ later.lease.leaseToken

structure Cabinets.Inv (s : Cabinets) : Prop where
  reached : ∀ g ∈ s.granted, ∃ row, s.rows g.lease.adAccountId = some row ∧
    g.lease.leaseToken ≤ row.leaseToken
  fresh : s.granted.Pairwise Overtaken
  held : ∀ n lease, (s.actors n).phase.lease = some lease → ⟨n, lease⟩ ∈ s.granted
  written : ∀ w ∈ s.writes, w ∈ s.granted
  ordered : s.writes.Pairwise InOrder
  unscheduled : ∀ account row, s.rows account = some row → row.ownerInstance ≠ none →
    row.nextScanAt = none

section
variable {s : Cabinets} {account : String} {actor : Nat} {a : Actor} {lease : CabinetLease}

theorem Cabinets.Inv.setActor (h : s.Inv)
    (hheld : ∀ l, a.phase.lease = some l → ⟨actor, l⟩ ∈ s.granted) :
    (s.setActor actor a).Inv := by
  refine ⟨h.reached, h.fresh, ?_, h.written, h.ordered, h.unscheduled⟩
  intro n l hl
  by_cases hn : n = actor
  · subst hn
    exact hheld l (by simpa [Cabinets.setActor] using hl)
  · exact h.held n l (by simpa [Cabinets.setActor, hn] using hl)

theorem Cabinets.Inv.setRow (h : s.Inv) {row : Option CabinetRuntime}
    (htoken : ∀ new r, row = some new → s.rows account = some r → r.leaseToken ≤ new.leaseToken)
    (hschedule : ∀ new, row = some new → new.ownerInstance ≠ none → new.nextScanAt = none) :
    (s.setRow account row).Inv := by
  have hrows : ∀ account' r, (s.setRow account row).rows account' = some r →
      s.rows account' = some r ∨ (account' = account ∧ row = some r) := by
    intro account' r hr
    by_cases ha : account' = account
    · subst ha
      cases hrow : row with
      | none => exact .inl (by simpa [Cabinets.setRow, hrow] using hr)
      | some new => exact .inr ⟨rfl, by simpa [Cabinets.setRow, hrow] using hr⟩
    · exact .inl (by simpa [Cabinets.setRow, ha] using hr)
  refine ⟨?_, h.fresh, h.held, h.written, h.ordered, ?_⟩
  · intro g hg
    obtain ⟨r, hr, hle⟩ := h.reached g hg
    by_cases ha : g.lease.adAccountId = account
    · subst ha
      cases hrow : row with
      | none => exact ⟨r, by simp [Cabinets.setRow, hr], hle⟩
      | some new => exact ⟨new, by simp [Cabinets.setRow], Nat.le_trans hle (htoken new r hrow hr)⟩
    · exact ⟨r, by simp [Cabinets.setRow, ha, hr], hle⟩
  · intro account' r hr howner
    obtain hold | ⟨-, hnew⟩ := hrows account' r hr
    · exact h.unscheduled account' r hold howner
    · exact hschedule r hnew howner

theorem Cabinets.Inv.grant (h : s.Inv) {row : CabinetRuntime} (hrow : s.rows account = some row)
    (hnew : ∀ g ∈ s.granted, g.lease.adAccountId = account → g.lease.leaseToken < row.leaseToken)
    (haccount : lease.adAccountId = account) (htoken : lease.leaseToken = row.leaseToken) :
    ({ s with granted := ⟨actor, lease⟩ :: s.granted } : Cabinets).Inv := by
  refine ⟨?_, List.pairwise_cons.mpr ⟨?_, h.fresh⟩,
    fun n l hl => List.mem_cons_of_mem _ (h.held n l hl),
    fun w hw => List.mem_cons_of_mem _ (h.written w hw), h.ordered, h.unscheduled⟩
  · rintro g hg
    cases List.mem_cons.mp hg with
    | inl heq => exact ⟨row, by rw [heq]; simpa [haccount] using hrow, by rw [heq]; simp [htoken]⟩
    | inr hold => exact h.reached g hold
  · rintro g hg haccount'
    simpa [htoken] using hnew g hg (haccount'.symm.trans haccount)

theorem Cabinets.Inv.write (h : s.Inv) {wall : Int} {w : Grant} (hw : w ∈ s.granted)
    (hfence : cabinetFence wall w.lease (s.rows w.lease.adAccountId) = true) :
    ({ s with writes := w :: s.writes } : Cabinets).Inv := by
  obtain ⟨row, hrow, howned⟩ := (Option.any_eq_true _ _).mp hfence
  have htoken := (ownedBy_iff.mp (Bool.and_eq_true_iff.mp howned).1).2
  refine ⟨h.reached, h.fresh, h.held, ?_, List.pairwise_cons.mpr ⟨?_, h.ordered⟩, h.unscheduled⟩
  · rintro w' hw'
    cases List.mem_cons.mp hw' with
    | inl heq => exact heq ▸ hw
    | inr hold => exact h.written w' hold
  · rintro w' hw' haccount
    obtain ⟨row', hrow', hle⟩ := h.reached w' (h.written w' hw')
    rw [← haccount] at hrow'
    obtain rfl : row = row' := Option.some.inj (hrow.symm.trans hrow')
    exact htoken ▸ hle

theorem Cabinets.Inv.progress (h : s.Inv) {clk : Clock} {stage : String} {ttlSeconds : Int}
    {hasSnapshot : Bool} {errorCode : Option String} :
    (s.setRow lease.adAccountId (updateCabinetProgress clk lease
      stage ttlSeconds hasSnapshot errorCode (s.rows lease.adAccountId))).Inv := by
  refine h.setRow ?_ ?_
  · rintro new r hnew hr
    obtain ⟨r', hr', -, -, htoken, -⟩ := update_spec hnew
    obtain rfl : r = r' := Option.some.inj (hr.symm.trans hr')
    exact Nat.le_of_eq htoken.symm
  · rintro new hnew howner
    obtain ⟨r, hr, -, howner', -, hschedule⟩ := update_spec hnew
    rw [hschedule]
    exact h.unscheduled _ r hr (howner' ▸ howner)

theorem Cabinets.Inv.withLocks (h : s.Inv) (locks : String → Option Nat) :
    ({ s with locks } : Cabinets).Inv :=
  ⟨h.reached, h.fresh, h.held, h.written, h.ordered, h.unscheduled⟩

theorem Cabinets.Inv.claim (h : s.Inv) {clk : Clock} {owner : Uuid} {ttlSeconds : Int} :
    (s.setRow account (acquireCabinetLease clk owner ttlSeconds (s.rows account))).Inv := by
  refine h.setRow ?_ ?_
  · rintro new r hnew hr
    have := (acquire_spec hnew).2.2.2 r hr
    omega
  · rintro new hnew -
    exact (acquire_spec hnew).2.1

theorem Cabinets.Inv.release (h : s.Inv) {clk : Clock} : (s.setRow lease.adAccountId
    (releaseCabinetLease clk lease (s.rows lease.adAccountId))).Inv := by
  refine h.setRow ?_ ?_
  · rintro new r hnew hr
    obtain ⟨r', hr', -, -, htoken, -⟩ := release_spec hnew
    obtain rfl : r = r' := Option.some.inj (hr.symm.trans hr')
    exact Nat.le_of_eq htoken.symm
  · rintro new hnew howner
    obtain ⟨_, -, -, hfreed, -⟩ := release_spec hnew
    exact absurd hfreed howner

theorem published_row {row r : Option CabinetRuntime} {nextScanAt : Int} {new : CabinetRuntime}
    (hrow : row = r ∨ row = r.map (publishNextScanAt nextScanAt)) (hnew : row = some new) :
    ∃ old, r = some old ∧ new.leaseToken = old.leaseToken ∧ new.ownerInstance = old.ownerInstance ∧
      (new.ownerInstance ≠ none → new = old) := by
  obtain rfl | rfl := hrow
  · exact ⟨new, hnew, rfl, rfl, fun _ => rfl⟩
  · obtain ⟨old, hold, rfl⟩ := Option.map_eq_some_iff.mp hnew
    refine ⟨old, hold, ?_⟩
    unfold publishNextScanAt
    by_cases hfree : old.ownerInstance = none <;> simp [hfree]

theorem Cabinets.Inv.publish (h : s.Inv) {rows : String → Option CabinetRuntime} {nextScanAt : Int}
    (hrows : ∀ account, rows account = s.rows account ∨
      rows account = (s.rows account).map (publishNextScanAt nextScanAt)) :
    ({ s with rows } : Cabinets).Inv := by
  refine ⟨?_, h.fresh, h.held, h.written, h.ordered, ?_⟩
  · rintro g hg
    obtain ⟨r, hr, hle⟩ := h.reached g hg
    obtain heq | heq := hrows g.lease.adAccountId
    · exact ⟨r, heq.trans hr, hle⟩
    · rw [hr] at heq
      obtain ⟨r', hr', htoken, -⟩ := published_row (.inr heq) (heq.trans rfl)
      cases hr'
      exact ⟨_, heq, htoken ▸ hle⟩
  · rintro account row hrow howner
    obtain ⟨r, hr, -, -, hsame⟩ := published_row (hrows account) hrow
    obtain rfl := hsame howner
    exact h.unscheduled account row hr howner

theorem Cabinets.Inv.effect (h : s.Inv) {e : Clock × ActorLabel} {s' : Cabinets}
    (he : s.Effect e s') :
    s'.Inv := by
  cases he with
  | idle locks => exact h.withLocks locks
  | moves locks actor a hlease =>
    exact (h.withLocks locks).setActor fun l hl => h.held actor l (hlease ▸ hl)
  | progress actor a lease stage ttlSeconds hasSnapshot errorCode hlease =>
    exact h.progress.setActor fun l hl => h.held actor l (hlease ▸ hl)
  | grants actor a account owner ttlSeconds row hfree hrow hlease =>
    have hset : (s.setRow account (some row)).Inv := hrow ▸ h.claim
    have hstored : (s.setRow account (some row)).rows account = some row := by
      simp [Cabinets.setRow]
    refine (hset.grant hstored ?_ rfl rfl).setActor ?_
    · rintro g hg haccount
      obtain ⟨r, hr, hle⟩ := h.reached g hg
      have := (acquire_spec hrow).2.2.2 r (haccount ▸ hr)
      omega
    · rintro l hl
      obtain rfl := Option.some.inj (hlease.symm.trans hl)
      exact List.mem_cons_self
  | unanswered actor a account owner ttlSeconds hnot hlease =>
    exact h.claim.setActor fun l hl => h.held actor l (hlease ▸ hl)
  | drops locks actor a hgone hnone =>
    exact (h.withLocks locks).setActor fun l hl => by rw [hgone] at hl; cases hl
  | releases actor a lease hheld hgone =>
    exact h.release.setActor fun l hl => by rw [hgone] at hl; cases hl
  | writes w hw hfence => exact h.write hw hfence
  | publishes rows nextScanAt hrows => exact h.publish hrows

theorem Cabinets.Inv.step (h : s.Inv) (e : Clock × ActorLabel) : (s.step e).Inv :=
  h.effect (step_effect e)

theorem Cabinets.Inv.run (h : s.Inv) (es : List (Clock × ActorLabel)) :
    (run Cabinets.step s es).Inv :=
  run_preserves (I := Cabinets.Inv) (fun _ e h => Inv.step h e) h es

theorem Cabinets.init_inv : Cabinets.init.Inv where
  reached := by simp [Cabinets.init]
  fresh := .nil
  held := by
    rintro n l hl
    cases hl
  written := by simp [Cabinets.init]
  ordered := .nil
  unscheduled := by simp [Cabinets.init]

theorem Cabinets.Inv.grant_unique (h : s.Inv) {g g' : Grant} (hg : g ∈ s.granted)
    (hg' : g' ∈ s.granted) (haccount : g.lease.adAccountId = g'.lease.adAccountId)
    (htoken : g.lease.leaseToken = g'.lease.leaseToken) : g = g' := by
  have hfresh := h.fresh
  generalize s.granted = granted at hfresh hg hg'
  induction hfresh with
  | nil => cases hg
  | @cons head rest hhead _ ih =>
    rcases List.mem_cons.mp hg with rfl | hold
    · rcases List.mem_cons.mp hg' with rfl | hold'
      · rfl
      · have := hhead g' hold' haccount
        omega
    · rcases List.mem_cons.mp hg' with rfl | hold'
      · have := hhead g hold haccount.symm
        omega
      · exact ih hold hold'

theorem step_granted (e : Clock × ActorLabel) : s.granted ⊆ (s.step e).granted := by
  generalize hs' : s.step e = s'
  have he : s.Effect e s' := hs' ▸ step_effect e
  cases he with
  | grants actor a account owner ttlSeconds row hfree hrow hlease => exact List.subset_cons_self _ _
  | _ => exact List.Subset.refl _

def Cabinets.Manned (s : Cabinets) : Prop :=
  ∀ account row owner, s.rows account = some row → row.ownerInstance = some owner →
    ∃ n, (s.actors n).phase.lease = some ⟨account, owner, row.leaseToken⟩

theorem Cabinets.Manned.setActor (h : s.Manned)
    (hkeep : ∀ l, (s.actors actor).phase.lease = some l → a.phase.lease = some l) :
    (s.setActor actor a).Manned := by
  rintro account row owner hrow howner
  obtain ⟨n, hn⟩ := h account row owner hrow howner
  refine ⟨n, ?_⟩
  by_cases hactor : n = actor
  · subst hactor
    simpa [Cabinets.setActor] using hkeep _ hn
  · simpa [Cabinets.setActor, hactor] using hn

theorem Cabinets.Manned.setRow (h : s.Manned) {row : Option CabinetRuntime}
    (hrow : ∀ new, row = some new → new.ownerInstance = none ∨ ∃ r, s.rows account = some r ∧
      new.ownerInstance = r.ownerInstance ∧ new.leaseToken = r.leaseToken) :
    (s.setRow account row).Manned := by
  rintro account' r owner hr howner
  by_cases ha : account' = account
  · subst ha
    cases hnew : row with
    | none => exact h account' r owner (by simpa [Cabinets.setRow, hnew] using hr) howner
    | some new =>
      obtain rfl : new = r := by simpa [Cabinets.setRow, hnew] using hr
      obtain hfree | ⟨r', hr', howner', htoken⟩ := hrow new hnew
      · rw [hfree] at howner
        cases howner
      · rw [htoken]
        exact h account' r' owner hr' (howner' ▸ howner)
  · exact h account' r owner (by simpa [Cabinets.setRow, ha] using hr) howner

theorem Cabinets.Manned.progress (h : s.Manned) {clk : Clock} {stage : String} {ttlSeconds : Int}
    {hasSnapshot : Bool} {errorCode : Option String} :
    (s.setRow lease.adAccountId (updateCabinetProgress clk lease
      stage ttlSeconds hasSnapshot errorCode (s.rows lease.adAccountId))).Manned := by
  refine h.setRow fun new hnew => .inr ?_
  obtain ⟨r, hr, -, howner, htoken, -⟩ := update_spec hnew
  exact ⟨r, hr, howner, htoken⟩

theorem release_disowns {clk : Clock} {row : CabinetRuntime} (hrow : (s.setRow lease.adAccountId
    (releaseCabinetLease clk lease (s.rows lease.adAccountId))).rows lease.adAccountId = some row) :
    row.ownedBy lease = false := by
  cases hstored : s.rows lease.adAccountId with
  | none => simp [Cabinets.setRow, releaseCabinetLease, hstored] at hrow
  | some r =>
    by_cases howned : r.ownedBy lease = true
    · simp only [Cabinets.setRow, releaseCabinetLease, hstored, Option.filter_some, howned, if_true,
        Option.map_some, Option.some_or, Option.some.injEq] at hrow
      simp [CabinetRuntime.ownedBy, ← hrow]
    · obtain rfl : r = row := by
        simpa [Cabinets.setRow, releaseCabinetLease, hstored, Option.filter_some, howned] using hrow
      simpa using howned

theorem Cabinets.Manned.giveBack (h : s.Manned) (hlease : (s.actors actor).phase.lease = some lease)
    (hnot : ∀ {row}, s.rows lease.adAccountId = some row → row.ownedBy lease = false) :
    (s.setActor actor a).Manned := by
  rintro account row owner hrow howner
  obtain ⟨n, hn⟩ := h account row owner hrow howner
  have hother : n ≠ actor := by
    rintro rfl
    obtain rfl := Option.some.inj (hlease.symm.trans hn)
    have howned : row.ownedBy ⟨account, owner, row.leaseToken⟩ = true :=
      ownedBy_iff.mpr ⟨howner, rfl⟩
    rw [hnot hrow] at howned
    cases howned
  exact ⟨n, by simpa [Cabinets.setActor, hother] using hn⟩

theorem Cabinets.Manned.claim (h : s.Manned) {clk : Clock} {owner : Uuid} {ttlSeconds : Int}
    {row : CabinetRuntime} {granted : List Grant} (hfree : (s.actors actor).phase.lease = none)
    (hrow : acquireCabinetLease clk owner ttlSeconds (s.rows account) = some row)
    (hlease : a.phase.lease = some ⟨account, owner, row.leaseToken⟩) :
    ({ s.setRow account (some row) with granted }.setActor actor a).Manned := by
  rintro account' row' owner' hstored howner
  by_cases ha : account' = account
  · obtain rfl : row = row' := by simpa [Cabinets.setActor, Cabinets.setRow, ha] using hstored
    obtain rfl := Option.some.inj ((acquire_spec hrow).1.symm.trans howner)
    exact ⟨actor, by simp [Cabinets.setActor, hlease, ha]⟩
  · obtain ⟨n, hn⟩ := h account' row' owner' (by
      simpa [Cabinets.setActor, Cabinets.setRow, ha] using hstored) howner
    have hother : n ≠ actor := by
      rintro rfl
      rw [hfree] at hn
      cases hn
    exact ⟨n, by simpa [Cabinets.setActor, Cabinets.setRow, hother] using hn⟩

theorem Cabinets.Manned.effect (h : s.Manned) {e : Clock × ActorLabel} {s' : Cabinets}
    (he : s.Effect e s') (horderly : s.Orderly e) : s'.Manned := by
  cases he with
  | idle locks => exact h
  | moves locks actor a hlease =>
    have hlocks : ({ s with locks } : Cabinets).Manned := h
    exact hlocks.setActor fun l hl => hlease.trans hl
  | progress actor a lease stage ttlSeconds hasSnapshot errorCode hlease =>
    exact h.progress.setActor fun l hl => hlease.trans hl
  | grants actor a account owner ttlSeconds row hfree hrow hlease => exact h.claim hfree hrow hlease
  | unanswered actor a account owner ttlSeconds hnot hlease => exact absurd horderly hnot
  | drops locks actor a hgone hnone =>
    have hlocks : ({ s with locks } : Cabinets).Manned := h
    exact hlocks.setActor fun l hl => by
      rw [show (s.actors actor).phase.lease = none from hnone horderly] at hl
      cases hl
  | releases actor a lease hheld hgone =>
    have hreleased : (s.setRow lease.adAccountId (releaseCabinetLease e.1 lease
        (s.rows lease.adAccountId))).Manned := by
      refine h.setRow fun new hnew => .inl ?_
      obtain ⟨_, -, -, hfreed, -⟩ := release_spec hnew
      exact hfreed
    exact hreleased.giveBack hheld release_disowns
  | writes w hw hfence => exact h
  | publishes rows nextScanAt hrows =>
    rintro account row owner hrow howner
    obtain ⟨r, hr, htoken, howner', -⟩ := published_row (hrows account) hrow
    rw [htoken]
    exact h account r owner hr (howner' ▸ howner)

def Cabinets.Owning (s : Cabinets) : Prop :=
  ∀ n lease, (s.actors n).phase.lease = some lease → ∀ row, s.rows lease.adAccountId = some row →
    row.leaseToken = lease.leaseToken → row.ownerInstance = some lease.ownerInstance

theorem Cabinets.Owning.setActor (h : s.Owning)
    (hkeep : ∀ l, a.phase.lease = some l → (s.actors actor).phase.lease = some l) :
    (s.setActor actor a).Owning := by
  rintro n l hl
  by_cases hn : n = actor
  · subst hn
    exact h n l (hkeep l (by simpa [Cabinets.setActor] using hl))
  · exact h n l (by simpa [Cabinets.setActor, hn] using hl)

theorem Cabinets.Owning.setRow (h : s.Owning) {row : Option CabinetRuntime}
    (hrow : ∀ new, row = some new → ∀ n l, (s.actors n).phase.lease = some l →
      l.adAccountId = account → new.leaseToken = l.leaseToken →
        new.ownerInstance = some l.ownerInstance) :
    (s.setRow account row).Owning := by
  rintro n l hl r hr htoken
  by_cases ha : l.adAccountId = account
  · cases hnew : row with
    | none =>
      rw [hnew, setRow_none] at hr
      exact h n l hl r hr htoken
    | some new =>
      obtain rfl : new = r := by simpa [Cabinets.setRow, hnew, ha] using hr
      exact hrow new hnew n l hl ha htoken
  · exact h n l hl r (by simpa [Cabinets.setRow, ha] using hr) htoken

theorem Cabinets.Inv.claim_newer (hinv : s.Inv) {clk : Clock} {owner : Uuid} {ttlSeconds : Int}
    {new : CabinetRuntime} {n : Nat}
    (hnew : acquireCabinetLease clk owner ttlSeconds (s.rows account) = some new)
    (hl : (s.actors n).phase.lease = some lease) (haccount : lease.adAccountId = account) :
    lease.leaseToken < new.leaseToken := by
  obtain ⟨r, hr, hle⟩ : ∃ r, s.rows lease.adAccountId = some r ∧ lease.leaseToken ≤ r.leaseToken :=
    hinv.reached _ (hinv.held n lease hl)
  have := (acquire_spec hnew).2.2.2 r (haccount ▸ hr)
  omega

theorem Cabinets.Owning.claim (h : s.Owning) (hinv : s.Inv) {clk : Clock} {owner : Uuid}
    {ttlSeconds : Int} :
    (s.setRow account (acquireCabinetLease clk owner ttlSeconds (s.rows account))).Owning := by
  refine h.setRow fun new hnew n l hl haccount htoken => ?_
  have := hinv.claim_newer hnew hl haccount
  omega

theorem Cabinets.Owning.progress (h : s.Owning) {clk : Clock} {stage : String} {ttlSeconds : Int}
    {hasSnapshot : Bool} {errorCode : Option String} : (s.setRow lease.adAccountId
      (updateCabinetProgress clk lease stage ttlSeconds hasSnapshot errorCode
        (s.rows lease.adAccountId))).Owning := by
  refine h.setRow fun new hnew n l hl haccount htoken => ?_
  obtain ⟨r, hr, -, howner, htoken', -⟩ := update_spec hnew
  rw [howner]
  exact h n l hl r (haccount ▸ hr) (htoken' ▸ htoken)

theorem Cabinets.Owning.release (h : s.Owning) (hinv : s.Inv) {clk : Clock}
    (hheld : (s.actors actor).phase.lease = some lease) (hgone : a.phase.lease = none) :
    ((s.setRow lease.adAccountId (releaseCabinetLease clk lease
      (s.rows lease.adAccountId))).setActor actor a).Owning := by
  rintro n l hl r hr htoken
  have hother : n ≠ actor := by
    rintro rfl
    simp [Cabinets.setActor, hgone] at hl
  replace hl : (s.actors n).phase.lease = some l := by
    simpa [Cabinets.setActor, Cabinets.setRow, hother] using hl
  by_cases ha : l.adAccountId = lease.adAccountId
  · cases hrow : releaseCabinetLease clk lease (s.rows lease.adAccountId) with
    | none =>
      rw [hrow, setRow_none] at hr
      exact h n l hl r hr htoken
    | some new =>
      obtain rfl : new = r := by simpa [Cabinets.setActor, Cabinets.setRow, hrow, ha] using hr
      obtain ⟨was, -, howned, -, htoken', -⟩ := release_spec hrow
      have hsame : l.leaseToken = lease.leaseToken := by
        rw [← htoken, htoken']
        exact (ownedBy_iff.mp howned).2
      exact absurd (congrArg Grant.actor
        (hinv.grant_unique (hinv.held n l hl) (hinv.held actor lease hheld) ha hsame)) hother
  · exact h n l hl r (by simpa [Cabinets.setActor, Cabinets.setRow, ha] using hr) htoken

theorem Cabinets.Owning.effect (h : s.Owning) (hinv : s.Inv) {e : Clock × ActorLabel}
    {s' : Cabinets} (he : s.Effect e s') : s'.Owning := by
  cases he with
  | idle locks => exact h
  | moves locks actor a hlease =>
    have hlocks : ({ s with locks } : Cabinets).Owning := h
    exact hlocks.setActor fun l hl => hlease.symm.trans hl
  | progress actor a lease stage ttlSeconds hasSnapshot errorCode hlease =>
    exact h.progress.setActor fun l hl => hlease.symm.trans hl
  | grants actor a account owner ttlSeconds row hfree hrow hlease =>
    have hset : (s.setRow account (some row)).Owning := hrow ▸ h.claim hinv
    rintro n l hl r hr htoken
    by_cases hn : n = actor
    · subst hn
      obtain rfl : (⟨account, owner, row.leaseToken⟩ : CabinetLease) = l := by
        simpa [Cabinets.setActor, hlease] using hl
      obtain rfl : row = r := by simpa [Cabinets.setActor, Cabinets.setRow] using hr
      exact (acquire_spec hrow).1
    · exact hset n l (by simpa [Cabinets.setActor, hn] using hl) r hr htoken
  | unanswered actor a account owner ttlSeconds hnot hlease =>
    exact (h.claim hinv).setActor fun l hl => hlease.symm.trans hl
  | drops locks actor a hgone hnone =>
    have hlocks : ({ s with locks } : Cabinets).Owning := h
    exact hlocks.setActor fun l hl => by rw [hgone] at hl; cases hl
  | releases actor a lease hheld hgone => exact h.release hinv hheld hgone
  | writes w hw hfence => exact h
  | publishes rows nextScanAt hrows =>
    rintro n l hl row hrow htoken
    obtain ⟨r, hr, htoken', howner, -⟩ := published_row (hrows _) hrow
    rw [howner]
    exact h n l hl r hr (htoken' ▸ htoken)

/-- Along an orderly run a cabinet is owned exactly while an actor, and only one, is not done with
the lease its row shows, and shows no scheduled scan then; with no actor left it is free. -/
theorem owned_by_one_running_actor {es : List (Clock × ActorLabel)}
    (h : AllSteps Cabinets.step Cabinets.Orderly Cabinets.init es) :
    let s := run Cabinets.step Cabinets.init es
    ∀ account row, s.rows account = some row →
      (∀ owner, row.ownerInstance = some owner ↔
        ∃ n, (s.actors n).phase.lease = some ⟨account, owner, row.leaseToken⟩) ∧
      (∀ n m l l', (s.actors n).phase.lease = some l → (s.actors m).phase.lease = some l' →
        l.adAccountId = account → l'.adAccountId = account → l.leaseToken = row.leaseToken →
        l'.leaseToken = row.leaseToken → n = m) ∧
      (row.ownerInstance ≠ none → row.nextScanAt = none) ∧
      ((∀ n, (s.actors n).phase.lease = none) → row.ownerInstance = none) := by
  intro s account row hrow
  have hall : s.Manned ∧ s.Owning ∧ s.Inv := by
    refine run_invariant (I := fun t : Cabinets => t.Manned ∧ t.Owning ∧ t.Inv) ?_
      ⟨?_, ?_, Cabinets.init_inv⟩ h
    · rintro t e ⟨hmanned, howning, hinv⟩ horderly
      have he : t.Effect e (t.step e) := step_effect e
      exact ⟨hmanned.effect he horderly, howning.effect hinv he, hinv.effect he⟩
    · rintro account row owner hrow
      cases hrow
    · rintro n l hl
      cases hl
  obtain ⟨hmanned, howning, hinv⟩ := hall
  refine ⟨fun owner => ⟨hmanned account row owner hrow, ?_⟩, ?_,
    hinv.unscheduled account row hrow, ?_⟩
  · rintro ⟨n, hn⟩
    exact howning n _ hn row hrow rfl
  · rintro n m l l' hl hl' haccount haccount' htoken htoken'
    exact congrArg Grant.actor (hinv.grant_unique (hinv.held n l hl) (hinv.held m l' hl')
      (haccount.trans haccount'.symm) (htoken.trans htoken'.symm))
  · intro hnone
    cases howner : row.ownerInstance with
    | none => rfl
    | some owner =>
      obtain ⟨n, hn⟩ := hmanned account row owner hrow howner
      rw [hnone n] at hn
      cases hn

/-- The session of the first actor is lost while it scans; its lease runs out and the actor of
another process takes the cabinet over. -/
def takeoverRun : List (Clock × ActorLabel) :=
  [(⟨0, 0, 0⟩, .spawn 0 "101" 7),
    (⟨0, 0, 0⟩, .lock 0),
    (⟨0, 0, 0⟩, .acquire 0 150 .answered),
    (⟨0, 0, 0⟩, .start 0 150 .answered),
    (⟨1, 1, 1⟩, .write ⟨0, ⟨"101", 7, 1⟩⟩),
    (⟨2, 2, 2⟩, .sessionLost 0),
    (⟨200000000, 200000000, 0⟩, .spawn 1 "101" 8),
    (⟨200000000, 200000000, 0⟩, .lock 1),
    (⟨200000000, 200000000, 0⟩, .acquire 1 150 .answered),
    (⟨200000001, 200000001, 0⟩, .write ⟨1, ⟨"101", 8, 2⟩⟩)]

theorem owned_by_one_running_actor_takeover :
    let s := run Cabinets.step Cabinets.init takeoverRun
    ∃ row, s.rows "101" = some row ∧ row.nextScanAt = none ∧
      ∃ n, (s.actors n).phase.lease = some ⟨"101", 8, row.leaseToken⟩ := by
  have hrow : ((run Cabinets.step Cabinets.init takeoverRun).rows "101").map (·.ownerInstance) =
      some (some 8) := by decide +kernel
  obtain ⟨row, hrow, howner⟩ := Option.map_eq_some_iff.mp hrow
  obtain ⟨howned, -, hschedule, -⟩ := @owned_by_one_running_actor takeoverRun (by decide +kernel)
    "101" row hrow
  exact ⟨row, hrow, hschedule (by simp [howner]), (howned 8).mp howner⟩

end

end StopBot.Observer
