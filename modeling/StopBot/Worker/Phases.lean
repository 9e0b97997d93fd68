import StopBot.Tasks.Zombies
import StopBot.Worker.Process

/-!
# Phases of a status task

An open row is clean, past its boundary, or of unknown outcome; the two places
that tell, `external_started_at` and `result.reconcile_required`, are read
together here, with what the trace must look like in each phase. The second
half says what every statement does to a row in these terms: those issued
without a lease first, then the last statements of a worker.
-/

namespace StopBot.Worker

open Lib Tasks

-- ------------------------------------------------------------
-- Readings of the trace
-- ------------------------------------------------------------

def isWrite : Event → Bool
  | .write => true
  | .ambiguous | .readDifferent => false

def isAmbiguous : Event → Bool
  | .ambiguous => true
  | .write | .readDifferent => false

def isReadDifferent : Event → Bool
  | .readDifferent => true
  | .write | .ambiguous => false

def writes (trace : List Event) : Int := trace.count .write

def unverified (trace : List Event) : Bool := pending isWrite isReadDifferent trace

/-- A write ended ambiguously and no reconciliation read has proven it absent since. -/
def unresolved (trace : List Event) : Bool := pending isAmbiguous isReadDifferent trace

@[simp] theorem writes_write (trace : List Event) :
    writes (.write :: trace) = writes trace + 1 := by
  simp [writes]

@[simp] theorem writes_ambiguous (trace : List Event) :
    writes (.ambiguous :: trace) = writes trace := by
  simp [writes]

@[simp] theorem writes_readDifferent (trace : List Event) :
    writes (.readDifferent :: trace) = writes trace := by
  simp [writes]

@[simp] theorem unverified_readDifferent (trace : List Event) :
    unverified (.readDifferent :: trace) = false := rfl

@[simp] theorem unresolved_readDifferent (trace : List Event) :
    unresolved (.readDifferent :: trace) = false := rfl

@[simp] theorem unresolved_write (trace : List Event) :
    unresolved (.write :: trace) = unresolved trace := rfl

-- ------------------------------------------------------------
-- Phases
-- ------------------------------------------------------------

/-- `result -> 'reconcile_required'`. -/
def marker (row : TaskRow) : Option Json :=
  Obj.get? row.resultObj "reconcile_required"

theorem reconcileRequired_of_marker {row : TaskRow} (h : marker row = some (.bool true)) :
    row.reconcileRequired = true := by
  have htext : Obj.text row.resultObj "reconcile_required" = some "true" := by
    rw [Obj.text, show Obj.get? row.resultObj "reconcile_required" = _ from h]
    rfl
  simp [TaskRow.reconcileRequired, TaskRow.flag, htext]

theorem reconcileRequired_of_marker_none {row : TaskRow} (h : marker row = none) :
    row.reconcileRequired = false := by
  have htext : Obj.text row.resultObj "reconcile_required" = none := by
    rw [Obj.text, show Obj.get? row.resultObj "reconcile_required" = _ from h]
    rfl
  simp [TaskRow.reconcileRequired, TaskRow.flag, htext]

structure AdRow (row : TaskRow) : Prop where
  taskType : row.taskType = .metaApiMutation
  kind : row.mutationKind = some "pause_ad" ∨ row.mutationKind = some "activate_ad"
  maxAttempts : 1 ≤ row.maxAttempts

def Parses (row : TaskRow) : Prop :=
  ∃ payload, MetaMutationPayload.fromDict row.payload = .ok payload

structure Clean (row : TaskRow) (trace : List Event) : Prop where
  marker : marker row = none
  boundary : row.externalStartedAt = none
  budget : row.attemptCount < row.maxAttempts
  writes : writes trace ≤ row.attemptCount
  verified : unverified trace = false
  resolved : unresolved trace = false

/-- The boundary is crossed; the write of this attempt may have been issued. -/
structure Crossed (row : TaskRow) (trace : List Event) : Prop where
  running : row.status = .running
  marker : marker row = none
  boundary : row.externalStartedAt.isSome = true
  budget : row.attemptCount < row.maxAttempts
  writes : writes trace ≤ row.attemptCount + 1
  parses : Parses row

structure Ready (row : TaskRow) (trace : List Event) : Prop where
  crossed : Crossed row trace
  writes : writes trace ≤ row.attemptCount
  verified : unverified trace = false
  resolved : unresolved trace = false

structure Unknown (row : TaskRow) (trace : List Event) : Prop where
  marker : marker row = some (.bool true)
  writes : writes trace ≤ row.attemptCount
  parses : Parses row

inductive Live (row : TaskRow) (trace : List Event) : Prop
  | clean (h : Clean row trace)
  | crossed (h : Crossed row trace)
  | unknown (h : Unknown row trace)

theorem Live.unknown_of_marker {row : TaskRow} {trace : List Event} (h : Live row trace)
    (hm : marker row = some (.bool true)) : Unknown row trace := by
  cases h with
  | clean h => rw [h.marker] at hm; cases hm
  | crossed h => rw [h.marker] at hm; cases hm
  | unknown h => exact h

theorem Live.clean_of_boundary {row : TaskRow} {trace : List Event} (h : Live row trace)
    (hb : row.externalStartedAt = none) (hm : marker row ≠ some (.bool true)) :
    Clean row trace := by
  cases h with
  | clean h => exact h
  | crossed h =>
    have hsome := h.boundary
    rw [hb] at hsome
    cases hsome
  | unknown h => exact absurd h.marker hm

section
variable {row row' : TaskRow} {trace : List Event}

structure SameLife (row row' : TaskRow) : Prop where
  attempts : row'.attemptCount = row.attemptCount
  result : row'.result = row.result
  boundary : row'.externalStartedAt = row.externalStartedAt
  payload : row'.payload = row.payload
  maxAttempts : row.maxAttempts ≤ row'.maxAttempts

theorem SameLife.marker (h : SameLife row row') : Worker.marker row' = Worker.marker row := by
  simp [Worker.marker, TaskRow.resultObj, h.result]

theorem Clean.same (hc : Clean row trace) (h : SameLife row row') : Clean row' trace := by
  have hmax := h.maxAttempts
  have hattempts := h.attempts
  exact ⟨h.marker.trans hc.marker, h.boundary.trans hc.boundary, by have := hc.budget; omega,
    by have := hc.writes; omega, hc.verified, hc.resolved⟩

theorem Parses.same (hp : Parses row) (h : SameLife row row') : Parses row' := by
  obtain ⟨payload, hp⟩ := hp
  exact ⟨payload, by rw [h.payload, hp]⟩

theorem Crossed.same (hc : Crossed row trace) (h : SameLife row row')
    (hs : row'.status = row.status) : Crossed row' trace := by
  have hmax := h.maxAttempts
  have hattempts := h.attempts
  exact ⟨hs.trans hc.running, h.marker.trans hc.marker, by rw [h.boundary, hc.boundary],
    by have := hc.budget; omega, by have := hc.writes; omega, hc.parses.same h⟩

theorem Ready.same (hr : Ready row trace) (h : SameLife row row')
    (hs : row'.status = row.status) : Ready row' trace := by
  have hattempts := h.attempts
  exact ⟨hr.crossed.same h hs, by have := hr.writes; omega, hr.verified, hr.resolved⟩

theorem Unknown.same (hu : Unknown row trace) (h : SameLife row row') : Unknown row' trace := by
  have hattempts := h.attempts
  exact ⟨h.marker.trans hu.marker, by have := hu.writes; omega, hu.parses.same h⟩

theorem Live.same (hl : Live row trace) (h : SameLife row row') (hs : row'.status = row.status) :
    Live row' trace := by
  cases hl with
  | clean hc => exact .clean (hc.same h)
  | crossed hc => exact .crossed (hc.same h hs)
  | unknown hu => exact .unknown (hu.same h)

-- A read that finds another status settles the trace in every phase.

theorem Clean.read (hc : Clean row trace) : Clean row (.readDifferent :: trace) :=
  ⟨hc.marker, hc.boundary, hc.budget, by simpa using hc.writes, rfl, rfl⟩

theorem Crossed.read (hc : Crossed row trace) : Crossed row (.readDifferent :: trace) :=
  ⟨hc.running, hc.marker, hc.boundary, hc.budget, by simpa using hc.writes, hc.parses⟩

theorem Ready.read (hr : Ready row trace) : Ready row (.readDifferent :: trace) :=
  ⟨hr.crossed.read, by simpa using hr.writes, rfl, rfl⟩

theorem Unknown.read (hu : Unknown row trace) : Unknown row (.readDifferent :: trace) :=
  ⟨hu.marker, by simpa using hu.writes, hu.parses⟩

theorem Live.read (hl : Live row trace) : Live row (.readDifferent :: trace) := by
  cases hl with
  | clean hc => exact .clean hc.read
  | crossed hc => exact .crossed hc.read
  | unknown hu => exact .unknown hu.read

-- ------------------------------------------------------------
-- Statements without a lease
-- ------------------------------------------------------------

/-- What a statement that carries no lease can do to the row of an ad command.
The first two leave its outcome alone or close it; the others are the
reconciler on a lost lease, before and after the boundary. -/
inductive Outside (row row' : TaskRow) : Prop
  | keeps (same : SameLife row row') (status : row'.status = row.status)
  | closes (wasOpen : row.status.terminal = false) (terminal : row'.status.terminal = true)
      (maxAttempts : row'.maxAttempts = row.maxAttempts)
      (rejected : row'.outcome = some "REJECTED" → row.externalStartedAt = none)
  | retries (running : row.status = .running) (status : row'.status = .retrying)
      (boundary : row.externalStartedAt = none) (boundary' : row'.externalStartedAt = none)
      (result : row'.result = row.result) (payload : row'.payload = row.payload)
      (attempts : row'.attemptCount = row.attemptCount + 1)
      (budget : row.attemptCount + 1 < row.maxAttempts)
      (maxAttempts : row'.maxAttempts = row.maxAttempts)
  | verifies (running : row.status = .running) (status : row'.status = .retrying)
      (boundary : row.externalStartedAt.isSome = true)
      (boundary' : row'.externalStartedAt = row.externalStartedAt)
      (marker : marker row' = some (.bool true)) (payload : row'.payload = row.payload)
      (attempts : row'.attemptCount = row.attemptCount + 1)
      (maxAttempts : row'.maxAttempts = row.maxAttempts)

theorem isStatusAction_of_adRow (h : AdRow row) : isStatusAction row = true := by
  rcases h.kind with hk | hk <;> simp [isStatusAction, h.taskType, hk]

theorem not_duplicate_of_adRow (h : AdRow row) : isDuplicate row = false := by
  rcases h.kind with hk | hk <;> simp [isDuplicate, hk]

theorem outcome_of_merge {left right : Obj} {text : String}
    (hr : row'.result = some (left.merge right))
    (ho : right.get? "outcome" = some (.str text)) : row'.outcome = some text := by
  rw [TaskRow.outcome, TaskRow.resultObj, hr, Option.getD_some, Obj.text_merge_of_some ho]
  rfl

theorem reconcileStuckRunning_outside (hrow : AdRow row)
    (h : reconcileStuckRunning clk sec exclude row = some row') : Outside row row' := by
  obtain ⟨hg, rfl⟩ := update_eq_some.mp h
  have hrun : row.status = .running := by grind
  have hstatus := isStatusAction_of_adRow hrow
  cases hb : row.externalStartedAt with
  | some instant =>
    refine .verifies hrun (by simp [hstatus]) (by simp [hb]) (by simp [hb]) ?_ rfl rfl rfl
    simp [marker, TaskRow.resultObj]
  | none =>
    by_cases hexhausted : row.maxAttempts ≤ row.attemptCount + 1
    · exact .closes (terminal_of_running hrun) (by simp [hexhausted, Status.terminal]) rfl
        fun _ => hb
    · exact .retries hrun (by simp [hexhausted]) hb rfl (by simp [hexhausted]) rfl rfl
        (by omega) rfl

theorem requestTaskCancel_outside (h : requestTaskCancel clk reason row = some row') :
    Outside row row' := by
  obtain ⟨hg, rfl⟩ := update_eq_some.mp h
  by_cases hunstarted : (row.status.queued && row.externalStartedAt.isNone) = true
  · obtain ⟨-, hnone⟩ := Bool.and_eq_true_iff.mp hunstarted
    exact .closes (by simpa using hg) (by simp [hunstarted, Status.terminal]) rfl
      fun _ => Option.isNone_iff_eq_none.mp hnone
  · exact .keeps ⟨rfl, by simp [hunstarted], rfl, rfl, Int.le_refl _⟩ (by simp [hunstarted])

theorem cancelUnstartedAutoPause_outside
    (h : cancelUnstartedAutoPause clk fbAdId row = some row') : Outside row row' := by
  unfold cancelUnstartedAutoPause at h
  split at h
  · rename_i hg
    cases h
    simp only [Bool.and_eq_true, Bool.not_eq_true'] at hg
    exact .closes hg.1.2 rfl rfl fun _ => Option.isNone_iff_eq_none.mp hg.2
  · obtain ⟨-, rfl⟩ := update_eq_some.mp h
    exact .keeps ⟨rfl, rfl, rfl, rfl, Int.le_refl _⟩ rfl

theorem expireOverdue_outcome (h : expireOverdue clk scope row = some row') :
    row'.outcome = some (if row.externalStartedAt.isSome || row.reconcileRequired then "UNKNOWN"
      else "REJECTED") := by
  obtain ⟨-, rfl⟩ := update_eq_some.mp h
  exact outcome_of_merge rfl (by simp only [Obj.get?_cons, if_true])

theorem expireOverdue_outside (h : expireOverdue clk scope row = some row') : Outside row row' := by
  have houtcome := expireOverdue_outcome h
  obtain ⟨hg, rfl⟩ := update_eq_some.mp h
  simp only [Bool.and_eq_true] at hg
  refine .closes (terminal_of_queued hg.1.1.1) rfl rfl fun hrejected => ?_
  cases hb : row.externalStartedAt with
  | none => rfl
  | some instant =>
    rw [houtcome] at hrejected
    simp [hb] at hrejected

theorem RowOp.outside {op : RowOp} (hrow : AdRow row) (hfence : op.fence? = none)
    (h : op.apply clk row = some row') : Outside row row' := by
  have htype := hrow.taskType
  have hdup := not_duplicate_of_adRow hrow
  cases op with
  | reconcileStuckRunning sec exclude => exact reconcileStuckRunning_outside hrow h
  | requestTaskCancel reason => exact requestTaskCancel_outside h
  | cancelUnstartedAutoPause fbAdId => exact cancelUnstartedAutoPause_outside h
  | expireOverdue scope => exact expireOverdue_outside h
  | recordManualReconciliation observation reviewedBy =>
    obtain ⟨-, rfl⟩ := update_eq_some.mp h
    exact .keeps ⟨rfl, rfl, rfl, rfl, Int.le_refl _⟩ rfl
  | strengthenActiveTask maxAttempts priority =>
    obtain ⟨-, rfl⟩ := update_eq_some.mp h
    exact .keeps ⟨rfl, rfl, rfl, rfl, Int.le_max_left _ _⟩ rfl
  | prepareStuckDuplicateRecovery sec | failStuckDuplicateWithoutCheckpoint sec =>
    have hg := (update_eq_some.mp h).1
    simp [hdup] at hg
  | failStuckCampaignCreate sec | sweepExhaustedTracker | extendScheduledScan
  | promoteObserverScan | releaseScanDependencies released =>
    have hg := (update_eq_some.mp h).1
    simp [htype, isTrackerEvent] at hg
  | abortCampaignTask reason =>
    simp only [RowOp.apply, Tasks.abortCampaignTask] at h
    simp [htype, update] at h
  | _ => simp [RowOp.fence?] at hfence

end

end StopBot.Worker
