import StopBot.Observer.ScanTasks
import StopBot.Tasks.Lifecycle

/-!
# One runnable scan

Publishers under the lock look before they insert, so they never make a second
runnable scan out of none. The publishers without the lock and the release of
waiting scans do not look: every run in which they happen to act on a quiet
system keeps the contract, and one that does not breaks it.
-/

namespace StopBot.Observer

open Lib Tasks

variable {q q' : Queue} {clk : Clock} {row row' : TaskRow}

-- ------------------------------------------------------------
-- Runnable rows
-- ------------------------------------------------------------

theorem runnable_iff : runnable row = true ↔ row.taskType = .observerScan ∧
    row.status.terminal = false ∧ row.cancelRequestedAt = none ∧
      Obj.text row.payload "dependency_state" ≠ some "waiting" := by
  simp [runnable, and_assoc]

def AtMostOne (q : Queue) : Prop :=
  ∀ id id' row row', q.rows id = some row → q.rows id' = some row' → runnable row = true →
    runnable row' = true → id = id'

def NoneRunnable (q : Queue) : Prop :=
  ∀ id row, q.rows id = some row → runnable row = false

def Back (q q' : Queue) : Prop :=
  ∀ id row', q'.rows id = some row' → runnable row' = true →
    ∃ row, q.rows id = some row ∧ runnable row = true

theorem Back.atMostOne (h : Back q q') (hone : AtMostOne q) : AtMostOne q' := by
  intro id id' row row' hrow hrow' hr hr'
  obtain ⟨r, hstored, hrun⟩ := h id row hrow hr
  obtain ⟨r', hstored', hrun'⟩ := h id' row' hrow' hr'
  exact hone id id' r r' hstored hstored' hrun hrun'

theorem Back.noneRunnable (h : Back q q') (hnone : NoneRunnable q) : NoneRunnable q' := by
  intro id row' hrow'
  rw [Bool.eq_false_iff]
  intro hr
  obtain ⟨row, hrow, hrun⟩ := h id row' hrow' hr
  rw [hnone id row hrow] at hrun
  cases hrun

theorem NoneRunnable.atMostOne (h : NoneRunnable q) : AtMostOne q := by
  intro id id' row row' hrow _ hr _
  rw [h id row hrow] at hr
  cases hr

theorem mem_runnableScans {id : Nat} :
    (id, row) ∈ runnableScans q ↔ q.rows id = some row ∧ runnable row = true := by
  simp [runnableScans, Table.mem_entries]

theorem noneRunnable_iff : NoneRunnable q ↔ runnableScans q = [] := by
  constructor
  · intro h
    rw [List.eq_nil_iff_forall_not_mem]
    rintro ⟨id, row⟩ hmem
    obtain ⟨hrow, hr⟩ := mem_runnableScans.mp hmem
    rw [h id row hrow] at hr
    cases hr
  · intro h id row hrow
    rw [Bool.eq_false_iff]
    intro hr
    have hmem := mem_runnableScans.mpr ⟨hrow, hr⟩
    rw [h] at hmem
    cases hmem

theorem AtMostOne.length (h : AtMostOne q) : (runnableScans q).length ≤ 1 := by
  have hsorted : (runnableScans q).Pairwise fun a b => a.1 < b.1 := q.entries_pairwise.filter _
  match hl : runnableScans q with
  | [] => simp
  | [a] => simp
  | a :: b :: rest =>
    rw [hl] at hsorted
    have hlt : a.1 < b.1 := (List.pairwise_cons.mp hsorted).1 b List.mem_cons_self
    obtain ⟨ha, har⟩ := mem_runnableScans.mp (hl ▸ List.mem_cons_self : a ∈ runnableScans q)
    obtain ⟨hb, hbr⟩ := mem_runnableScans.mp
      (hl ▸ List.mem_cons_of_mem _ List.mem_cons_self : b ∈ runnableScans q)
    have heq := h a.1 b.1 a.2 b.2 ha hb har hbr
    omega

-- ------------------------------------------------------------
-- What every other operation does
-- ------------------------------------------------------------

/-- Only the release touches a payload, and no statement takes a cancellation back. -/
theorem RowOp.keepsScan {op : RowOp} (h : op.apply clk row = some row')
    (hne : ∀ released, op ≠ .releaseScanDependencies released) :
    row'.payload = row.payload ∧
      (row'.cancelRequestedAt = none → row.cancelRequestedAt = none) := by
  cases op <;> simp only [RowOp.apply] at h
  case markFailedWithCompensation =>
    obtain ⟨failed, hfailed, rfl⟩ := Option.map_eq_some_iff.mp h
    obtain ⟨-, rfl⟩ := update_eq_some.mp hfailed
    exact ⟨rfl, id⟩
  case requeueForRetry =>
    simp only [Tasks.requeueForRetry, Tasks.markFailed] at h
    split at h <;> obtain ⟨-, rfl⟩ := update_eq_some.mp h <;> exact ⟨rfl, id⟩
  case requeueUnknownForReconciliation =>
    simp only [Tasks.requeueUnknownForReconciliation, Tasks.markFailed] at h
    split at h <;> obtain ⟨-, rfl⟩ := update_eq_some.mp h <;> exact ⟨rfl, id⟩
  case cancelUnstartedAutoPause =>
    unfold Tasks.cancelUnstartedAutoPause at h
    split at h
    · cases h
      exact ⟨rfl, id⟩
    · obtain ⟨-, rfl⟩ := update_eq_some.mp h
      exact ⟨rfl, fun hnone => by cases hnone⟩
  case abortCampaignTask =>
    unfold Tasks.abortCampaignTask at h
    split at h
    · cases h
      exact ⟨rfl, fun hnone => by simp at hnone⟩
    · obtain ⟨-, rfl⟩ := update_eq_some.mp h
      exact ⟨rfl, fun hnone => by simp at hnone⟩
  case requestTaskCancel =>
    obtain ⟨-, rfl⟩ := update_eq_some.mp h
    exact ⟨rfl, fun hnone => by simp at hnone⟩
  case releaseScanDependencies released => exact absurd rfl (hne released)
  all_goals
    obtain ⟨-, rfl⟩ := update_eq_some.mp h
    exact ⟨rfl, id⟩

theorem RowOp.runnable_back {op : RowOp} (h : op.apply clk row = some row')
    (hne : ∀ released, op ≠ .releaseScanDependencies released) (hr : runnable row' = true) :
    runnable row = true := by
  obtain ⟨hpayload, hcancel⟩ := RowOp.keepsScan h hne
  obtain ⟨htype, hopen, hnone, hready⟩ := runnable_iff.mp hr
  have heffect := RowOp.effect h
  refine runnable_iff.mpr ⟨heffect.kept.taskType ▸ htype, ?_, hcancel hnone, hpayload ▸ hready⟩
  rw [Bool.eq_false_iff]
  intro hterminal
  rw [(heffect.frozen hterminal).status, hterminal] at hopen
  cases hopen

theorem back_step {op : QueueOp} (hop : publishesScan op = false) :
    Back q (Tasks.step q (clk, op)) := by
  intro id row' hrow' hr
  obtain ⟨htype, hopen, hnone, hready⟩ := runnable_iff.mp hr
  cases hrow : q.rows id with
  | none =>
    obtain ⟨task, rfl, -, rfl⟩ := step_created _ hrow hrow'
    have htask : task.taskType = .observerScan := htype
    simp [publishesScan, htask] at hop
  | some row =>
    refine ⟨row, rfl, ?_⟩
    obtain ⟨row'', hrow'', ⟨worker, -, hclaims⟩ | ⟨-, rfl | ⟨rowOp, hon, happly⟩⟩⟩ :=
      step_claimOf (clk, op) hrow
    all_goals rw [hrow'] at hrow''; cases hrow''
    · obtain ⟨htype', -, -, hpayload, -⟩ := hclaims.kept
      have hcancel : row'.cancelRequestedAt = row.cancelRequestedAt := by cases hclaims <;> rfl
      exact runnable_iff.mpr ⟨htype' ▸ htype, terminal_of_queued hclaims.queued, hcancel ▸ hnone,
        hpayload ▸ hready⟩
    · exact hr
    · refine RowOp.runnable_back happly ?_ hr
      rintro released rfl
      cases op with
      | create task => cases hon
      | claim c gateOpen locked => cases hon
      | claimEvent worker leaseSeconds locked => cases hon
      | onRow i op' =>
        simp only [opOn] at hon
        split at hon
        · cases hon
          cases hop
        · cases hon
      | onAll op' =>
        cases hon
        cases hop

-- ------------------------------------------------------------
-- Publication
-- ------------------------------------------------------------

theorem ScanRequest.waiting {r : ScanRequest}
    (h : (sortedIds r.dependencyTaskIds).isEmpty = false) :
    runnable ((r.task clk).row clk) = false := by
  rw [Bool.eq_false_iff]
  intro hr
  refine (runnable_iff.mp hr).2.2.2 ?_
  simp only [ScanRequest.task, NewTask.row, scanPayload, h, Bool.false_eq_true, if_false]
  rfl

def ScanRequest.insertsRunnable (r : ScanRequest) (q : Queue) : Bool :=
  r.validate.isOk && !keyTaken q r.idempotencyKey && (sortedIds r.dependencyTaskIds).isEmpty

/-- What a publication leaves: the queue as it was, or one scan more. -/
theorem enqueueObserverScan_ok {r : ScanRequest} {receipt : ScanReceipt}
    (h : enqueueObserverScan q clk r = .ok (q', receipt)) :
    q' = q ∨ (r.validate.isOk = true ∧ keyTaken q r.idempotencyKey = false ∧
      q' = q.insert ((r.task clk).row clk)) := by
  simp only [enqueueObserverScan] at h
  cases hv : r.validate with
  | error e =>
    rw [hv] at h
    cases h
  | ok u =>
    rw [hv] at h
    simp only [bind, Except.bind] at h
    split at h
    · cases hl : r.loadExisting q with
      | error e =>
        rw [hl] at h
        cases h
      | ok found =>
        rw [hl] at h
        cases h
        exact .inl rfl
    · rename_i hfree
      cases h
      exact .inr ⟨rfl, by simpa using hfree, rfl⟩

theorem insertsRunnable_of_step {r : ScanRequest} {e : Clock × QueueOp}
    (h : r.insertsRunnable (Tasks.step q e) = true) : r.insertsRunnable q = true := by
  simp only [ScanRequest.insertsRunnable, Bool.and_eq_true, Bool.not_eq_true'] at h ⊢
  refine ⟨⟨h.1.1, ?_⟩, h.2⟩
  rw [Bool.eq_false_iff]
  intro htaken
  rw [keyTaken_step _ htaken] at h
  cases h.1.2

theorem insert_back {new : TaskRow} (h : runnable new = false) : Back q (q.insert new) := by
  intro id row' hrow' hr
  rw [Table.insert_rows] at hrow'
  split at hrow'
  · cases hrow'
    rw [h] at hr
    cases hr
  · exact ⟨row', hrow', hr⟩

theorem insert_atMostOne {new : TaskRow} (h : NoneRunnable q) : AtMostOne (q.insert new) := by
  -- whatever is runnable now is the new row
  have hnew : ∀ id row, (q.insert new).rows id = some row → runnable row = true → id = q.next := by
    intro id row hrow hr
    rw [Table.insert_rows] at hrow
    split at hrow
    · assumption
    · rw [h id row hrow] at hr
      cases hr
  intro id id' row row' hrow hrow' hr hr'
  rw [hnew id row hrow hr, hnew id' row' hrow' hr']

theorem look_reuse {p : Publisher} {receipt : ScanReceipt} (h : p.look q clk = .reuse receipt q') :
    Back q q' := by
  cases p with
  | scheduler key =>
    simp only [Publisher.look, lookScheduled] at h
    split at h
    · cases h
    · split at h
      · cases h
      · split at h
        · cases h
        · cases h
          split
          · exact back_step rfl
          · exact fun id row' hrow' hr => ⟨row', hrow', hr⟩
  | operator requestedBy reason key =>
    simp only [Publisher.look, lookOperator] at h
    split at h
    · cases h
    · cases h
      split
      · exact back_step rfl
      · exact fun id row' hrow' hr => ⟨row', hrow', hr⟩

theorem look_clear {p : Publisher} (h : p.look q clk = .clear) : NoneRunnable q := by
  have hfirst : Sql.first scanBefore (runnableScans q) = none := by
    cases p with
    | scheduler key =>
      simp only [Publisher.look, lookScheduled] at h
      split at h
      · assumption
      · split at h
        · cases h
        · split at h <;> cases h
    | operator requestedBy reason key =>
      simp only [Publisher.look, lookOperator] at h
      split at h
      · assumption
      · cases h
  exact noneRunnable_iff.mpr (Sql.first_eq_none hfirst)

theorem look_raises {p : Publisher} {error : String} (hone : AtMostOne q)
    (h : p.look q clk = .raises error) : error ≠ multipleRunnable := by
  have hlength := hone.length
  cases p with
  | scheduler key =>
    simp only [Publisher.look, lookScheduled] at h
    split at h
    · cases h
    · split at h
      · omega
      · split at h
        · cases h
          decide
        · cases h
  | operator requestedBy reason key =>
    simp only [Publisher.look, lookOperator] at h
    split at h <;> cases h

-- ------------------------------------------------------------
-- Release
-- ------------------------------------------------------------

def released (q : Queue) : List (Nat × TaskRow) :=
  q.entries.filter fun entry => entry.2.taskType == .observerScan && entry.2.status.queued &&
    entry.2.cancelRequestedAt.isNone &&
    Obj.text entry.2.payload "dependency_state" == some "waiting" && dependenciesDone q entry.2

theorem releaseDependencies_runnable {id : Nat}
    (hrow' : (releaseDependencies q clk).rows id = some row') (hr : runnable row' = true) :
    (∃ row, q.rows id = some row ∧ runnable row = true) ∨ ∃ row, (id, row) ∈ released q := by
  rw [releaseDependencies, Table.update_rows, Option.map_eq_some_iff] at hrow'
  obtain ⟨row, hrow, rfl⟩ := hrow'
  cases hrel : releaseScanDependencies clk (dependenciesDone q row) row with
  | none =>
    rw [hrel] at hr
    exact .inl ⟨row, hrow, hr⟩
  | some new =>
    rw [hrel] at hr
    obtain ⟨hg, rfl⟩ := update_eq_some.mp hrel
    have hcancel : row.cancelRequestedAt = none := (runnable_iff.mp hr).2.2.1
    simp only [Bool.and_eq_true, beq_iff_eq] at hg
    obtain ⟨⟨⟨htype, hqueued⟩, hwaiting⟩, hdone⟩ := hg
    refine .inr ⟨row, List.mem_filter.mpr ⟨Table.mem_entries.mpr hrow, ?_⟩⟩
    simp [htype, hqueued, hcancel, hwaiting, hdone]

-- ------------------------------------------------------------
-- The invariant
-- ------------------------------------------------------------

def ScanSys.quiet (s : ScanSys) : Bool :=
  (runnableScans s.queue).isEmpty && !s.holder.any (·.cleared)

/-- A publication without the lock inserts a runnable scan, or a release makes
waiting scans runnable, only in a quiet system, and one scan at a time. -/
def undisturbed (digest : String → String) (s : ScanSys) (e : Clock × ScanLabel) : Bool :=
  match e.2 with
  | .direct r => s.quiet || !r.insertsRunnable s.queue
  | .defer taskId f delaySeconds =>
    s.quiet || !(autoStopRefresh digest taskId).insertsRunnable s.queue ||
      ((s.queue.rows taskId).bind (deferAutoStopForFreshSnapshot e.1 f delaySeconds)).isNone
  | .release =>
    (released s.queue).isEmpty || (s.quiet && Decidable.decide ((released s.queue).length ≤ 1))
  | _ => true

structure Single (s : ScanSys) : Prop where
  one : AtMostOne s.queue
  cleared : ∀ h, s.holder = some h → h.cleared = true → NoneRunnable s.queue
  raised : multipleRunnable ∉ s.raised

theorem quiet_iff {s : ScanSys} : s.quiet = true ↔
    NoneRunnable s.queue ∧ ∀ h, s.holder = some h → h.cleared = false := by
  rw [noneRunnable_iff]
  cases hh : s.holder with
  | none => simp [ScanSys.quiet, hh]
  | some h => simp [ScanSys.quiet, hh]

theorem Single.init : Single ScanSys.init where
  one := fun id _ row _ hrow => by cases hrow
  cleared := fun h hh => by cases hh
  raised := by simp [ScanSys.init]

theorem Single.back {s : ScanSys} (h : Single s) (hb : Back s.queue q') :
    Single { s with queue := q' } where
  one := hb.atMostOne h.one
  cleared := fun holder hh hc => hb.noneRunnable (h.cleared holder hh hc)
  raised := h.raised

theorem Single.commit {s : ScanSys} (h : Single s) {r : ScanRequest} (hb : Back s.queue q)
    (hsafe : r.insertsRunnable q = true →
      NoneRunnable s.queue ∧ ∀ holder, s.holder = some holder → holder.cleared = false) :
    Single (s.commit (enqueueObserverScan q clk r)) := by
  cases hq : enqueueObserverScan q clk r with
  | error e => exact h
  | ok out =>
    obtain ⟨q', receipt⟩ := out
    simp only [ScanSys.commit]
    rcases enqueueObserverScan_ok hq with rfl | ⟨hvalid, hfree, rfl⟩
    · exact h.back hb
    · by_cases hdeps : (sortedIds r.dependencyTaskIds).isEmpty = true
      · obtain ⟨hnone, hholder⟩ :=
          hsafe (by simp [ScanRequest.insertsRunnable, hvalid, hfree, hdeps])
        refine ⟨insert_atMostOne (hb.noneRunnable hnone), ?_, h.raised⟩
        intro holder hh hc
        rw [hholder holder hh] at hc
        cases hc
      · refine h.back fun id row' hrow' hr => ?_
        obtain ⟨row, hrow, hrun⟩ :=
          insert_back (ScanRequest.waiting (by simpa using hdeps)) id row' hrow' hr
        exact hb id row hrow hrun

theorem eq_of_length_le_one {α : Type} {l : List α} (h : l.length ≤ 1) {a b : α} (ha : a ∈ l)
    (hb : b ∈ l) : a = b := by
  match l, h with
  | [x], _ => rw [List.mem_singleton.mp ha, List.mem_singleton.mp hb]

theorem Single.release {s : ScanSys} (h : Single s)
    (hsafe : ((released s.queue).isEmpty ||
      (s.quiet && Decidable.decide ((released s.queue).length ≤ 1))) = true) :
    Single { s with queue := releaseDependencies s.queue clk } := by
  rcases Bool.or_eq_true_iff.mp hsafe with hnil | hsafe
  · refine h.back fun id row' hrow' hr => ?_
    rcases releaseDependencies_runnable hrow' hr with hbefore | ⟨row, hmem⟩
    · exact hbefore
    · rw [List.isEmpty_iff.mp hnil] at hmem
      cases hmem
  · obtain ⟨hquiet, hlength⟩ := Bool.and_eq_true_iff.mp hsafe
    obtain ⟨hnone, hholder⟩ := quiet_iff.mp hquiet
    -- what is runnable now was just released
    have hnew : ∀ id row', (releaseDependencies s.queue clk).rows id = some row' →
        runnable row' = true → ∃ row, (id, row) ∈ released s.queue := by
      intro id row' hrow' hr
      rcases releaseDependencies_runnable hrow' hr with ⟨row, hrow, hrun⟩ | hmem
      · rw [hnone id row hrow] at hrun
        cases hrun
      · exact hmem
    refine ⟨?_, ?_, h.raised⟩
    · intro id id' row row' hrow hrow' hr hr'
      obtain ⟨r, hmem⟩ := hnew id row hrow hr
      obtain ⟨r', hmem'⟩ := hnew id' row' hrow' hr'
      exact congrArg Prod.fst (eq_of_length_le_one (of_decide_eq_true hlength) hmem hmem')
    · intro holder hh hc
      rw [hholder holder hh] at hc
      cases hc

theorem Single.step (digest : String → String) {s : ScanSys} (h : Single s) {e : Clock × ScanLabel}
    (hsafe : undisturbed digest s e = true) : Single (s.step digest e) := by
  obtain ⟨clk, label⟩ := e
  cases label with
  | lock p scanningEnabled =>
    simp only [ScanSys.step]
    split
    · exact h
    · exact ⟨h.one, fun holder hh hc => (by cases hh; cases hc), h.raised⟩
  | look =>
    simp only [ScanSys.step]
    split
    · rename_i publisher hholder
      split
      · rename_i hclear
        exact ⟨h.one, fun _ _ _ => look_clear hclear, h.raised⟩
      · rename_i receipt q hreuse
        exact ⟨(look_reuse hreuse).atMostOne h.one, fun _ hh => (by cases hh), h.raised⟩
      · rename_i error hraises
        refine ⟨h.one, fun _ hh => (by cases hh), ?_⟩
        rw [List.mem_cons, not_or]
        exact ⟨(look_raises h.one hraises).symm, h.raised⟩
    · exact h
  | publish =>
    simp only [ScanSys.step]
    split
    · rename_i publisher hholder
      have hnone := h.cleared _ hholder rfl
      have hgone : Single { s with holder := none } := ⟨h.one, fun _ hh => (by cases hh), h.raised⟩
      exact hgone.commit (fun id row' hrow' hr => ⟨row', hrow', hr⟩)
        fun _ => ⟨hnone, fun _ hh => (by cases hh)⟩
    · exact h
  | crash => exact ⟨h.one, fun _ hh => (by cases hh), h.raised⟩
  | direct r =>
    refine h.commit (fun id row' hrow' hr => ⟨row', hrow', hr⟩) fun hinserts => quiet_iff.mp ?_
    simpa [undisturbed, hinserts] using hsafe
  | defer taskId f delaySeconds =>
    simp only [ScanSys.step]
    split
    · rename_i hdeferred
      refine h.commit (back_step rfl) fun hinserts => quiet_iff.mp ?_
      have hbefore : (autoStopRefresh digest taskId).insertsRunnable s.queue = true :=
        insertsRunnable_of_step hinserts
      simpa [undisturbed, hbefore, Option.isNone_iff_eq_none,
        Option.isSome_iff_ne_none.mp hdeferred]
        using hsafe
    · exact h
  | release => exact h.release hsafe
  | queue op => exact h.back (back_step op.foreign)

/-- In every run in which the publishers without the lock and the releases act
on a quiet system only, every state has at most one runnable scan and the
scheduler never meets two. -/
theorem singleton_scan (digest : String → String) (es : List (Clock × ScanLabel))
    (hsafe : AllSteps (ScanSys.step digest) (fun s e => undisturbed digest s e = true)
      ScanSys.init es) :
    AtMostOne (run (ScanSys.step digest) ScanSys.init es).queue ∧
      (runnableScans (run (ScanSys.step digest) ScanSys.init es).queue).length ≤ 1 ∧
      multipleRunnable ∉ (run (ScanSys.step digest) ScanSys.init es).raised := by
  have h := run_invariant (fun _ _ hs he => hs.step digest he) Single.init hsafe
  exact ⟨h.one, h.one.length, h.raised⟩

-- The scheduler publishes, its scan is claimed and finished, the operator retries.

def scanWorker : Consumer :=
  { taskType := .observerScan, lanes := [.interactive, .background], worker := 5,
    leaseSeconds := 150 }

def takeTurns : List (Clock × ScanLabel) :=
  [(tick 0, .lock (.scheduler "observer-scan:scheduler:0") true), (tick 0, .look),
    (tick 0, .publish),
    (tick 1, .release), (tick 1, .queue ⟨.claim scanWorker true [], rfl⟩),
    (tick 2, .lock (.operator "ops" "operator_retry_scan" "retry-1") true), (tick 2, .look),
    (tick 3, .queue ⟨.onRow 0 (.markSucceeded ⟨some 5, some 1⟩ none), rfl⟩),
    (tick 4, .lock (.operator "ops" "operator_retry_scan" "retry-2") true), (tick 4, .look),
    (tick 4, .publish)]

theorem singleton_scan_takeTurns :
    (runnableScans (run (ScanSys.step id) ScanSys.init takeTurns).queue).map Prod.fst = [1] ∧
      AtMostOne (run (ScanSys.step id) ScanSys.init takeTurns).queue :=
  ⟨by decide +kernel, (singleton_scan id takeTurns (by decide +kernel)).1⟩

-- A stale automatic pause publishes a second scan beside the scheduler's; the
-- next tick raises.

def staleRefresh : List (Clock × ScanLabel) :=
  [(tick 0, .queue ⟨.create autoPause, rfl⟩), (tick 0, .queue ⟨.claim moneyWorker true [], rfl⟩),
    (tick 1, .lock (.scheduler "observer-scan:scheduler:0") true), (tick 1, .look),
      (tick 1, .publish),
    (tick 2, .defer 0 ⟨some 1, some 1⟩ 15),
    (tick 3, .lock (.scheduler "observer-scan:scheduler:1") true), (tick 3, .look)]

theorem staleRefresh_two_scans :
    (runnableScans (run (ScanSys.step id) ScanSys.init staleRefresh).queue).map Prod.fst = [1, 2] ∧
      multipleRunnable ∈ (run (ScanSys.step id) ScanSys.init staleRefresh).raised := by
  decide +kernel

end StopBot.Observer
