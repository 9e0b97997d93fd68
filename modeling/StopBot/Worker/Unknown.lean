import StopBot.Worker.Writes

/-!
# Unknown outcomes

The evidence of a write that may have reached Meta lives in two places,
`external_started_at` and `result.reconcile_required`. As long as they are
kept together, a task whose write ended ambiguously is never closed as
rejected before a reconciliation read proves the write absent, and a claimed
reconciliation can always be resolved. One statement separates them: the
release after a browser-readiness rejection of the reconciliation read.
-/

namespace StopBot.Worker

open Lib Tasks

variable {row row' : TaskRow} {trace : List Event} {s : Sys} {clk : Clock}

/-- The step is the release of a row whose outcome is unknown. -/
def releasesUnknown (s : Sys) (e : Clock × Label) : Bool :=
  match e.2 with
  | .work token .ok =>
    match s.sessions token with
    | some session =>
      match session.pc with
      | .last op _ => requeuesUnknown e.1 s.row op
      | _ => false
    | none => false
  | _ => false

/-- The two pieces of evidence agree: an open row to be reconciled has its
boundary, and a closed one with an unresolved write is not rejected. -/
structure Accounted (row : TaskRow) (trace : List Event) : Prop where
  boundary : row.status.terminal = false → row.reconcileRequired = true →
    row.externalStartedAt.isSome = true
  evidence : row.status.terminal = true → unresolved trace = true →
    row.outcome ≠ some "REJECTED"

theorem Accounted.of_open (hopen : row.status.terminal = false)
    (hb : row.reconcileRequired = true → row.externalStartedAt.isSome = true) :
    Accounted row trace := by
  refine ⟨fun _ => hb, fun hterminal => ?_⟩
  rw [hopen] at hterminal
  cases hterminal

theorem Accounted.of_closed (hterminal : row.status.terminal = true)
    (h : row.outcome = some "REJECTED" → unresolved trace = false) : Accounted row trace := by
  refine ⟨fun hopen => ?_, fun _ hu hrejected => ?_⟩
  · rw [hterminal] at hopen
    cases hopen
  · rw [h hrejected] at hu
    cases hu

theorem Accounted.of_clean (hc : Clean row trace) : Accounted row trace := by
  refine ⟨fun _ hr => ?_, fun _ hu => ?_⟩
  · rw [reconcileRequired_of_marker_none hc.marker] at hr
    cases hr
  · rw [hc.resolved] at hu
    cases hu

theorem SameLife.reconcileRequired (h : SameLife row row') :
    row'.reconcileRequired = row.reconcileRequired :=
  reconcileRequired_congr h.result

theorem Accounted.same (ha : Accounted row trace) (h : SameLife row row')
    (hs : row'.status = row.status) : Accounted row' trace := by
  refine ⟨fun hopen hr => ?_, fun hterminal hu => ?_⟩
  · rw [h.boundary]
    exact ha.boundary (hs ▸ hopen) (h.reconcileRequired ▸ hr)
  · have houtcome : row'.outcome = row.outcome := by
      simp [TaskRow.outcome, TaskRow.resultObj, h.result]
    rw [houtcome]
    exact ha.evidence (hs ▸ hterminal) hu

theorem Accounted.resolved (ha : Accounted row trace) (hs : Sound row trace)
    (hopen : row.status.terminal = false) (hb : row.externalStartedAt = none) :
    unresolved trace = false := by
  refine ((hs.live hopen).clean_of_boundary hb fun hm => ?_).resolved
  have hsome := ha.boundary hopen (reconcileRequired_of_marker hm)
  rw [hb] at hsome
  cases hsome

theorem Outside.accounted (ho : Outside row row') (hs : Sound row trace)
    (ha : Accounted row trace) :
    Accounted row' (if leaseLost row row' then .ambiguous :: trace else trace) := by
  cases ho with
  | keeps same status =>
    simp only [leaseLost_of_status status, Bool.false_eq_true, if_false]
    exact ha.same same status
  | closes wasOpen terminal maxAttempts rejected =>
    refine .of_closed terminal fun hrejected => ?_
    -- what an outsider rejects has no boundary, so no lease was lost past one
    have hb := rejected hrejected
    have hlost : leaseLost row row' = false := by simp [leaseLost, hb]
    simp only [hlost, Bool.false_eq_true, if_false]
    exact ha.resolved hs wasOpen hb
  | retries running status boundary boundary' result =>
    refine .of_open (by rw [status]; rfl) fun hr => ?_
    have hsome := ha.boundary (terminal_of_running running)
      ((reconcileRequired_congr result).symm.trans hr)
    rw [boundary] at hsome
    cases hsome
  | verifies running status boundary boundary' =>
    exact .of_open (by rw [status]; rfl) fun _ => by rw [boundary']; exact boundary

theorem After.accounted {op : RowOp} (h : After clk op row row' trace)
    (hopen : row.status.terminal = false) (ha : Accounted row trace)
    (hsafe : requeuesUnknown clk row op = false) : Accounted row' trace := by
  cases h with
  | closes terminal maxAttempts rejected => exact .of_closed terminal rejected
  | cleans maxAttempts clean => exact .of_clean clean
  | unknown status maxAttempts unknown boundary crossed =>
    refine .of_open (by rw [status]; rfl) fun _ => ?_
    rw [boundary]
    rcases crossed with hb | hm
    · exact hb
    · exact ha.boundary hopen (reconcileRequired_of_marker hm)
  | releases status maxAttempts unknown released =>
    rw [hsafe] at released
    cases released

/-- The statement a coherent worker issues leaves a phase behind, or the row
ready for its call. -/
theorem Issues.after {session : Session} {op : RowOp} (h : Issues session op)
    (hc : Coherent row trace session) (hl : Live row trace)
    (happly : op.apply clk row = some row') : After clk op row row' trace ∨ Ready row' trace := by
  have hpc := hc.pc
  cases h with
  | last h =>
    rw [h] at hpc
    exact .inl (hpc.1.after hl happly)
  | resolve h =>
    rw [h] at hpc
    exact .inl (resolveStatusReconciliationNotApplied_after (hl.unknown_of_marker hpc.1) hpc.2.1
      hpc.2.2 happly)
  | boundary h =>
    rw [h] at hpc
    exact .inr (markExternalCallStarted_ready hpc.1 hpc.2 happly)

theorem Issues.not_requeuesUnknown {token : Nat} {session : Session} {op : RowOp}
    (h : Issues session op) (hsession : s.sessions token = some session)
    (hsafe : releasesUnknown s (clk, .work token .ok) = false) :
    requeuesUnknown clk s.row op = false := by
  cases h with
  | last h => simpa only [releasesUnknown, hsession, h] using hsafe
  | resolve | boundary => rfl

theorem work_accounted (hinv : Inv s) (ha : Accounted s.row s.trace) {token : Nat}
    {session : Session} (hsession : s.sessions token = some session) (answer : Answer)
    (hsafe : releasesUnknown s (clk, .work token answer) = false) :
    Accounted (advance clk session answer s.row).row
      ((advance clk session answer s.row).event.toList ++ s.trace) := by
  have hf := hinv.fenced token session hsession
  have htouches : Touches clk session answer s.row (advance clk session answer s.row) :=
    advance_touches answer
  cases htouches with
  | statement op issued answered apply quiet =>
    have hcur : current session s.row = true :=
      current_of_held (RowOp.heldBy_of_fence (issued.fence hf) apply)
    have hopen := terminal_of_running (current_iff.mp hcur).1
    have hcoherent := hinv.coherent token session hsession hcur
    rw [answered] at hsafe
    rw [quiet]
    rcases issued.after hcoherent (hinv.sound.live hopen) apply with hafter | hready
    · exact hafter.accounted hopen ha (issued.not_requeuesUnknown hsession hsafe)
    · refine .of_open (terminal_of_running hready.crossed.running) fun _ => hready.crossed.boundary
  | still unchanged event =>
    rw [unchanged]
    cases hopen : s.row.status.terminal with
    | false => exact .of_open hopen (ha.boundary hopen)
    | true =>
      -- the events of a closed row are late reads, which settle the trace
      rcases event with he | he | hcur
      · rw [he]
        exact ha
      · rw [he]
        exact ⟨ha.boundary, fun _ hu => by cases hu⟩
      · rw [terminal_of_running (current_iff.mp hcur).1] at hopen
        cases hopen

theorem step_accounted (hinv : Inv s) (ha : Accounted s.row s.trace) (e : Clock × Label)
    (hsafe : releasesUnknown s e = false) : Accounted (s.step e).row (s.step e).trace := by
  obtain ⟨clk, label⟩ := e
  cases label with
  | claim c generation =>
    simp only [Sys.step]
    split
    · rename_i hclaim
      have hopen := terminal_of_queued (not_terminal_of_claimable hclaim)
      exact .of_open rfl (ha.boundary hopen)
    · exact ha
  | outside op =>
    simp only [Sys.step]
    split
    · rename_i row' hfence happly
      exact (RowOp.outside hinv.ad hfence happly).accounted hinv.sound ha
    · exact ha
  | touch token leaseSeconds =>
    simp only [Sys.step]
    split
    · rename_i session _
      cases ht : touchTaskRunning clk session.fence leaseSeconds s.row with
      | none => exact ha
      | some row' =>
        obtain ⟨-, rfl⟩ := update_eq_some.mp ht
        exact ha.same ⟨rfl, rfl, rfl, rfl, Int.le_refl _⟩ rfl
    · exact ha
  | crash token => exact ha
  | work token answer =>
    simp only [Sys.step]
    split
    · rename_i session hsession
      exact work_accounted hinv ha hsession answer hsafe
    · exact ha

/-- In every run in which no release takes back a row of unknown outcome, the
evidence is kept together. -/
theorem run_accounted {task : NewTask} (h : AdCommand task) (clk : Clock)
    {es : List (Clock × Label)}
    (hsafe : AllSteps Sys.step (fun s e => releasesUnknown s e = false) (Sys.init clk task) es) :
    Accounted (run Sys.step (Sys.init clk task) es).row
      (run Sys.step (Sys.init clk task) es).trace := by
  have hinit : Clean (Sys.init clk task).row [] := by
    have hmax : 1 ≤ task.maxAttempts := h.maxAttempts
    exact ⟨rfl, rfl, by show (0 : Int) < task.maxAttempts; omega, by exact Int.le_refl 0, rfl, rfl⟩
  have hrun := run_invariant (I := fun s => Inv s ∧ Accounted s.row s.trace)
    (fun s e hs hsafe => ⟨step_inv hs.1 e, step_accounted hs.1 hs.2 e hsafe⟩)
    ⟨init_inv h, .of_clean hinit⟩ hsafe
  exact hrun.2

-- ------------------------------------------------------------
-- Ambiguous writes
-- ------------------------------------------------------------

/-- A task whose write ended ambiguously, and for which no reconciliation read
has returned another status since, is never terminal and rejected, in any run
in which no browser-readiness release takes back a row of unknown outcome. -/
theorem ambiguous_write_not_rejected (clk : Clock) (task : NewTask) (h : AdCommand task)
    (es : List (Clock × Label))
    (hsafe : AllSteps Sys.step (fun s e => releasesUnknown s e = false) (Sys.init clk task) es)
    (hunresolved : unresolved (run Sys.step (Sys.init clk task) es).trace = true)
    (hterminal : (run Sys.step (Sys.init clk task) es).row.status.terminal = true) :
    (run Sys.step (Sys.init clk task) es).row.outcome ≠ some "REJECTED" :=
  (run_accounted h clk hsafe).evidence hterminal hunresolved

-- The reconciliation read fails for good: the task closes as unknown.

def readRefused : Raised :=
  { cls := .permanent .notFoundError, repr := "NotFoundError()" }

def unknownRun : List (Clock × Label) :=
  ambiguousRun ++
    ([(tick 9, .work 2 (.raised readRefused)), (tick 10, .work 2 .ok)] : List (Clock × Label))

theorem unknownRun_not_rejected :
    unresolved (run Sys.step (Sys.init (tick 0) autoPause) unknownRun).trace = true ∧
      (run Sys.step (Sys.init (tick 0) autoPause) unknownRun).row.status = .failed ∧
      (run Sys.step (Sys.init (tick 0) autoPause) unknownRun).row.outcome ≠ some "REJECTED" := by
  have hsafe : AllSteps Sys.step (fun s e => releasesUnknown s e = false)
      (Sys.init (tick 0) autoPause) unknownRun := by
    decide +kernel
  have hunresolved : unresolved (run Sys.step (Sys.init (tick 0) autoPause) unknownRun).trace =
      true := by
    decide +kernel
  have hfailed : (run Sys.step (Sys.init (tick 0) autoPause) unknownRun).row.status = .failed := by
    decide +kernel
  exact ⟨hunresolved, hfailed, ambiguous_write_not_rejected (tick 0) autoPause autoPause_adCommand
    unknownRun hsafe hunresolved (by rw [hfailed]; rfl)⟩

-- The reconciliation read is refused by the readiness check instead, and the
-- operator cancels the task while it waits for the next claim.

def readinessRejected : Raised :=
  { cls := .browserReadinessRejectedError, repr := "BrowserReadinessRejectedError()" }

def releasedRun : List (Clock × Label) :=
  ambiguousRun ++
    ([(tick 9, .work 2 (.raised readinessRejected)), (tick 10, .work 2 .ok)] : List (Clock × Label))

def cancelledRun : List (Clock × Label) :=
  releasedRun ++ [(tick 11, .outside (.requestTaskCancel "operator"))]

theorem cancelledRun_rejected :
    unresolved (run Sys.step (Sys.init (tick 0) autoPause) cancelledRun).trace = true ∧
      (run Sys.step (Sys.init (tick 0) autoPause) cancelledRun).row.status = .cancelled ∧
      (run Sys.step (Sys.init (tick 0) autoPause) cancelledRun).row.outcome = some "REJECTED" := by
  decide +kernel

-- ------------------------------------------------------------
-- Progress of the reconciliation
-- ------------------------------------------------------------

/-- A row to be reconciled has its boundary, and while it is leased the proof
that the write was not applied finds it. -/
def Progress (s : Sys) : Prop :=
  (s.row.status.terminal = false → s.row.reconcileRequired = true →
    s.row.externalStartedAt.isSome = true) ∧
  ∀ (clk : Clock) (effective : String), s.row.status = .running →
    s.row.leaseLive clk.wall = true → s.row.reconcileRequired = true →
    ∃ row', resolveStatusReconciliationNotApplied clk ⟨s.row.leaseOwner, some s.row.leaseToken⟩
        effective s.row = some row' ∧
      (row'.status = .cancelled ∨ row'.status = .failed ∨ row'.status = .running)

theorem step_rowStep (s : Sys) (e : Clock × Label) : RowStep e.1 s.row (s.step e).row := by
  obtain ⟨clk, label⟩ := e
  cases label with
  | claim c generation =>
    simp only [Sys.step]
    split
    · rename_i hclaim
      exact .claim (.scheduler c hclaim)
    · exact .stay
  | outside op =>
    simp only [Sys.step]
    split
    · rename_i row' _ happly
      exact .op op happly
    · exact .stay
  | touch token leaseSeconds =>
    simp only [Sys.step]
    split
    · rename_i session _
      cases ht : touchTaskRunning clk session.fence leaseSeconds s.row with
      | none => exact .stay
      | some row' => exact .op (.touchTaskRunning session.fence leaseSeconds) ht
    · exact .stay
  | crash token => exact .stay
  | work token answer =>
    simp only [Sys.step]
    split
    · rename_i session _
      have htouches : Touches clk session answer s.row (advance clk session answer s.row) :=
        advance_touches answer
      cases htouches with
      | statement op _ _ apply => exact .op op apply
      | still unchanged =>
        rw [unchanged]
        exact .stay
    · exact .stay

def Leased (row : TaskRow) : Prop :=
  row.status = .running → row.leaseOwner.isSome = true ∧ 0 < row.leaseToken

theorem Leased.rowStep (hl : Leased row) (h : RowStep clk row row') : Leased row' := by
  cases h with
  | stay => exact hl
  | claim h =>
    obtain ⟨-, howner, htoken, -⟩ := h.spec
    exact fun _ => ⟨by rw [howner]; rfl, by omega⟩
  | op op h =>
    intro hrun
    obtain ⟨hkept, hann | hclose | hreq⟩ := RowOp.effect h
    · rw [hann.leaseOwner, hkept.leaseToken]
      exact hl (hann.status ▸ hrun)
    · have hterminal := hclose.terminal
      rw [hrun] at hterminal
      cases hterminal
    · have hstatus := hreq.status
      rw [hrun] at hstatus
      cases hstatus

theorem run_leased {task : NewTask} (h : task.status = .pending) (clk : Clock)
    (es : List (Clock × Label)) : Leased (run Sys.step (Sys.init clk task) es).row := by
  refine run_preserves (I := fun s => Leased s.row)
    (fun s e hl => hl.rowStep (step_rowStep s e)) ?_ es
  intro hrun
  rw [show (Sys.init clk task).row.status = task.status from rfl, h] at hrun
  cases hrun

theorem resolve_applies {effective : String} (hl : Leased row) (hrun : row.status = .running)
    (hlive : row.leaseLive clk.wall = true) (hr : row.reconcileRequired = true)
    (hb : row.externalStartedAt.isSome = true) :
    ∃ row', resolveStatusReconciliationNotApplied clk ⟨row.leaseOwner, some row.leaseToken⟩
        effective row = some row' ∧
      (row'.status = .cancelled ∨ row'.status = .failed ∨ row'.status = .running) := by
  obtain ⟨howner, htoken⟩ := hl hrun
  obtain ⟨owner, howner⟩ := Option.isSome_iff_exists.mp howner
  have hvalid : hasValidFence ⟨row.leaseOwner, some row.leaseToken⟩ = true := by
    simp [hasValidFence, howner, htoken]
  have hheld : row.heldBy clk ⟨row.leaseOwner, some row.leaseToken⟩ = true :=
    heldBy_iff.mpr ⟨hrun, fencedBy_iff.mpr ⟨owner, by rw [howner], howner⟩, hlive⟩
  refine ⟨_, update_eq_some.mpr ⟨by simp [hvalid, hheld, hb, hr], rfl⟩, ?_⟩
  dsimp only
  split
  · exact .inl rfl
  · split
    · exact .inr (.inl rfl)
    · exact .inr (.inr rfl)

/-- The release of an unknown outcome leaves it without its boundary. -/
theorem requeuesUnknown_stalls {op : RowOp} (h : requeuesUnknown clk row op = true) :
    ∃ row', op.apply clk row = some row' ∧ row'.status = .retrying ∧
      row'.reconcileRequired = true ∧ row'.externalStartedAt = none := by
  cases op with
  | releaseAfterBrowserReadinessRejection f generation error key lane =>
    simp only [requeuesUnknown, Bool.and_eq_true, Bool.not_eq_true'] at h
    obtain ⟨⟨hg, hr⟩, hexhausted⟩ := h
    refine ⟨_, update_eq_some.mpr ⟨by simp [hg], rfl⟩, by simp [hr, hexhausted], ?_, rfl⟩
    refine reconcileRequired_of_text rfl ?_
    have htext := text_of_reconcileRequired hr
    simp only [hr, hexhausted, Bool.and_false, Bool.not_true, Bool.false_eq_true, if_false,
      Bool.and_true]
    rw [Obj.text_erase_of_ne (by decide), Obj.text_erase_of_ne (by decide)]
    exact htext
  | _ => cases h

theorem releasesUnknown_of_progress (s : Sys) (e : Clock × Label) (h : Progress (s.step e)) :
    releasesUnknown s e = false := by
  apply Bool.eq_false_iff.mpr
  intro hreleases
  obtain ⟨clk, label⟩ := e
  simp only [releasesUnknown] at hreleases
  split at hreleases
  · rename_i token
    split at hreleases
    · rename_i session hsession
      split at hreleases
      · rename_i op scope hpc
        obtain ⟨row', happly, hstatus, hr, hb⟩ := requeuesUnknown_stalls hreleases
        have hrow : (s.step (clk, .work token .ok)).row = row' := by
          simp [Sys.step, hsession, advance, hpc, atLast, happly]
        have hsome := h.1
        rw [hrow, hstatus, hr, hb] at hsome
        exact absurd (hsome rfl rfl) (by decide)
      · cases hreleases
    · cases hreleases
  · cases hreleases

/-- A run makes progress in every state exactly when no step of it releases a
row of unknown outcome. -/
theorem reconciliation_progress_iff (clk : Clock) (task : NewTask) (h : AdCommand task)
    (es : List (Clock × Label)) :
    (∀ n, Progress (run Sys.step (Sys.init clk task) (es.take n))) ↔
      AllSteps Sys.step (fun s e => releasesUnknown s e = false) (Sys.init clk task) es := by
  constructor
  · exact allSteps_of_states releasesUnknown_of_progress
  · intro hsafe n
    have haccounted := run_accounted h clk (hsafe.take n)
    have hleased := run_leased h.status clk (es.take n)
    refine ⟨haccounted.boundary, fun clk' effective hrun hlive hr => ?_⟩
    exact resolve_applies hleased hrun hlive hr
      (haccounted.boundary (terminal_of_running hrun) hr)

theorem ambiguousRun_resolves :
    ∃ row', resolveStatusReconciliationNotApplied (tick 9)
        ⟨(run Sys.step (Sys.init (tick 0) autoPause) ambiguousRun).row.leaseOwner,
          some (run Sys.step (Sys.init (tick 0) autoPause) ambiguousRun).row.leaseToken⟩ "ACTIVE"
        (run Sys.step (Sys.init (tick 0) autoPause) ambiguousRun).row = some row' ∧
      (row'.status = .cancelled ∨ row'.status = .failed ∨ row'.status = .running) := by
  have hsafe : AllSteps Sys.step (fun s e => releasesUnknown s e = false)
      (Sys.init (tick 0) autoPause) ambiguousRun := by
    decide +kernel
  have hprogress :=
    (reconciliation_progress_iff (tick 0) autoPause autoPause_adCommand ambiguousRun).mpr hsafe 10
  exact hprogress.2 (tick 9) "ACTIVE" (by decide +kernel) (by decide +kernel) (by decide +kernel)

-- After the release the next claim runs a reconciliation that nothing resolves.

def stalledRow : TaskRow :=
  (run Sys.step (Sys.init (tick 0) autoPause)
    (releasedRun ++ [(tick 11, .claim moneyWorker (some 2))])).row

theorem stalledRow_not_resolved :
    stalledRow.status = .running ∧ stalledRow.leaseLive (tick 12).wall = true ∧
      stalledRow.reconcileRequired = true ∧ stalledRow.externalStartedAt = none ∧
      (resolveStatusReconciliationNotApplied (tick 12)
        ⟨stalledRow.leaseOwner, some stalledRow.leaseToken⟩ "ACTIVE" stalledRow).isNone = true := by
  decide +kernel

end StopBot.Worker
