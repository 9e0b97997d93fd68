import StopBot.Tasks.Fencing
import StopBot.Worker.Phases

/-!
# What a worker may hold to be true

While the row is still the one it claimed, a worker's snapshot agrees with the
row and each point it can stand at belongs to a phase. One lemma per decision
of `process_one_task` says that the next point belongs to the phase it finds;
one lemma about its last statements says which phase they leave behind. A
worker whose lease is gone changes nothing.
-/

namespace StopBot.Worker

open Lib Tasks

variable {row row' : TaskRow} {trace : List Event} {s : Session}

-- ------------------------------------------------------------
-- The phase each point belongs to
-- ------------------------------------------------------------

/-- The last statements that fit the phase. An outcome may be written as
rejected only when no ambiguous write is unresolved. -/
def Plan (row : TaskRow) (trace : List Event) : RowOp → Prop
  | .markSucceeded _ result | .markFailed _ _ result | .markTaskFailedOrCancelled _ _ _ result =>
    ∃ fields, result = some fields ∧
      (Obj.text fields "outcome" = some "REJECTED" → unresolved trace = false)
  | .markFailedWithCompensation _ _ fields _ _ =>
    Obj.text fields "outcome" = some "REJECTED" → unresolved trace = false
  | .markCancelled _ _ | .deferAutoStopForFreshSnapshot _ _ => Clean row trace
  | .requeueForRetry _ _ attempts maxAttempts _ =>
    Clean row trace ∧ attempts = row.attemptCount ∧ maxAttempts ≤ row.maxAttempts
  | .requeueProvenNotCommitted _ _ _ _ _ => Ready row trace
  | .releaseAfterBrowserReadinessRejection _ _ _ _ _ =>
    Ready row trace ∨ marker row = some (.bool true)
  | .requeueUnknownForReconciliation _ _ attempts _ _ _ =>
    attempts = row.attemptCount ∧ (Crossed row trace ∨ marker row = some (.bool true))
  | .deferUnknownReconciliation _ _ _ _ => marker row = some (.bool true)
  | _ => False

def ScopeOk (row : TaskRow) (trace : List Event) : Scope → Prop
  | .bare => True
  | .reconciliation => marker row = some (.bool true)
  | .boundary => Clean row trace
  | .call => Crossed row trace ∧ unresolved trace = false

def PcOk (row : TaskRow) (trace : List Event) : Pc → Prop
  | .start => Clean row trace ∨ Unknown row trace
  | .reconcile | .observing | .confirmed _ _ => marker row = some (.bool true)
  | .resolving _ =>
    marker row = some (.bool true) ∧ unverified trace = false ∧ unresolved trace = false
  | .gates | .preflight | .boundary => Clean row trace ∧ Parses row
  | .crossed => Ready row trace
  | .inFlight => Crossed row trace ∧ unresolved trace = false
  | .last op scope => Plan row trace op ∧ ScopeOk row trace scope

structure Snap (row task : TaskRow) : Prop where
  attempts : task.attemptCount = row.attemptCount
  maxAttempts : task.maxAttempts ≤ row.maxAttempts
  payload : task.payload = row.payload
  reconciling : alreadyReconciling task.result = (marker row).any Json.isTrue

structure Coherent (row : TaskRow) (trace : List Event) (s : Session) : Prop where
  snap : Snap row s.task
  pc : PcOk row trace s.pc

-- ------------------------------------------------------------
-- Stability
-- ------------------------------------------------------------

theorem Plan.same {op : RowOp} (hp : Plan row trace op) (h : SameLife row row')
    (hs : row'.status = row.status) : Plan row' trace op := by
  have hm := h.marker
  cases op with
  | markSucceeded | markFailed | markTaskFailedOrCancelled | markFailedWithCompensation => exact hp
  | markCancelled | deferAutoStopForFreshSnapshot => exact Clean.same hp h
  | requeueForRetry =>
    obtain ⟨hc, ha, hmax⟩ := hp
    exact ⟨hc.same h, ha.trans h.attempts.symm, Int.le_trans hmax h.maxAttempts⟩
  | requeueProvenNotCommitted => exact Ready.same hp h hs
  | releaseAfterBrowserReadinessRejection =>
    exact hp.imp (fun hr => hr.same h hs) hm.trans
  | requeueUnknownForReconciliation =>
    exact ⟨hp.1.trans h.attempts.symm, hp.2.imp (fun hc => hc.same h hs) hm.trans⟩
  | deferUnknownReconciliation => exact hm.trans hp
  | _ => exact hp.elim

theorem ScopeOk.same {scope : Scope} (hp : ScopeOk row trace scope) (h : SameLife row row')
    (hs : row'.status = row.status) : ScopeOk row' trace scope := by
  cases scope with
  | bare => trivial
  | reconciliation => exact h.marker.trans hp
  | boundary => exact Clean.same hp h
  | call => exact ⟨hp.1.same h hs, hp.2⟩

theorem Coherent.same (hc : Coherent row trace s) (h : SameLife row row')
    (hs : row'.status = row.status) : Coherent row' trace s := by
  have hm := h.marker
  obtain ⟨⟨ha, hmax, hpay, hrec⟩, hpc⟩ := hc
  refine ⟨⟨ha.trans h.attempts.symm, Int.le_trans hmax h.maxAttempts, hpay.trans h.payload.symm,
    by rw [hm, hrec]⟩, ?_⟩
  cases hp : s.pc <;> rw [hp] at hpc
  case start => exact hpc.imp (fun hc => hc.same h) (fun hu => hu.same h)
  case reconcile | observing | confirmed => exact hm.trans hpc
  case resolving => exact ⟨hm.trans hpc.1, hpc.2⟩
  case gates | preflight | boundary => exact ⟨hpc.1.same h, hpc.2.same h⟩
  case crossed => exact Ready.same hpc h hs
  case inFlight => exact ⟨hpc.1.same h hs, hpc.2⟩
  case last op scope => exact ⟨hpc.1.same h hs, hpc.2.same h hs⟩

theorem Plan.read {op : RowOp} (hp : Plan row trace op) :
    Plan row (.readDifferent :: trace) op := by
  cases op with
  | markSucceeded | markFailed | markTaskFailedOrCancelled =>
    obtain ⟨fields, hfields, -⟩ := hp
    exact ⟨fields, hfields, fun _ => rfl⟩
  | markFailedWithCompensation => exact fun _ => rfl
  | markCancelled | deferAutoStopForFreshSnapshot => exact Clean.read hp
  | requeueForRetry => exact ⟨hp.1.read, hp.2⟩
  | requeueProvenNotCommitted => exact Ready.read hp
  | releaseAfterBrowserReadinessRejection => exact hp.imp_left Ready.read
  | requeueUnknownForReconciliation => exact ⟨hp.1, hp.2.imp_left Crossed.read⟩
  | deferUnknownReconciliation => exact hp
  | _ => exact hp.elim

theorem Coherent.read (hc : Coherent row trace s) : Coherent row (.readDifferent :: trace) s := by
  obtain ⟨hsnap, hpc⟩ := hc
  refine ⟨hsnap, ?_⟩
  cases hp : s.pc <;> rw [hp] at hpc
  case start => exact hpc.imp Clean.read Unknown.read
  case reconcile | observing | confirmed => exact hpc
  case resolving => exact ⟨hpc.1, rfl, rfl⟩
  case gates | preflight | boundary => exact ⟨hpc.1.read, hpc.2⟩
  case crossed => exact Ready.read hpc
  case inFlight => exact ⟨hpc.1.read, rfl⟩
  case last op scope =>
    refine ⟨hpc.1.read, ?_⟩
    cases scope with
    | bare => trivial
    | reconciliation => exact hpc.2
    | boundary => exact Clean.read hpc.2
    | call => exact ⟨hpc.2.1.read, rfl⟩

-- ------------------------------------------------------------
-- Decisions
-- ------------------------------------------------------------

theorem not_rejected {text : String} {rest : Obj} (h : text ≠ "REJECTED") :
    Obj.text (("outcome", .str text) :: rest) "outcome" ≠ some "REJECTED" := by
  simpa [Obj.text, Json.text] using h

theorem Plan.fail {error : String} {result : Obj}
    (h : Obj.text result "outcome" = some "REJECTED" → unresolved trace = false) :
    Plan row trace (s.fail error result) :=
  ⟨result, rfl, h⟩

theorem Plan.failOrCancel {error : String} {result : Obj} (h : unresolved trace = false) :
    Plan row trace (s.failOrCancel error result) :=
  ⟨result, rfl, fun _ => h⟩

theorem Plan.requeueTask {error : String} (hc : Clean row trace) (hs : Snap row s.task) :
    Plan row trace (s.requeueTask error) :=
  ⟨hc, hs.attempts, hs.maxAttempts⟩

theorem Plan.requeueUnknown {error : String} (hs : Snap row s.task)
    (h : Crossed row trace ∨ marker row = some (.bool true)) :
    Plan row trace (s.requeueUnknown error) :=
  ⟨hs.attempts, h⟩

theorem begin_ok (hs : Snap row s.task) (h : Clean row trace ∨ Unknown row trace) :
    PcOk row trace s.begin := by
  unfold Session.begin
  rw [hs.payload]
  cases hparse : MetaMutationPayload.fromDict row.payload with
  | error e =>
    -- a task that once had a write out has a payload that parses
    rcases h with hc | hu
    · exact ⟨.fail fun _ => hc.resolved, trivial⟩
    · obtain ⟨payload, hp⟩ := hu.parses
      rw [hparse] at hp
      cases hp
  | ok payload =>
    rcases h with hc | hu
    · have hrec : alreadyReconciling s.task.result = false := by rw [hs.reconciling, hc.marker]; rfl
      simp only [hrec, Bool.false_eq_true, if_false]
      exact ⟨hc, payload, hparse⟩
    · have hrec : alreadyReconciling s.task.result = true := by rw [hs.reconciling, hu.marker]; rfl
      simp only [hrec, if_true]
      exact hu.marker

theorem routeRead_ok (hs : Snap row s.task) (hm : marker row = some (.bool true)) (exc : Raised) :
    PcOk row trace (s.routeRead exc) := by
  unfold Session.routeRead
  cases exc.cls with
  | browserReadinessRejectedError => exact ⟨.inr hm, hm⟩
  | ambiguousResultError | temporaryError | sessionUnavailableError =>
    exact ⟨.requeueUnknown hs (.inr hm), hm⟩
  | permanent | valueError | other => 
    exact ⟨.fail fun h => absurd h (not_rejected (by decide)), hm⟩

theorem observe_cases (s : Session) (body : Json) :
    (∃ error, s.observe body = s.unreadable error) ∨
      ∃ configured effective, s.observe body = s.compare configured effective := by
  unfold Session.observe
  split
  · split
    · dsimp only
      split
      · split
        · exact .inr ⟨_, _, rfl⟩
        · exact .inr ⟨_, _, rfl⟩
        · exact .inl ⟨_, rfl⟩
      · exact .inl ⟨_, rfl⟩
    · exact .inl ⟨_, rfl⟩
  · exact .inl ⟨_, rfl⟩

theorem observe_ok (hs : Snap row s.task) (hm : marker row = some (.bool true)) (body : Json) :
    ((s.observe body).2 = none ∧ PcOk row trace (s.observe body).1) ∨
      ((s.observe body).2 = some .readDifferent ∧
        PcOk row (.readDifferent :: trace) (s.observe body).1) := by
  obtain ⟨error, h⟩ | ⟨configured, effective, h⟩ := observe_cases s body
  · rw [h]
    exact .inl ⟨rfl, .requeueUnknown hs (.inr hm), hm⟩
  · rw [h, Session.compare]
    split
    · exact .inr ⟨rfl, hm, rfl, rfl⟩
    · exact .inl ⟨rfl, hm⟩

theorem conclude_ok (configured effective : String) (r : Readings) :
    Plan row trace (s.conclude configured effective r) := by
  unfold Session.conclude
  split
  · exact ⟨_, rfl, fun h => absurd h (not_rejected (by decide))⟩
  · exact fun h => absurd h (not_rejected (by decide))

theorem gate_ok (hs : Snap row s.task) (h : Clean row trace ∧ Parses row) (r : Readings) :
    PcOk row trace (s.gate r) := by
  obtain ⟨hc, hp⟩ := h
  unfold Session.gate
  split
  · exact ⟨.requeueTask hc hs, trivial⟩
  · split
    · split
      · exact ⟨.requeueTask hc hs, trivial⟩
      · exact ⟨.fail fun _ => hc.resolved, trivial⟩
    · split
      · exact ⟨hc, trivial⟩
      · split
        · exact ⟨.fail fun _ => hc.resolved, trivial⟩
        · exact ⟨hc, hp⟩

theorem cross_ok (h : Clean row trace ∧ Parses row) (clk : Clock) (seen : TaskRow) :
    PcOk row trace (s.cross clk seen) := by
  obtain ⟨hc, hp⟩ := h
  unfold Session.cross
  split
  · exact ⟨hc, hc⟩
  · exact ⟨.fail fun _ => hc.resolved, hc⟩
  · exact ⟨hc, hp⟩

theorem finalize_ok (h : unresolved trace = false) (body : Json) :
    Plan row trace (s.finalize body) := by
  cases hstate : (assessMutationResult s.payload body).state with
  | confirmed =>
    simp only [Session.finalize, hstate]
    exact ⟨_, rfl, fun _ => h⟩
  | rejected | invalid =>
    simp only [Session.finalize, hstate]
    exact .fail fun _ => h

theorem route_boundary_ok (hs : Snap row s.task) (hc : Clean row trace) {exc : Raised}
    (hdb : exc.cls.database = true) : Plan row trace (s.route false exc) := by
  unfold Session.route
  cases hcls : exc.cls <;> simp only [hcls, ExceptionClass.database] at hdb
  case valueError => exact .requeueTask hc hs
  case other => exact .requeueTask hc hs
  all_goals cases hdb

/-- After the boundary a proven pre-send rejection finds the attempt unused;
everything else but a permanent error goes to reconciliation. -/
theorem route_call_ok (hs : Snap row s.task) (hc : Crossed row trace) {exc : Raised}
    (hready : exc.cls.knownNotCommitted = true → Ready row trace)
    (hres : exc.cls.ambiguous = false → unresolved trace = false) :
    Plan row trace (s.route true exc) := by
  unfold Session.route
  cases hcls : exc.cls <;> simp only [hcls] at hready hres <;>
    simp only [ExceptionClass.knownNotCommitted, Bool.not_false, Bool.not_true, Bool.and_true,
      Bool.and_false, if_true, Bool.false_eq_true, if_false, reduceCtorEq]
  case permanent cls => exact .failOrCancel (hres rfl)
  case sessionUnavailableError =>
    split
    · exact .failOrCancel (hres rfl)
    · exact hready rfl
  case browserReadinessRejectedError => exact .inl (hready rfl)
  all_goals exact .requeueUnknown hs (.inl hc)

-- ------------------------------------------------------------
-- Statements of the holder
-- ------------------------------------------------------------

/-- The release takes back a row of unknown outcome and does not close it. -/
def requeuesUnknown (clk : Clock) (row : TaskRow) : RowOp → Bool
  | .releaseAfterBrowserReadinessRejection f generation _ key _ =>
    hasValidFence f && generation.any (0 < ·) &&
      key.all (fun key => PyText.strip key != "") && row.heldBy clk f &&
      row.reconcileRequired && !(row.lane = .money && row.maxAttempts ≤ row.attemptCount + 1)
  | _ => false

/-- What the last statement of a worker leaves behind. The release of a row
whose outcome is unknown is the one that drops the boundary and keeps the
marker. -/
inductive After (clk : Clock) (op : RowOp) (row row' : TaskRow) (trace : List Event) : Prop
  | closes (terminal : row'.status.terminal = true)
      (maxAttempts : row'.maxAttempts = row.maxAttempts)
      (rejected : row'.outcome = some "REJECTED" → unresolved trace = false)
  | cleans (maxAttempts : row'.maxAttempts = row.maxAttempts) (clean : Clean row' trace)
  | unknown (status : row'.status = .retrying) (maxAttempts : row'.maxAttempts = row.maxAttempts)
      (unknown : Unknown row' trace) (boundary : row'.externalStartedAt = row.externalStartedAt)
      (crossed : row.externalStartedAt.isSome = true ∨ marker row = some (.bool true))
  | releases (status : row'.status = .retrying) (maxAttempts : row'.maxAttempts = row.maxAttempts)
      (unknown : Unknown row' trace) (released : requeuesUnknown clk row op = true)

theorem After.clean_of_running {clk : Clock} {op : RowOp} (h : After clk op row row' trace)
    (hrun : row'.status = .running) : Clean row' trace := by
  cases h with
  | closes terminal => rw [hrun] at terminal; cases terminal
  | cleans _ clean => exact clean
  | unknown status => rw [hrun] at status; cases status
  | releases status => rw [hrun] at status; cases status

section
variable {clk : Clock} {f : Fence} {op : RowOp}

theorem markFailed_after {fields : Obj}
    (hrej : Obj.text fields "outcome" = some "REJECTED" → unresolved trace = false)
    (h : markFailed clk f error (some fields) row = some row') : After clk op row row' trace := by
  obtain ⟨-, rfl⟩ := update_eq_some.mp h
  exact .closes rfl rfl hrej

theorem requeueForRetry_after (hc : Clean row trace) (ha : attempts = row.attemptCount)
    (hmax : maxAttempts ≤ row.maxAttempts)
    (h : requeueForRetry clk f error attempts maxAttempts lane row = some row') :
    After clk op row row' trace := by
  simp only [requeueForRetry] at h
  split at h
  · exact markFailed_after (fun _ => hc.resolved) h
  · obtain ⟨-, rfl⟩ := update_eq_some.mp h
    have hwrites := hc.writes
    exact .cleans rfl ⟨hc.marker, hc.boundary, by dsimp only; omega, by dsimp only; omega,
      hc.verified, hc.resolved⟩

theorem requeueProvenNotCommitted_after (hr : Ready row trace)
    (h : requeueProvenNotCommitted clk f key error attempts lane row = some row') :
    After clk op row row' trace := by
  obtain ⟨-, rfl⟩ := update_eq_some.mp h
  by_cases hclosed :
      (row.cancelRequestedAt.isSome || decide (row.maxAttempts ≤ row.attemptCount + 1)) = true
  · exact .closes (by grind) rfl fun _ => hr.resolved
  · simp only [Bool.or_eq_true, decide_eq_true_eq, not_or, Bool.not_eq_true] at hclosed
    have hwrites := hr.writes
    refine .cleans rfl ⟨?_, rfl, ?_, ?_, hr.verified, hr.resolved⟩
    · simpa [marker, TaskRow.resultObj, hclosed.1, hclosed.2] using hr.crossed.marker
    · simp only [hclosed.1, Bool.false_eq_true, if_false]
      omega
    · simp only [hclosed.1, Bool.false_eq_true, if_false]
      omega

/-- The two boundary fields the release erases are not the marker. -/
theorem marker_unbound (row : TaskRow) :
    Obj.get? (Obj.erase (Obj.erase row.resultObj "external_boundary_operation")
      "external_boundary_target") "reconcile_required" = marker row := by
  simp [marker]

theorem releaseAfterBrowserReadinessRejection_after_ready (hr : Ready row trace)
    (h : releaseAfterBrowserReadinessRejection clk f generation error key lane row = some row') :
    After clk op row row' trace := by
  obtain ⟨-, rfl⟩ := update_eq_some.mp h
  have hrec := reconcileRequired_of_marker_none hr.crossed.marker
  by_cases hclosed : (row.cancelRequestedAt.isSome && !row.reconcileRequired ||
      (decide (row.lane = .money) && decide (row.maxAttempts ≤ row.attemptCount + 1))) = true
  · exact .closes (by grind) rfl fun _ => hr.resolved
  · simp only [hrec, Bool.not_false, Bool.and_true, Bool.or_eq_true, Bool.and_eq_true,
      decide_eq_true_eq, not_or, not_and, Bool.not_eq_true] at hclosed
    obtain ⟨hcancel, hexhausted⟩ := hclosed
    have hwrites := hr.writes
    have hbudget := hr.crossed.budget
    have hdecide : (decide (row.lane = .money) &&
        decide (row.maxAttempts ≤ row.attemptCount + 1)) = false := by
      simpa using hexhausted
    refine .cleans rfl ⟨?_, rfl, ?_, ?_, hr.verified, hr.resolved⟩
    · rw [marker, TaskRow.resultObj, ← hr.crossed.marker, ← marker_unbound row]
      simp [hcancel, hdecide, hrec]
    · simp only [hcancel, Bool.false_and, Bool.false_eq_true, if_false]
      by_cases hmoney : row.lane = .money
      · simp only [hmoney, decide_true, if_true]
        have := hexhausted hmoney
        omega
      · simpa [hmoney] using hbudget
    · simp only [hcancel, Bool.false_and, Bool.false_eq_true, if_false]
      by_cases hmoney : row.lane = .money <;> simp only [hmoney, decide_true, decide_false, if_true,
        Bool.false_eq_true, if_false] <;> omega

theorem releaseAfterBrowserReadinessRejection_after_unknown (hu : Unknown row trace)
    (h : releaseAfterBrowserReadinessRejection clk f generation error key lane row = some row') :
    After clk (.releaseAfterBrowserReadinessRejection f generation error key lane) row row'
      trace := by
  obtain ⟨hg, rfl⟩ := update_eq_some.mp h
  have hrec := reconcileRequired_of_marker hu.marker
  cases hexhausted : decide (row.lane = .money) &&
      decide (row.maxAttempts ≤ row.attemptCount + 1) with
  | true =>
    refine .closes (by simp [hrec, Status.terminal]) rfl fun hrejected => ?_
    rw [outcome_of_merge (by simp [hrec]; rfl) rfl] at hrejected
    simp at hrejected
  | false =>
    have hwrites := hu.writes
    refine .releases (by simp [hrec]) rfl ⟨?_, ?_, hu.parses⟩ ?_
    · rw [marker, TaskRow.resultObj, ← hu.marker, ← marker_unbound row]
      simp [hrec]
    · simp only [hrec, Bool.not_true, Bool.and_false, Bool.false_eq_true, if_false]
      split <;> omega
    · simp only [requeuesUnknown, hg, hrec, hexhausted, Bool.not_false, Bool.and_true]

theorem requeueUnknownForReconciliation_after (hl : Live row trace)
    (ha : attempts = row.attemptCount) (hp : Crossed row trace ∨ marker row = some (.bool true))
    (h : requeueUnknownForReconciliation clk f error attempts maxAttempts lane already row =
      some row') : After clk op row row' trace := by
  simp only [requeueUnknownForReconciliation] at h
  split at h
  · exact markFailed_after (fun h => absurd h (not_rejected (by decide))) h
  · obtain ⟨-, rfl⟩ := update_eq_some.mp h
    have hmarker : marker ({ row with
        result := some (Obj.merge row.resultObj [("outcome", .str "UNKNOWN"),
          ("reconcile_required", .bool true), ("unknown_at", .num clk.now 0)]) }) =
        some (.bool true) := by
      simp [marker, TaskRow.resultObj]
    refine .unknown rfl rfl ⟨hmarker, ?_, ?_⟩ rfl (hp.imp_left Crossed.boundary)
    · rcases hp with hc | hm
      · have := hc.writes
        dsimp only
        omega
      · have := (hl.unknown_of_marker hm).writes
        dsimp only
        omega
    · rcases hp with hc | hm
      · exact hc.parses
      · exact (hl.unknown_of_marker hm).parses

theorem deferUnknownReconciliation_after (hu : Unknown row trace)
    (h : deferUnknownReconciliation clk f error delay lane row = some row') :
    After clk op row row' trace := by
  obtain ⟨-, rfl⟩ := update_eq_some.mp h
  refine .unknown rfl rfl ⟨?_, hu.writes, hu.parses⟩ rfl (.inr hu.marker)
  simp [marker, TaskRow.resultObj]

theorem Plan.after (hl : Live row trace) (hp : Plan row trace op)
    (h : op.apply clk row = some row') : After clk op row row' trace := by
  cases op with
  | markSucceeded f result =>
    obtain ⟨fields, rfl, hrej⟩ := hp
    obtain ⟨-, rfl⟩ := update_eq_some.mp h
    exact .closes rfl rfl hrej
  | markFailed f error result =>
    obtain ⟨fields, rfl, hrej⟩ := hp
    exact markFailed_after hrej h
  | markFailedWithCompensation f error fields task state =>
    obtain ⟨failed, hfailed, rfl⟩ := Option.map_eq_some_iff.mp h
    obtain ⟨-, rfl⟩ := update_eq_some.mp hfailed
    refine .closes rfl rfl fun hrejected => hp ?_
    rwa [TaskRow.outcome, TaskRow.resultObj, Option.getD_some,
      Obj.text_merge_of_none (by simp)] at hrejected
  | markTaskFailedOrCancelled f key error result =>
    obtain ⟨fields, rfl, hrej⟩ := hp
    obtain ⟨-, rfl⟩ := update_eq_some.mp h
    refine .closes ?_ rfl hrej
    dsimp only
    split <;> rfl
  | markCancelled f reason =>
    obtain ⟨-, rfl⟩ := update_eq_some.mp h
    exact .closes rfl rfl fun _ => Clean.resolved hp
  | deferAutoStopForFreshSnapshot f delay =>
    have hc : Clean row trace := hp
    obtain ⟨-, rfl⟩ := update_eq_some.mp h
    exact .cleans rfl ⟨hc.marker, rfl, hc.budget, hc.writes, hc.verified, hc.resolved⟩
  | requeueForRetry f error attempts maxAttempts lane =>
    exact requeueForRetry_after hp.1 hp.2.1 hp.2.2 h
  | requeueProvenNotCommitted f key error attempts lane =>
    exact requeueProvenNotCommitted_after hp h
  | releaseAfterBrowserReadinessRejection f generation error key lane =>
    rcases hp with hr | hm
    · exact releaseAfterBrowserReadinessRejection_after_ready hr h
    · exact releaseAfterBrowserReadinessRejection_after_unknown (hl.unknown_of_marker hm) h
  | requeueUnknownForReconciliation f error attempts maxAttempts lane already =>
    exact requeueUnknownForReconciliation_after hl hp.1 hp.2 h
  | deferUnknownReconciliation f error delay lane =>
    exact deferUnknownReconciliation_after (hl.unknown_of_marker hp) h
  | _ => exact hp.elim

/-- The proof that the write was not applied: the row is closed, or stays
running with a clean boundary and an attempt left. -/
theorem resolveStatusReconciliationNotApplied_after (hu : Unknown row trace)
    (hv : unverified trace = false) (hr : unresolved trace = false)
    (h : resolveStatusReconciliationNotApplied clk f configured row = some row') :
    After clk op row row' trace := by
  obtain ⟨-, rfl⟩ := update_eq_some.mp h
  by_cases hclosed :
      (row.cancelRequestedAt.isSome || decide (row.maxAttempts ≤ row.attemptCount)) = true
  · exact .closes (by grind) rfl fun _ => hr
  · simp only [Bool.or_eq_true, decide_eq_true_eq, not_or, Bool.not_eq_true] at hclosed
    obtain ⟨hcancel, hbudget⟩ := hclosed
    refine .cleans rfl ⟨?_, ?_, by dsimp only; omega, hu.writes, hv, hr⟩
    · simp [marker, TaskRow.resultObj, hcancel, hbudget]
    · simp [hcancel, hbudget]

theorem markExternalCallStarted_ready (hc : Clean row trace) (hp : Parses row)
    (h : markExternalCallStarted clk f key row = some row') : Ready row' trace := by
  obtain ⟨hg, rfl⟩ := update_eq_some.mp h
  have hrun : row.status = .running := by grind
  have hwrites := hc.writes
  exact ⟨⟨hrun, hc.marker, by simp [hc.boundary], hc.budget, by dsimp only; omega, hp⟩, hc.writes,
    hc.verified, hc.resolved⟩

end

end StopBot.Worker
