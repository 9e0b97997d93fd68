import StopBot.Duplicates.Checkpoints

/-!
# A requested recovery and its end

One lemma for each decision of the worker, then its steps: the worker that
holds the row keeps the promise of `RecoveryKept` as long as its answers are
safe, a worker that lost the row changes nothing. Over whole runs a recovery
ends in one of its two ways; what breaks that is an expiry, an objection of the
task's control or of the receipts, and a failed read, each of which closes a
recovery that nothing has paused.
-/

namespace StopBot.Duplicates

open Lib Tasks
open Worker (MetaMutationPayload Raised Readings Scope Parses)

variable {lib : Stdlib} {clk : Clock} {row row' : TaskRow} {passes : List Pass} {s : Session}

-- ------------------------------------------------------------
-- Decisions
-- ------------------------------------------------------------

theorem preflight_reason {task : Worker.Session} {reason : String}
    (h : task.preflightTaskControl clk row = some reason) :
    (reason = "lease_lost" ∧ (row.fencedBy task.fence && row.status == .running) = false) ∨
      reason = "lease_expired" ∨ reason = "cancel_requested" ∨ reason = "deadline_exceeded" := by
  unfold Worker.Session.preflightTaskControl at h
  split at h
  · rename_i hlost
    exact .inl ⟨(Option.some.inj h).symm, by simpa only [Bool.not_eq_true'] using hlost⟩
  · split at h
    · exact .inr (.inl (Option.some.inj h).symm)
    · split at h
      · exact .inr (.inr (.inl (Option.some.inj h).symm))
      · split at h
        · exact .inr (.inr (.inr (Option.some.inj h).symm))
        · cases h

theorem begin_ok (hok : RowOk row) (hopen : row.status.terminal = false)
    (hresult : s.task.result = row.result) (hpayload : s.task.payload = row.payload) :
    PcOk lib passes row s.task s.begin := by
  have hrecovery : isDuplicateRecovery s.task.result = requested row := by
    rw [requested, hresult]
  unfold Session.begin
  rw [hpayload, hrecovery]
  cases hr : requested row with
  | true =>
    -- a recovery is only ever asked for a payload that parsed
    obtain ⟨payload, hp⟩ := (hok.started hopen (hok.checkpointed hopen hr)).2
    rw [hp]
    exact ⟨hresult, hr, payload, hp⟩
  | false =>
    cases hp : MetaMutationPayload.fromDict row.payload with
    | error error => exact ⟨.fail hr, fun h => absurd rfl h⟩
    | ok payload =>
      simp only [Bool.false_eq_true, if_false]
      split
      · exact ⟨.fail hr, fun h => absurd rfl h⟩
      · exact ⟨hr, payload, hp⟩

theorem gate_ok (hr : requested row = false) (hparses : Parses row) (r : Readings) :
    PcOk lib passes row s.task (s.gate r) := by
  unfold Session.gate
  split
  · exact ⟨.requeueTask hr, fun h => absurd rfl h⟩
  · split
    · exact ⟨.fail hr, fun h => absurd rfl h⟩
    · exact ⟨hr, hparses⟩

theorem cross_create_ok (hr : requested row = false) (hparses : Parses row) :
    PcOk lib passes row s.task (s.cross clk row .boundary .boundary) := by
  unfold Session.cross
  split
  · refine ⟨.close hr fun clk row row' h => ?_, fun _ => hr⟩
    obtain ⟨-, rfl⟩ := update_eq_some.mp h
    rfl
  · exact ⟨.fail hr, fun _ => hr⟩
  · exact ⟨hr, hparses⟩

/-- The control of the task raises none of the objections that close the row. -/
def preflightPasses (s : Session) (clk : Clock) (row : TaskRow) : Bool :=
  (s.base.preflightTaskControl clk row).all fun reason =>
    reason != "lease_expired" && reason != "deadline_exceeded"

theorem fencedBy_of_current (hc : current s row = true) {row₁ : TaskRow} (hsame : Same row row₁)
    (h : row₁.fencedBy s.fence = true) :
    (row.fencedBy s.base.fence && row.status == .running) = true := by
  simp only [current, Bool.and_eq_true, beq_iff_eq] at hc
  obtain ⟨owner, hfence, howner₁⟩ := fencedBy_iff.mp h
  rw [Bool.and_eq_true, beq_iff_eq, fencedBy_iff]
  refine ⟨⟨owner, ?_, hsame.leaseOwner.symm.trans howner₁⟩, hc.1⟩
  rw [← hsame.leaseToken]
  exact hfence

theorem cross_recovery_ok (hc : current s row = true)
    (hresult : s.task.result = row.result) (hr : requested row = true) (hparses : Parses row)
    (hsafe : preflightPasses s clk row = true) :
    PcOk lib passes row s.task (s.cross clk row .bare .recoveryBoundary) := by
  unfold Session.cross
  cases hp : s.base.preflightTaskControl clk row with
  | none => exact ⟨hresult, hr, hparses⟩
  | some reason =>
    rw [preflightPasses, hp] at hsafe
    simp only [Option.all_some, Bool.and_eq_true, bne_iff_ne, ne_eq] at hsafe
    obtain ⟨rfl, hlost⟩ | rfl | rfl | rfl := preflight_reason hp
    · -- the worker has not lost the lease of the row it holds
      refine ⟨fun clk' row₁ row' hsame _ happly => ?_, fun h => absurd rfl h⟩
      have hheld := RowOp.heldBy_of_fence (f := s.fence) rfl happly
      rw [fencedBy_of_current hc hsame (heldBy_iff.mp hheld).2.1] at hlost
      cases hlost
    · exact absurd rfl hsafe.1
    · exact ⟨.markCancelled hr, fun h => absurd rfl h⟩
    · exact absurd rfl hsafe.2

theorem route_base_ok (hnone : row.result = none) (exc : Raised)
    (hcls : exc.cls ≠ .ambiguousResultError ∧ exc.cls ≠ .temporaryError ∧
      exc.cls ≠ .valueError ∧ exc.cls ≠ .other) :
    LastOk lib passes row (s.base.route true exc) := by
  have hr := requested_of_none hnone
  unfold Worker.Session.route
  cases h : exc.cls with
  | permanent cls => exact .failOrCancel hr
  | browserReadinessRejectedError =>
    simp only [Worker.ExceptionClass.knownNotCommitted, Bool.not_true, Bool.and_false,
      Bool.false_eq_true, if_false, if_true]
    exact .release hnone
  | sessionUnavailableError =>
    simp only [Worker.ExceptionClass.knownNotCommitted, Bool.not_true, Bool.and_false,
      Bool.false_eq_true, if_false, reduceCtorEq, if_true]
    split
    · exact .failOrCancel hr
    · exact .provenNotCommitted hnone
  | ambiguousResultError | temporaryError | valueError | other => simp [h] at hcls

theorem route_loading_ok (hnone : row.result = none) (exc : Raised) :
    LastOk lib passes row (s.route true exc) := by
  have hr := requested_of_none hnone
  unfold Session.route
  cases h : exc.cls with
  | permanent cls => exact route_base_ok hnone exc (by simp [h])
  | browserReadinessRejectedError => exact route_base_ok hnone exc (by simp [h])
  | sessionUnavailableError => exact route_base_ok hnone exc (by simp [h])
  | ambiguousResultError => exact .fail hr
  | temporaryError => exact .fail hr
  | valueError => exact .fail hr
  | other => exact .fail hr

theorem finalize_ok (hr : requested row = false) (body : Json) :
    LastOk lib passes row (s.finalize body) := by
  cases hstate : (assessMutationResult body).state with
  | invalid =>
    simp only [Session.finalize, hstate]
    exact .fail hr
  | rejected =>
    simp only [Session.finalize, hstate]
    exact .fail hr
  | confirmed =>
    simp only [Session.finalize, hstate]
    refine .close hr fun clk row row' h => ?_
    obtain ⟨-, rfl⟩ := update_eq_some.mp h
    rfl

-- ------------------------------------------------------------
-- One step of the worker that holds the row
-- ------------------------------------------------------------

def preflightSafe (clk : Clock) (s : Session) (row : TaskRow) : Answer → Bool
  | .ok => preflightPasses s clk row
  | _ => true

def receiptsSafe : Answer → Bool
  | .receipts integrityError => integrityError.isNone
  | _ => true

def graphSafe (lib : Stdlib) (s : Session) : Answer → Bool
  | .graph replies _ =>
    (validateRecovery lib s.payload s.checkpoint).toOption.all fun (plan, created) =>
      verifies plan created replies
  | _ => true

def workerSafe (lib : Stdlib) (clk : Clock) (s : Session) (answer : Answer)
    (row : TaskRow) : Bool :=
  match s.pc with
  | .recoveryPreflight => preflightSafe clk s row answer
  | .recoveryBoundary => receiptsSafe answer
  | .recovering => graphSafe lib s answer
  | _ => true

structure Advanced (lib : Stdlib) (passes : List Pass) (row : TaskRow) (o : Outcome) : Prop where
  moves : Moves lib passes row o.row
  next : ∀ s', o.session = some s' → Coherent lib (o.pass.toList ++ passes) o.row s'

theorem Moves.stay (hok : RowOk row) : Moves lib passes row row :=
  ⟨hok, fun hr => .of_result hr rfl id⟩

theorem Advanced.leave (hmoves : Moves lib passes row row') :
    Advanced lib passes row (.leave row') :=
  ⟨hmoves, fun _ h => by cases h⟩

theorem Advanced.goto {pc : Pc} (hmoves : Moves lib passes row row')
    (hpayload : s.task.payload = row'.payload) (hpc : PcOk lib passes row' s.task pc) :
    Advanced lib passes row (.goto row' s pc) := by
  refine ⟨hmoves, fun s' h => ?_⟩
  cases h
  exact ⟨hpayload, hpc⟩

theorem Advanced.stay (hok : RowOk row) (hc : Coherent lib passes row s) :
    Advanced lib passes row (.stay row s) := by
  refine ⟨.stay hok, fun s' h => ?_⟩
  cases h
  exact hc

theorem databaseRaised_advanced (hok : RowOk row) (hc : Coherent lib passes row s)
    (hr : requested row = false) (crossed : Bool) (exc : Raised) :
    Advanced lib passes row (databaseRaised s crossed exc row) := by
  unfold databaseRaised
  split
  · rename_i hdb
    refine .goto (.stay hok) hc.payload ⟨?_, fun h => absurd rfl h⟩
    unfold Session.route
    cases hcls : exc.cls <;> simp only [hcls, Worker.ExceptionClass.database] at hdb
    case valueError => exact .fail hr
    case other => cases crossed <;> exact .fail hr
    all_goals cases hdb
  · exact .stay hok hc

theorem atRecoveryBoundary_advanced {answer : Answer} (hok : RowOk row)
    (hc : Coherent lib passes row s) (hpc : s.pc = .recoveryBoundary)
    (hsafe : receiptsSafe answer = true) :
    Advanced lib passes row (atRecoveryBoundary clk s answer row) := by
  have hphase := hc.pc
  rw [hpc] at hphase
  obtain ⟨hresult, hr, hparses⟩ := hphase
  cases answer with
  | receipts integrityError =>
    cases integrityError with
    | some error => cases hsafe
    | none =>
      simp only [atRecoveryBoundary]
      split
      · rename_i row' happly
        obtain ⟨-, rfl⟩ := update_eq_some.mp happly
        have hsame : Same row { row with externalStartedAt := row.externalStartedAt,
                                         updatedAt := clk.wall } :=
          ⟨rfl, rfl, rfl, rfl, rfl, rfl⟩
        exact .goto ⟨hok.same hsame id, fun hr => .of_result hr rfl id⟩ hc.payload
          ⟨hresult, hr, hsame.parses hparses⟩
      · exact .leave (.stay hok)
  | raised exc => exact .leave (.stay hok)
  | _ => exact .stay hok hc

theorem atRecovering_advanced {answer : Answer} (hok : RowOk row) (hcur : current s row = true)
    (hc : Coherent lib passes row s) (hpc : s.pc = .recovering)
    (hsafe : graphSafe lib s answer = true) :
    Advanced lib passes row (atRecovering lib s answer row) := by
  have hphase := hc.pc
  rw [hpc] at hphase
  obtain ⟨hresult, hr, payload, hp⟩ := hphase
  have htoken : row.leaseToken = s.task.leaseToken := by
    simp only [current, Bool.and_eq_true, beq_iff_eq] at hcur
    exact hcur.2
  cases answer with
  | graph replies checkedAt =>
    refine ⟨.stay hok, fun s' hs' => ?_⟩
    have hpayload := payload_eq hc.payload hp
    have hcheckpoint := checkpoint_eq hresult
    simp only [atRecovering, Option.map_eq_some_iff] at hs'
    obtain ⟨op, hop, rfl⟩ := hs'
    refine ⟨hc.payload, ?_, fun h => absurd rfl h⟩
    simp only [atRecovering]
    obtain ⟨error, hinvalid, hrun⟩ | ⟨plan, created, hvalid, hrun⟩ :=
      recoverCheckpoint_run lib s.payload s.checkpoint replies
    · have hpass : s.pass lib replies = .error error := hrun
      unfold Session.recovered at hop
      rw [hpass] at hop
      cases hop
      rw [hpayload, hcheckpoint] at hinvalid
      exact .checkpointInvalid hresult hr hp ⟨error, hinvalid⟩
    · simp only [graphSafe, hvalid, Except.toOption, Option.all_some] at hsafe
      obtain hunread | ⟨failures, hrun⟩ := hrun
      · rw [hsafe] at hunread
        cases hunread
      · have hpass : s.pass lib replies = .ok (created, failures) := hrun
        have hcreated := validateRecovery_created hvalid
        rw [hcheckpoint] at hcreated
        unfold Session.recovered at hop
        rw [hpass] at hop
        obtain ⟨attempt, -, rfl⟩ := Option.map_eq_some_iff.mp hop
        cases failures with
        | nil =>
          exact .recoveryPaused hresult hr hcreated
            (by simp [hpass, Except.toOption, htoken])
        | cons failure failures => exact .deferRecovery hresult hr hcreated
  | raised exc => exact .leave (.stay hok)
  | _ => exact .stay hok hc

theorem atBoundary_advanced {answer : Answer} (hok : RowOk row)
    (hc : Coherent lib passes row s) (hpc : s.pc = .boundary) :
    Advanced lib passes row (atBoundary clk s answer row) := by
  have hphase := hc.pc
  rw [hpc] at hphase
  obtain ⟨hr, hparses⟩ := hphase
  cases answer with
  | receipts integrityError =>
    cases integrityError with
    | some error => exact .goto (.stay hok) hc.payload ⟨.fail hr, fun _ => hr⟩
    | none =>
      simp only [atBoundary]
      split
      · rename_i row' happly
        have hkept := (authorizeDuplicateExecutionBoundary_effect happly).kept
        obtain ⟨hg, rfl⟩ := update_eq_some.mp happly
        have hnone : row.result = none := by simp_all
        refine .goto ⟨hok.bare rfl rfl ?_, fun hr' => ?_⟩ hc.payload ⟨hnone, rfl, hparses⟩
        · simp [TaskRow.resultObj, hnone]
        · rw [hr] at hr'
          cases hr'
      · split
        · exact .goto (.stay hok) hc.payload ⟨.fail hr, fun _ => hr⟩
        · exact .leave (.stay hok)
  | raised exc => exact databaseRaised_advanced hok hc hr false exc
  | _ => exact .stay hok hc

theorem atCreating_advanced {answer : Answer} (hok : RowOk row)
    (hc : Coherent lib passes row s) (hpc : s.pc = .creating) :
    Advanced lib passes row (atCreating clk s answer row) := by
  have hphase := hc.pc
  rw [hpc] at hphase
  obtain ⟨hr, hstarted, hparses⟩ := hphase
  cases answer with
  | progress phase step checkpointedAt created failures =>
    simp only [atCreating]
    cases happly : checkpointDuplicateAdsetStructure clk s.fence
        (Session.progressCheckpoint phase step checkpointedAt created failures) row with
    | none => exact .stay hok hc
    | some row' =>
      obtain ⟨-, rfl⟩ := update_eq_some.mp happly
      have hcheckpoint : isDuplicateRecovery
          (some (Session.progressCheckpoint phase step checkpointedAt created failures)) =
            false := by
        cases failures <;>
          simp [isDuplicateRecovery, Session.progressCheckpoint]
      refine ⟨⟨hok.withCheckpoint rfl rfl ?_ hstarted hparses, fun hr' => ?_⟩, fun s' h => ?_⟩
      · exact hasDuplicateCheckpoint_of rfl (by simp [Session.progressCheckpoint])
          (by simp [Session.progressCheckpoint, Created.toJson]; rfl)
      · rw [hr] at hr'
        cases hr'
      · cases h
        refine ⟨hc.payload, ?_⟩
        rw [hpc]
        exact ⟨hcheckpoint, hstarted, hparses⟩
  | partialFailure created step error failures =>
    exact .goto (.stay hok) hc.payload
      ⟨.partialFailed hr hstarted hparses, fun h => absurd rfl h⟩
  | returned body => exact .goto (.stay hok) hc.payload ⟨finalize_ok hr body, fun _ => hr⟩
  | interrupted repr => exact .goto (.stay hok) hc.payload ⟨.fail hr, fun h => absurd rfl h⟩
  | _ => exact .stay hok hc

theorem atLast_advanced {answer : Answer} {op : RowOp} {scope : Scope} (hok : RowOk row)
    (hc : Coherent lib passes row s) (hpc : s.pc = .last op scope) :
    Advanced lib passes row (atLast clk s op scope answer row) := by
  have hphase := hc.pc
  rw [hpc] at hphase
  obtain ⟨hlast, hscope⟩ := hphase
  cases answer with
  | ok =>
    simp only [atLast]
    cases happly : op.apply clk row with
    | none => exact .leave (.stay hok)
    | some row' => exact .leave (hlast clk row row' (.refl row) hok happly)
  | raised exc =>
    cases scope with
    | bare => exact .leave (.stay hok)
    | reconciliation => exact .leave (.stay hok)
    | boundary => exact databaseRaised_advanced hok hc (hscope (by decide)) false exc
    | call => exact databaseRaised_advanced hok hc (hscope (by decide)) true exc
  | _ => exact .stay hok hc

/-- A step of the worker that holds the row keeps what it has to keep. -/
theorem advance_advanced {answer : Answer} (hok : RowOk row) (hcur : current s row = true)
    (hc : Coherent lib passes row s)
    (hsafe : requested row = true → workerSafe lib clk s answer row = true) :
    Advanced lib passes row (advance lib clk s answer row) := by
  have hrun : row.status = .running := by
    simp only [current, Bool.and_eq_true, beq_iff_eq] at hcur
    exact hcur.1
  have hphase := hc.pc
  unfold workerSafe at hsafe
  unfold advance
  cases hpc : s.pc <;> rw [hpc] at hphase hsafe <;> dsimp only at hsafe ⊢
  case start =>
    cases answer with
    | ok =>
      exact .goto (.stay hok) hc.payload
        (begin_ok hok (terminal_of_running hrun) hphase hc.payload)
    | _ => exact .stay hok hc
  case recoveryPreflight =>
    obtain ⟨hresult, hr, hparses⟩ := hphase
    cases answer with
    | ok =>
      exact .goto (.stay hok) hc.payload (cross_recovery_ok hcur hresult hr hparses (hsafe hr))
    | raised exc => exact .leave (.stay hok)
    | _ => exact .stay hok hc
  case recoveryBoundary =>
    exact atRecoveryBoundary_advanced hok hc hpc (hsafe hphase.2.1)
  case recovering => exact atRecovering_advanced hok hcur hc hpc (hsafe hphase.2.1)
  case gates =>
    cases answer with
    | read r => exact .goto (.stay hok) hc.payload (gate_ok hphase.1 hphase.2 r)
    | raised exc => exact .leave (.stay hok)
    | _ => exact .stay hok hc
  case preflight =>
    cases answer with
    | ok => exact .goto (.stay hok) hc.payload (cross_create_ok hphase.1 hphase.2)
    | raised exc => exact databaseRaised_advanced hok hc hphase.1 false exc
    | _ => exact .stay hok hc
  case boundary => exact atBoundary_advanced hok hc hpc
  case loading =>
    obtain ⟨hnone, hstarted, hparses⟩ := hphase
    cases answer with
    | loaded =>
      exact .goto (.stay hok) hc.payload ⟨requested_of_none hnone, hstarted, hparses⟩
    | raised exc =>
      exact .goto (.stay hok) hc.payload ⟨route_loading_ok hnone exc, fun h => absurd rfl h⟩
    | interrupted repr =>
      exact .goto (.stay hok) hc.payload ⟨route_loading_ok hnone _, fun h => absurd rfl h⟩
    | _ => exact .stay hok hc
  case creating => exact atCreating_advanced hok hc hpc
  case last op scope => exact atLast_advanced hok hc hpc

-- ------------------------------------------------------------
-- Workers that lost the row
-- ------------------------------------------------------------

def SameWorker (s : Session) (o : Outcome) : Prop :=
  ∀ s', o.session = some s' → s'.task = s.task ∧ PcFenced s.fence s'.pc

theorem SameWorker.leave : SameWorker s (.leave row) := fun _ h => by cases h

theorem SameWorker.goto {pc : Pc} (hf : PcFenced s.fence pc) : SameWorker s (.goto row s pc) := by
  intro s' h
  cases h
  exact ⟨rfl, hf⟩

theorem SameWorker.stay (hf : PcFenced s.fence s.pc) : SameWorker s (.stay row s) := by
  intro s' h
  cases h
  exact ⟨rfl, hf⟩

theorem route_fence (s : Session) (crossed : Bool) (exc : Raised) :
    (s.route crossed exc).fence? = some s.fence := by
  unfold Session.route
  cases exc.cls with
  | permanent | sessionUnavailableError | browserReadinessRejectedError =>
    exact Worker.route_fence s.base crossed exc
  | temporaryError | other => cases crossed <;> rfl
  | ambiguousResultError | valueError => rfl

theorem databaseRaised_sameWorker (hf : PcFenced s.fence s.pc) (crossed : Bool) (exc : Raised) :
    SameWorker s (databaseRaised s crossed exc row) := by
  unfold databaseRaised
  split
  · exact .goto (route_fence s crossed exc)
  · exact .stay hf

theorem cross_fenced (s : Session) (scope : Scope) {next : Pc} (hf : PcFenced s.fence next) :
    PcFenced s.fence (s.cross clk row scope next) := by
  unfold Session.cross
  split
  · rfl
  · rfl
  · exact hf

theorem begin_fenced (s : Session) : PcFenced s.fence s.begin := by
  unfold Session.begin
  split
  · rfl
  · split
    · trivial
    · split
      · rfl
      · trivial

theorem gate_fenced (s : Session) (r : Readings) : PcFenced s.fence (s.gate r) := by
  unfold Session.gate
  split
  · rfl
  · split
    · rfl
    · trivial

theorem finalize_fence (s : Session) (body : Json) : (s.finalize body).fence? = some s.fence := by
  cases hstate : (assessMutationResult body).state <;>
    simp only [Session.finalize, hstate] <;> rfl

theorem partialFailed_fence (s : Session) (created : Created) (step error : String)
    (failures : List CleanupFailure) :
    (s.partialFailed created step error failures).fence? = some s.fence := by
  unfold Session.partialFailed
  split <;> rfl

theorem recovered_fence {replies : List Reply} {checkedAt : String} {op : RowOp}
    (h : s.recovered lib replies checkedAt = some op) : op.fence? = some s.fence := by
  unfold Session.recovered at h
  split at h
  · cases h
    rfl
  · obtain ⟨attempt, -, rfl⟩ := Option.map_eq_some_iff.mp h
    dsimp only
    split <;> rfl

theorem advance_sameWorker (hf : PcFenced s.fence s.pc) (answer : Answer) :
    SameWorker s (advance lib clk s answer row) := by
  have hstay : ∀ row, SameWorker s (.stay row s) := fun _ => .stay hf
  unfold advance
  cases hpc : s.pc <;> dsimp only
  case start =>
    cases answer with
    | ok => exact .goto (begin_fenced s)
    | _ => exact hstay row
  case recoveryPreflight =>
    cases answer with
    | ok => exact .goto (cross_fenced s .bare trivial)
    | raised exc => exact .leave
    | _ => exact hstay row
  case recoveryBoundary =>
    cases answer with
    | receipts integrityError =>
      cases integrityError with
      | some error => exact .goto rfl
      | none =>
        simp only [atRecoveryBoundary]
        split
        · exact .goto trivial
        · exact .leave
    | raised exc => exact .leave
    | _ => exact hstay row
  case recovering =>
    cases answer with
    | graph replies checkedAt =>
      intro s' h
      simp only [atRecovering, Option.map_eq_some_iff] at h
      obtain ⟨op, hop, rfl⟩ := h
      exact ⟨rfl, recovered_fence hop⟩
    | raised exc => exact .leave
    | _ => exact hstay row
  case gates =>
    cases answer with
    | read r => exact .goto (gate_fenced s r)
    | raised exc => exact .leave
    | _ => exact hstay row
  case preflight =>
    cases answer with
    | ok => exact .goto (cross_fenced s .boundary trivial)
    | raised exc => exact databaseRaised_sameWorker hf false exc
    | _ => exact hstay row
  case boundary =>
    cases answer with
    | receipts integrityError =>
      cases integrityError with
      | some error => exact .goto rfl
      | none =>
        simp only [atBoundary]
        split
        · exact .goto trivial
        · split
          · exact .goto rfl
          · exact .leave
    | raised exc => exact databaseRaised_sameWorker hf false exc
    | _ => exact hstay row
  case loading =>
    cases answer with
    | loaded => exact .goto trivial
    | raised exc => exact .goto (route_fence s true exc)
    | interrupted repr => exact .goto (route_fence s true _)
    | _ => exact hstay row
  case creating =>
    cases answer with
    | progress => exact hstay _
    | partialFailure created step error failures =>
      exact .goto (partialFailed_fence s created step error failures)
    | returned body => exact .goto (finalize_fence s body)
    | interrupted repr => exact .goto (route_fence s true _)
    | _ => exact hstay row
  case last op scope =>
    cases answer with
    | ok => exact .leave
    | raised exc =>
      cases scope with
      | bare => exact .leave
      | reconciliation => exact .leave
      | boundary => exact databaseRaised_sameWorker hf false exc
      | call => exact databaseRaised_sameWorker hf true exc
    | _ => exact hstay row

theorem current_of_held (h : row.heldBy clk s.fence = true) : current s row = true := by
  obtain ⟨hrun, hfenced, -⟩ := heldBy_iff.mp h
  obtain ⟨owner, hfence, -⟩ := fencedBy_iff.mp hfenced
  have htoken : some s.task.leaseToken = some row.leaseToken := congrArg Fence.token hfence
  simp [current, hrun, Option.some.inj htoken]

theorem databaseRaised_row (crossed : Bool) (exc : Raised) :
    (databaseRaised s crossed exc row).row = row := by
  unfold databaseRaised
  split <;> rfl

inductive Writes (clk : Clock) (s : Session) (row row' : TaskRow) : Prop
  | none (unchanged : row' = row)
  | statement (op : RowOp) (fence : op.fence? = some s.fence) (apply : op.apply clk row = some row')

theorem Writes.of_getD {op : RowOp} (hf : op.fence? = some s.fence) :
    Writes clk s row ((op.apply clk row).getD row) := by
  cases happly : op.apply clk row with
  | none => exact .none rfl
  | some row' => exact .statement op hf happly

theorem advance_writes (hf : PcFenced s.fence s.pc) (answer : Answer) :
    Writes clk s row (advance lib clk s answer row).row := by
  unfold advance
  cases hpc : s.pc <;> rw [hpc] at hf <;> dsimp only
  case recoveryBoundary =>
    cases answer with
    | receipts integrityError =>
      cases integrityError with
      | some error => exact .none rfl
      | none =>
        simp only [atRecoveryBoundary]
        split
        · rename_i happly
          exact .statement (.authorizeDuplicateExecutionBoundary s.fence true) rfl happly
        · exact .none rfl
    | _ => exact .none rfl
  case boundary =>
    cases answer with
    | receipts integrityError =>
      cases integrityError with
      | some error => exact .none rfl
      | none =>
        simp only [atBoundary]
        split
        · rename_i happly
          exact .statement (.authorizeDuplicateExecutionBoundary s.fence false) rfl happly
        · split <;> exact .none rfl
    | raised exc => exact .none (databaseRaised_row false exc)
    | _ => exact .none rfl
  case creating =>
    cases answer with
    | progress phase step checkpointedAt created failures =>
      have hfence : (RowOp.checkpointDuplicateAdsetStructure s.fence
          (Session.progressCheckpoint phase step checkpointedAt created failures)).fence? =
          some s.fence := rfl
      exact .of_getD hfence
    | _ => exact .none rfl
  case last op scope =>
    cases answer with
    | ok => exact .of_getD hf
    | raised exc =>
      cases scope with
      | bare => exact .none rfl
      | reconciliation => exact .none rfl
      | boundary => exact .none (databaseRaised_row false exc)
      | call => exact .none (databaseRaised_row true exc)
    | _ => exact .none rfl
  case preflight =>
    cases answer with
    | raised exc => exact .none (databaseRaised_row false exc)
    | _ => exact .none rfl
  all_goals cases answer <;> exact .none rfl

theorem Writes.stale (h : Writes clk s row row') (hcur : current s row = false) : row' = row := by
  cases h with
  | none unchanged => exact unchanged
  | statement op fence apply =>
    rw [current_of_held (RowOp.heldBy_of_fence fence apply)] at hcur
    cases hcur

theorem Writes.leaseToken (h : Writes clk s row row') : row'.leaseToken = row.leaseToken := by
  cases h with
  | none unchanged => rw [unchanged]
  | statement op _ apply => exact (RowOp.effect apply).kept.leaseToken

-- ------------------------------------------------------------
-- Whole runs
-- ------------------------------------------------------------

/-- The steps that keep the promise: a recovery is not expired, the control of
its task and its receipts raise no objection, and every object of a valid
checkpoint is read back as the plan has it. -/
def recoverySafe (lib : Stdlib) (s : Sys) (e : Clock × Label) : Bool :=
  !requested s.row ||
    match e.2 with
    | .outside (.expireOverdue scope) => (expireOverdue e.1 scope s.row).isNone
    | .work token answer =>
      (s.sessions token).all fun session =>
        !current session s.row || workerSafe lib e.1 session answer s.row
    | _ => true

structure SessionOk (lib : Stdlib) (s : Sys) (token : Nat) (session : Session) : Prop where
  own : session.task.leaseToken = token
  bound : token ≤ s.row.leaseToken
  fenced : PcFenced session.fence session.pc
  coherent : current session s.row = true → Coherent lib s.passes s.row session

structure Inv (lib : Stdlib) (s : Sys) : Prop where
  row : RowOk s.row
  sessions : ∀ token session, s.sessions token = some session → SessionOk lib s token session

theorem SessionOk.stale {s : Sys} {token : Nat} {session : Session}
    (h : SessionOk lib s token session) {s' : Sys} (hsub : s.passes ⊆ s'.passes)
    (hbound : s.row.leaseToken ≤ s'.row.leaseToken)
    (hkeep : current session s'.row = true →
      current session s.row = true ∧ Same s.row s'.row) : SessionOk lib s' token session := by
  refine ⟨h.own, Nat.le_trans h.bound hbound, h.fenced, fun hcur => ?_⟩
  obtain ⟨hcur, hsame⟩ := hkeep hcur
  exact ((h.coherent hcur).same hsame).mono hsub

theorem Inv.rewrite {s : Sys} (hinv : Inv lib s) (hok : RowOk row')
    (htoken : row'.leaseToken = s.row.leaseToken)
    (hsame : row'.status = .running → s.row.status = .running ∧ Same s.row row') :
    Inv lib { s with row := row' } := by
  refine ⟨hok, fun token session h => (hinv.sessions token session h).stale (fun _ => id)
    (Nat.le_of_eq htoken.symm) fun hcur => ?_⟩
  simp only [current, Bool.and_eq_true, beq_iff_eq] at hcur ⊢
  obtain ⟨hrun, hsame⟩ := hsame hcur.1
  exact ⟨⟨hrun, htoken.symm.trans hcur.2⟩, hsame⟩

theorem Outside.same_of_running {op : RowOp} (h : Outside clk op row row')
    (hrun : row'.status = .running) : row.status = .running ∧ Same row row' := by
  cases h with
  | marks same status => exact ⟨status.symm.trans hrun, same⟩
  | cancels _ _ terminal | expires _ _ _ terminal | fails _ _ terminal =>
    rw [hrun] at terminal
    cases terminal
  | prepares _ _ status =>
    rw [hrun] at status
    cases status

theorem claim_inv {s : Sys} {c : Consumer} {generation : Option Int} (hinv : Inv lib s)
    (h : claimable clk c.taskType c.lanes s.row = true) :
    Inv lib (s.step lib (clk, .claim c generation)) := by
  have hopen : s.row.status.terminal = false := by
    simp only [claimable, Bool.and_eq_true] at h
    exact terminal_of_queued h.1.1.1.1.2
  simp only [Sys.step, h, if_true]
  refine ⟨⟨hinv.row.taskType, hinv.row.kind, fun _ => hinv.row.started hopen,
    fun _ => hinv.row.checkpointed hopen⟩, fun token session hs => ?_⟩
  simp only [Sys.set] at hs
  split at hs
  · rename_i htoken
    cases hs
    exact ⟨htoken.symm, Nat.le_of_eq htoken, trivial, fun _ => ⟨rfl, rfl⟩⟩
  · have hsession := hinv.sessions token session hs
    refine hsession.stale (fun _ => id) (Nat.le_succ _) fun hcur => ?_
    have htoken := hsession.own
    have hbound := hsession.bound
    simp only [current, claimRow, Bool.and_eq_true, beq_iff_eq] at hcur
    omega

theorem work_inv {s : Sys} {token : Nat} {answer : Answer} {session : Session} (hinv : Inv lib s)
    (hsession : s.sessions token = some session)
    (hsafe : requested s.row = true → current session s.row = true →
      workerSafe lib clk session answer s.row = true) :
    Inv lib (s.step lib (clk, .work token answer)) ∧
      Moves lib s.passes s.row (advance lib clk session answer s.row).row := by
  have hok := hinv.sessions token session hsession
  have hworker : SameWorker session (advance lib clk session answer s.row) :=
    advance_sameWorker hok.fenced answer
  have hwrites : Writes clk session s.row (advance lib clk session answer s.row).row :=
    advance_writes hok.fenced answer
  simp only [Sys.step, hsession]
  have hsub : s.passes ⊆
      (advance lib clk session answer s.row).pass.toList ++ s.passes :=
    List.subset_append_right _ _
  cases hcur : current session s.row with
  | false =>
    -- a worker without the lease changes only itself
    have hrow := hwrites.stale hcur
    rw [hrow]
    refine ⟨⟨hinv.row, fun token' session' hs => ?_⟩, .stay hinv.row⟩
    simp only [Sys.set] at hs
    split at hs
    · rename_i htoken
      obtain ⟨htask, hfenced⟩ := hworker session' hs
      have hfence : session'.fence = session.fence := by
        simp [Session.fence, Session.base, Worker.Session.fence, htask]
      refine ⟨by rw [htask, hok.own, htoken], htoken ▸ hok.bound, hfence ▸ hfenced, fun hcur' => ?_⟩
      rw [current, htask, ← current, hcur] at hcur'
      cases hcur'
    · exact (hinv.sessions token' session' hs).stale hsub (Nat.le_refl _)
        fun hcur' => ⟨hcur', .refl _⟩
  | true =>
    have hadv : Advanced lib s.passes s.row (advance lib clk session answer s.row) :=
      advance_advanced hinv.row hcur (hok.coherent hcur) fun hr => hsafe hr hcur
    obtain ⟨hmoves, hnext⟩ := hadv
    have htoken : (advance lib clk session answer s.row).row.leaseToken = s.row.leaseToken :=
      hwrites.leaseToken
    refine ⟨⟨hmoves.ok, fun token' session' hs => ?_⟩, hmoves⟩
    simp only [Sys.set] at hs
    split at hs
    · rename_i htoken'
      obtain ⟨htask, hfenced⟩ := hworker session' hs
      have hfence : session'.fence = session.fence := by
        simp [Session.fence, Session.base, Worker.Session.fence, htask]
      exact ⟨by rw [htask, hok.own, htoken'], by rw [htoken, htoken']; exact hok.bound,
        hfence ▸ hfenced, fun _ => hnext session' hs⟩
    · -- no other worker holds the row
      rename_i hne
      have hother := hinv.sessions token' session' hs
      refine hother.stale hsub (Nat.le_of_eq htoken.symm) fun hcur' => absurd ?_ hne
      simp only [current, Bool.and_eq_true, beq_iff_eq] at hcur hcur'
      rw [← hother.own, ← hcur'.2, htoken, hcur.2, hok.own]

theorem step_inv {s : Sys} (e : Clock × Label) (hinv : Inv lib s)
    (hsafe : recoverySafe lib s e = true) :
    Inv lib (s.step lib e) ∧
      (requested s.row = true → RecoveryKept lib s.passes s.row (s.step lib e).row) := by
  obtain ⟨clk, label⟩ := e
  have hstill : requested s.row = true → RecoveryKept lib s.passes s.row s.row :=
    fun hr => .of_result hr rfl id
  cases label with
  | claim c generation =>
    cases hclaim : claimable clk c.taskType c.lanes s.row with
    | true =>
      refine ⟨claim_inv hinv hclaim, fun hr => .of_result hr ?_ fun _ => ?_⟩
      · simp [Sys.step, hclaim, claimRow]
      · simp [Sys.step, hclaim, claimRow, Status.terminal]
    | false =>
      simp only [Sys.step, hclaim, Bool.false_eq_true, if_false]
      exact ⟨hinv, hstill⟩
  | outside op =>
    cases hissued : issued op with
    | false =>
      simp only [Sys.step, hissued, Bool.false_eq_true, if_false]
      exact ⟨hinv, hstill⟩
    | true =>
      simp only [Sys.step, hissued, if_true]
      cases happly : op.apply clk s.row with
      | none => exact ⟨hinv, hstill⟩
      | some row' =>
        have hkept := (RowOp.effect happly).kept
        have hout := outside_of_apply hinv.row hissued happly
        refine ⟨hinv.rewrite (hout.rowOk hinv.row hkept) hkept.leaseToken
          hout.same_of_running, fun hr => hout.kept hinv.row hr ?_⟩
        rintro scope rfl
        simp only [recoverySafe, hr, Bool.not_true, Bool.false_or, Option.isNone_iff_eq_none]
          at hsafe
        exact hsafe
  | touch token leaseSeconds =>
    simp only [Sys.step]
    split
    · rename_i session _
      cases happly : touchTaskRunning clk session.fence leaseSeconds s.row with
      | none => exact ⟨hinv, hstill⟩
      | some row' =>
        obtain ⟨-, rfl⟩ := update_eq_some.mp happly
        have hsame : Same s.row { s.row with
            updatedAt := clk.now
            leaseExpiresAt := some (clk.now + seconds (max 5 leaseSeconds)) } :=
          ⟨rfl, rfl, rfl, rfl, rfl, rfl⟩
        exact ⟨hinv.rewrite (hinv.row.same hsame id) rfl fun hrun => ⟨hrun, hsame⟩,
          fun hr => .of_result hr rfl id⟩
    · exact ⟨hinv, hstill⟩
  | crash token =>
    refine ⟨⟨hinv.row, fun token' session' hs => ?_⟩, hstill⟩
    simp only [Sys.step, Sys.set] at hs
    split at hs
    · cases hs
    · exact (hinv.sessions token' session' hs).stale (fun _ => id) (Nat.le_refl _)
        fun hcur => ⟨hcur, .refl _⟩
  | work token answer =>
    cases hsession : s.sessions token with
    | none =>
      simp only [Sys.step, hsession]
      exact ⟨hinv, hstill⟩
    | some session =>
      have hworker : requested s.row = true → current session s.row = true →
          workerSafe lib clk session answer s.row = true := by
        intro hr hcur
        simpa [recoverySafe, hr, hsession, hcur] using hsafe
      obtain ⟨hinv', hmoves⟩ := work_inv hinv hsession hworker
      refine ⟨hinv', fun hr => ?_⟩
      simp only [Sys.step, hsession]
      exact hmoves.kept hr

theorem init_inv {task : NewTask} (h : DuplicateCommand task) (clk : Clock) :
    Inv lib (Sys.init clk task) := by
  refine ⟨⟨h.taskType, ?_, fun _ hcheckpoint => ?_, fun _ hr => ?_⟩, fun _ _ hs => by cases hs⟩
  · show (Obj.text task.payload "mutation_kind" == some mutationKind) = true
    rw [h.kind]
    decide
  · cases hcheckpoint
  · cases hr

/-- Along every run whose steps are safe, a requested recovery stays requested
with its created ids, and its row is closed only after a pass of its worker
that left no failure, or because its checkpoint does not fit its plan. -/
theorem recovery_closed_only_when_paused (lib : Stdlib) (clk : Clock) (task : NewTask)
    (h : DuplicateCommand task) (es : List (Clock × Label))
    (hsafe : AllSteps (Sys.step lib) (fun s e => recoverySafe lib s e = true)
      (Sys.init clk task) es) :
    AllSteps (Sys.step lib)
      (fun s e => requested s.row = true →
        RecoveryKept lib s.passes s.row (s.step lib e).row) (Sys.init clk task) es :=
  .of_invariant (I := Inv lib) (fun _ e hinv hsafe => step_inv e hinv hsafe) (init_inv h clk) hsafe

-- A worker dies after its first campaign; the reconciler asks for the recovery
-- and another worker gets as far as the receipts.

def planLib : Stdlib :=
  { planDigest := fun _ _ _ => "ec8a1c15682d096307246e403b62d66131a8664b2f0e65b036285329c60744d2"
    str := Json.asStr?
    fromisoformat := fun text =>
      if text = "2030-01-01T00:00:00+00:00" then some (1893456000000000, some 0) else none }

def structureTask : NewTask :=
  { taskType := .metaApiMutation
    idempotencyKey := "duplicate:701:1"
    payload := [("mutation_kind", .str mutationKind), ("target_id", .str "701"),
      ("ad_account_id", .str "900"),
      ("params", .obj [("source_campaign_id", .str "700"), ("source_adset_id", .str "701"),
        ("selected_ad_ids", .arr [.str "702"]), ("campaign_count", .num 1 0),
        ("adsets_per_campaign", .num 1 0), ("budget_level", .str "CBO"),
        ("daily_budget", .str "10.00"), ("currency", .str "USD"), ("currency_exponent", .num 2 0),
        ("start_time", .str "2030-01-01T00:00:00Z"), ("campaign_names", .arr [.str "copy"]),
        ("adset_names", .arr [.str "set"]),
        ("plan_digest",
          .str "ec8a1c15682d096307246e403b62d66131a8664b2f0e65b036285329c60744d2")])]
    requestedBy := "operator"
    maxAttempts := 1 }

theorem structureTask_command : DuplicateCommand structureTask := ⟨rfl, rfl, rfl⟩

def bulkWorker : Consumer :=
  { taskType := .metaApiMutation, lanes := [.interactive, .bulk], worker := 7 }

def crashedRun : List (Clock × Label) :=
  [(tick 1, .claim bulkWorker (some 1)), (tick 2, .work 1 .ok), (tick 3, .work 1 (.read {})),
    (tick 4, .work 1 .ok), (tick 5, .work 1 (.receipts none)), (tick 6, .work 1 .loaded),
    (tick 7, .work 1 (.progress "creating" "campaign_created[0]" "2026-01-01T00:00:07Z"
      { campaigns := ["800"] } none)),
    (tick 8, .crash 1), (tick 5000, .outside (.prepareStuckDuplicateRecovery 1800)),
    (tick 5001, .claim bulkWorker (some 1)), (tick 5002, .work 2 .ok), (tick 5003, .work 2 .ok),
    (tick 5004, .work 2 (.receipts none))]

def pausedReplies : List Reply :=
  [.ok (.obj [("id", .str "800"), ("account_id", .str "900"), ("name", .str "copy"),
      ("objective", .str "OUTCOME_SALES"), ("status", .str "ACTIVE")]),
    .ok (.obj [("success", .bool true)]),
    .ok (.obj [("id", .str "800"), ("status", .str "PAUSED"), ("effective_status", .str "PAUSED")])]

def passedRun (replies : List Reply) : List (Clock × Label) :=
  crashedRun ++ [(tick 5005, .work 2 (.graph replies "2026-01-01T01:23:25Z"))]

def recoveryEnd : Clock × Label := (tick 5006, .work 2 .ok)

theorem recovery_closed_only_when_paused_pausedRun :
    ∃ s : Sys, s = run (Sys.step planLib) (Sys.init (tick 0) structureTask)
        (passedRun pausedReplies) ∧
      s.row.status = .running ∧ (s.step planLib recoveryEnd).row.status = .failed ∧
      RecoveryKept planLib s.passes s.row (s.step planLib recoveryEnd).row := by
  have hsafe : AllSteps (Sys.step planLib) (fun s e => recoverySafe planLib s e = true)
      (Sys.init (tick 0) structureTask) (passedRun pausedReplies ++ [recoveryEnd]) := by
    decide +kernel
  have hkept := recovery_closed_only_when_paused planLib (tick 0) structureTask
    structureTask_command _ hsafe
  rw [allSteps_append] at hkept
  refine ⟨_, rfl, by decide +kernel, by decide +kernel, hkept.2.1 (by decide +kernel)⟩

def unreadState : Sys :=
  run (Sys.step planLib) (Sys.init (tick 0) structureTask)
    (passedRun [.error "TemporaryError('connection reset')"])

/-- The recovery is closed on it: nothing was paused, and the checkpoint fits
its plan. -/
theorem unread_recovery_closed :
    ¬ AllSteps (Sys.step planLib)
      (fun s e => requested s.row = true →
        RecoveryKept planLib s.passes s.row (s.step planLib e).row)
      (Sys.init (tick 0) structureTask)
      (passedRun [.error "TemporaryError('connection reset')"] ++ [recoveryEnd]) := by
  intro hkept
  rw [allSteps_append] at hkept
  obtain ⟨-, -, hclosed⟩ := hkept.2.1 (by decide +kernel)
  obtain ⟨hphase, -⟩ | ⟨-, payload, error, hparse, hinvalid⟩ :=
    hclosed (by decide +kernel) (by decide +kernel)
  · revert hphase
    decide +kernel
  · have hvalid : ((MetaMutationPayload.fromDict unreadState.row.payload).toOption.all
        fun payload =>
        (validateRecovery planLib payload unreadState.row.resultObj).toOption.isSome) = true := by
      decide +kernel
    rw [unreadState, hparse] at hvalid
    simp only [Except.toOption, Option.all_some] at hvalid
    rw [hinvalid] at hvalid
    cases hvalid

end StopBot.Duplicates
