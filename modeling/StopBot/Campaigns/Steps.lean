import StopBot.Campaigns.Moves

/-!
# What one step of a worker does

A step writes at most one transaction, and which one is known from where the
worker is; it lets out at most one request, at an await of the executor, with
the boundary written in the same step.
-/

namespace StopBot.Campaigns

open Lib Tasks

inductive Wrote (clk : Clock) (task : Nat) (s : Session) (st : Store) : Store → Prop
  | nothing : Wrote clk task s st st
  | recorded (offer code : String) : Wrote clk task s st (recordCreative offer code st)
  | status {run : Nat} {status : RunStatus} {progress : Option Obj} {expect : Option RunStatus}
      {st' : Store} (hrun : s.run = some run) (active : status.terminal = false)
      (h : setRunStatus clk s.fence task run status progress expect st = some st') :
      Wrote clk task s st st'
  | boundary {operation : String} {row' : TaskRow}
      (h : begin clk s.fence operation s.runId (st.queue.rows task) = .crossed row') :
      Wrote clk task s st (st.putTask task row')
  | created {payload : Obj} {st' : Store}
      (h : onTask clk task (.recordCreatedIds s.fence payload) none st = some st') :
      Wrote clk task s st st'
  | closed {tx : Tx} {st' : Store} (hpc : s.pc = .last tx ∨ s.pc = .crashed ∧ tx = crashTx s)
      (h : tx.apply clk task s st = some st') : Wrote clk task s st st'

section
variable {clk : Clock} {task : Nat} {s : Session} {st : Store} {reply : Reply}
  {utcOffset : String → String → String}

theorem wrote_status {status : RunStatus} {progress : Option Obj} {expect : Option RunStatus}
    (active : status.terminal = false) :
    Wrote clk task s st ((s.run.bind fun run =>
      setRunStatus clk s.fence task run status progress expect st).getD st) := by
  cases hrun : s.run with
  | none => exact .nothing
  | some run =>
    simp only [Option.bind_some]
    cases h : setRunStatus clk s.fence task run status progress expect st with
    | none => exact .nothing
    | some st' => exact .status hrun active h

theorem Wrote.ite {st' : Store} {applied : Bool} (h : Wrote clk task s st st') :
    Wrote clk task s st (if applied then st' else st) := by
  cases applied
  · exact .nothing
  · exact h

theorem wrote_closed {tx : Tx} (hpc : s.pc = .last tx ∨ s.pc = .crashed ∧ tx = crashTx s) :
    Wrote clk task s st ((tx.apply clk task s st).getD st) := by
  cases h : tx.apply clk task s st with
  | none => exact .nothing
  | some st' => exact .closed hpc h

theorem stageStatus_active (stage : Stage) : stage.runStatus.terminal = false := by
  cases stage <;> rfl

theorem atProgress_wrote {created : CreatedIds} {progress : ProgressState}
    {next : Answer → Program} {phase : AwaitPhase} :
    Wrote clk task s st (atProgress clk task s created progress next phase reply st).store := by
  have hmoved : Wrote clk task s st ((s.run.bind fun run => setRunStatus clk s.fence task run
      progress.stage.runStatus (some progress.snapshot) none st).getD st) :=
    wrote_status (stageStatus_active progress.stage)
  unfold atProgress
  simp only
  split
  · split
    next st' h =>
      have h : (s.run.bind fun run => setRunStatus clk s.fence task run progress.stage.runStatus
        (some progress.snapshot) none st) = some st' := h
      rw [h] at hmoved
      exact hmoved
    · exact .nothing
  · exact hmoved.ite
  · unfold stopped
    split <;> exact .nothing
  · exact .nothing
  · exact .nothing

theorem atRecord_wrote {created : CreatedIds} {code creativeId : String} {kind : MediaKind}
    {next : Answer → Program} {phase : AwaitPhase} :
    Wrote clk task s st
      (atRecord clk task s created code kind creativeId next phase reply st).store := by
  unfold atRecord
  simp only
  split
  · unfold stopped
    split <;> exact .nothing
  · exact .recorded ..
  · exact .recorded ..
  · exact .nothing
  · exact .nothing

theorem atExternal_wrote {await : Await} {operation : String} {next : Answer → Program}
    {phase : AwaitPhase} :
    Wrote clk task s st (atExternal clk task s await operation next phase reply st).store := by
  unfold atExternal
  simp only
  split
  · split
    · exact .nothing
    · exact .nothing
    next h => exact .boundary h
  · split
    next h => exact .boundary h
    · exact .nothing
  · exact .nothing
  · exact .nothing

theorem atExecuting_wrote {program : Program} {phase : AwaitPhase} :
    Wrote clk task s st (atExecuting clk task s program phase reply st).store := by
  unfold atExecuting
  split
  · exact .nothing
  · exact .nothing
  · unfold atPoll
    split <;> exact .nothing
  · exact .nothing
  · split <;> exact .nothing
  · exact .nothing
  · unfold atAwait
    split
    · exact atProgress_wrote
    · exact atRecord_wrote
    · split <;> exact .nothing
    all_goals exact atExternal_wrote

theorem advance_wrote :
    Wrote clk task s st (advance utcOffset clk task s reply st).store := by
  unfold advance
  split
  next hpc =>
    unfold atLoad
    split <;> exact .nothing
  · unfold atCreated
    split
    · split <;> exact .nothing
    · exact .nothing
    · exact .nothing
  · unfold atControl
    split
    · split <;> exact .nothing
    · exact .nothing
    · exact .nothing
  · unfold atPrepare
    split
    · exact .nothing
    · exact .nothing
    · split
      · exact .nothing
      · split <;> exact .nothing
    · exact .nothing
  · have hmoved : Wrote clk task s st ((s.run.bind fun run => setRunStatus clk s.fence task run
        .uniquifying (some [("stage", .str "uniquifying")]) (some .queued) st).getD st) :=
      wrote_status rfl
    unfold atStart
    simp only
    split
    · split
      next h =>
        rw [h] at hmoved
        exact hmoved
      · exact .nothing
    · exact hmoved.ite
    · exact .nothing
  · unfold atRecheck
    split
    · split <;> exact .nothing
    · exact .nothing
    · exact .nothing
  · unfold atEnter
    split
    · split <;> exact .nothing
    · exact .nothing
    · exact .nothing
  · exact atExecuting_wrote
  next payload next hpc =>
    have hcreated : Wrote clk task s st
        ((onTask clk task (.recordCreatedIds s.fence payload) none st).getD st) := by
      cases h : onTask clk task (.recordCreatedIds s.fence payload) none st with
      | none => exact .nothing
      | some st' => exact .created h
    unfold atPersist
    simp only
    split
    · exact hcreated
    · exact hcreated.ite
    · exact .nothing
  · have hmoved : Wrote clk task s st ((s.run.bind fun run => setRunStatus clk s.fence task run
        .queued none none st).getD st) := wrote_status rfl
    unfold atReset
    simp only
    split
    · split
      next h =>
        rw [h] at hmoved
        exact hmoved
      · exact .nothing
    · exact hmoved.ite
    · exact .nothing
  next tx hpc =>
    unfold atLast
    split
    · exact wrote_closed (.inl hpc)
    · exact (wrote_closed (.inl hpc)).ite
    · exact .nothing
  next hpc =>
    unfold atCrashed
    split
    · exact wrote_closed (.inr ⟨hpc, rfl⟩)
    · exact (wrote_closed (.inr ⟨hpc, rfl⟩)).ite
    · exact .nothing

-- ------------------------------------------------------------
-- What a worker goes on to
-- ------------------------------------------------------------

def Pc.tx? : Pc → Option Tx
  | .persist _ tx | .reset tx | .last tx => some tx
  | .load | .created | .control | .prepare | .start _ | .recheck | .enter _ | .executing _ _
  | .crashed => none

def Tx.plain : Tx → Bool
  | .succeed _ | .fail .. | .cancel _ | .markFailed .. | .requeue _ => true
  | .markSucceeded _ | .release _ => false

def Failure.releases : Failure → Bool
  | .partialCreate .. => false
  | failure@(.execution ..) | failure@(.plain _) => failure.browserReadinessRejection

def Chosen (s : Session) (st : Store) : Tx → Prop
  | .markSucceeded _ => s.pc = .load ∧
      ∃ run, s.run.bind st.runs.rows = some run ∧ run.status = .succeeded
  | .release _ => ∃ failure state phase,
      s.pc = .executing (.ret (.error failure, state)) phase ∧ failure.releases = true
  | _ => True

structure Follows (s : Session) (st : Store) (s' : Session) : Prop where
  task : s'.task = s.task
  generation : s'.generation = s.generation
  run : s'.run = s.run
  tx : ∀ tx, s'.pc.tx? = some tx → s.pc.tx? = some tx ∨ Chosen s st tx

theorem chosen_of_plain {tx : Tx} (h : tx.plain = true) : Chosen s st tx := by
  cases tx <;> trivial

theorem controlAbort_plain {reason : String} {external : Bool} {created : Option CreatedIds}
    {tx : Tx} (h : (s.controlAbort reason external created).tx? = some tx) : tx.plain = true := by
  unfold Session.controlAbort at h
  simp only at h
  split at h
  · split at h <;> cases h <;> rfl
  · split at h <;> cases h <;> rfl

theorem timedOut_plain {created : CreatedIds} {tx : Tx}
    (h : (s.timedOut created).tx? = some tx) : tx.plain = true := by
  unfold Session.timedOut at h
  split at h <;> cases h <;> rfl

theorem route_tx {failure : Failure} {tx : Tx} (h : (s.route failure).tx? = some tx) :
    tx.plain = true ∨ (failure.releases = true ∧ ∃ error, tx = .release error) := by
  unfold Session.route at h
  split at h
  · cases h
    exact .inl rfl
  all_goals
    split at h
    next hrelease =>
      cases h
      exact .inr ⟨hrelease, _, rfl⟩
    · refine .inl ?_
      split at h
      · cases h
        rfl
      · split at h
        · cases h
          rfl
        · split at h
          · split at h <;> cases h <;> rfl
          · cases h
            rfl

theorem databaseError_not_releases (exc : DatabaseError) :
    (Failure.plain exc.raised).releases = false := rfl

theorem loadRun_tx {tx : Tx} (hpc : s.pc = .load) (h : (loadRun s st).tx? = some tx) :
    Chosen s st tx := by
  unfold loadRun at h
  split at h
  · cases h
    trivial
  · split at h
    · cases h
      trivial
    next run hrun =>
      split at h
      next hstatus =>
        cases h
        exact ⟨hpc, run, hrun, hstatus⟩
      · cases h
        trivial
      · cases h
        trivial
      · cases h
        trivial
      · cases h
        trivial
      · cases h
        trivial
      · cases h

theorem Follows.of_goto {s' s'' : Session} {st' : Store} {pc : Pc}
    (h : (Outcome.goto st' s' pc).session = some s'') (htask : s'.task = s.task)
    (hgeneration : s'.generation = s.generation) (hrun : s'.run = s.run)
    (htx : ∀ tx, pc.tx? = some tx → s.pc.tx? = some tx ∨ Chosen s st tx) : Follows s st s'' := by
  cases h
  exact ⟨htask, hgeneration, hrun, htx⟩

theorem Follows.goto {st' : Store} {pc : Pc}
    (htx : ∀ tx, pc.tx? = some tx → s.pc.tx? = some tx ∨ Chosen s st tx) {s'' : Session}
    (h : (Outcome.goto st' s pc).session = some s'') : Follows s st s'' :=
  .of_goto h rfl rfl rfl htx

theorem tx_none {pc : Pc} (h : pc.tx? = none) :
    ∀ tx, pc.tx? = some tx → s.pc.tx? = some tx ∨ Chosen s st tx := by
  intro tx htx
  rw [h] at htx
  cases htx

theorem tx_plain {pc : Pc} (h : ∀ tx, pc.tx? = some tx → tx.plain = true) :
    ∀ tx, pc.tx? = some tx → s.pc.tx? = some tx ∨ Chosen s st tx :=
  fun tx htx => .inr (chosen_of_plain (h tx htx))

theorem tx_last {tx : Tx} (h : tx.plain = true) :
    ∀ tx', (Pc.last tx).tx? = some tx' → s.pc.tx? = some tx' ∨ Chosen s st tx' := by
  intro tx' htx
  cases htx
  exact .inr (chosen_of_plain h)

theorem tx_same {pc : Pc} (h : pc.tx? = s.pc.tx?) :
    ∀ tx, pc.tx? = some tx → s.pc.tx? = some tx ∨ Chosen s st tx := by
  intro tx htx
  rw [h] at htx
  exact .inl htx

theorem stopped_follows {s₀ s' : Session} {created : CreatedIds} {outcome : Check}
    {clear : Outcome} (h : (stopped s₀ created outcome st clear).session = some s')
    (htask : s₀.task = s.task) (hgeneration : s₀.generation = s.generation)
    (hrun : s₀.run = s.run) (hclear : ∀ s', clear.session = some s' → Follows s st s') :
    Follows s st s' := by
  unfold stopped at h
  split at h
  · cases h
  · exact .of_goto h htask hgeneration hrun (tx_plain fun tx => controlAbort_plain)
  · exact hclear s' h

theorem atAwait_follows {await : Await} {next : Answer → Program} {phase : AwaitPhase}
    {s' : Session} (h : (atAwait clk task s await next phase reply st).session = some s') :
    Follows s st s' := by
  unfold atAwait at h
  split at h
  · unfold atProgress at h
    simp only at h
    split at h
    · split at h <;> exact .of_goto h rfl rfl rfl (tx_none rfl)
    · exact .of_goto h rfl rfl rfl (tx_none rfl)
    · exact stopped_follows h rfl rfl rfl fun _ hs => by cases hs
    · exact .of_goto h rfl rfl rfl (tx_none rfl)
    · exact .of_goto h rfl rfl rfl (tx_none rfl)
  · unfold atRecord at h
    simp only at h
    split at h
    · exact stopped_follows h rfl rfl rfl fun _ hs => .goto (tx_none rfl) hs
    all_goals exact .goto (tx_none rfl) h
  · split at h <;> exact .goto (tx_none rfl) h
  all_goals
    unfold atExternal at h
    simp only at h
    split at h
    · split at h
      · cases h
      · exact .goto (tx_plain fun tx => controlAbort_plain) h
      · cases h
        exact ⟨rfl, rfl, rfl, tx_none rfl⟩
    · exact .goto (tx_none rfl) h
    · cases h
      exact ⟨rfl, rfl, rfl, tx_none rfl⟩
    · exact .goto (tx_none rfl) h

theorem tx_route_plain {failure : Failure} (hnot : failure.releases = false) :
    ∀ tx, (s.route failure).tx? = some tx → s.pc.tx? = some tx ∨ Chosen s st tx := by
  intro tx htx
  obtain hplain | ⟨hrelease, -⟩ := route_tx htx
  · exact .inr (chosen_of_plain hplain)
  · rw [hnot] at hrelease
    cases hrelease

theorem atExecuting_follows {program : Program} {phase : AwaitPhase} {s' : Session}
    (hpc : s.pc = .executing program phase)
    (h : (atExecuting clk task s program phase reply st).session = some s') : Follows s st s' := by
  unfold atExecuting at h
  split at h
  next failure state =>
    refine .goto (fun tx htx => ?_) h
    obtain hplain | ⟨hrelease, error, rfl⟩ := route_tx htx
    · exact .inr (chosen_of_plain hplain)
    · exact .inr ⟨failure, state, phase, hpc, hrelease⟩
  · cases h
  · unfold atPoll at h
    split at h
    · cases h
    · exact .goto (tx_plain fun tx => controlAbort_plain) h
    · exact .of_goto h rfl rfl rfl (tx_none rfl)
  · exact .goto (tx_route_plain (databaseError_not_releases _)) h
  · split at h
    · exact .goto (tx_plain fun tx => timedOut_plain) h
    · exact .goto (tx_none rfl) h
  · exact .goto (tx_last rfl) h
  · exact atAwait_follows h

theorem advance_follows {s' : Session}
    (h : (advance utcOffset clk task s reply st).session = some s') : Follows s st s' := by
  unfold advance at h
  split at h
  next hpc =>
    unfold atLoad at h
    split at h
    · exact .of_goto h rfl rfl rfl fun tx htx => .inr (loadRun_tx hpc htx)
    · exact .goto (tx_none rfl) h
    · exact .goto (tx_none rfl) h
  · unfold atCreated at h
    split at h
    · split at h
      · exact .goto (tx_last rfl) h
      · exact .goto (tx_none rfl) h
    · exact .goto (tx_none rfl) h
    · exact .goto (tx_none rfl) h
  · unfold atControl at h
    split at h
    · split at h
      · cases h
      · exact .goto (tx_plain fun tx => controlAbort_plain) h
      · exact .goto (tx_last rfl) h
      · exact .goto (tx_none rfl) h
    · exact .goto (tx_none rfl) h
    · exact .goto (tx_none rfl) h
  · unfold atPrepare at h
    split at h
    · exact .goto (tx_last rfl) h
    · exact .goto (tx_last rfl) h
    · split at h
      · exact .goto (tx_last rfl) h
      · split at h
        · exact .goto (tx_last rfl) h
        · exact .goto (tx_none rfl) h
    · exact .goto (tx_none rfl) h
  · unfold atStart at h
    simp only at h
    split at h
    · split at h <;> exact .goto (tx_none rfl) h
    · exact .goto (tx_none rfl) h
    · exact .goto (tx_none rfl) h
  · unfold atRecheck at h
    split at h
    · split at h
      · cases h
      · exact .goto (tx_plain fun tx => controlAbort_plain) h
      · exact .goto (tx_last rfl) h
    · exact .goto (tx_none rfl) h
    · exact .goto (tx_none rfl) h
  · unfold atEnter at h
    split at h
    · split at h
      · cases h
      · exact .goto (tx_plain fun tx => controlAbort_plain) h
      · exact .of_goto h rfl rfl rfl (tx_none rfl)
    · exact .goto (tx_route_plain (databaseError_not_releases _)) h
    · exact .goto (tx_none rfl) h
  next hpc => exact atExecuting_follows hpc h
  next hpc =>
    unfold atPersist at h
    simp only at h
    split at h <;> exact .goto (tx_same (by simp [hpc, Pc.tx?])) h
  next hpc =>
    unfold atReset at h
    simp only at h
    split at h
    · split at h
      · exact .goto (tx_same (by simp [hpc, Pc.tx?])) h
      · cases h
    · exact .goto (tx_none rfl) h
    · exact .goto (tx_same (by simp [hpc, Pc.tx?])) h
  next hpc =>
    unfold atLast at h
    split at h
    · cases h
    · exact .goto (tx_none rfl) h
    · exact .goto (tx_same (by rw [hpc])) h
  · unfold atCrashed at h
    split at h
    · cases h
    · cases h
    · exact .goto (tx_none rfl) h

-- ------------------------------------------------------------
-- The executor under way
-- ------------------------------------------------------------

def Request.external : Request → Bool
  | .graph .. | .uploadImage _ | .uploadVideo _ | .waitVideoReady _ | .videoThumbnail _ => true
  | .progress _ | .uniquify | .record .. => false

structure Outcome.Silent (o : Outcome) : Prop where
  issue : o.issue = none
  settled : o.settled = false

/-- One step of a worker at an await of the executor, as its program sees it. -/
inductive Ran (clk : Clock) (task : Nat) (s : Session) (program : Program) (phase : AwaitPhase)
    (st : Store) (o : Outcome) : Prop
  | leaves (h : o.session = none) (silent : o.Silent)
  | closes {s' : Session} {tx : Tx} (h : o.session = some s') (tx : s'.pc.tx? = some tx)
      (silent : o.Silent)
  | waits {s' : Session} {phase' : AwaitPhase} (h : o.session = some s')
      (pc : s'.pc = .executing program phase') (flight : phase' = .inFlight ↔ phase = .inFlight)
      (silent : o.Silent)
  | answers {s' : Session} {await : Await} {next : Answer → Program} {answer : Answer}
      (h : o.session = some s') (at' : program = .call await next)
      (stays : await.request.external = false) (pc : s'.pc = .executing (next answer) .ready)
      (silent : o.Silent)
  | fails {s' : Session} {await : Await} {next : Answer → Program} {exc : DatabaseError}
      (h : o.session = some s') (at' : program = .call await next) (ready : phase = .ready)
      (pc : s'.pc = .executing (next (.raised exc.raised false)) .ready) (silent : o.Silent)
  | issues {s' : Session} {await : Await} {next : Answer → Program} {operation : String}
      {row' : TaskRow} (h : o.session = some s') (at' : program = .call await next)
      (leaves : await.request.external = true) (ready : phase = .ready)
      (begun : begin clk s.fence operation s.runId (st.queue.rows task) = .crossed row')
      (store : o.store = st.putTask task row') (pc : s'.pc = .executing program .inFlight)
      (issue : o.issue = some await.request) (settled : o.settled = false)
  | settles {s' : Session} {await : Await} {next : Answer → Program} {answer : Answer}
      (h : o.session = some s') (at' : program = .call await next) (flight : phase = .inFlight)
      (pc : s'.pc = .executing (next answer) .ready) (issue : o.issue = none)
      (settled : o.settled = answer.undispatched)

theorem controlAbort_tx (reason : String) (external : Bool) (created : Option CreatedIds) :
    ∃ tx, (s.controlAbort reason external created).tx? = some tx := by
  unfold Session.controlAbort
  simp only
  split
  · split <;> exact ⟨_, rfl⟩
  · split <;> exact ⟨_, rfl⟩

theorem timedOut_tx (created : CreatedIds) : ∃ tx, (s.timedOut created).tx? = some tx := by
  unfold Session.timedOut
  split <;> exact ⟨_, rfl⟩

theorem route_closes (failure : Failure) : ∃ tx, (s.route failure).tx? = some tx := by
  unfold Session.route
  split
  · exact ⟨_, rfl⟩
  all_goals
    split
    · exact ⟨_, rfl⟩
    · split
      · exact ⟨_, rfl⟩
      · split
        · exact ⟨_, rfl⟩
        · split
          · split <;> exact ⟨_, rfl⟩
          · exact ⟨_, rfl⟩

section
variable {program : Program} {phase : AwaitPhase}

theorem Ran.of_closes {st' : Store} {s₀ : Session} {pc : Pc} (h : ∃ tx, pc.tx? = some tx) :
    Ran clk task s program phase st (.goto st' s₀ pc) := by
  obtain ⟨tx, htx⟩ := h
  exact .closes rfl htx ⟨rfl, rfl⟩

theorem Ran.of_waits {st' : Store} {s₀ : Session} {phase' : AwaitPhase}
    (h : phase' = .inFlight ↔ phase = .inFlight) :
    Ran clk task s program phase st (.goto st' s₀ (.executing program phase')) :=
  .waits rfl rfl h ⟨rfl, rfl⟩

theorem stopped_ran {s₀ : Session} {created : CreatedIds} {outcome : Check} {clear : Outcome}
    (h : Ran clk task s program phase st clear) :
    Ran clk task s program phase st (stopped s₀ created outcome st clear) := by
  unfold stopped
  split
  · exact .leaves rfl ⟨rfl, rfl⟩
  · exact .of_closes (controlAbort_tx _ _ _)
  · exact h

theorem atProgress_ran {created : CreatedIds} {progress : ProgressState}
    {next : Answer → Program} (hprogram : program = .call ⟨created, .progress progress⟩ next) :
    Ran clk task s program phase st
      (atProgress clk task s created progress next phase reply st) := by
  unfold atProgress
  simp only
  split
  · split
    · exact .answers rfl hprogram rfl rfl ⟨rfl, rfl⟩
    · rw [← hprogram]
      exact .of_waits (by simp)
  · exact .answers rfl hprogram rfl rfl ⟨rfl, rfl⟩
  · exact stopped_ran (.leaves rfl ⟨rfl, rfl⟩)
  · exact .answers rfl hprogram rfl rfl ⟨rfl, rfl⟩
  · rw [← hprogram]
    exact .of_waits Iff.rfl

theorem atRecord_ran {created : CreatedIds} {code creativeId : String} {kind : MediaKind}
    {next : Answer → Program}
    (hprogram : program = .call ⟨created, .record code kind creativeId⟩ next) :
    Ran clk task s program phase st
      (atRecord clk task s created code kind creativeId next phase reply st) := by
  unfold atRecord
  simp only
  split
  · rw [← hprogram]
    exact stopped_ran (.of_waits (by simp))
  · exact .answers rfl hprogram rfl rfl ⟨rfl, rfl⟩
  · exact .answers rfl hprogram rfl rfl ⟨rfl, rfl⟩
  · exact .answers rfl hprogram rfl rfl ⟨rfl, rfl⟩
  · rw [← hprogram]
    exact .of_waits Iff.rfl

theorem atExternal_ran {await : Await} {operation : String} {next : Answer → Program}
    (hprogram : program = .call await next) (hexternal : await.request.external = true) :
    Ran clk task s program phase st
      (atExternal clk task s await operation next phase reply st) := by
  unfold atExternal
  simp only
  split
  · split
    · exact .leaves rfl ⟨rfl, rfl⟩
    · exact .of_closes (controlAbort_tx _ _ _)
    next h => exact .issues rfl hprogram hexternal rfl h rfl (by rw [hprogram]) rfl rfl
  · exact .fails rfl hprogram rfl rfl ⟨rfl, rfl⟩
  · exact .settles rfl hprogram rfl rfl rfl rfl
  · rw [← hprogram]
    exact .of_waits Iff.rfl

theorem atExecuting_ran : Ran clk task s program phase st
    (atExecuting clk task s program phase reply st) := by
  unfold atExecuting
  split
  · exact .of_closes (route_closes _)
  · exact .leaves rfl ⟨rfl, rfl⟩
  · unfold atPoll
    split
    · exact .leaves rfl ⟨rfl, rfl⟩
    · exact .of_closes (controlAbort_tx _ _ _)
    · exact .of_waits Iff.rfl
  · exact .of_closes (route_closes _)
  · split
    · exact .of_closes (timedOut_tx _)
    · exact .of_waits Iff.rfl
  · exact .of_closes ⟨_, rfl⟩
  next await next _ _ _ =>
    obtain ⟨created, request⟩ := await
    unfold atAwait
    cases request with
    | progress progress => exact atProgress_ran rfl
    | record code kind creativeId => exact atRecord_ran rfl
    | uniquify =>
      simp only
      split
      · exact .answers rfl rfl rfl rfl ⟨rfl, rfl⟩
      · exact .of_waits Iff.rfl
    | graph edge body => exact atExternal_ran rfl rfl
    | uploadImage filename => exact atExternal_ran rfl rfl
    | uploadVideo filename => exact atExternal_ran rfl rfl
    | waitVideoReady videoId => exact atExternal_ran rfl rfl
    | videoThumbnail videoId => exact atExternal_ran rfl rfl

end

-- ------------------------------------------------------------
-- Before and after the executor
-- ------------------------------------------------------------

inductive PcStep (utcOffset : String → String → String) (clk : Clock) (task : Nat) (s : Session)
    (st : Store) : Pc → Prop
  | stays : PcStep utcOffset clk task s st s.pc
  | closes {pc : Pc} {tx : Tx} (h : pc.tx? = some tx) : PcStep utcOffset clk task s st pc
  | crashes : PcStep utcOffset clk task s st .crashed
  | created (h : s.pc = .load) : PcStep utcOffset clk task s st .created
  | control (h : s.pc = .created) : PcStep utcOffset clk task s st .control
  | prepare (h : s.pc = .control)
      (clear : check clk s.fence (st.queue.rows task) = .clear false) :
      PcStep utcOffset clk task s st .prepare
  | start {cfg : CampaignConfig} {specs : List BlockSpec} (h : s.pc = .prepare)
      (config : s.config = some cfg) (built : buildCampaignSpec utcOffset cfg = .ok specs) :
      PcStep utcOffset clk task s st
        (.start (executeCampaignSpec cfg specs (resolveConceptsFromConfig cfg) {}))
  | recheck {program : Program} (h : s.pc = .start program) :
      PcStep utcOffset clk task s st .recheck
  | enter {program : Program} (h : s.pc = .start program) :
      PcStep utcOffset clk task s st (.enter program)
  | executing {program : Program} (h : s.pc = .enter program) :
      PcStep utcOffset clk task s st (.executing program .ready)

structure Quiet (utcOffset : String → String → String) (clk : Clock) (task : Nat) (s : Session)
    (st : Store) (o : Outcome) : Prop where
  silent : o.Silent
  pc : ∀ s', o.session = some s' → PcStep utcOffset clk task s st s'.pc

theorem Quiet.leave {st' : Store} : Quiet utcOffset clk task s st (.leave st') :=
  ⟨⟨rfl, rfl⟩, fun _ h => by cases h⟩

theorem Quiet.goto {st' : Store} {s₀ : Session} {pc : Pc}
    (h : PcStep utcOffset clk task s st pc) : Quiet utcOffset clk task s st (.goto st' s₀ pc) := by
  refine ⟨⟨rfl, rfl⟩, fun _ hs => ?_⟩
  cases hs
  exact h

theorem Quiet.abort {st' : Store} {s₀ : Session} {reason : String} {external : Bool}
    {created : Option CreatedIds} :
    Quiet utcOffset clk task s st (.goto st' s₀ (s₀.controlAbort reason external created)) := by
  obtain ⟨tx, htx⟩ := controlAbort_tx (s := s₀) reason external created
  exact .goto (.closes htx)

theorem Quiet.stay {st' : Store} {s₀ : Session} {pc : Pc} (h : s.pc = pc) :
    Quiet utcOffset clk task s st (.goto st' s₀ pc) :=
  .goto (h ▸ .stays)

theorem loadRun_pc (hpc : s.pc = .load) : PcStep utcOffset clk task s st (loadRun s st) := by
  unfold loadRun
  split
  · exact .closes rfl
  · split
    · exact .closes rfl
    · split
      · exact .closes rfl
      · exact .closes rfl
      · exact .closes rfl
      · exact .closes rfl
      · exact .closes rfl
      · exact .closes rfl
      · exact .created hpc

theorem advance_quiet (hpc : ∀ program phase, s.pc ≠ .executing program phase) :
    Quiet utcOffset clk task s st (advance utcOffset clk task s reply st) := by
  unfold advance
  split
  next hpc =>
    unfold atLoad
    split
    · exact .goto (loadRun_pc hpc)
    · exact .goto .crashes
    · exact .stay hpc
  next hpc =>
    unfold atCreated
    split
    · split
      · exact .goto (.closes rfl)
      · exact .goto (.control hpc)
    · exact .goto .crashes
    · exact .stay hpc
  next hpc =>
    unfold atControl
    split
    · split
      · exact .leave
      · exact .abort
      · exact .goto (.closes rfl)
      next hclear => exact .goto (.prepare hpc hclear)
    · exact .goto .crashes
    · exact .stay hpc
  next hpc =>
    unfold atPrepare
    split
    · exact .goto (.closes rfl)
    · exact .goto (.closes rfl)
    · split
      · exact .goto (.closes rfl)
      next cfg hcfg =>
        split
        · exact .goto (.closes rfl)
        next specs hspecs => exact .goto (.start hpc hcfg hspecs)
    · exact .stay hpc
  next program hpc =>
    unfold atStart
    simp only
    split
    · split
      · exact .goto (.enter hpc)
      · exact .goto (.recheck hpc)
    · exact .goto .crashes
    · exact .stay hpc
  next hpc =>
    unfold atRecheck
    split
    · split
      · exact .leave
      · exact .abort
      · exact .goto (.closes rfl)
    · exact .goto .crashes
    · exact .stay hpc
  next program hpc =>
    unfold atEnter
    split
    · split
      · exact .leave
      · exact .abort
      · exact .goto (.executing hpc)
    next applied exc =>
      obtain ⟨tx, htx⟩ := route_closes (s := s) (.plain exc.raised)
      exact .goto (.closes htx)
    · exact .stay hpc
  next program phase hexec => exact absurd hexec (hpc program phase)
  next hpc =>
    unfold atPersist
    simp only
    split
    · exact .goto (.closes rfl)
    · exact .goto (.closes rfl)
    · exact .stay hpc
  next hpc =>
    unfold atReset
    simp only
    split
    · split
      · exact .goto (.closes rfl)
      · exact .leave
    · exact .goto .crashes
    · exact .stay hpc
  next hpc =>
    unfold atLast
    split
    · exact .leave
    · exact .goto .crashes
    · exact .stay hpc
  next hpc =>
    unfold atCrashed
    split
    · exact .leave
    · exact .leave
    · exact .goto .crashes

end

end StopBot.Campaigns
