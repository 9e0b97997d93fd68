import StopBot.Campaigns.Steps

/-!
# A run and its task stay together

Whatever the launches, the workers, the operator, the reconciler and crashes do,
a run is finished exactly when its latest task is. The invariant is over the
tables and the workers: only the latest task of a run is open, every task names
a stored run, and a worker that found its run succeeded no longer holds its task.
-/

namespace StopBot.Campaigns

open Lib Tasks

-- ------------------------------------------------------------
-- The latest task
-- ------------------------------------------------------------

/-- `task` is stored with `row`, and no later task belongs to the run. -/
structure Latest (st : Store) (r task : Nat) (row : TaskRow) : Prop where
  stored : st.queue.rows task = some row
  of : ofRun (runText r) row = true
  last : ∀ other row', st.queue.rows other = some row' → ofRun (runText r) row' = true →
    other ≤ task

structure StoreOk (st : Store) : Prop where
  typed : ∀ task row, st.queue.rows task = some row → row.taskType = .campaignCreate
  named : ∀ task row, st.queue.rows task = some row →
    ∃ r run, st.runs.rows r = some run ∧ ofRun (runText r) row = true
  older : ∀ task row other row' r, st.queue.rows task = some row →
    st.queue.rows other = some row' → ofRun (runText r) row = true →
    ofRun (runText r) row' = true → task < other → row.status.terminal = true
  coherent : ∀ r run task row, st.runs.rows r = some run → Latest st r task row →
    Coherent run.status row.status

section
variable {st st' : Store} {clk : Clock} {f : Fence} {task r : Nat} {row row' : TaskRow}
  {run run' : CampaignRun} {M : TaskRow → CampaignRun → TaskRow → CampaignRun → Prop}

theorem Latest.unique {task' : Nat} (h : Latest st r task row) (h' : Latest st r task' row') :
    task = task' ∧ row = row' := by
  have heq : task = task' :=
    Nat.le_antisymm (h'.last task row h.stored h.of) (h.last task' row' h'.stored h'.of)
  subst heq
  have hrow := h.stored
  rw [h'.stored] at hrow
  exact ⟨rfl, (Option.some.inj hrow).symm⟩

theorem latestTask_latest (hok : StoreOk st) (h : st.latestTask r = some (task, row)) :
    Latest st r task row := by
  obtain ⟨hrow, hof⟩ := mem_latest h
  refine ⟨hrow, hof, fun other row' hrow' hof' => ?_⟩
  have hmem : (other, row') ∈ st.queue.entries.filter fun entry =>
      entry.2.taskType == .campaignCreate && ofRun (runText r) entry.2 := by
    rw [List.mem_filter, Table.mem_entries]
    exact ⟨hrow', by simp [hok.typed other row' hrow', hof']⟩
  have hsorted := st.queue.entries_pairwise.filter fun entry =>
    entry.2.taskType == .campaignCreate && ofRun (runText r) entry.2
  obtain ⟨init, hinit⟩ := List.getLast?_eq_some_iff.mp h
  rw [hinit] at hmem hsorted
  rw [List.pairwise_append] at hsorted
  rcases List.mem_append.mp hmem with hmem | hmem
  · exact Nat.le_of_lt (hsorted.2.2 _ hmem (task, row) (by simp))
  · simp only [List.mem_singleton, Prod.mk.injEq] at hmem
    exact Nat.le_of_eq hmem.1

theorem StoreOk.latest_of_open (hok : StoreOk st) (hrow : st.queue.rows task = some row)
    (hof : ofRun (runText r) row = true) (hopen : row.status.terminal = false) :
    Latest st r task row := by
  refine ⟨hrow, hof, fun other row' hrow' hof' => ?_⟩
  apply Nat.le_of_not_lt
  intro hlt
  rw [hok.older task row other row' r hrow hrow' hof hof' hlt] at hopen
  cases hopen

theorem StoreOk.active (hok : StoreOk st) (hrow : st.queue.rows task = some row)
    (hrun : st.runs.rows r = some run) (hof : ofRun (runText r) row = true)
    (hopen : row.status.terminal = false) : run.status.terminal = false := by
  have hcoh := (hok.coherent r run task row hrun (hok.latest_of_open hrow hof hopen)).1
  rw [hopen] at hcoh
  simpa using hcoh

-- ------------------------------------------------------------
-- Transactions keep it
-- ------------------------------------------------------------

theorem StoreOk.congr (hok : StoreOk st) (hqueue : st'.queue.rows = st.queue.rows)
    (hruns : st'.runs.rows = st.runs.rows) : StoreOk st' where
  typed := by rw [hqueue]; exact hok.typed
  named := by rw [hqueue, hruns]; exact hok.named
  older := by rw [hqueue]; exact hok.older
  coherent := by
    intro r run task row hrun hlatest
    rw [hruns] at hrun
    obtain ⟨hrow, hof, hlast⟩ := hlatest
    rw [hqueue] at hrow hlast
    exact hok.coherent r run task row hrun ⟨hrow, hof, hlast⟩

theorem MovedAt.latest_iff {s t : Nat} {rowt : TaskRow}
    (h : MovedAt M st st' task r row row' run run') (hlatest : Latest st' s t rowt) :
    (t = task ∧ s = r ∧ rowt = row' ∧ Latest st r task row) ∨
      (t ≠ task ∧ Latest st s t rowt) := by
  have hlast : ∀ other rowo, st.queue.rows other = some rowo → ofRun (runText s) rowo = true →
      other ≤ t := by
    intro other rowo hrow hof
    by_cases ho : other = task
    · subst ho
      rw [h.storedRow] at hrow
      cases hrow
      refine hlatest.last other row' (by rw [h.rows, if_pos rfl]) ?_
      rw [ofRun_congr h.kept.payload, hof]
    · exact hlatest.last other rowo (by rw [h.rows, if_neg ho, hrow]) hof
  have hstored := hlatest.stored
  rw [h.rows] at hstored
  by_cases ht : t = task
  · rw [if_pos ht] at hstored
    cases hstored
    have hof : ofRun (runText s) row = true := by
      rw [← ofRun_congr h.kept.payload]
      exact hlatest.of
    have hs : s = r := ofRun_unique hof h.of
    subst hs ht
    exact .inl ⟨rfl, rfl, rfl, h.storedRow, hof, hlast⟩
  · rw [if_neg ht] at hstored
    exact .inr ⟨ht, hstored, hlatest.of, hlast⟩

/-- A change that keeps finished tasks and their runs finished, and open ones
coherent, keeps the tables in order. -/
theorem StoreOk.moved (hok : StoreOk st) (h : MovedAt M st st' task r row row' run run')
    (hcoh : Coherent run.status row.status → Coherent run'.status row'.status)
    (hterminal : row.status.terminal = true →
      row'.status.terminal = true ∧ run'.status = run.status) : StoreOk st' where
  typed := by
    intro t rowt hrow
    rw [h.rows] at hrow
    split at hrow
    · cases hrow
      rw [h.kept.taskType]
      exact hok.typed task row h.storedRow
    · exact hok.typed t rowt hrow
  named := by
    intro t rowt hrow
    have hold : ∃ s runs, st.runs.rows s = some runs ∧ ofRun (runText s) rowt = true := by
      rw [h.rows] at hrow
      split at hrow
      · cases hrow
        exact ⟨r, run, h.storedRun, by rw [ofRun_congr h.kept.payload, h.of]⟩
      · exact hok.named t rowt hrow
    obtain ⟨s, runs, hrun, hof⟩ := hold
    by_cases hs : s = r
    · exact ⟨s, run', by rw [h.runs, if_pos hs], hof⟩
    · exact ⟨s, runs, by rw [h.runs, if_neg hs, hrun], hof⟩
  older := by
    intro t rowt other rowo s hrow hrowo hof hofo hlt
    -- both rows belong to the same runs as before
    have hback : ∀ i rowi, st'.queue.rows i = some rowi → ofRun (runText s) rowi = true →
        ∃ rowi₀, st.queue.rows i = some rowi₀ ∧ ofRun (runText s) rowi₀ = true ∧
          (rowi₀.status.terminal = true → rowi.status.terminal = true) := by
      intro i rowi hi hofi
      rw [h.rows] at hi
      split at hi
      next heq =>
        cases hi
        refine ⟨row, by rw [heq, h.storedRow], ?_, fun ht => (hterminal ht).1⟩
        rw [← ofRun_congr h.kept.payload, hofi]
      · exact ⟨rowi, hi, hofi, id⟩
    obtain ⟨row₀, hrow₀, hof₀, himp⟩ := hback t rowt hrow hof
    obtain ⟨rowo₀, hrowo₀, hofo₀, -⟩ := hback other rowo hrowo hofo
    exact himp (hok.older t row₀ other rowo₀ s hrow₀ hrowo₀ hof₀ hofo₀ hlt)
  coherent := by
    intro s runs t rowt hrun hlatest
    rw [h.runs] at hrun
    obtain ⟨rfl, rfl, rfl, hlatest⟩ | ⟨hne, hlatest⟩ := h.latest_iff hlatest
    · rw [if_pos rfl] at hrun
      cases hrun
      exact hcoh (hok.coherent _ run _ row h.storedRun hlatest)
    · by_cases hs : s = r
      · -- the changed task is an older one of the run
        subst hs
        rw [if_pos rfl] at hrun
        cases hrun
        have hlt : task < t :=
          Nat.lt_of_le_of_ne (hlatest.last task row h.storedRow h.of) (Ne.symm hne)
        have hdone := hok.older task row t rowt s h.storedRow hlatest.stored h.of hlatest.of hlt
        rw [(hterminal hdone).2]
        exact hok.coherent s run t rowt h.storedRun hlatest
      · rw [if_neg hs] at hrun
        exact hok.coherent s runs t rowt hrun hlatest

theorem coherent_open {status : RunStatus} {task : Status} (hopen : task.terminal = false) :
    Coherent status task ↔ status.terminal = false := by
  have hne : task ≠ .succeeded := by
    rintro rfl
    cases hopen
  constructor
  · intro h
    simpa [hopen] using h.1
  · intro h
    have hne' : status ≠ .succeeded := by
      rintro rfl
      cases h
    simp [Coherent, hopen, h, hne, hne']

theorem Move.coherent (h : Move row run row' run') :
    (Coherent run.status row.status → Coherent run'.status row'.status) ∧
      (row.status.terminal = true →
        row'.status.terminal = true ∧ run'.status = run.status) := by
  cases h with
  | note status boundary frozen =>
    rw [status]
    exact ⟨id, fun ht => ⟨ht, rfl⟩⟩
  | work running active created =>
    rw [running]
    exact ⟨fun _ => (coherent_open rfl).mpr active, fun ht => by cases ht⟩
  | close wasOpen terminal together boundary =>
    refine ⟨fun hcoh => together ((coherent_open wasOpen).mp hcoh), fun ht => ?_⟩
    rw [wasOpen] at ht
    cases ht
  | requeue running status boundary =>
    rw [running, status]
    rw [coherent_open rfl, coherent_open rfl]
    exact ⟨id, fun ht => by cases ht⟩

theorem Released.coherent (h : Released row run row' run') :
    (Coherent run.status row.status → Coherent run'.status row'.status) ∧
      (row.status.terminal = true →
        row'.status.terminal = true ∧ run'.status = run.status) := by
  refine ⟨fun _ => h.together, fun ht => ?_⟩
  rw [h.running] at ht
  cases ht

theorem Claimed.coherent (h : Claimed row run row' run') :
    (Coherent run.status row.status → Coherent run'.status row'.status) ∧
      (row.status.terminal = true →
        row'.status.terminal = true ∧ run'.status = run.status) := by
  have hopen := terminal_of_queued h.queued
  rw [h.running, h.run, coherent_open hopen, coherent_open rfl]
  refine ⟨id, fun ht => ?_⟩
  rw [hopen] at ht
  cases ht

theorem StoreOk.added (hok : StoreOk st) (hqueue : ∀ i, st'.queue.rows i =
      if i = st.queue.next then some row else st.queue.rows i)
    (hruns : ∀ i, st'.runs.rows i = if i = r then some run else st.runs.rows i)
    (htype : row.taskType = .campaignCreate) (hof : ofRun (runText r) row = true)
    (hopen : row.status.terminal = false) (hactive : run.status.terminal = false)
    (hdone : ∀ task row', st.queue.rows task = some row' → ofRun (runText r) row' = true →
      row'.status.terminal = true) : StoreOk st' where
  typed := by
    intro t rowt hrow
    rw [hqueue] at hrow
    split at hrow
    · cases hrow
      exact htype
    · exact hok.typed t rowt hrow
  named := by
    intro t rowt hrow
    have hold : ofRun (runText r) rowt = true ∨
        ∃ s runs, st.runs.rows s = some runs ∧ ofRun (runText s) rowt = true := by
      rw [hqueue] at hrow
      split at hrow
      · cases hrow
        exact .inl hof
      · exact .inr (hok.named t rowt hrow)
    obtain hofr | ⟨s, runs, hrun, hofs⟩ := hold
    · exact ⟨r, run, by rw [hruns, if_pos rfl], hofr⟩
    · by_cases hs : s = r
      · exact ⟨s, run, by rw [hruns, if_pos hs], hofs⟩
      · exact ⟨s, runs, by rw [hruns, if_neg hs, hrun], hofs⟩
  older := by
    intro t rowt other rowo s hrow hrowo hoft hofo hlt
    rw [hqueue] at hrow hrowo
    have ht : t ≠ st.queue.next := by
      intro ht
      subst ht
      split at hrowo
      · omega
      · exact absurd (Table.lt_next_of_rows hrowo) (by omega)
    rw [if_neg ht] at hrow
    split at hrowo
    · cases hrowo
      obtain rfl := ofRun_unique hofo hof
      exact hdone t rowt hrow hoft
    · exact hok.older t rowt other rowo s hrow hrowo hoft hofo hlt
  coherent := by
    intro s runs t rowt hrun hlatest
    have hstored := hlatest.stored
    rw [hqueue] at hstored
    rw [hruns] at hrun
    split at hstored
    next ht =>
      cases hstored
      obtain rfl := ofRun_unique hlatest.of hof
      rw [if_pos rfl] at hrun
      cases hrun
      exact (coherent_open hopen).mpr hactive
    next ht =>
      have hlt := Table.lt_next_of_rows hstored
      by_cases hs : s = r
      · -- the new task is later than any other of the run
        subst hs
        have hle := hlatest.last st.queue.next row (by rw [hqueue, if_pos rfl]) hof
        omega
      · rw [if_neg hs] at hrun
        refine hok.coherent s runs t rowt hrun ⟨hstored, hlatest.of,
          fun other rowo hrowo hofo => ?_⟩
        have hne : other ≠ st.queue.next := Nat.ne_of_lt (Table.lt_next_of_rows hrowo)
        exact hlatest.last other rowo (by rw [hqueue, if_neg hne, hrowo]) hofo

theorem StoreOk.addedRun (hok : StoreOk st) (hqueue : st'.queue.rows = st.queue.rows)
    (hruns : ∀ i, st'.runs.rows i = if i = r then some run else st.runs.rows i)
    (hnone : st.runs.rows r = none) : StoreOk st' where
  typed := by rw [hqueue]; exact hok.typed
  named := by
    intro t rowt hrow
    rw [hqueue] at hrow
    obtain ⟨s, runs, hrun, hof⟩ := hok.named t rowt hrow
    have hs : s ≠ r := by
      rintro rfl
      rw [hnone] at hrun
      cases hrun
    exact ⟨s, runs, by rw [hruns, if_neg hs, hrun], hof⟩
  older := by rw [hqueue]; exact hok.older
  coherent := by
    intro s runs t rowt hrun hlatest
    obtain ⟨hrow, hof, hlast⟩ := hlatest
    rw [hqueue] at hrow hlast
    obtain ⟨s', runs', hrun', hof'⟩ := hok.named t rowt hrow
    obtain rfl := ofRun_unique hof hof'
    have hs : s ≠ r := by
      rintro rfl
      rw [hnone] at hrun'
      cases hrun'
    rw [hruns, if_neg hs] at hrun
    exact hok.coherent s runs t rowt hrun ⟨hrow, hof, hlast⟩

end

-- ------------------------------------------------------------
-- Workers
-- ------------------------------------------------------------

/-- A worker acts for the run of its task, under a token that the task has had.
It reports a success that it did not make only when its task is finished. -/
structure SessionOk (st : Store) (task token : Nat) (s : Session) (row : TaskRow) (r : Nat) :
    Prop where
  stored : st.queue.rows task = some row
  own : s.task.leaseToken = token
  bound : token ≤ row.leaseToken
  run : s.run = some r
  of : ofRun (runText r) row = true
  marked : ∀ result, s.pc.tx? = some (.markSucceeded result) → row.status.terminal = true

structure Sys.Ok (s : Sys) : Prop where
  store : StoreOk s.store
  reserved : ∀ id launch, s.launches id = some launch →
    id < s.store.runs.next ∧ s.store.runs.rows id = none
  sessions : ∀ task token session, s.sessions task token = some session →
    ∃ row r, SessionOk s.store task token session row r

def Store.taskOf (st : Store) (task r : Nat) : Prop :=
  ∃ row, st.queue.rows task = some row ∧ ofRun (runText r) row = true

def Label.About (st : Store) (r : Nat) : Label → Prop
  | .claim task _ _ | .outside task _ | .work task _ _ | .crash task _ => st.taskOf task r
  | .abort run _ | .resume run _ _ _ _ => run = r
  | .launch id _ | .rollback id => id = r
  | .beginLaunch _ _ => False

/-- What the next table of runs and tasks may look like, and after which label. -/
inductive Changed (s : Sys) (clk : Clock) (st' : Store) : Label → Prop
  | same {e : Label} (queue : st'.queue = s.store.queue) (runs : st'.runs.rows = s.store.runs.rows)
      (next : s.store.runs.next ≤ st'.runs.next) : Changed s clk st' e
  | moved {e : Label} {task r : Nat} {row row' : TaskRow} {run run' : CampaignRun}
      (about : e.About s.store r) (h : MovedAt Move s.store st' task r row row' run run') :
      Changed s clk st' e
  | claimed {task r : Nat} {row row' : TaskRow} {run run' : CampaignRun} {c : Consumer}
      {generation : Option Int} (h : MovedAt Claimed s.store st' task r row row' run run') :
      Changed s clk st' (.claim task c generation)
  | released {task token r : Nat} {row row' : TaskRow} {run run' : CampaignRun} {reply : Reply}
      {session : Session} {error : String} (worker : s.sessions task token = some session)
      (pc : session.pc = .last (.release error)) (held : row.heldBy clk session.fence = true)
      (h : MovedAt Released s.store st' task r row row' run run') :
      Changed s clk st' (.work task token reply)
  | resumed {r previous : Nat} {row new : TaskRow} {run run' : CampaignRun} {actor : String}
      {chat : Option Int} {correlation : Uuid} {media : Option String}
      (latest : s.store.latestTask r = some (previous, row))
      (stored : s.store.runs.rows r = some run)
      (available : resumeUnavailableReason run (some row) media = none)
      (task : new.taskType = .campaignCreate ∧ ofRun (runText r) new = true ∧
        new.status = .pending ∧ new.externalStartedAt = none)
      (queued : run' = { run with
        status := .queued, progress := run'.progress, error := none, updatedAt := clk.wall })
      (rows : ∀ i, st'.queue.rows i =
        if i = s.store.queue.next then some new else s.store.queue.rows i)
      (runs : ∀ i, st'.runs.rows i = if i = r then some run' else s.store.runs.rows i)
      (next : st'.runs.next = s.store.runs.next) :
      Changed s clk st' (.resume r actor chat correlation media)
  | launched {id base : Nat} {launch : Launch} {correlation : Uuid}
      (launching : s.launches id = some launch) (stage : launch.stage = .allocated base)
      (h : st' = (commitLaunch clk correlation id base launch s.store s.launches).1) :
      Changed s clk st' (.launch id correlation)

section
variable {s : Sys} {clk : Clock} {utcOffset : String → String → String}

theorem stepLaunch_tables {correlation : Uuid} {id : Nat} {st : Store} {ls : Launches}
    (hstage : ∀ launch base, ls id = some launch → launch.stage ≠ .allocated base) :
    (stepLaunch clk correlation id st ls).1.queue = st.queue ∧
      (stepLaunch clk correlation id st ls).1.runs = st.runs := by
  unfold stepLaunch
  split
  · exact ⟨rfl, rfl⟩
  next launch hlaunch =>
    simp only
    split
    · exact ⟨rfl, rfl⟩
    · exact ⟨rfl, rfl⟩
    · unfold lowerSeq
      simp only
      split
      · split <;> exact ⟨rfl, rfl⟩
      · exact ⟨rfl, rfl⟩
    · unfold allocateSpan
      simp only
      split
      · exact ⟨rfl, rfl⟩
      · split <;> exact ⟨rfl, rfl⟩
    next base hbase => exact absurd hbase (hstage launch base hlaunch)

theorem putRun_rows {st : Store} {r : Nat} {run run' : CampaignRun}
    (h : st.runs.rows r = some run) (i : Nat) :
    (st.putRun r run').runs.rows i = if i = r then some run' else st.runs.rows i :=
  updateAt_rows_of h i

theorem resumeRun_resumed {r : Nat} {actor : String} {chat : Option Int} {correlation : Uuid}
    {media : Option String} {st' : Store}
    (h : resumeRun clk r actor chat correlation media s.store = .ok st') :
    Changed s clk st' (.resume r actor chat correlation media) := by
  unfold resumeRun at h
  split at h
  · cases h
  next run hrun =>
    split at h
    · cases h
    · cases h
    next previous row havailable hlatest =>
      split at h
      · cases h
      next generation hgeneration =>
        simp only at h
        split at h
        · cases h
        · split at h
          · cases h
          · cases h
            rw [hlatest, Option.map_some] at havailable
            refine .resumed hlatest hrun havailable ⟨rfl, ?_, rfl, rfl⟩ rfl
              (Table.insert_rows _ _) (putRun_rows hrun) rfl
            simp [NewTask.row, resumeTask, ofRun, Obj.text, Obj.get?, Json.text]

theorem Sys.Ok.changed_wrote (hok : s.Ok) {task token : Nat} {session : Session} {reply : Reply}
    {st' : Store} (hs : s.sessions task token = some session)
    (h : Wrote clk task session s.store st') : Changed s clk st' (.work task token reply) := by
  obtain ⟨row, r, hrow, hown, hbound, hsrun, hof, hmarked⟩ := hok.sessions task token session hs
  obtain ⟨r', run, hrun, hof'⟩ := hok.store.named task row hrow
  obtain rfl := ofRun_unique hof hof'
  cases h with
  | nothing => exact .same rfl rfl (Nat.le_refl _)
  | recorded offer code =>
    unfold recordCreative
    split <;> exact .same rfl rfl (Nat.le_refl _)
  | status hrun' active h =>
    obtain ⟨row', run₀, run', -, hmoved⟩ := setRunStatus_moved h active
    obtain rfl := ofRun_unique hmoved.of (by
      have hstored := hmoved.storedRow
      rw [hrow] at hstored
      cases hstored
      exact hof)
    exact .moved ⟨row, hrow, hof⟩ hmoved
  | boundary h =>
    obtain ⟨row₀, hrow₀, -, happly⟩ := begin_crossed h
    rw [hrow] at hrow₀
    cases hrow₀
    obtain ⟨hkept, -, -, hmove⟩ := begin_moved happly
    exact .moved ⟨row, hrow, hof⟩ (movedAt_task hrow hrun hof hkept hmove)
  | created h =>
    obtain ⟨row', run', -, hmoved⟩ := onTask_moved h hrow hrun hof
      fun row' h' => statement_of_recordCreatedIds h'
    exact .moved ⟨row, hrow, hof⟩ hmoved
  | closed hpc h =>
    obtain ⟨hheld, ⟨row', run', hmoved⟩ | ⟨result, rfl⟩ | ⟨error, rfl⟩⟩ :=
      Tx.apply_moved h hrow hrun hof hsrun
    · exact .moved ⟨row, hrow, hof⟩ hmoved
    · -- the worker read that the run has succeeded, so its task is finished
      obtain hpc | ⟨-, hcrash⟩ := hpc
      · have hdone := hmarked result (by rw [hpc]; rfl)
        rw [terminal_of_running (heldBy_iff.mp hheld).1] at hdone
        cases hdone
      · unfold crashTx Session.unknown at hcrash
        split at hcrash <;> cases hcrash
    · obtain hpc | ⟨-, hcrash⟩ := hpc
      · simp only [Tx.apply, hsrun, Option.bind_some] at h
        obtain ⟨row', run', -, hmoved⟩ := releaseRun_moved h hrow hrun hof
        exact .released hs hpc hheld hmoved
      · unfold crashTx Session.unknown at hcrash
        split at hcrash <;> cases hcrash

/-- One step of the system, as the tables of runs and tasks see it. -/
theorem Sys.Ok.changed (hok : s.Ok) (e : Label) :
    Changed s clk (s.step utcOffset (clk, e)).store e := by
  have hsame : Changed s clk s.store e := .same rfl rfl (Nat.le_refl _)
  cases e with
  | beginLaunch config key =>
    simp only [Sys.step, beginLaunch]
    split
    · exact hsame
    · exact .same rfl rfl (Nat.le_succ _)
  | launch id correlation =>
    simp only [Sys.step]
    by_cases hstage : ∃ launch base, s.launches id = some launch ∧ launch.stage = .allocated base
    · obtain ⟨launch, base, hlaunch, hstage⟩ := hstage
      refine .launched hlaunch hstage ?_
      simp only [stepLaunch, hlaunch, hstage]
    · obtain ⟨hqueue, hruns⟩ : (stepLaunch clk correlation id s.store s.launches).1.queue =
            s.store.queue ∧
          (stepLaunch clk correlation id s.store s.launches).1.runs = s.store.runs :=
        stepLaunch_tables fun launch base hl hs => hstage ⟨launch, base, hl, hs⟩
      exact .same hqueue (by rw [hruns]) (Nat.le_of_eq (by rw [hruns]))
  | rollback id =>
    simp only [Sys.step, rollbackLaunch]
    split
    · exact hsame
    · split <;> exact .same rfl rfl (Nat.le_refl _)
  | claim task c generation =>
    simp only [Sys.step]
    split
    next row hrow =>
      split
      next hclaim =>
        obtain ⟨r, run, hrun, hof⟩ := hok.store.named task row hrow
        exact .claimed (claim_moved hrow hrun hof hclaim)
      · exact hsame
    · exact hsame
  | outside task op =>
    simp only [Sys.step]
    split
    next hissued =>
      cases h : onTask clk task op (forcedPhase op) s.store with
      | none => exact hsame
      | some st' =>
        cases hrow : s.store.queue.rows task with
        | none => simp [onTask, hrow] at h
        | some row =>
          obtain ⟨r, run, hrun, hof⟩ := hok.store.named task row hrow
          simp only [issued, Bool.and_eq_true, Option.isNone_iff_eq_none] at hissued
          obtain ⟨row', run', -, hmoved⟩ := onTask_moved h hrow hrun hof fun row' h' =>
            statement_of_unfenced h' hissued.1 (hok.store.typed task row hrow)
          exact .moved ⟨row, hrow, hof⟩ hmoved
    · exact hsame
  | abort run actor =>
    simp only [Sys.step]
    split
    next st' h =>
      obtain ⟨task, row, row', run₀, run', hmoved⟩ := abortRun_moved h
      exact .moved rfl hmoved
    · exact hsame
  | resume r actor chat correlation media =>
    simp only [Sys.step]
    split
    next st' h => exact resumeRun_resumed h
    · exact hsame
  | work task token reply =>
    simp only [Sys.step]
    split
    next session hs => exact hok.changed_wrote hs advance_wrote
    · exact hsame
  | crash task token => exact hsame

-- ------------------------------------------------------------
-- The invariant
-- ------------------------------------------------------------

theorem resume_terminal {run : CampaignRun} {row : TaskRow} {media : Option String}
    (h : resumeUnavailableReason run (some row) media = none) :
    row.status.terminal = true ∧ row.externalStartedAt = none := by
  unfold resumeUnavailableReason at h
  split at h
  · split at h <;> cases h
  · simp only at h
    split at h
    · cases h
    next hstatus =>
      split at h
      · cases h
      next hboundary =>
        refine ⟨?_, by simpa using hboundary⟩
        cases hs : row.status <;> simp [hs] at hstatus <;> rfl

theorem commitLaunch_rows {id base : Nat} {launch : Launch} {correlation : Uuid}
    {st : Store} {ls : Launches} (hid : id < st.runs.next) (i : Nat) :
    (commitLaunch clk correlation id base launch st ls).1.runs.rows i =
      if i = id then some (launchedRun clk launch base) else st.runs.rows i := by
  simp [commitLaunch, Table.fill_rows, hid]

theorem launchTask_of (id : Nat) (key : String) (config : CampaignConfig) (correlation : Uuid) :
    ofRun (runText id) ((launchTask id key config correlation).row clk) = true := by
  simp [NewTask.row, launchTask, ofRun, Obj.text, Obj.get?, Json.text]

theorem commitLaunch_queue (id base : Nat) (launch : Launch) (correlation : Uuid) (st : Store)
    (ls : Launches) :
    (commitLaunch clk correlation id base launch st ls).1.queue = st.queue ∨
      (commitLaunch clk correlation id base launch st ls).1.queue =
        st.queue.insert ((launchTask id launch.key launch.config correlation).row clk) := by
  simp only [commitLaunch]
  split
  · exact .inl rfl
  · exact .inr rfl

theorem Changed.storeOk (hok : s.Ok) {e : Label} {st' : Store} (h : Changed s clk st' e) :
    StoreOk st' := by
  cases h with
  | same queue runs next => exact hok.store.congr (by rw [queue]) runs
  | moved about h => exact hok.store.moved h h.move.coherent.1 h.move.coherent.2
  | claimed h => exact hok.store.moved h h.move.coherent.1 h.move.coherent.2
  | released worker pc held h => exact hok.store.moved h h.move.coherent.1 h.move.coherent.2
  | resumed latest stored available task queued rows runs next =>
    obtain ⟨htype, hof, hstatus, -⟩ := task
    have hlatest := latestTask_latest hok.store latest
    refine hok.store.added rows runs htype hof ?_ ?_ ?_
    · rw [hstatus]
      rfl
    · rw [queued]
      rfl
    · intro task row' hrow' hof'
      rcases Nat.lt_or_eq_of_le (hlatest.last task row' hrow' hof') with hlt | rfl
      · exact hok.store.older _ _ _ _ _ hrow' hlatest.stored hof' hlatest.of hlt
      · rw [hlatest.stored] at hrow'
        cases hrow'
        exact (resume_terminal available).1
  | @launched id base launch correlation launching stage h =>
    obtain ⟨hlt, hnone⟩ := hok.reserved id launch launching
    have hnew : ∀ task row', s.store.queue.rows task = some row' →
        ofRun (runText id) row' ≠ true := by
      intro task row' hrow' hof'
      obtain ⟨r, run, hrun, hof⟩ := hok.store.named task row' hrow'
      obtain rfl := ofRun_unique hof hof'
      rw [hnone] at hrun
      cases hrun
    have hruns : ∀ i, st'.runs.rows i =
        if i = id then some (launchedRun clk launch base) else s.store.runs.rows i := by
      rw [h]
      exact commitLaunch_rows hlt
    obtain hqueue | hqueue := commitLaunch_queue id base launch correlation s.store s.launches
    · rw [← h] at hqueue
      exact hok.store.addedRun (by rw [hqueue]) hruns hnone
    · rw [← h] at hqueue
      refine hok.store.added (fun i => by rw [hqueue, Table.insert_rows]) hruns rfl
        (launchTask_of ..) rfl rfl ?_
      exact fun task row' hrow' hof' => absurd hof' (hnew task row' hrow')

theorem Changed.rows {e : Label} {st' : Store} (h : Changed s clk st' e) {task : Nat}
    {row : TaskRow} (hrow : s.store.queue.rows task = some row) :
    ∃ row', st'.queue.rows task = some row' ∧ row'.payload = row.payload ∧
      row.leaseToken ≤ row'.leaseToken ∧
      (row.status.terminal = true → row'.status.terminal = true) := by
  have hmovedAt : ∀ {M : TaskRow → CampaignRun → TaskRow → CampaignRun → Prop} {t r rowt rowt' run
      run'}, MovedAt M s.store st' t r rowt rowt' run run' →
      (rowt.status.terminal = true → rowt'.status.terminal = true) →
      ∃ row', st'.queue.rows task = some row' ∧ row'.payload = row.payload ∧
        row.leaseToken ≤ row'.leaseToken ∧
        (row.status.terminal = true → row'.status.terminal = true) := by
    intro M t r rowt rowt' run run' hm hterminal
    rw [hm.rows]
    split
    next ht =>
      subst ht
      rw [hm.storedRow] at hrow
      cases hrow
      exact ⟨rowt', rfl, hm.kept.payload, hm.kept.leaseToken, hterminal⟩
    · exact ⟨row, hrow, rfl, Nat.le_refl _, id⟩
  have hne : task ≠ s.store.queue.next := Nat.ne_of_lt (Table.lt_next_of_rows hrow)
  cases h with
  | same queue runs next => exact ⟨row, by rw [queue, hrow], rfl, Nat.le_refl _, id⟩
  | moved about h => exact hmovedAt h fun ht => (h.move.coherent.2 ht).1
  | claimed h => exact hmovedAt h fun ht => (h.move.coherent.2 ht).1
  | released worker pc held h => exact hmovedAt h fun ht => (h.move.coherent.2 ht).1
  | resumed latest stored available task queued rows runs next =>
    exact ⟨row, by rw [rows, if_neg hne, hrow], rfl, Nat.le_refl _, id⟩
  | launched launching stage h =>
    subst h
    refine ⟨row, ?_, rfl, Nat.le_refl _, id⟩
    obtain hqueue | hqueue := commitLaunch_queue _ _ _ _ s.store s.launches
    · rw [hqueue, hrow]
    · rw [hqueue, Table.insert_rows, if_neg hne, hrow]

theorem Changed.session {e : Label} {st' : Store} (h : Changed s clk st' e) {task token r : Nat}
    {session : Session} {row : TaskRow} (hs : SessionOk s.store task token session row r) :
    ∃ row', SessionOk st' task token session row' r := by
  obtain ⟨row', hrow', hpayload, htoken, hterminal⟩ := h.rows hs.stored
  exact ⟨row', hrow', hs.own, Nat.le_trans hs.bound htoken, hs.run,
    by rw [ofRun_congr hpayload]; exact hs.of, fun result htx => hterminal (hs.marked result htx)⟩

theorem StoreOk.findRun {st : Store} (hok : StoreOk st) {task : Nat} {row row' : TaskRow}
    (hrow : st.queue.rows task = some row) (hpayload : row'.payload = row.payload) :
    ∃ r run, findRun st row' = some r ∧ st.runs.rows r = some run ∧
      ofRun (runText r) row' = true := by
  obtain ⟨r, run, hrun, hof⟩ := hok.named task row hrow
  rw [← ofRun_congr hpayload] at hof
  cases hfind : st.runs.entries.find? fun entry => ofRun (runText entry.1) row' with
  | none =>
    rw [List.find?_eq_none] at hfind
    exact absurd hof (hfind (r, run) (Table.mem_entries.mpr hrun))
  | some entry =>
    have hmem := Table.mem_entries.mp (List.mem_of_find?_eq_some hfind)
    have hof' := List.find?_some hfind
    exact ⟨entry.1, entry.2, by rw [Campaigns.findRun, hfind]; rfl, hmem, hof'⟩

theorem step_launches {e : Label} {id : Nat} {launch : Launch}
    (h : (s.step utcOffset (clk, e)).launches id = some launch) :
    (∃ old, s.launches id = some old ∧
        ∀ correlation base, e = .launch id correlation → old.stage ≠ .allocated base) ∨
      (id = s.store.runs.next ∧
        (s.step utcOffset (clk, e)).store.runs.next = s.store.runs.next + 1) := by
  have hset : ∀ {i : Nat} {value : Option Launch}, (s.launches.set i value) id = some launch →
      id ≠ i → ∃ old, s.launches id = some old := by
    intro i value hset hne
    rw [Launches.set, if_neg hne] at hset
    exact ⟨launch, hset⟩
  cases e with
  | beginLaunch config key =>
    simp only [Sys.step, beginLaunch] at h ⊢
    split at h
    next hkey => exact .inl ⟨launch, h, fun _ _ he => by cases he⟩
    next hkey =>
      rw [if_neg hkey]
      by_cases hid : id = s.store.runs.next
      · exact .inr ⟨hid, rfl⟩
      · obtain ⟨old, hold⟩ := hset h hid
        exact .inl ⟨old, hold, fun _ _ he => by cases he⟩
  | launch i correlation =>
    refine .inl ?_
    simp only [Sys.step] at h
    by_cases hid : id = i
    · subst hid
      unfold stepLaunch at h
      split at h
      next hnone =>
        have h : s.launches id = some launch := h
        rw [hnone] at h
        cases h
      next old hold =>
        refine ⟨old, hold, fun correlation' base he hstage => ?_⟩
        simp only [hstage, commitLaunch, Launches.set] at h
        simp at h
    · have hold : ∃ old, s.launches id = some old := by
        unfold stepLaunch at h
        split at h
        · exact ⟨launch, h⟩
        · simp only at h
          split at h
          · exact hset h hid
          · exact hset h hid
          · unfold lowerSeq at h
            simp only at h
            split at h
            · split at h
              · exact ⟨launch, h⟩
              · exact hset h hid
            · exact hset h hid
          · unfold allocateSpan at h
            simp only at h
            split at h
            · exact hset h hid
            · split at h
              · exact ⟨launch, h⟩
              · exact hset h hid
          · exact hset h hid
      obtain ⟨old, hold⟩ := hold
      exact ⟨old, hold, fun _ _ he => by cases he; exact absurd rfl hid⟩
  | rollback i =>
    refine .inl ?_
    simp only [Sys.step, rollbackLaunch] at h
    have hold : ∃ old, s.launches id = some old := by
      split at h
      · exact ⟨launch, h⟩
      · by_cases hid : id = i
        · simp [Launches.set, hid] at h
        · exact hset h hid
    obtain ⟨old, hold⟩ := hold
    exact ⟨old, hold, fun _ _ he => by cases he⟩
  | claim task c generation =>
    refine .inl ⟨launch, ?_, fun _ _ he => by cases he⟩
    simp only [Sys.step] at h
    split at h
    · split at h <;> exact h
    · exact h
  | outside task op =>
    refine .inl ⟨launch, ?_, fun _ _ he => by cases he⟩
    simp only [Sys.step] at h
    split at h <;> exact h
  | abort r actor =>
    refine .inl ⟨launch, ?_, fun _ _ he => by cases he⟩
    simp only [Sys.step] at h
    split at h <;> exact h
  | resume r actor chat correlation media =>
    refine .inl ⟨launch, ?_, fun _ _ he => by cases he⟩
    simp only [Sys.step] at h
    split at h <;> exact h
  | work task token reply =>
    refine .inl ⟨launch, ?_, fun _ _ he => by cases he⟩
    simp only [Sys.step] at h
    split at h <;> exact h
  | crash task token => exact .inl ⟨launch, h, fun _ _ he => by cases he⟩

theorem Changed.runs_back {e : Label} {st' : Store} (hok : s.Ok) (h : Changed s clk st' e) {r : Nat}
    {run' : CampaignRun} (hrun : st'.runs.rows r = some run') :
    (∃ run, s.store.runs.rows r = some run) ∨
      ∃ launch base correlation, s.launches r = some launch ∧ launch.stage = .allocated base ∧
        e = .launch r correlation := by
  have hmovedAt : ∀ {M : TaskRow → CampaignRun → TaskRow → CampaignRun → Prop} {t i rowt rowt' runi
      runi'}, MovedAt M s.store st' t i rowt rowt' runi runi' →
      ∃ run, s.store.runs.rows r = some run := by
    intro M t i rowt rowt' runi runi' hm
    rw [hm.runs] at hrun
    split at hrun
    next hi => exact ⟨runi, by rw [hi]; exact hm.storedRun⟩
    · exact ⟨run', hrun⟩
  cases h with
  | same queue runs next => exact .inl ⟨run', by rw [← runs]; exact hrun⟩
  | moved about h => exact .inl (hmovedAt h)
  | claimed h => exact .inl (hmovedAt h)
  | released worker pc held h => exact .inl (hmovedAt h)
  | resumed latest stored available task queued rows runs next =>
    rw [runs] at hrun
    split at hrun
    next hr => exact .inl ⟨_, by rw [hr]; exact stored⟩
    · exact .inl ⟨run', hrun⟩
  | @launched id base launch correlation launching stage h =>
    subst h
    rw [commitLaunch_rows (hok.reserved id launch launching).1] at hrun
    split at hrun
    next hr =>
      subst hr
      exact .inr ⟨launch, base, correlation, launching, stage, rfl⟩
    · exact .inl ⟨run', hrun⟩

theorem Changed.next {e : Label} {st' : Store} (h : Changed s clk st' e) :
    s.store.runs.next ≤ st'.runs.next := by
  cases h with
  | same queue runs next => exact next
  | moved about h => exact Nat.le_of_eq h.runsNext.symm
  | claimed h => exact Nat.le_of_eq h.runsNext.symm
  | released worker pc held h => exact Nat.le_of_eq h.runsNext.symm
  | resumed latest stored available task queued rows runs next => exact Nat.le_of_eq next.symm
  | launched launching stage h =>
    subst h
    exact Nat.le_refl _

theorem Sys.Ok.reserved_step (hok : s.Ok) {e : Label} {id : Nat} {launch : Launch}
    (h : (s.step utcOffset (clk, e)).launches id = some launch) :
    id < (s.step utcOffset (clk, e)).store.runs.next ∧
      (s.step utcOffset (clk, e)).store.runs.rows id = none := by
  have hchanged : Changed s clk (s.step utcOffset (clk, e)).store e := hok.changed e
  obtain ⟨old, hold, hnot⟩ | ⟨hid, hnext⟩ := step_launches h
  · obtain ⟨hlt, hnone⟩ := hok.reserved id old hold
    refine ⟨Nat.lt_of_lt_of_le hlt hchanged.next, ?_⟩
    cases hrun : (s.step utcOffset (clk, e)).store.runs.rows id with
    | none => rfl
    | some run' =>
      obtain ⟨run, hrun⟩ | ⟨launch', base, correlation, hl, hstage, he⟩ :=
        hchanged.runs_back hok hrun
      · rw [hnone] at hrun
        cases hrun
      · rw [hold] at hl
        cases hl
        exact absurd hstage (hnot correlation base he)
  · refine ⟨by omega, ?_⟩
    cases hrun : (s.step utcOffset (clk, e)).store.runs.rows id with
    | none => rfl
    | some run' =>
      obtain ⟨run, hrun⟩ | ⟨launch', base, correlation, hl, -, -⟩ := hchanged.runs_back hok hrun
      · have hlt := Table.lt_next_of_rows hrun
        omega
      · have hlt := (hok.reserved id launch' hl).1
        omega

def claimed (st : Store) (row' : TaskRow) (generation : Option Int) : Session :=
  { task := Worker.snapshot row', generation, run := findRun st row' }

theorem step_sessions {e : Label} {task token : Nat} {session' : Session}
    (h : (s.step utcOffset (clk, e)).sessions task token = some session') :
    s.sessions task token = some session' ∨
      (∃ c generation row, e = .claim task c generation ∧ s.store.queue.rows task = some row ∧
        claimable clk .campaignCreate c.lanes row = true ∧ token = row.leaseToken + 1 ∧
        (s.step utcOffset (clk, e)).store =
          s.store.putTask task (claimRow clk c.worker c.leaseSeconds row) ∧
        session' = claimed s.store (claimRow clk c.worker c.leaseSeconds row) generation) ∨
      ∃ session reply, e = .work task token reply ∧ s.sessions task token = some session ∧
        (advance utcOffset clk task session reply s.store).session = some session' := by
  cases e with
  | claim t c generation =>
    simp only [Sys.step] at h ⊢
    split at h
    next row hrow =>
      split at h
      next hclaim =>
        rw [if_pos hclaim]
        simp only [Sys.set] at h
        split at h
        next heq =>
          obtain ⟨rfl, rfl⟩ := heq
          cases h
          exact .inr (.inl ⟨c, generation, row, rfl, hrow, hclaim, rfl, rfl, rfl⟩)
        · exact .inl h
      · exact .inl h
    · exact .inl h
  | work t k reply =>
    simp only [Sys.step] at h
    split at h
    next session hs =>
      simp only [Sys.worked, Sys.set] at h
      split at h
      next heq =>
        obtain ⟨rfl, rfl⟩ := heq
        exact .inr (.inr ⟨session, reply, rfl, hs, h⟩)
      · exact .inl h
    · exact .inl h
  | crash t k =>
    simp only [Sys.step, Sys.set] at h
    split at h
    · cases h
    · exact .inl h
  | beginLaunch config key => exact .inl h
  | launch id correlation => exact .inl h
  | rollback id => exact .inl h
  | outside t op =>
    simp only [Sys.step] at h
    split at h <;> exact .inl h
  | abort r actor =>
    simp only [Sys.step] at h
    split at h <;> exact .inl h
  | resume r actor chat correlation media =>
    simp only [Sys.step] at h
    split at h <;> exact .inl h

theorem Sys.Ok.step (hok : s.Ok) (e : Clock × Label) : (s.step utcOffset e).Ok := by
  obtain ⟨clk, e⟩ := e
  have hchanged : Changed s clk (s.step utcOffset (clk, e)).store e := hok.changed e
  refine ⟨hchanged.storeOk hok, fun id launch h => hok.reserved_step h, ?_⟩
  intro task token session' h
  obtain hold | ⟨c, generation, row, -, hrow, hclaim, htoken, hstore, rfl⟩ |
      ⟨session, reply, rfl, hs, hadv⟩ := step_sessions h
  · obtain ⟨row, r, hsession⟩ := hok.sessions task token session' hold
    obtain ⟨row', hsession'⟩ := hchanged.session hsession
    exact ⟨row', r, hsession'⟩
  · have hpayload : (claimRow clk c.worker c.leaseSeconds row).payload = row.payload := rfl
    obtain ⟨r, run, hfind, hrun, hof⟩ := hok.store.findRun hrow hpayload
    refine ⟨claimRow clk c.worker c.leaseSeconds row, r, ?_, htoken.symm,
      Nat.le_of_eq htoken, hfind,
      hof, fun result htx => by cases htx⟩
    rw [hstore]
    simp [Store.putTask, hrow]
  · have hfollows := advance_follows hadv
    obtain ⟨row, r, hsession⟩ := hok.sessions task token session hs
    -- a success that the worker finds on the run is that of its task
    have hmarked : ∀ result, session'.pc.tx? = some (.markSucceeded result) →
        row.status.terminal = true := by
      intro result htx
      obtain hold | ⟨-, run, hrun, hstatus⟩ := hfollows.tx _ htx
      · exact hsession.marked result hold
      · rw [hsession.run, Option.bind_some] at hrun
        by_contra hopen
        have hactive := hok.store.active hsession.stored hrun hsession.of (by simpa using hopen)
        rw [hstatus] at hactive
        cases hactive
    have hsession' : SessionOk s.store task token session' row r :=
      ⟨hsession.stored, by rw [hfollows.task]; exact hsession.own, hsession.bound,
        by rw [hfollows.run]; exact hsession.run, hsession.of, hmarked⟩
    obtain ⟨row', hsession'⟩ := hchanged.session hsession'
    exact ⟨row', r, hsession'⟩

theorem Sys.init_ok : Sys.init.Ok where
  store :=
    { typed := fun _ _ h => by cases h
      named := fun _ _ h => by cases h
      older := fun _ _ _ _ _ h => by cases h
      coherent := fun _ _ _ _ h => by cases h }
  reserved := fun _ _ h => by cases h
  sessions := fun _ _ _ h => by cases h

theorem Sys.run_ok (es : List (Clock × Label)) :
    (Lib.run (Sys.step utcOffset) Sys.init es).Ok :=
  run_preserves (fun _ e hok => hok.step e) Sys.init_ok es

/-- In every reachable state a run is finished exactly when its latest task is,
and succeeded exactly when that task is; no task of a finished run can be
claimed. -/
theorem run_task_coherent (utcOffset : String → String → String) (es : List (Clock × Label))
    (r : Nat) (run : CampaignRun)
    (hrun : (Lib.run (Sys.step utcOffset) Sys.init es).store.runs.rows r = some run) :
    (∀ task row, (Lib.run (Sys.step utcOffset) Sys.init es).store.latestTask r = some (task, row) →
      (run.status.terminal = true ↔ row.status.terminal = true) ∧
        (run.status = .succeeded ↔ row.status = .succeeded)) ∧
    ∀ task row, (Lib.run (Sys.step utcOffset) Sys.init es).store.queue.rows task = some row →
      ofRun (runText r) row = true → run.status.terminal = true →
      ∀ clk lanes, claimable clk .campaignCreate lanes row = false := by
  have hok : StoreOk (Lib.run (Sys.step utcOffset) Sys.init es).store := (Sys.run_ok es).store
  refine ⟨fun task row hlatest => ?_, fun task row hrow hof hdone clk lanes => ?_⟩
  · exact hok.coherent r run task row hrun (latestTask_latest hok hlatest)
  · rw [Bool.eq_false_iff]
    intro hclaim
    have hqueued : row.status.queued = true := by
      simp only [claimable, Bool.and_eq_true] at hclaim
      exact hclaim.1.1.1.1.2
    rw [hok.active hrow hrun hof (terminal_of_queued hqueued)] at hdone
    cases hdone

end

-- ------------------------------------------------------------
-- A launch and its abort
-- ------------------------------------------------------------

def instant (now : Int) : Clock := ⟨seconds now, seconds now, seconds now⟩

def launching (now : Int) (id : Nat) (config : CampaignConfig) (key : String) :
    List (Clock × Label) :=
  (instant now, .beginLaunch config key) :: List.replicate 5 (instant now, .launch id 0)

def abortedRun : List (Clock × Label) :=
  launching 1 0 sampleConfig "k1" ++ [(instant 2, .abort 0 "operator")]

theorem run_task_coherent_aborted :
    ∃ run task row,
      (Lib.run (Sys.step fun _ _ => "+0000") Sys.init abortedRun).store.runs.rows 0 = some run ∧
      (Lib.run (Sys.step fun _ _ => "+0000") Sys.init abortedRun).store.latestTask 0 =
        some (task, row) ∧
      run.status = .cancelled ∧ row.status.terminal = true ∧ row.status ≠ .succeeded := by
  have hstatus : ((Lib.run (Sys.step fun _ _ => "+0000") Sys.init abortedRun).store.runs.rows 0).map
      CampaignRun.status = some .cancelled := by decide +kernel
  have htask : ((Lib.run (Sys.step fun _ _ => "+0000") Sys.init abortedRun).store.latestTask
      0).isSome = true := by decide +kernel
  obtain ⟨run, hrun, hcancelled⟩ := Option.map_eq_some_iff.mp hstatus
  obtain ⟨⟨task, row⟩, hlatest⟩ := Option.isSome_iff_exists.mp htask
  obtain ⟨hterminal, hsucceeded⟩ :=
    (run_task_coherent (fun _ _ => "+0000") abortedRun 0 run hrun).1 task row hlatest
  rw [hcancelled] at hterminal hsucceeded
  refine ⟨run, task, row, hrun, hlatest, hcancelled, hterminal.mp rfl, fun hs => ?_⟩
  cases hsucceeded.mpr hs

end StopBot.Campaigns
