import StopBot.Worker.Steps

/-!
# No blind resend

Over any run of one task, with workers that crash, stall and outlive their
lease: between two writes a reconciliation read has found another status than
the desired one, and there are no more writes than `max_attempts`. The
invariant is the phase of the row together with what the worker that holds it
may assume; everyone else can no longer reach the row.
-/

namespace StopBot.Worker

open Lib Tasks

variable {row row' : TaskRow} {trace : List Event} {s : Sys} {clk : Clock}

structure Inv (s : Sys) : Prop where
  ad : AdRow s.row
  sound : Sound s.row s.trace
  tokens : ∀ token session, s.sessions token = some session →
    session.task.leaseToken = token ∧ token ≤ s.row.leaseToken
  fenced : ∀ token session, s.sessions token = some session →
    PcFenced session.fence session.pc
  coherent : ∀ token session, s.sessions token = some session →
    current session s.row = true → Coherent s.row s.trace session

theorem current_iff {session : Session} :
    current session row = true ↔
      row.status = .running ∧ row.leaseToken = session.task.leaseToken := by
  simp [current]

theorem init_inv {task : NewTask} (h : AdCommand task) : Inv (Sys.init clk task) := by
  have hmax : 1 ≤ task.maxAttempts := h.maxAttempts
  refine ⟨⟨h.taskType, h.kind, h.maxAttempts⟩, ⟨?_, separated_nil, fun _ => .clean ?_⟩,
    (fun _ _ h => by cases h), (fun _ _ h => by cases h), (fun _ _ h => by cases h)⟩
  · show (0 : Int) ≤ task.maxAttempts
    omega
  · exact ⟨rfl, rfl, by show (0 : Int) < task.maxAttempts; omega, by exact Int.le_refl 0, rfl, rfl⟩

-- ------------------------------------------------------------
-- Claim, heartbeat and the statements of others
-- ------------------------------------------------------------

theorem Inv.same (h : Inv s) (hsame : SameLife s.row row') (hstatus : row'.status = s.row.status)
    (htype : row'.taskType = s.row.taskType) (htoken : row'.leaseToken = s.row.leaseToken) :
    Inv { s with row := row' } := by
  obtain ⟨had, hsound, htokens, hfenced, hcoherent⟩ := h
  have hmax := hsame.maxAttempts
  have hbound := hsound.bound
  refine ⟨⟨htype.trans had.taskType, ?_, by have := had.maxAttempts; dsimp only; omega⟩,
    ⟨by dsimp only; omega, hsound.separated, fun hopen => ?_⟩, fun token session hs => ?_, hfenced,
    fun token session hs hcur => ?_⟩
  · have hkind := had.kind
    simp only [TaskRow.mutationKind] at hkind ⊢
    rwa [hsame.payload]
  · exact (hsound.live (hstatus ▸ hopen)).same hsame hstatus
  · obtain ⟨ht, hle⟩ := htokens token session hs
    exact ⟨ht, by dsimp only; omega⟩
  · rw [current_iff, hstatus, htoken, ← current_iff] at hcur
    exact (hcoherent token session hs hcur).same hsame hstatus

theorem not_terminal_of_claimable {taskType : TaskType} {lanes : List Lane}
    (h : claimable clk taskType lanes row = true) : row.status.queued = true := by
  simp only [claimable, Bool.and_eq_true] at h
  exact h.1.1.1.1.2

/-- A queued row is clean or of unknown outcome: past its boundary it is running. -/
theorem Live.of_queued (hl : Live row trace) (hq : row.status.queued = true) :
    Clean row trace ∨ Unknown row trace := by
  cases hl with
  | clean h => exact .inl h
  | unknown h => exact .inr h
  | crossed h =>
    rw [h.running] at hq
    cases hq

theorem claim_inv (h : Inv s) (c : Consumer) (generation : Option Int) :
    Inv (s.step (clk, .claim c generation)) := by
  simp only [Sys.step]
  split
  case isFalse => exact h
  case isTrue hclaim =>
    obtain ⟨had, hsound, htokens, hfenced, -⟩ := h
    have hq := not_terminal_of_claimable hclaim
    have hsame : SameLife s.row (claimRow clk c.worker c.leaseSeconds s.row) :=
      ⟨rfl, rfl, rfl, rfl, Int.le_refl _⟩
    have hphase : Clean (claimRow clk c.worker c.leaseSeconds s.row) s.trace ∨
        Unknown (claimRow clk c.worker c.leaseSeconds s.row) s.trace :=
      ((hsound.live (terminal_of_queued hq)).of_queued hq).imp
        (fun hc => hc.same hsame) (fun hu => hu.same hsame)
    refine ⟨⟨had.taskType, had.kind, had.maxAttempts⟩,
      ⟨hsound.bound, hsound.separated, fun _ => hphase.elim .clean .unknown⟩,
      fun token session hs => ?_, fun token session hs => ?_, fun token session hs hcur => ?_⟩
    all_goals simp only [Sys.set] at hs; split at hs
    · cases hs
      rename_i htoken
      exact ⟨htoken.symm, Nat.le_of_eq htoken⟩
    · obtain ⟨ht, hle⟩ := htokens token session hs
      exact ⟨ht, Nat.le_succ_of_le hle⟩
    · cases hs
      trivial
    · exact hfenced token session hs
    · cases hs
      have hmax := had.maxAttempts
      refine ⟨⟨rfl, ?_, rfl, rfl⟩, hphase⟩
      show (if s.row.maxAttempts = 0 then 5 else s.row.maxAttempts) ≤ s.row.maxAttempts
      split <;> omega
    · -- the sessions of earlier claims hold an older token
      obtain ⟨ht, hle⟩ := htokens token session hs
      have htoken : s.row.leaseToken + 1 = session.task.leaseToken := (current_iff.mp hcur).2
      omega

theorem touch_inv (h : Inv s) (token : Nat) (leaseSeconds : Int) :
    Inv (s.step (clk, .touch token leaseSeconds)) := by
  simp only [Sys.step]
  split
  · rename_i session _
    cases ht : touchTaskRunning clk session.fence leaseSeconds s.row with
    | none => exact h
    | some row' =>
      obtain ⟨-, rfl⟩ := update_eq_some.mp ht
      exact h.same ⟨rfl, rfl, rfl, rfl, Int.le_refl _⟩ rfl rfl rfl
  · exact h

theorem crash_inv (h : Inv s) (token : Nat) : Inv (s.step (clk, .crash token)) := by
  obtain ⟨had, hsound, htokens, hfenced, hcoherent⟩ := h
  have hsub : ∀ t session, s.set token none t = some session → s.sessions t = some session := by
    intro t session hs
    simp only [Sys.set] at hs
    split at hs
    · cases hs
    · exact hs
  exact ⟨had, hsound, fun t session hs => htokens t session (hsub t session hs),
    fun t session hs => hfenced t session (hsub t session hs),
    fun t session hs => hcoherent t session (hsub t session hs)⟩

theorem Live.writes_le (hl : Live row trace) : writes trace ≤ row.attemptCount + 1 := by
  cases hl with
  | clean h => have := h.writes; omega
  | crossed h => exact h.writes
  | unknown h => have := h.writes; omega

theorem Live.parses_of_boundary (hl : Live row trace) (hb : row.externalStartedAt.isSome = true) :
    Parses row := by
  cases hl with
  | clean h =>
    rw [h.boundary] at hb
    cases hb
  | crossed h => exact h.parses
  | unknown h => exact h.parses

theorem Parses.congr (h : Parses row) (hp : row'.payload = row.payload) : Parses row' := by
  obtain ⟨payload, h⟩ := h
  exact ⟨payload, by rw [hp, h]⟩

theorem leaseLost_of_status (h : row'.status = row.status) : leaseLost row row' = false := by
  cases hs : row.status <;> simp [leaseLost, h, hs]

theorem leaseLost_eq_true (hrun : row.status = .running) (hb : row.externalStartedAt.isSome = true)
    (hs : row'.status = .retrying) : leaseLost row row' = true := by
  simp [leaseLost, hrun, hb, hs]

/-- What a statement without a lease leaves sound; a lost lease past the
boundary is the ambiguous end of the call. -/
theorem Outside.sound (ho : Outside row row') (hs : Sound row trace) :
    Sound row' (if leaseLost row row' then .ambiguous :: trace else trace) := by
  obtain ⟨hbound, hseparated, hlive⟩ := hs
  cases ho with
  | keeps same status =>
    have hlost := leaseLost_of_status status
    have hmax := same.maxAttempts
    simp only [hlost, Bool.false_eq_true, if_false]
    exact ⟨by omega, hseparated, fun hopen => (hlive (status ▸ hopen)).same same status⟩
  | closes wasOpen terminal maxAttempts rejected =>
    refine ⟨?_, ?_, fun hopen => by rw [terminal] at hopen; cases hopen⟩
    · rw [maxAttempts]
      split <;> simpa using hbound
    · split
      · exact hseparated.cons fun h => by cases h
      · exact hseparated
  | retries running status boundary boundary' result payload attempts budget maxAttempts =>
    have hlost : leaseLost row row' = false := by simp [leaseLost, boundary]
    have hm : marker row' = marker row := by simp [marker, TaskRow.resultObj, result]
    simp only [hlost, Bool.false_eq_true, if_false]
    refine ⟨by omega, hseparated, fun _ => ?_⟩
    cases hlive (terminal_of_running running) with
    | clean hc =>
      have hwrites := hc.writes
      exact .clean ⟨hm.trans hc.marker, boundary', by omega, by omega, hc.verified, hc.resolved⟩
    | crossed hc =>
      have hsome := hc.boundary
      rw [boundary] at hsome
      cases hsome
    | unknown hu =>
      have hwrites := hu.writes
      exact .unknown ⟨hm.trans hu.marker, by omega, hu.parses.congr payload⟩
  | verifies running status boundary boundary' marker payload attempts maxAttempts =>
    have hphase := hlive (terminal_of_running running)
    have hwrites := hphase.writes_le
    simp only [leaseLost_eq_true running boundary status, if_true]
    refine ⟨?_, hseparated.cons (fun h => by cases h), fun _ => .unknown ⟨marker, ?_, ?_⟩⟩
    · rw [writes_ambiguous]
      omega
    · rw [writes_ambiguous]
      omega
    · exact (hphase.parses_of_boundary boundary).congr payload

theorem outside_inv (h : Inv s) (op : RowOp) : Inv (s.step (clk, .outside op)) := by
  simp only [Sys.step]
  split
  case h_2 => exact h
  case h_1 row' hfence happly =>
    obtain ⟨had, hsound, htokens, hfenced, hcoherent⟩ := h
    have ho := RowOp.outside had hfence happly
    obtain ⟨hkept, -⟩ := RowOp.effect happly
    have hpayload : row'.payload = s.row.payload := hkept.payload (by rw [had.taskType]; decide)
    refine ⟨⟨hkept.taskType.trans had.taskType, ?_, Int.le_trans had.maxAttempts hkept.maxAttempts⟩,
      ho.sound hsound, fun token session hs => ?_, hfenced, fun token session hs hcur => ?_⟩
    · have hkind := had.kind
      simp only [TaskRow.mutationKind] at hkind ⊢
      rwa [hpayload]
    · obtain ⟨ht, hle⟩ := htokens token session hs
      exact ⟨ht, by dsimp only; rw [hkept.leaseToken]; exact hle⟩
    · -- only a statement that leaves the row running leaves it to its worker
      obtain ⟨hrun, htoken⟩ := current_iff.mp hcur
      cases ho with
      | keeps same status =>
        have hlost := leaseLost_of_status status
        simp only [hlost, Bool.false_eq_true, if_false]
        refine (hcoherent token session hs ?_).same same status
        exact current_iff.mpr ⟨status ▸ hrun, hkept.leaseToken ▸ htoken⟩
      | closes wasOpen terminal => rw [hrun] at terminal; cases terminal
      | retries running status => rw [hrun] at status; cases status
      | verifies running status => rw [hrun] at status; cases status

-- ------------------------------------------------------------
-- Workers
-- ------------------------------------------------------------

theorem not_current_of_token {session : Session} (h : session.task.leaseToken ≠ row.leaseToken) :
    current session row = false := by
  apply Bool.eq_false_iff.mpr
  intro hcur
  exact h (current_iff.mp hcur).2.symm

theorem Kept.refl (row : TaskRow) : Kept row row :=
  ⟨rfl, rfl, rfl, rfl, rfl, rfl, Int.le_refl _, fun _ => rfl⟩

theorem advance_kept {session : Session} (answer : Answer) :
    Kept row (advance clk session answer row).row := by
  have htouches : Touches clk session answer row (advance clk session answer row) :=
    advance_touches answer
  cases htouches with
  | statement op issued answered apply => exact (RowOp.effect apply).kept
  | still unchanged =>
    rw [unchanged]
    exact Kept.refl row

theorem AdRow.kept (had : AdRow row) (h : Kept row row') : AdRow row' := by
  refine ⟨h.taskType.trans had.taskType, ?_, Int.le_trans had.maxAttempts h.maxAttempts⟩
  have hkind := had.kind
  simp only [TaskRow.mutationKind] at hkind ⊢
  rwa [h.payload (by rw [had.taskType]; decide)]

theorem token_of_fence {a b : Session} (h : a.fence = b.fence) :
    a.task.leaseToken = b.task.leaseToken :=
  Option.some.inj (congrArg Fence.token h)

/-- The step of the worker that holds the row. -/
theorem work_inv_current (h : Inv s) {token : Nat} {session : Session}
    (hsession : s.sessions token = some session) (hcur : current session s.row = true)
    (answer : Answer) :
    Inv { row := (advance clk session answer s.row).row
          sessions := s.set token (advance clk session answer s.row).session
          trace := (advance clk session answer s.row).event.toList ++ s.trace } := by
  obtain ⟨had, hsound, htokens, hfenced, hcoherent⟩ := h
  have hf := hfenced token session hsession
  have hkept : Kept s.row (advance clk session answer s.row).row := advance_kept answer
  have hsame : SameWorker session (advance clk session answer s.row) := advance_sameWorker hf answer
  obtain ⟨hrun, htoken⟩ := current_iff.mp hcur
  obtain ⟨ht, -⟩ := htokens token session hsession
  have hgood : Good ((advance clk session answer s.row).event.toList ++ s.trace)
      (advance clk session answer s.row) :=
    advance_good hsound (terminal_of_running hrun) (hcoherent token session hsession hcur) answer
  obtain ⟨hsound', hgood⟩ := hgood
  refine ⟨had.kept hkept, hsound', fun t session' hs => ?_, fun t session' hs => ?_,
    fun t session' hs hcur' => ?_⟩
  all_goals simp only [Sys.set] at hs; split at hs
  · rename_i hte
    have hft := token_of_fence (hsame session' hs).1
    have hrow := hkept.leaseToken
    exact ⟨by rw [hft, ht, hte], by dsimp only; omega⟩
  · obtain ⟨ht', hle⟩ := htokens t session' hs
    exact ⟨ht', by dsimp only; rw [hkept.leaseToken]; exact hle⟩
  · obtain ⟨hfence, hpc⟩ := hsame session' hs
    rw [hfence]
    exact hpc
  · exact hfenced t session' hs
  · exact hgood session' hs (current_iff.mp hcur').1
  · rename_i hne
    obtain ⟨ht', -⟩ := htokens t session' hs
    have hstale : current session' (advance clk session answer s.row).row = false :=
      not_current_of_token (by rw [ht', hkept.leaseToken, htoken, ht]; exact hne)
    rw [hstale] at hcur'
    cases hcur'

/-- The step of a worker that lost the row. -/
theorem work_inv_stale (h : Inv s) {token : Nat} {session : Session}
    (hsession : s.sessions token = some session) (hcur : current session s.row = false)
    (answer : Answer) :
    Inv { row := (advance clk session answer s.row).row
          sessions := s.set token (advance clk session answer s.row).session
          trace := (advance clk session answer s.row).event.toList ++ s.trace } := by
  obtain ⟨had, hsound, htokens, hfenced, hcoherent⟩ := h
  have hf := hfenced token session hsession
  have hsame : SameWorker session (advance clk session answer s.row) := advance_sameWorker hf answer
  obtain ⟨ht, hle⟩ := htokens token session hsession
  have hstale : (advance clk session answer s.row).row = s.row ∧ _ := advance_stale hf answer hcur
  obtain ⟨hrow, hevent⟩ := hstale
  rw [hrow]
  have hsound' : Sound s.row ((advance clk session answer s.row).event.toList ++ s.trace) := by
    rcases hevent with he | he <;> rw [he]
    · exact hsound
    · exact hsound.read
  refine ⟨had, hsound', fun t session' hs => ?_, fun t session' hs => ?_,
    fun t session' hs hcur' => ?_⟩
  all_goals simp only [Sys.set] at hs; split at hs
  · rename_i hte
    have hft := token_of_fence (hsame session' hs).1
    exact ⟨by rw [hft, ht, hte], by rw [hte]; exact hle⟩
  · exact htokens t session' hs
  · obtain ⟨hfence, hpc⟩ := hsame session' hs
    rw [hfence]
    exact hpc
  · exact hfenced t session' hs
  · have hft := token_of_fence (hsame session' hs).1
    rw [current, hft, ← current, hcur] at hcur'
    cases hcur'
  · have hc := hcoherent t session' hs hcur'
    rcases hevent with he | he <;> rw [he]
    · exact hc
    · exact hc.read

theorem step_inv (h : Inv s) (e : Clock × Label) : Inv (s.step e) := by
  obtain ⟨clk, label⟩ := e
  cases label with
  | claim c generation => exact claim_inv h c generation
  | outside op => exact outside_inv h op
  | touch token leaseSeconds => exact touch_inv h token leaseSeconds
  | crash token => exact crash_inv h token
  | work token answer =>
    simp only [Sys.step]
    split
    · rename_i session hsession
      cases hcur : current session s.row with
      | true => exact work_inv_current h hsession hcur answer
      | false => exact work_inv_stale h hsession hcur answer
    · exact h

theorem run_inv {task : NewTask} (h : AdCommand task) (clk : Clock) (es : List (Clock × Label)) :
    Inv (run Sys.step (Sys.init clk task) es) :=
  run_preserves (I := Inv) (fun _ e hs => step_inv hs e) (init_inv h) es

-- ------------------------------------------------------------
-- Writes
-- ------------------------------------------------------------

/-- Whatever the order of claims, crashes, lease losses, cancellations, sweeps
and worker steps: any two writes of the task are separated by a reconciliation
read that returned another status than the desired one, and the writes are at
most `max_attempts`. -/
theorem writes_separated_and_bounded (clk : Clock) (task : NewTask) (h : AdCommand task)
    (es : List (Clock × Label)) :
    (∀ later between earlier,
      (run Sys.step (Sys.init clk task) es).trace =
        later ++ .write :: between ++ .write :: earlier → .readDifferent ∈ between) ∧
    ((run Sys.step (Sys.init clk task) es).trace.count .write : Int) ≤
      (run Sys.step (Sys.init clk task) es).row.maxAttempts := by
  have hsound := (run_inv h clk es).sound
  refine ⟨fun later between earlier htrace => ?_, ?_⟩
  · obtain ⟨e, hmem, he⟩ := hsound.separated later .write between .write earlier htrace rfl rfl
    cases e with
    | readDifferent => exact hmem
    | write | ambiguous => cases he
  · exact hsound.bound

-- A run with two writes: the first ends in a lost response, the read finds the
-- ad still active, and the pause is sent again.

theorem autoPause_adCommand : AdCommand autoPause :=
  ⟨rfl, .inl rfl, rfl, by decide⟩

def responseLost : Raised :=
  { cls := .ambiguousResultError, repr := "AmbiguousResultError()" }

def ambiguousRun : List (Clock × Label) :=
  [(tick 1, .claim moneyWorker (some 1)), (tick 2, .work 1 .ok), (tick 2, .work 1 (.read {})),
    (tick 3, .work 1 .ok), (tick 3, .work 1 .ok), (tick 4, .work 1 .send),
    (tick 5, .work 1 (.raised responseLost)), (tick 6, .work 1 .ok),
    (tick 7, .claim moneyWorker (some 1)), (tick 8, .work 2 .ok)]

def resentRun : List (Clock × Label) :=
  ambiguousRun ++
    ([(tick 9, .work 2 .send), (tick 10, .work 2 (.reply (.obj [("status", .str "ACTIVE")]))),
      (tick 11, .work 2 .ok), (tick 12, .work 2 (.read {})), (tick 13, .work 2 .ok),
      (tick 13, .work 2 .ok), (tick 14, .work 2 .send)] : List (Clock × Label))

theorem resentRun_reads_between :
    (run Sys.step (Sys.init (tick 0) autoPause) resentRun).trace =
        [] ++ .write :: [.readDifferent, .ambiguous] ++ .write :: [] ∧
      .readDifferent ∈ [Event.readDifferent, .ambiguous] ∧
      ((run Sys.step (Sys.init (tick 0) autoPause) resentRun).trace.count .write : Int) ≤
        (run Sys.step (Sys.init (tick 0) autoPause) resentRun).row.maxAttempts := by
  have htrace : (run Sys.step (Sys.init (tick 0) autoPause) resentRun).trace =
      [] ++ .write :: [.readDifferent, .ambiguous] ++ .write :: [] := by
    decide +kernel
  obtain ⟨hseparated, hbound⟩ :=
    writes_separated_and_bounded (tick 0) autoPause autoPause_adCommand resentRun
  exact ⟨htrace, hseparated [] _ [] htrace, hbound⟩

end StopBot.Worker
