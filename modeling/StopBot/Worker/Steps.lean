import StopBot.Worker.Sessions

/-!
# One step of a worker

What a step can do whoever holds the row: it stays behind the lease of its
worker, and without that lease it does nothing. Then what the step of the
holder keeps: the soundness of the row and the trace, and the coherence of the
worker with them.
-/

namespace StopBot.Worker

open Lib Tasks

variable {row row' : TaskRow} {trace : List Event} {s : Session} {clk : Clock}

-- ------------------------------------------------------------
-- One step of a worker, whoever holds the row
-- ------------------------------------------------------------

def PcFenced (f : Fence) : Pc → Prop
  | .last op _ => op.fence? = some f
  | _ => True

theorem begin_fenced (s : Session) : PcFenced s.fence s.begin := by
  unfold Session.begin
  split
  · rfl
  · split <;> trivial

theorem routeRead_fenced (s : Session) (exc : Raised) : PcFenced s.fence (s.routeRead exc) := by
  unfold Session.routeRead
  cases exc.cls <;> rfl

theorem observe_fenced (s : Session) (body : Json) : PcFenced s.fence (s.observe body).1 := by
  obtain ⟨error, h⟩ | ⟨configured, effective, h⟩ := observe_cases s body
  · rw [h]
    rfl
  · rw [h, Session.compare]
    split <;> trivial

theorem conclude_fence (s : Session) (configured effective : String) (r : Readings) :
    (s.conclude configured effective r).fence? = some s.fence := by
  unfold Session.conclude
  split <;> rfl

theorem gate_fenced (s : Session) (r : Readings) : PcFenced s.fence (s.gate r) := by
  unfold Session.gate
  split
  · rfl
  · split
    · split <;> rfl
    · split
      · rfl
      · split
        · rfl
        · trivial

theorem cross_fenced (s : Session) (row : TaskRow) : PcFenced s.fence (s.cross clk row) := by
  unfold Session.cross
  split
  · rfl
  · rfl
  · trivial

theorem finalize_fence (s : Session) (body : Json) :
    (s.finalize body).fence? = some s.fence := by
  cases hstate : (assessMutationResult s.payload body).state <;>
    simp only [Session.finalize, hstate] <;> rfl

theorem route_fence (s : Session) (crossed : Bool) (exc : Raised) :
    (s.route crossed exc).fence? = some s.fence := by
  unfold Session.route
  cases exc.cls with
  | ambiguousResultError | permanent => rfl
  | temporaryError | sessionUnavailableError | browserReadinessRejectedError =>
    dsimp only
    split
    · rfl
    · split
      · rfl
      · split
        · rfl
        · split <;> rfl
  | valueError | other =>
    dsimp only
    split <;> rfl

theorem current_of_held {clk : Clock} (h : row.heldBy clk s.fence = true) :
    current s row = true := by
  obtain ⟨hrun, hfenced, -⟩ := heldBy_iff.mp h
  obtain ⟨owner, hfence, -⟩ := fencedBy_iff.mp hfenced
  have htoken : some s.task.leaseToken = some row.leaseToken := congrArg Fence.token hfence
  simp [current, hrun, Option.some.inj htoken]

theorem current_of_authorized (h : authorized clk s.fence row = true) : current s row = true := by
  simp only [authorized, Bool.and_eq_true] at h
  exact current_of_held h.1.1

inductive Issues (s : Session) : RowOp → Prop
  | last {op : RowOp} {scope : Scope} (h : s.pc = .last op scope) : Issues s op
  | resolve {configured : String} (h : s.pc = .resolving configured) :
      Issues s (.resolveStatusReconciliationNotApplied s.fence configured)
  | boundary (h : s.pc = .boundary) :
      Issues s (.markExternalCallStarted s.fence s.payload.targetId)

theorem Issues.fence {op : RowOp} (h : Issues s op) (hf : PcFenced s.fence s.pc) :
    op.fence? = some s.fence := by
  cases h with
  | last h =>
    rw [h] at hf
    exact hf
  | resolve | boundary => rfl

/-- What the step of a worker can do to the row and the trace: a statement and
no event; or no statement and an event that is a read or needs the row. -/
inductive Touches (clk : Clock) (s : Session) (answer : Answer) (row : TaskRow) (o : Outcome) :
    Prop
  | statement (op : RowOp) (issued : Issues s op) (answered : answer = .ok)
    (apply : op.apply clk row = some o.row)
      (quiet : o.event = none)
  | still (unchanged : o.row = row)
      (event : o.event = none ∨ o.event = some .readDifferent ∨ current s row = true)

theorem Touches.quiet {answer : Answer} {session : Option Session} :
    Touches clk s answer row { row, session } :=
  .still rfl (.inl rfl)

theorem callRaised_touches {answer : Answer} (exc : Raised) :
    Touches clk s answer row (callRaised s row exc) := by
  refine .still rfl ?_
  cases hcur : current s row with
  | true => exact .inr (.inr rfl)
  | false => exact .inl (by simp [callRaised, Outcome.goto, hcur])

theorem boundaryRaised_touches {answer : Answer} (exc : Raised) :
    Touches clk s answer row (boundaryRaised s row exc) := by
  unfold boundaryRaised
  split <;> exact .quiet

theorem sentRaised_touches {answer : Answer} (exc : Raised) :
    Touches clk s answer row (sentRaised s row exc) := by
  unfold sentRaised
  split
  · exact .quiet
  · exact callRaised_touches exc

theorem advance_touches (answer : Answer) :
    Touches clk s answer row (advance clk s answer row) := by
  unfold advance
  cases hpc : s.pc with
  | start => cases answer <;> exact .quiet
  | gates => cases answer <;> exact .quiet
  | confirmed configured effective => cases answer <;> exact .quiet
  | reconcile =>
    cases answer with
    | send =>
      simp only [atReconcile]
      split <;> exact .quiet
    | _ => exact .quiet
  | observing =>
    cases answer with
    | reply body =>
      simp only [atObserving]
      obtain ⟨error, h⟩ | ⟨configured, effective, h⟩ := observe_cases s body
      · rw [h]
        exact .quiet
      · rw [h, Session.compare]
        split
        · exact .still rfl (.inr (.inl rfl))
        · exact .quiet
    | _ => exact .quiet
  | resolving configured =>
    cases answer with
    | ok =>
      simp only [atResolving]
      split
      · rename_i row' h
        exact .statement _ (.resolve hpc) rfl h rfl
      · exact .quiet
    | _ => exact .quiet
  | preflight =>
    cases answer with
    | raised exc => exact boundaryRaised_touches exc
    | _ => exact .quiet
  | boundary =>
    cases answer with
    | ok =>
      simp only [atBoundary]
      split
      · rename_i row' h
        exact .statement _ (.boundary hpc) rfl h rfl
      · exact .quiet
    | raised exc => exact boundaryRaised_touches exc
    | _ => exact .quiet
  | crossed =>
    cases answer with
    | send =>
      simp only [atCrossed]
      split
      · rename_i h
        exact .still rfl (.inr (.inr (current_of_authorized h)))
      · exact callRaised_touches _
    | raised exc => exact callRaised_touches exc
    | _ => exact .quiet
  | inFlight =>
    cases answer with
    | raised exc => exact sentRaised_touches exc
    | _ => exact .quiet
  | last op scope =>
    cases answer with
    | ok =>
      simp only [atLast]
      cases h : op.apply clk row with
      | none => exact .quiet
      | some row' => exact .statement op (.last hpc) rfl h rfl
    | raised exc =>
      cases scope with
      | bare | reconciliation => exact .quiet
      | boundary => exact boundaryRaised_touches exc
      | call => exact sentRaised_touches exc
    | _ => exact .quiet

/-- A worker that lost the row changes nothing; a late read is recorded. -/
theorem advance_stale (hf : PcFenced s.fence s.pc) (answer : Answer)
    (hcur : current s row = false) :
    (advance clk s answer row).row = row ∧
      ((advance clk s answer row).event = none ∨
        (advance clk s answer row).event = some .readDifferent) := by
  have htouches : Touches clk s answer row (advance clk s answer row) := advance_touches answer
  cases htouches with
  | statement op issued answered apply quiet =>
    rw [current_of_held (RowOp.heldBy_of_fence (issued.fence hf) apply)] at hcur
    cases hcur
  | still hrow hevent =>
    refine ⟨hrow, ?_⟩
    rcases hevent with h | h | h
    · exact .inl h
    · exact .inr h
    · rw [h] at hcur
      cases hcur

def SameWorker (s : Session) (o : Outcome) : Prop :=
  ∀ s', o.session = some s' → s'.fence = s.fence ∧ PcFenced s.fence s'.pc

theorem SameWorker.none : SameWorker s { row, session := none } := by
  intro s' h
  cases h

theorem SameWorker.stay (hf : PcFenced s.fence s.pc) :
    SameWorker s { row, session := some s } := by
  intro s' h
  cases h
  exact ⟨rfl, hf⟩

theorem SameWorker.goto {pc : Pc} {event : Option Event} (hf : PcFenced s.fence pc) :
    SameWorker s (.goto row s pc event) := by
  intro s' h
  cases h
  exact ⟨rfl, hf⟩

theorem boundaryRaised_sameWorker (hf : PcFenced s.fence s.pc) (exc : Raised) :
    SameWorker s (boundaryRaised s row exc) := by
  unfold boundaryRaised
  split
  · exact .goto (route_fence s false exc)
  · exact .stay hf

theorem sentRaised_sameWorker (hf : PcFenced s.fence s.pc) (exc : Raised) :
    SameWorker s (sentRaised s row exc) := by
  unfold sentRaised
  split
  · exact .stay hf
  · exact .goto (route_fence s true exc)

theorem advance_sameWorker (hf : PcFenced s.fence s.pc) (answer : Answer) :
    SameWorker s (advance clk s answer row) := by
  unfold advance
  split
  · cases answer with
    | ok => exact .goto (begin_fenced s)
    | _ => exact .stay hf
  · cases answer with
    | send =>
      simp only [atReconcile]
      split
      · exact .goto trivial
      · exact .goto (routeRead_fenced s _)
    | raised exc => exact .goto (routeRead_fenced s exc)
    | _ => exact .stay hf
  · cases answer with
    | reply body => exact .goto (observe_fenced s body)
    | raised exc => exact .goto (routeRead_fenced s exc)
    | _ => exact .stay hf
  · cases answer with
    | ok =>
      simp only [atResolving]
      split
      · intro s' h
        simp only [Option.ite_none_right_eq_some, Option.some.injEq] at h
        obtain ⟨-, rfl⟩ := h
        exact ⟨rfl, trivial⟩
      · exact .none
    | raised exc => exact .goto rfl
    | _ => exact .stay hf
  · cases answer with
    | read r => exact .goto (conclude_fence s _ _ r)
    | raised exc => exact .goto rfl
    | _ => exact .stay hf
  · cases answer with
    | read r => exact .goto (gate_fenced s r)
    | _ => exact .stay hf
  · cases answer with
    | ok => exact .goto (cross_fenced s row)
    | raised exc => exact boundaryRaised_sameWorker hf exc
    | _ => exact .stay hf
  · cases answer with
    | ok =>
      simp only [atBoundary]
      split
      · exact .goto trivial
      · exact .none
    | raised exc => exact boundaryRaised_sameWorker hf exc
    | _ => exact .stay hf
  · cases answer with
    | send =>
      simp only [atCrossed]
      split
      · exact .goto trivial
      · exact .goto (route_fence s true _)
    | raised exc => exact .goto (route_fence s true exc)
    | _ => exact .stay hf
  · cases answer with
    | reply body => exact .goto (finalize_fence s body)
    | raised exc => exact sentRaised_sameWorker hf exc
    | _ => exact .stay hf
  · rename_i op scope _
    cases answer with
    | ok => exact .none
    | raised exc =>
      cases scope with
      | bare => exact .none
      | reconciliation => exact .goto rfl
      | boundary => exact boundaryRaised_sameWorker hf exc
      | call => exact sentRaised_sameWorker hf exc
    | _ => exact .stay hf

-- ------------------------------------------------------------
-- One step of the holder
-- ------------------------------------------------------------

structure Sound (row : TaskRow) (trace : List Event) : Prop where
  bound : writes trace ≤ row.maxAttempts
  separated : Separated isWrite isReadDifferent trace
  live : row.status.terminal = false → Live row trace

def Good (trace : List Event) (o : Outcome) : Prop :=
  Sound o.row trace ∧
    ∀ s', o.session = some s' → o.row.status = .running → Coherent o.row trace s'

theorem After.sound {op : RowOp} (h : After clk op row row' trace) (hs : Sound row trace) :
    Sound row' trace := by
  obtain ⟨hbound, hseparated, -⟩ := hs
  cases h with
  | closes terminal maxAttempts =>
    exact ⟨by omega, hseparated, fun hopen => by rw [terminal] at hopen; cases hopen⟩
  | cleans maxAttempts clean => exact ⟨by omega, hseparated, fun _ => .clean clean⟩
  | unknown _ maxAttempts unknown => exact ⟨by omega, hseparated, fun _ => .unknown unknown⟩
  | releases _ maxAttempts unknown => exact ⟨by omega, hseparated, fun _ => .unknown unknown⟩

theorem Good.stop (hs : Sound row trace) : Good trace { row, session := none } :=
  ⟨hs, fun s' h => by cases h⟩

theorem Good.goto {pc : Pc} (hs : Sound row trace) (hsnap : Snap row s.task)
    (hpc : PcOk row trace pc) :
    Good trace (.goto row s pc) := by
  refine ⟨hs, fun s' h _ => ?_⟩
  cases h
  exact ⟨hsnap, hpc⟩

theorem Sound.read (hs : Sound row trace) : Sound row (.readDifferent :: trace) :=
  ⟨by simpa using hs.bound, hs.separated.cons (fun h => by cases h), fun h => (hs.live h).read⟩

theorem Crossed.ambiguous (hc : Crossed row trace) : Crossed row (.ambiguous :: trace) :=
  ⟨hc.running, hc.marker, hc.boundary, hc.budget, by simpa using hc.writes, hc.parses⟩

theorem Sound.ambiguous (hs : Sound row trace) (hc : Crossed row trace) :
    Sound row (.ambiguous :: trace) :=
  ⟨by simpa using hs.bound, hs.separated.cons (fun h => by cases h),
    fun _ => .crossed hc.ambiguous⟩

theorem callRaised_good (hs : Sound row trace) (hsnap : Snap row s.task) (hc : Crossed row trace)
    (hres : unresolved trace = false) {exc : Raised}
    (hready : exc.cls.knownNotCommitted = true → Ready row trace) :
    Good ((callRaised s row exc).event.toList ++ trace) (callRaised s row exc) := by
  cases hamb : exc.cls.ambiguous && current s row with
  | false =>
    simp only [callRaised, hamb, Bool.false_eq_true, if_false]
    exact Good.goto hs hsnap ⟨route_call_ok hsnap hc hready fun _ => hres, trivial⟩
  | true =>
    simp only [callRaised, hamb, if_true]
    have hnot : exc.cls.knownNotCommitted = false := by
      cases hcls : exc.cls <;> simp_all [ExceptionClass.ambiguous, ExceptionClass.knownNotCommitted]
    refine ⟨hs.ambiguous hc, fun s' h _ => ?_⟩
    cases h
    refine ⟨hsnap, route_call_ok hsnap hc.ambiguous (fun h => ?_) (fun h => ?_), trivial⟩
    · rw [hnot] at h
      cases h
    · simp [h] at hamb

theorem boundaryRaised_good (hg : Good trace { row, session := some s }) (hsnap : Snap row s.task)
    (hc : Clean row trace) (exc : Raised) :
    Good ((boundaryRaised s row exc).event.toList ++ trace) (boundaryRaised s row exc) := by
  unfold boundaryRaised
  split
  · rename_i hdb
    exact Good.goto hg.1 hsnap ⟨route_boundary_ok hsnap hc hdb, trivial⟩
  · exact hg

theorem sentRaised_good (hg : Good trace { row, session := some s }) (hsnap : Snap row s.task)
    (hc : Crossed row trace) (hres : unresolved trace = false) (exc : Raised) :
    Good ((sentRaised s row exc).event.toList ++ trace) (sentRaised s row exc) := by
  unfold sentRaised
  split
  · exact hg
  · rename_i hnot
    exact callRaised_good hg.1 hsnap hc hres fun h => absurd h hnot

theorem atResolving_good {configured : String} (hs : Sound row trace) (hsnap : Snap row s.task)
    (hpc : PcOk row trace (.resolving configured)) :
    Good ((atResolving clk s configured .ok row).event.toList ++ trace)
      (atResolving clk s configured .ok row) := by
  obtain ⟨hm, hv, hr⟩ := hpc
  simp only [atResolving]
  split
  · rename_i row' h
    have heffect := resolveStatusReconciliationNotApplied_effect h
    obtain ⟨hg, rfl⟩ := update_eq_some.mp h
    have hopen : row.status.terminal = false := terminal_of_running (by grind)
    have hunknown := (hs.live hopen).unknown_of_marker hm
    have hafter : After clk (.resolveStatusReconciliationNotApplied s.fence configured)
        row _ trace :=
      resolveStatusReconciliationNotApplied_after hunknown hv hr h
    refine ⟨hafter.sound hs, fun s' hs' hrun => ?_⟩
    have hclean := hafter.clean_of_running hrun
    simp only [Option.ite_none_right_eq_some, Option.some.injEq] at hs'
    obtain ⟨-, rfl⟩ := hs'
    refine ⟨⟨hsnap.attempts, hsnap.maxAttempts, hsnap.payload, ?_⟩, hclean, hunknown.parses⟩
    rw [hclean.marker]
    simp [alreadyReconciling, Session.resolved]
  · exact Good.stop hs

theorem atBoundary_good (hs : Sound row trace) (hsnap : Snap row s.task)
    (hpc : Clean row trace ∧ Parses row) :
    Good ((atBoundary clk s .ok row).event.toList ++ trace) (atBoundary clk s .ok row) := by
  simp only [atBoundary]
  split
  · rename_i row' h
    have hready := markExternalCallStarted_ready hpc.1 hpc.2 h
    obtain ⟨-, rfl⟩ := update_eq_some.mp h
    exact Good.goto ⟨hs.bound, hs.separated, fun _ => .crossed hready.crossed⟩
      ⟨hsnap.attempts, hsnap.maxAttempts, hsnap.payload, hsnap.reconciling⟩ hready
  · exact Good.stop hs

/-- The write: no other is unverified, and the attempt is within the budget. -/
theorem atCrossed_send_good (hs : Sound row trace) (hsnap : Snap row s.task)
    (hpc : Ready row trace) :
    Good ((atCrossed clk s .send row).event.toList ++ trace) (atCrossed clk s .send row) := by
  obtain ⟨hc, hwrites, hv, hr⟩ := hpc
  have hbudget := hc.budget
  simp only [atCrossed]
  split
  · have hcrossed : Crossed row (.write :: trace) :=
      ⟨hc.running, hc.marker, hc.boundary, hc.budget, by simpa using hwrites, hc.parses⟩
    refine ⟨⟨?_, hs.separated.cons fun _ => hv, fun _ => .crossed hcrossed⟩, fun s' h _ => ?_⟩
    · show writes (.write :: trace) ≤ row.maxAttempts
      rw [writes_write]
      omega
    · cases h
      exact ⟨hsnap, hcrossed, hr⟩
  · exact callRaised_good hs hsnap hc hr fun _ => ⟨hc, hwrites, hv, hr⟩

theorem atLast_ok_good {op : RowOp} {scope : Scope} (hs : Sound row trace)
    (hopen : row.status.terminal = false) (hp : Plan row trace op) :
    Good trace (atLast clk s op scope .ok row) := by
  simp only [atLast]
  cases h : op.apply clk row with
  | none => exact Good.stop hs
  | some row' => exact Good.stop ((hp.after (hs.live hopen) h).sound hs)

/-- A step of the holder keeps the row sound and the worker coherent with it. -/
theorem advance_good (hs : Sound row trace) (hopen : row.status.terminal = false)
    (hc : Coherent row trace s) (answer : Answer) :
    Good ((advance clk s answer row).event.toList ++ trace) (advance clk s answer row) := by
  obtain ⟨hsnap, hpc⟩ := hc
  have hstay : Good trace { row, session := some s } := by
    refine ⟨hs, fun s' h _ => ?_⟩
    cases h
    exact ⟨hsnap, hpc⟩
  have hdefer : ∀ exc, marker row = some (.bool true) → Good trace (lifecycleFailed s row exc) :=
    fun exc hm => Good.goto hs hsnap ⟨hm, trivial⟩
  unfold advance
  cases hp : s.pc <;> rw [hp] at hpc <;> dsimp only
  case start =>
    cases answer with
    | ok => exact Good.goto hs hsnap (begin_ok hsnap hpc)
    | _ => exact hstay
  case reconcile =>
    cases answer with
    | send =>
      simp only [atReconcile]
      split
      · exact Good.goto hs hsnap hpc
      · exact Good.goto hs hsnap (routeRead_ok hsnap hpc _)
    | raised exc => exact Good.goto hs hsnap (routeRead_ok hsnap hpc exc)
    | _ => exact hstay
  case observing =>
    cases answer with
    | reply body =>
      simp only [atObserving]
      obtain ⟨hev, hok⟩ | ⟨hev, hok⟩ := @observe_ok row trace s hsnap hpc body
      · rw [hev]
        exact Good.goto hs hsnap hok
      · rw [hev]
        refine ⟨hs.read, fun s' h _ => ?_⟩
        cases h
        exact ⟨hsnap, hok⟩
    | raised exc => exact Good.goto hs hsnap (routeRead_ok hsnap hpc exc)
    | _ => exact hstay
  case resolving configured =>
    cases answer with
    | ok => exact atResolving_good hs hsnap hpc
    | raised exc => exact hdefer exc hpc.1
    | _ => exact hstay
  case confirmed configured effective =>
    cases answer with
    | read r => exact Good.goto hs hsnap ⟨conclude_ok configured effective r, hpc⟩
    | raised exc => exact hdefer exc hpc
    | _ => exact hstay
  case gates =>
    cases answer with
    | read r => exact Good.goto hs hsnap (gate_ok hsnap hpc r)
    | _ => exact hstay
  case preflight =>
    cases answer with
    | ok => exact Good.goto hs hsnap (cross_ok hpc clk row)
    | raised exc => exact boundaryRaised_good hstay hsnap hpc.1 exc
    | _ => exact hstay
  case boundary =>
    cases answer with
    | ok => exact atBoundary_good hs hsnap hpc
    | raised exc => exact boundaryRaised_good hstay hsnap hpc.1 exc
    | _ => exact hstay
  case crossed =>
    cases answer with
    | send => exact atCrossed_send_good hs hsnap hpc
    | raised exc => exact callRaised_good hs hsnap hpc.crossed hpc.resolved fun _ => hpc
    | _ => exact hstay
  case inFlight =>
    cases answer with
    | reply body =>
      exact Good.goto hs hsnap ⟨finalize_ok hpc.2 body, hpc⟩
    | raised exc => exact sentRaised_good hstay hsnap hpc.1 hpc.2 exc
    | _ => exact hstay
  case last op scope =>
    cases answer with
    | ok => exact atLast_ok_good hs hopen hpc.1
    | raised exc =>
      cases scope with
      | bare => exact Good.stop hs
      | reconciliation => exact hdefer exc hpc.2
      | boundary => exact boundaryRaised_good hstay hsnap hpc.2 exc
      | call => exact sentRaised_good hstay hsnap hpc.2.1 hpc.2.2 exc
    | _ => exact hstay

end StopBot.Worker
