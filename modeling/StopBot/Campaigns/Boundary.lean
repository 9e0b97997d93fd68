import StopBot.Campaigns.Coherence
import StopBot.Campaigns.Rules

/-!
# A campaign is created once

Once an execution has let out a campaign request that is not proven to have
stayed, no other execution for the run lets anything out. The executor ends such
an attempt as a success or as a partial failure, so the boundary of the task is
never taken away; a later claim stops at it, and a resume is refused by it.
-/

namespace StopBot.Campaigns

open Lib Tasks Calls

-- ------------------------------------------------------------
-- The executor after a campaign request
-- ------------------------------------------------------------

def Request.createsCampaign : Request → Bool
  | .graph .campaigns _ => true
  | _ => false

def dispatches : Monitor Bool Await Answer where
  next sent await answer := sent || (await.request.createsCampaign && !answer.undispatched)
  allowed _ _ := True
  admits _ _ _ := True

/-- Something is created: whatever fails from here on is a partial failure. -/
def HasCreated (_ : Bool) (s : ExecState) : Prop := s.created.hasCreated = true

section
variable {ε : Type} {α : Type}

theorem emit_created : Triple dispatches HasCreated (emit : Exec ε Unit)
    (fun g _ s => HasCreated g s) (fun g _ s => HasCreated g s) :=
  .emit (fun _ _ _ => trivial) fun _ _ _ hs _ => hs

theorem ask_created (request : Request) : Triple dispatches HasCreated
    (Exec.ask request : Exec ε Answer) (fun g _ s => HasCreated g s)
    (fun g _ s => HasCreated g s) :=
  .ask (fun _ _ _ => trivial) fun _ _ _ hs _ => hs

theorem setStage_created (stage : Stage) : Triple dispatches HasCreated
    (setStage stage : Exec ε Unit) (fun g _ s => HasCreated g s) (fun g _ s => HasCreated g s) :=
  .modify fun _ _ hs => hs

theorem createObject_created (edge : Edge) (body : Obj) (what : String) :
    Triple dispatches HasCreated (createObject edge body what) (fun g _ s => HasCreated g s)
      (fun g _ s => HasCreated g s) :=
  .bind (ask_created _) fun answer => .bind (objectOf_keeps answer) fun response =>
    extractId_keeps response what

theorem createAdset_created (campaignId : String) (spec : AdsetSpec) (index : Nat) :
    Triple dispatches HasCreated (createAdset campaignId spec index) (fun g _ s => HasCreated g s)
      (fun g _ s => HasCreated g s) := by
  refine .bind (createObject_created _ _ _) fun adsetId => .bind (.modify fun g s hs => ?_)
    fun _ => .bind emit_created fun _ => .pure fun _ _ hs => hs
  simp [HasCreated, CreatedIds.hasCreated]

theorem createAdsets_created (campaignId : String) (specs : List (AdsetSpec × Nat)) :
    Triple dispatches HasCreated (createAdsets campaignId specs) (fun g _ s => HasCreated g s)
      (fun g _ s => HasCreated g s) := by
  induction specs with
  | nil => exact .pure fun _ _ hs => hs
  | cons item rest ih =>
    exact .bind (createAdset_created campaignId item.1 item.2) fun adsetId =>
      .bind ih fun adsetIds => .pure fun _ _ hs => hs

theorem countUpload_created : Triple dispatches HasCreated countUpload
    (fun g _ s => HasCreated g s) (fun g _ s => HasCreated g s) :=
  .bind (.modify fun _ _ hs => hs) fun _ => emit_created

theorem uploadMedia_created (cfg : CampaignConfig) (ad : UniquifiedAd) :
    Triple dispatches HasCreated (uploadMedia cfg ad) (fun g _ s => HasCreated g s)
      (fun g _ s => HasCreated g s) := by
  unfold uploadMedia
  cases ad.kind with
  | video =>
    refine .bind (ask_created _) fun answer => .bind (valueOf_keeps answer) fun videoId =>
      .bind (.modify fun g s hs => ?_) fun _ => .bind (ask_created _) fun ready =>
        .bind (doneOf_keeps ready) fun _ => .bind (ask_created _) fun answer' =>
          .bind (valueOf_keeps answer') fun thumbUrl => .bind countUpload_created fun _ =>
            .pure fun _ _ hs => hs
    simp [HasCreated, CreatedIds.hasCreated]
  | image =>
    refine .bind (ask_created _) fun answer => .bind (valueOf_keeps answer) fun imageHash =>
      .bind (.modify fun g s hs => ?_) fun _ => .bind countUpload_created fun _ =>
        .pure fun _ _ hs => hs
    simp [HasCreated, CreatedIds.hasCreated]

theorem createAd_created (cfg : CampaignConfig) (adsetId : String) (ad : UniquifiedAd) :
    Triple dispatches HasCreated (createAd cfg adsetId ad) (fun g _ s => HasCreated g s)
      (fun g _ s => HasCreated g s) := by
  refine .bind (setStage_created _) fun _ => .bind (uploadMedia_created cfg ad) fun body =>
    .bind (setStage_created _) fun _ => .bind (createObject_created _ _ _) fun creativeId =>
      .bind (.modify fun g s hs => ?_) fun _ => .bind emit_created fun _ =>
        .bind (ask_created _) fun _ => .bind (createObject_created _ _ _) fun adId =>
          .bind (.modify fun g s hs => ?_) fun _ => emit_created
  · simp [HasCreated, CreatedIds.hasCreated]
  · simp [HasCreated, CreatedIds.hasCreated]

/-- Between two campaigns: a request that may have been sent has created
something. -/
def Settled (sent : Bool) (s : ExecState) : Prop := sent = true → s.created.hasCreated = true

/-- A failure after a request that may have been sent is told apart from a
refusal before it. -/
def Told (sent : Bool) (exc : Raised) (s : ExecState) : Prop :=
  sent = true → s.created.hasCreated = true ∨
    (s.progress.campaignCreateAttempted = true ∧ exc.cls.preDispatch = false)

theorem Settled.told {sent : Bool} {s : ExecState} (h : Settled sent s) (exc : Raised) :
    Told sent exc s := fun hsent => .inl (h hsent)

theorem createCampaign_told (body : Obj) :
    Triple dispatches Settled (createCampaign body) (fun _ _ _ => True) Told := by
  refine .via (fun g answer s => Settled g s ∨ answer.undispatched = false)
    (.ask (fun _ _ _ => trivial) fun g s answer hs _ => ?_) fun answer =>
    .via (fun g _ s => Settled g s ∨
      (answer.undispatched = false ∧ s.progress.campaignCreateAttempted = true))
    (.modify fun g s hs => ?_) fun _ => .via (fun g _ s => Settled g s ∨
      s.progress.campaignCreateAttempted = true) ?_ fun response => ?_
  · cases hu : answer.undispatched with
    | false => exact .inr rfl
    | true =>
      refine .inl fun hsent => hs ?_
      simpa [dispatches, hu] using hsent
  · obtain hs | hu := hs
    · exact .inl hs
    · have hproven : answer.provenNotDispatched = false := by
        cases answer <;> simp_all [Answer.undispatched, Answer.provenNotDispatched]
      exact .inr ⟨hu, by simp [hproven]⟩
  · cases answer with
    | object response => exact .pure fun g s hs => hs.imp id And.right
    | done =>
      exact .raise fun g s hs hsent => hs.elim (fun hs => .inl (hs hsent)) fun hs =>
        .inr ⟨hs.2, rfl⟩
    | value text =>
      exact .raise fun g s hs hsent => hs.elim (fun hs => .inl (hs hsent)) fun hs =>
        .inr ⟨hs.2, rfl⟩
    | raised exc notDispatched =>
      refine .raise fun g s hs hsent => hs.elim (fun hs => .inl (hs hsent)) fun hs =>
        .inr ⟨hs.2, ?_⟩
      have hu := hs.1
      simp only [Answer.undispatched, Bool.or_eq_false_iff] at hu
      exact hu.2
  · unfold extractId
    simp only
    split
    · exact .pure fun _ _ _ => trivial
    · exact .raise fun g s hs hsent => hs.elim (fun hs => .inl (hs hsent)) fun hs => .inr ⟨hs, rfl⟩

theorem planBlock_settled (cfg : CampaignConfig) (spec : BlockSpec) (concepts : List ConceptInput)
    (codeStart : Nat) :
    Triple dispatches Settled (planBlock cfg spec concepts codeStart) (fun g _ s => Settled g s)
      Told := by
  unfold planBlock
  split
  · split
    · exact .pure fun _ _ hs => hs
    · exact .raise fun _ _ hs => hs.told _
  · exact .raise fun _ _ hs => hs.told _

theorem executeBlock_told (cfg : CampaignConfig) (spec : BlockSpec) (concepts : List ConceptInput)
    (codeStart : Nat) :
    Triple dispatches Settled (executeBlock cfg spec concepts codeStart)
      (fun g _ s => Settled g s) Told := by
  have hcreated : ∀ {α : Type} {part : Exec Raised α}, Triple dispatches HasCreated part
      (fun g _ s => HasCreated g s) (fun g _ s => HasCreated g s) →
      Triple dispatches HasCreated part (fun g _ s => HasCreated g s) Told :=
    fun h => h.imp (fun _ _ hs => hs) (fun _ _ _ hs => hs) fun _ _ _ hs _ => .inl hs
  refine .bind (planBlock_settled cfg spec concepts codeStart) fun plan =>
    .via (fun g _ s => Settled g s) (.modify fun _ _ hs => hs) fun _ =>
    .via (fun g _ s => Settled g s)
      (.emit (fun _ _ _ => trivial) fun g s answer hs _ => ?_) fun _ =>
    .via (fun g _ s => Settled g s)
      (.ask (fun _ _ _ => trivial) fun g s answer hs _ => ?_) fun answer =>
    .via (fun g _ s => Settled g s) ((doneOf_keeps answer).imp (fun _ _ hs => hs)
      (fun _ _ _ hs => hs) fun _ exc _ hs => hs.told exc) fun _ =>
    .via (fun g _ s => Settled g s) (.modify fun _ _ hs => hs) fun _ =>
    .bind (createCampaign_told spec.body) fun campaignId =>
    .via (fun g _ s => HasCreated g s) (.modify fun g s _ => ?_) fun _ =>
    .bind (hcreated emit_created) fun _ =>
    .bind (hcreated (createAdsets_created campaignId _)) fun adsetIds =>
    .bind (hcreated (setStage_created _)) fun _ => .bind (hcreated emit_created) fun _ => ?_
  · simpa [dispatches, Request.createsCampaign] using hs
  · simpa [dispatches, Request.createsCampaign] using hs
  · simp [HasCreated, CreatedIds.hasCreated]
  · refine Triple.imp (Triple.each fun item _ => hcreated (.each fun ad _ =>
      createAd_created cfg item.1 ad)) (fun _ _ hs => hs) (fun _ _ _ hs _ => hs) fun _ _ _ hs => hs

theorem releases_of_told {sent : Bool} {exc : Raised} {s : ExecState} {step : String}
    (h : Told sent exc s) (hsent : sent = true) :
    (raiseForFailure s exc step).releases = false := by
  unfold raiseForFailure
  obtain hcreated | ⟨hattempted, hcls⟩ := h hsent
  · simp [hcreated, Failure.releases]
  · by_cases hcreated : s.created.hasCreated = true <;>
      simp [hcreated, hcls, hattempted, Failure.releases]

theorem executeBlocks_told (cfg : CampaignConfig) (concepts : List (String × List ConceptInput))
    (codeStart : Nat) (specs : List BlockSpec) :
    Triple dispatches Settled (executeBlocks cfg concepts codeStart specs)
      (fun g _ s => Settled g s) (fun g failure _ => g = true → failure.releases = false) := by
  induction specs generalizing codeStart with
  | nil => exact .pure fun _ _ hs => hs
  | cons spec rest ih =>
    unfold executeBlocks
    simp only
    split
    · refine .via (fun g _ s => Settled g s) (fun g s hs => ?_) fun _ => ih _
      exact fun hsent => releases_of_told (hs.told _) hsent
    · refine .via (fun g _ s => Settled g s) ?_ fun _ => ih _
      refine .catching (executeBlock_told cfg spec _ codeStart) fun g exc s htold => ?_
      exact fun hsent => releases_of_told htold hsent

/-- An execution that may have sent a campaign request never ends in a release. -/
theorem executeCampaignSpec_told (cfg : CampaignConfig) (specs : List BlockSpec)
    (concepts : List (String × List ConceptInput)) :
    Meets dispatches (Ends (fun _ _ _ => True) fun g failure _ =>
      g = true → failure.releases = false) false (executeCampaignSpec cfg specs concepts {}) := by
  have htriple : Triple dispatches Settled (executeCampaignSpec cfg specs concepts)
      (fun _ _ _ => True) fun g failure _ => g = true → failure.releases = false := by
    unfold executeCampaignSpec
    split
    · exact .raise fun _ _ _ _ => rfl
    · refine .bind (executeBlocks_told cfg concepts _ specs) fun _ =>
        .via (fun _ _ _ => True) (.modify fun _ _ _ => trivial) fun _ =>
        .via (fun _ _ _ => True) (.emit (fun _ _ _ => trivial) fun _ _ _ _ _ => trivial)
          fun _ => fun _ _ _ => trivial
  exact htriple false {} fun hsent => by cases hsent

end

-- ------------------------------------------------------------
-- The log of an execution
-- ------------------------------------------------------------

def Issue.by (task token : Nat) (e : Issue) : Bool := e.task == task && e.token == token

def Issue.exposes (e : Issue) : Bool := e.request.createsCampaign && !e.proven

def proveHead : List Issue → List Issue
  | [] => []
  | e :: rest => { e with proven := true } :: rest

section
variable {task token task' token' : Nat} {log : List Issue}

theorem by_iff {e : Issue} : e.by task token = true ↔ e.task = task ∧ e.token = token := by
  simp [Issue.by]

theorem filter_settle_self :
    (settle task token log).filter (Issue.by task token) =
      proveHead (log.filter (Issue.by task token)) := by
  induction log with
  | nil => rfl
  | cons e rest ih =>
    unfold settle
    split
    next h =>
      have hby : e.by task token = true := by_iff.mpr h
      have hby' : ({ e with proven := true } : Issue).by task token = true := by_iff.mpr h
      rw [List.filter_cons_of_pos hby', List.filter_cons_of_pos hby, proveHead]
    next h =>
      have hby : ¬ e.by task token = true := fun hby => h (by_iff.mp hby)
      rw [List.filter_cons_of_neg hby, List.filter_cons_of_neg hby, ih]

theorem filter_settle_other (hne : ¬ (task' = task ∧ token' = token)) :
    (settle task token log).filter (Issue.by task' token') =
      log.filter (Issue.by task' token') := by
  induction log with
  | nil => rfl
  | cons e rest ih =>
    unfold settle
    split
    next h =>
      have hby : ¬ e.by task' token' = true := by
        intro hby
        obtain ⟨h₁, h₂⟩ := by_iff.mp hby
        exact hne ⟨h₁.symm.trans h.1, h₂.symm.trans h.2⟩
      have hby' : ¬ ({ e with proven := true } : Issue).by task' token' = true := hby
      rw [List.filter_cons_of_neg hby', List.filter_cons_of_neg hby]
    next h => rw [List.filter_cons, List.filter_cons, ih]

theorem mem_settle {e : Issue} (h : e ∈ settle task token log) :
    ∃ old ∈ log, e.run = old.run ∧ e.task = old.task ∧ e.token = old.token ∧
      e.request = old.request ∧ (e.exposes = true → old.exposes = true) := by
  induction log with
  | nil => cases h
  | cons e' rest ih =>
    unfold settle at h
    split at h
    · rcases List.mem_cons.mp h with rfl | h
      · refine ⟨e', List.mem_cons_self, rfl, rfl, rfl, rfl, fun hx => ?_⟩
        simp [Issue.exposes] at hx
      · exact ⟨e, List.mem_cons_of_mem _ h, rfl, rfl, rfl, rfl, id⟩
    · rcases List.mem_cons.mp h with rfl | h
      · exact ⟨e, List.mem_cons_self, rfl, rfl, rfl, rfl, id⟩
      · obtain ⟨old, hold, hkeys⟩ := ih h
        exact ⟨old, List.mem_cons_of_mem _ hold, hkeys⟩

def Once (newer older : Issue) : Prop :=
  older.exposes = true → newer.run = older.run → newer.task = older.task ∧ newer.token = older.token

theorem settle_once (h : log.Pairwise Once) : (settle task token log).Pairwise Once := by
  induction log with
  | nil => exact .nil
  | cons e rest ih =>
    obtain ⟨he, hrest⟩ := List.pairwise_cons.mp h
    unfold settle
    split
    · exact List.pairwise_cons.mpr ⟨fun older hold => he older hold, hrest⟩
    · refine List.pairwise_cons.mpr ⟨fun older hold hx hrun => ?_, ih hrest⟩
      obtain ⟨old, hmem, hkeys⟩ := mem_settle hold
      obtain ⟨hr, ht, hk, -, hexposed⟩ := hkeys
      rw [ht, hk]
      exact he old hmem (hexposed hx) (hrun.trans hr)

end

-- ------------------------------------------------------------
-- Workers and the log
-- ------------------------------------------------------------

def ProgramOk (sent : Bool) (program : Program) : Prop :=
  Meets dispatches (Ends (fun _ _ _ => True) fun g failure _ =>
    g = true → failure.releases = false) sent program

def Known (mine : List Issue) : Pc → Prop
  | .load | .created | .control | .prepare | .recheck => ∀ e ∈ mine, e.exposes = false
  | .start program | .enter program => ProgramOk false program ∧ ∀ e ∈ mine, e.exposes = false
  | .executing program phase =>
    ∃ sent, ProgramOk sent program ∧
      if phase = .inFlight then
        ∃ await next e rest, program = .call await next ∧ await.request.external = true ∧
          mine = e :: rest ∧ e.request = await.request ∧
          ∀ e ∈ rest, e.exposes = true → sent = true
      else ∀ e ∈ mine, e.exposes = true → sent = true
  | .persist _ tx | .reset tx | .last tx =>
    (∃ e ∈ mine, e.exposes = true) → ∀ error, tx ≠ .release error
  | .crashed => True

section
variable {clk : Clock} {task token : Nat} {s s' : Session} {st : Store} {reply : Reply}
  {utcOffset : String → String → String} {mine : List Issue}

def mineAfter (task token : Nat) (s : Session) (o : Outcome) (mine : List Issue) : List Issue :=
  (o.issue.map fun request => { run := s.run.getD 0, task, token, request : Issue }).toList ++
    if o.settled then proveHead mine else mine

theorem mineAfter_silent {o : Outcome} (h : o.Silent) : mineAfter task token s o mine = mine := by
  simp [mineAfter, h.issue, h.settled]

theorem known_tx {pc : Pc} {tx : Tx} (htx : pc.tx? = some tx)
    (h : (∃ e ∈ mine, e.exposes = true) → ∀ error, tx ≠ .release error) : Known mine pc := by
  cases pc <;> cases htx <;> exact h

theorem Known.tx {pc : Pc} {tx : Tx} (h : Known mine pc) (htx : pc.tx? = some tx) :
    (∃ e ∈ mine, e.exposes = true) → ∀ error, tx ≠ .release error := by
  cases pc <;> cases htx <;> exact h

theorem Known.follows_tx (h : Known mine s.pc) (hfollows : Follows s st s') {tx : Tx}
    (htx : s'.pc.tx? = some tx) : Known mine s'.pc := by
  refine known_tx htx fun hexposed error herror => ?_
  subst herror
  obtain hold | ⟨failure, state, phase, hpc, hrelease⟩ := hfollows.tx _ htx
  · exact h.tx hold hexposed error rfl
  · -- an execution that may have sent its campaign does not end in a release
    rw [hpc] at h
    obtain ⟨sent, hprogram, hmine⟩ := h
    split at hmine
    · obtain ⟨await, next, e, rest, hcall, -⟩ := hmine
      cases hcall
    · obtain ⟨e, he, hx⟩ := hexposed
      have hnot := hprogram (hmine e he hx)
      rw [hnot] at hrelease
      cases hrelease

theorem exposes_createsCampaign {e : Issue} (h : e.exposes = true) :
    e.request.createsCampaign = true := by
  simp only [Issue.exposes, Bool.and_eq_true] at h
  exact h.1

theorem not_createsCampaign {request : Request} (h : request.external = false) :
    request.createsCampaign = false := by
  cases request <;> first | rfl | cases h

theorem Known.executing {program : Program} {phase : AwaitPhase}
    (hpc : s.pc = .executing program phase) (h : Known mine s.pc)
    (hs' : (atExecuting clk task s program phase reply st).session = some s') :
    Known (mineAfter task token s (atExecuting clk task s program phase reply st) mine) s'.pc := by
  have hfollows := atExecuting_follows hpc hs'
  have hran : Ran clk task s program phase st (atExecuting clk task s program phase reply st) :=
    atExecuting_ran
  have hknown := h
  rw [hpc] at hknown
  obtain ⟨sent, hprogram, hmine⟩ := hknown
  cases hran with
  | leaves hnone silent =>
    rw [hs'] at hnone
    cases hnone
  | closes hsome htx silent =>
    rw [hs'] at hsome
    cases hsome
    rw [mineAfter_silent silent]
    exact h.follows_tx hfollows htx
  | @waits _ phase' hsome pc flight silent =>
    rw [hs'] at hsome
    cases hsome
    rw [mineAfter_silent silent, pc]
    exact ⟨sent, hprogram, by simpa only [flight] using hmine⟩
  | @answers _ await next answer hsome at' stays pc silent =>
    rw [hs'] at hsome
    cases hsome
    rw [mineAfter_silent silent, pc]
    subst at'
    split at hmine
    · obtain ⟨await, next, e, rest, hcall, hexternal, -⟩ := hmine
      cases hcall
      rw [stays] at hexternal
      cases hexternal
    · refine ⟨sent, ?_, by simpa using hmine⟩
      have hnext := hprogram.2 answer trivial
      simpa [dispatches, not_createsCampaign stays, ProgramOk] using hnext
  | @fails _ await next exc hsome at' ready pc silent =>
    rw [hs'] at hsome
    cases hsome
    rw [mineAfter_silent silent, pc]
    subst at' ready
    have hnext := hprogram.2 (.raised exc.raised false) trivial
    refine ⟨_, hnext, ?_⟩
    simp only [reduceCtorEq, if_false] at hmine ⊢
    intro e he hx
    simp [dispatches, hmine e he hx]
  | @issues _ await next _ _ hsome at' leaves ready begun store pc issue settled =>
    rw [hs'] at hsome
    cases hsome
    subst ready
    rw [pc]
    refine ⟨sent, hprogram, ?_⟩
    simp only [if_true]
    refine ⟨await, next, { run := s.run.getD 0, task, token, request := await.request }, mine, at',
      leaves, by simp [mineAfter, issue, settled], rfl, ?_⟩
    simpa using hmine
  | @settles _ await next answer hsome at' flight pc issue settled =>
    rw [hs'] at hsome
    cases hsome
    subst at' flight
    rw [pc]
    simp only [if_true] at hmine
    obtain ⟨await, next, e, rest, hcall, hexternal, rfl, hrequest, hrest⟩ := hmine
    cases hcall
    have hnext := hprogram.2 answer trivial
    refine ⟨_, hnext, ?_⟩
    simp only [reduceCtorEq, if_false, mineAfter, issue, settled, Option.map_none,
      Option.toList_none, List.nil_append]
    intro e' he' hx
    cases hu : answer.undispatched with
    | true =>
      simp only [hu, if_true, proveHead] at he'
      rcases List.mem_cons.mp he' with rfl | he'
      · simp [Issue.exposes] at hx
      · simp [dispatches, hrest e' he' hx]
    | false =>
      simp only [hu, Bool.false_eq_true, if_false] at he'
      rcases List.mem_cons.mp he' with rfl | he'
      · have hcampaign := exposes_createsCampaign hx
        rw [hrequest] at hcampaign
        simp [dispatches, hcampaign, hu]
      · simp [dispatches, hrest e' he' hx]

theorem Known.advance (h : Known mine s.pc)
    (hs' : (advance utcOffset clk task s reply st).session = some s') :
    Known (mineAfter task token s (advance utcOffset clk task s reply st) mine) s'.pc := by
  by_cases hexec : ∃ program phase, s.pc = .executing program phase
  · obtain ⟨program, phase, hpc⟩ := hexec
    simp only [Campaigns.advance, hpc] at hs' ⊢
    exact h.executing hpc hs'
  · have hquiet : Quiet utcOffset clk task s st (Campaigns.advance utcOffset clk task s reply st) :=
      advance_quiet fun program phase hpc => hexec ⟨program, phase, hpc⟩
    have hstep := hquiet.pc s' hs'
    have hfollows := advance_follows hs'
    rw [mineAfter_silent hquiet.silent]
    generalize hpc' : s'.pc = pc' at hstep ⊢
    cases hstep with
    | stays => exact h
    | closes htx => exact hpc' ▸ h.follows_tx hfollows (by rw [hpc']; exact htx)
    | crashes => trivial
    | created hpc =>
      rw [hpc] at h
      exact h
    | control hpc =>
      rw [hpc] at h
      exact h
    | prepare hpc clear =>
      rw [hpc] at h
      exact h
    | start hpc config built =>
      rw [hpc] at h
      exact ⟨executeCampaignSpec_told _ _ _, h⟩
    | recheck hpc =>
      rw [hpc] at h
      exact h.2
    | enter hpc =>
      rw [hpc] at h
      exact h
    | executing hpc =>
      rw [hpc] at h
      refine ⟨false, h.1, ?_⟩
      simp only [reduceCtorEq, if_false]
      intro e he hx
      rw [h.2 e he] at hx
      cases hx

end

-- ------------------------------------------------------------
-- The seal on a run
-- ------------------------------------------------------------

def Pc.barred : Pc → Prop
  | .load | .created | .control | .crashed => True
  | .persist _ tx | .reset tx | .last tx => ∀ error, tx ≠ .release error
  | .prepare | .start _ | .recheck | .enter _ | .executing _ _ => False

/-- After an exposed request its task stays the latest of the run, with the
boundary on it, and later claims of it are stopped. -/
structure Sealed (s : Sys) (e : Issue) (row : TaskRow) : Prop where
  latest : Latest s.store e.run e.task row
  boundary : row.externalStartedAt.isSome = true
  token : e.token ≤ row.leaseToken
  barred : ∀ token session, e.token < token → s.sessions e.task token = some session →
    session.pc.barred

structure Sys.OnceOk (s : Sys) : Prop where
  ok : s.Ok
  known : ∀ task token session, s.sessions task token = some session →
    Known (s.log.filter (Issue.by task token)) session.pc
  seals : ∀ e ∈ s.log, e.exposes = true → ∃ row, Sealed s e row
  once : s.log.Pairwise Once

section
variable {clk : Clock} {s : Sys} {utcOffset : String → String → String}

theorem worked_filter {task token : Nat} {session : Session} {o : Outcome} (t k : Nat) :
    (s.worked task token session o).log.filter (Issue.by t k) =
      if t = task ∧ k = token then
        mineAfter task token session o (s.log.filter (Issue.by task token))
      else s.log.filter (Issue.by t k) := by
  simp only [Sys.worked, List.filter_append]
  by_cases hmine : t = task ∧ k = token
  · obtain ⟨rfl, rfl⟩ := hmine
    have hself : t = t ∧ k = k := ⟨rfl, rfl⟩
    rw [if_pos hself, mineAfter]
    congr 1
    · cases o.issue with
      | none => rfl
      | some request => simp [Issue.by]
    · cases o.settled
      · rfl
      · exact filter_settle_self
  · rw [if_neg hmine]
    have hnew : (o.issue.map fun request =>
        { run := session.run.getD 0, task, token, request : Issue }).toList.filter
          (Issue.by t k) = [] := by
      cases o.issue with
      | none => rfl
      | some request =>
        have hby : ¬ ({ run := session.run.getD 0, task, token, request : Issue }).by t k = true :=
          fun hby => hmine ⟨(by_iff.mp hby).1.symm, (by_iff.mp hby).2.symm⟩
        simp [hby]
    rw [hnew, List.nil_append]
    cases o.settled
    · rfl
    · exact filter_settle_other hmine

theorem Move.boundary {row row' : TaskRow} {run run' : CampaignRun} (h : Move row run row' run')
    (hrow : row.externalStartedAt.isSome = true) : row'.externalStartedAt.isSome = true := by
  cases h with
  | note status boundary frozen => exact boundary hrow
  | work running active created => exact hrow
  | close wasOpen terminal together boundary =>
    rw [boundary]
    exact hrow
  | requeue running status boundary =>
    rw [boundary]
    exact hrow

theorem MovedAt.latest {M : TaskRow → CampaignRun → TaskRow → CampaignRun → Prop}
    {st st' : Store} {task r : Nat} {row row' : TaskRow} {run run' : CampaignRun}
    (h : MovedAt M st st' task r row row' run run') {i t : Nat} {rowt : TaskRow}
    (hlatest : Latest st i t rowt) :
    Latest st' i t (if t = task then row' else rowt) := by
  refine ⟨?_, ?_, fun other rowo hrow hof => ?_⟩
  · rw [h.rows]
    split
    · rfl
    · exact hlatest.stored
  · split
    next ht =>
      have hrow := hlatest.stored
      rw [ht, h.storedRow] at hrow
      cases hrow
      rw [ofRun_congr h.kept.payload]
      exact hlatest.of
    · exact hlatest.of
  · rw [h.rows] at hrow
    split at hrow
    next ho =>
      cases hrow
      rw [ofRun_congr h.kept.payload] at hof
      exact hlatest.last other row (by rw [ho]; exact h.storedRow) hof
    · exact hlatest.last other rowo hrow hof

theorem Latest.inserted {st st' : Store} {i t : Nat} {rowt new : TaskRow}
    (hlatest : Latest st i t rowt)
    (hrows : ∀ j, st'.queue.rows j = if j = st.queue.next then some new else st.queue.rows j)
    (hnew : ofRun (runText i) new ≠ true) : Latest st' i t rowt := by
  have hne : t ≠ st.queue.next := Nat.ne_of_lt (Table.lt_next_of_rows hlatest.stored)
  refine ⟨by rw [hrows, if_neg hne]; exact hlatest.stored, hlatest.of,
    fun other rowo hrow hof => ?_⟩
  rw [hrows] at hrow
  split at hrow
  · cases hrow
    exact absurd hof hnew
  · exact hlatest.last other rowo hrow hof

theorem token_of_held {task token r : Nat} {session : Session} {row : TaskRow} {st : Store}
    (hsession : SessionOk st task token session row r)
    (hheld : row.heldBy clk session.fence = true) : token = row.leaseToken := by
  obtain ⟨owner, hf, -⟩ := fencedBy_iff.mp (heldBy_iff.mp hheld).2.1
  have htok := congrArg Fence.token hf
  simp only [Session.fence, Option.some.injEq] at htok
  rw [← hsession.own, htok]

theorem Sealed.row_step (hok : s.OnceOk) {e : Issue} {row : TaskRow} {label : Label} {st' : Store}
    (he : e ∈ s.log) (hx : e.exposes = true) (hsealed : Sealed s e row)
    (h : Changed s clk st' label) :
    ∃ row', Latest st' e.run e.task row' ∧ row'.externalStartedAt.isSome = true ∧
      e.token ≤ row'.leaseToken := by
  obtain ⟨hlatest, hboundary, htoken, hbarred⟩ := hsealed
  cases h with
  | same queue runs next =>
    refine ⟨row, ⟨by rw [queue]; exact hlatest.stored, hlatest.of, ?_⟩, hboundary, htoken⟩
    rw [queue]
    exact hlatest.last
  | moved about h =>
    refine ⟨_, h.latest hlatest, ?_⟩
    split
    next ht =>
      have hrow := hlatest.stored
      rw [ht, h.storedRow] at hrow
      cases hrow
      exact ⟨h.move.boundary hboundary, Nat.le_trans htoken h.kept.leaseToken⟩
    · exact ⟨hboundary, htoken⟩
  | claimed h =>
    refine ⟨_, h.latest hlatest, ?_⟩
    split
    next ht =>
      have hrow := hlatest.stored
      rw [ht, h.storedRow] at hrow
      cases hrow
      exact ⟨by rw [h.move.boundary]; exact hboundary, Nat.le_trans htoken h.kept.leaseToken⟩
    · exact ⟨hboundary, htoken⟩
  | @released task token r row₀ row' run run' reply session error worker pc held h =>
    refine ⟨_, h.latest hlatest, ?_⟩
    split
    next ht =>
      -- the worker that releases would be of this execution or a later one
      exfalso
      have hrow := hlatest.stored
      rw [ht, h.storedRow] at hrow
      cases hrow
      obtain ⟨row₁, r₁, hsession⟩ := hok.ok.sessions task token session worker
      have hstored := hsession.stored
      rw [h.storedRow] at hstored
      cases hstored
      have hown := token_of_held hsession held
      rcases Nat.lt_or_eq_of_le htoken with hlt | heq
      · have hb := hbarred token session (by omega) (by rw [ht]; exact worker)
        rw [pc] at hb
        exact hb error rfl
      · have hknown := hok.known task token session worker
        rw [pc] at hknown
        refine hknown ⟨e, ?_, hx⟩ error rfl
        rw [List.mem_filter, by_iff]
        exact ⟨he, ht, by omega⟩
    · exact ⟨hboundary, htoken⟩
  | resumed latest stored available task queued rows runs next =>
    refine ⟨row, hlatest.inserted rows fun hof => ?_, hboundary, htoken⟩
    -- a resume of the run would have found the boundary
    obtain rfl := ofRun_unique hof task.2.1
    obtain ⟨-, hsame⟩ := (latestTask_latest hok.ok.store latest).unique hlatest
    have hnone := (resume_terminal available).2
    rw [hsame] at hnone
    rw [hnone] at hboundary
    cases hboundary
  | @launched id base launch correlation launching stage h =>
    obtain ⟨r, run, hrun, hof⟩ := hok.ok.store.named e.task row hlatest.stored
    obtain rfl := ofRun_unique hof hlatest.of
    have hne : e.run ≠ id := by
      rintro rfl
      rw [(hok.ok.reserved _ launch launching).2] at hrun
      cases hrun
    subst h
    obtain hqueue | hqueue := commitLaunch_queue id base launch correlation s.store s.launches
    · refine ⟨row, ⟨by rw [hqueue]; exact hlatest.stored, hlatest.of, ?_⟩, hboundary, htoken⟩
      rw [hqueue]
      exact hlatest.last
    · refine ⟨row, hlatest.inserted (fun j => by rw [hqueue, Table.insert_rows]) fun hofNew =>
        hne ?_,
        hboundary, htoken⟩
      exact ofRun_unique hofNew (launchTask_of ..)

theorem Pc.barred_of_tx {pc : Pc} {tx : Tx} (htx : pc.tx? = some tx)
    (h : ∀ error, tx ≠ .release error) : pc.barred := by
  cases pc <;> cases htx <;> exact h

theorem Pc.barred_tx {pc : Pc} {tx : Tx} (h : pc.barred) (htx : pc.tx? = some tx) :
    ∀ error, tx ≠ .release error := by
  cases pc <;> cases htx <;> exact h

/-- A worker that was claimed with the boundary on its task stops at it. -/
theorem barred_advance {task : Nat} {session session' : Session} {reply : Reply} {st : Store}
    {row : TaskRow} (hrow : st.queue.rows task = some row)
    (hboundary : row.externalStartedAt.isSome = true) (h : session.pc.barred)
    (hs' : (advance utcOffset clk task session reply st).session = some session') :
    session'.pc.barred := by
  have hexec : ∀ program phase, session.pc ≠ .executing program phase := by
    intro program phase hpc
    rw [hpc] at h
    exact h
  have hquiet : Quiet utcOffset clk task session st
    (advance utcOffset clk task session reply st) := advance_quiet hexec
  have hstep := hquiet.pc session' hs'
  have hfollows := advance_follows hs'
  generalize hpc' : session'.pc = pc' at hstep ⊢
  cases hstep with
  | stays => exact h
  | @closes _ tx htx =>
    refine Pc.barred_of_tx htx fun error herror => ?_
    subst herror
    obtain hold | ⟨failure, state, phase, hpc, -⟩ := hfollows.tx _ (by rw [hpc']; exact htx)
    · exact Pc.barred_tx h hold error rfl
    · exact hexec _ _ hpc
  | crashes => trivial
  | created hpc => trivial
  | control hpc => trivial
  | prepare hpc clear =>
    unfold check at clear
    rw [hrow] at clear
    simp only at clear
    split at clear
    · split at clear
      · cases clear
      · rw [hboundary] at clear
        cases clear
    · cases clear
  | start hpc config built =>
    rw [hpc] at h
    exact h
  | recheck hpc =>
    rw [hpc] at h
    exact h
  | enter hpc =>
    rw [hpc] at h
    exact h
  | executing hpc =>
    rw [hpc] at h
    exact h

theorem Sealed.step (hok : s.OnceOk) {e : Issue} {row : TaskRow} {label : Label}
    (he : e ∈ s.log) (hx : e.exposes = true) (hsealed : Sealed s e row) :
    ∃ row', Sealed (s.step utcOffset (clk, label)) e row' := by
  have hchanged : Changed s clk (s.step utcOffset (clk, label)).store label := hok.ok.changed label
  obtain ⟨row', hlatest, hboundary, htoken⟩ := hsealed.row_step hok he hx hchanged
  refine ⟨row', hlatest, hboundary, htoken, fun token session' hlt hs' => ?_⟩
  obtain hold | ⟨c, generation, row₁, -, -, -, -, -, rfl⟩ | ⟨session, reply, rfl, hs, hadv⟩ :=
    step_sessions hs'
  · exact hsealed.barred token session' hlt hold
  · trivial
  · exact barred_advance hsealed.latest.stored hsealed.boundary
      (hsealed.barred token session hlt hs) hadv

/-- A request is let out by a worker that holds the latest task of its run. -/
theorem advance_issue {task : Nat} {session : Session} {reply : Reply} {st : Store}
    {request : Request} (h : (advance utcOffset clk task session reply st).issue = some request) :
    ∃ program phase row row' operation, session.pc = .executing program phase ∧
      st.queue.rows task = some row ∧ row.heldBy clk session.fence = true ∧
      beginExternal clk session.fence operation session.runId row = some row' ∧
      (advance utcOffset clk task session reply st).store = st.putTask task row' := by
  by_cases hexec : ∃ program phase, session.pc = .executing program phase
  · obtain ⟨program, phase, hpc⟩ := hexec
    simp only [Campaigns.advance, hpc] at h ⊢
    have hran : Ran clk task session program phase st
      (atExecuting clk task session program phase reply st) := atExecuting_ran
    cases hran with
    | issues hsome at' leaves ready begun store pc issue settled =>
      obtain ⟨row, hrow, hheld, happly⟩ := begin_crossed begun
      exact ⟨program, phase, row, _, _, rfl, hrow, hheld, happly, store⟩
    | leaves hnone silent => simp [silent.issue] at h
    | closes hsome htx silent => simp [silent.issue] at h
    | waits hsome pc flight silent => simp [silent.issue] at h
    | answers hsome at' stays pc silent => simp [silent.issue] at h
    | fails hsome at' ready pc silent => simp [silent.issue] at h
    | settles hsome at' flight pc issue settled => simp [issue] at h
  · have hquiet : Quiet utcOffset clk task session st
        (Campaigns.advance utcOffset clk task session reply st) :=
      advance_quiet fun program phase hpc => hexec ⟨program, phase, hpc⟩
    rw [hquiet.silent.issue] at h
    cases h

theorem step_log (s : Sys) (clk : Clock) (utcOffset : String → String → String) (label : Label) :
    (s.step utcOffset (clk, label)).log = s.log ∨
      ∃ task token reply session, label = .work task token reply ∧
        s.sessions task token = some session ∧
        s.step utcOffset (clk, label) =
          s.worked task token session (advance utcOffset clk task session reply s.store) := by
  cases label with
  | work task token reply =>
    cases hs : s.sessions task token with
    | none => exact .inl (by simp only [Sys.step, hs])
    | some session => exact .inr ⟨task, token, reply, session, rfl, hs, by simp only [Sys.step, hs]⟩
  | claim task c generation =>
    simp only [Sys.step]
    split
    · split <;> exact .inl rfl
    · exact .inl rfl
  | outside task op =>
    simp only [Sys.step]
    split <;> exact .inl rfl
  | abort r actor =>
    simp only [Sys.step]
    split <;> exact .inl rfl
  | resume r actor chat correlation media =>
    simp only [Sys.step]
    split <;> exact .inl rfl
  | beginLaunch config key => exact .inl rfl
  | launch id correlation => exact .inl rfl
  | rollback id => exact .inl rfl
  | crash task token => exact .inl rfl

theorem Sys.OnceOk.exposes_token (hok : s.OnceOk) {task : Nat} {row : TaskRow}
    (hrow : s.store.queue.rows task = some row) {e : Issue}
    (he : e ∈ s.log.filter (Issue.by task (row.leaseToken + 1))) : e.exposes = false := by
  rw [List.mem_filter, by_iff] at he
  obtain ⟨hmem, htask, htoken⟩ := he
  rw [Bool.eq_false_iff]
  intro hx
  obtain ⟨row₁, hsealed⟩ := hok.seals e hmem hx
  have hstored := hsealed.latest.stored
  rw [htask, hrow] at hstored
  cases hstored
  have hle := hsealed.token
  omega

theorem Sys.OnceOk.known_step (hok : s.OnceOk) (label : Label) {task token : Nat}
    {session' : Session} (h : (s.step utcOffset (clk, label)).sessions task token = some session') :
    Known ((s.step utcOffset (clk, label)).log.filter (Issue.by task token)) session'.pc := by
  obtain hold | ⟨c, generation, row, rfl, hrow, -, rfl, -, rfl⟩ |
      ⟨session, reply, rfl, hs, hadv⟩ := step_sessions h
  · have hknown := hok.known task token session' hold
    obtain hlog | ⟨t, k, reply, session, rfl, hs, hstep⟩ := step_log s clk utcOffset label
    · rw [hlog]
      exact hknown
    · rw [hstep, worked_filter]
      split
      next heq =>
        obtain ⟨rfl, rfl⟩ := heq
        rw [hs] at hold
        cases hold
        rw [hstep] at h
        simp only [Sys.worked, Sys.set, and_self, if_true] at h
        exact hknown.advance h
      · exact hknown
  · obtain hlog | ⟨t, k, reply, session, hlabel, -, -⟩ := step_log s clk utcOffset
      (.claim task c generation)
    · rw [hlog]
      exact fun e he => hok.exposes_token hrow he
    · cases hlabel
  · have hstep : s.step utcOffset (clk, .work task token reply) =
        s.worked task token session (advance utcOffset clk task session reply s.store) := by
      simp only [Sys.step, hs]
    rw [hstep, worked_filter, if_pos ⟨rfl, rfl⟩]
    exact (hok.known task token session hs).advance hadv

def issueOf (task token : Nat) (session : Session) (request : Request) : Issue :=
  { run := session.run.getD 0, task, token, request }

/-- The worker that lets a request out holds the task, so nothing exposes the run
but requests of its own. -/
theorem Sys.OnceOk.issue_once (hok : s.OnceOk) {task token : Nat} {session : Session}
    {reply : Reply} {request : Request} (hs : s.sessions task token = some session)
    (h : (advance utcOffset clk task session reply s.store).issue = some request) {older : Issue}
    (hold : older ∈ s.log) : Once (issueOf task token session request) older := by
  intro hx hrun
  obtain ⟨program, phase, row, row', operation, hpc, hrow, hheld, -, -⟩ := advance_issue h
  obtain ⟨row₁, r, hsession⟩ := hok.ok.sessions task token session hs
  have hstored := hsession.stored
  rw [hrow] at hstored
  cases hstored
  have hrun : older.run = r := by
    rw [← hrun, issueOf, hsession.run]
    rfl
  obtain ⟨row₂, hsealed⟩ := hok.seals older hold hx
  have hopen := terminal_of_running (heldBy_iff.mp hheld).1
  have hlatest := hok.ok.store.latest_of_open hrow hsession.of hopen
  obtain ⟨rfl, rfl⟩ := hlatest.unique (hrun ▸ hsealed.latest)
  have htoken := token_of_held hsession hheld
  refine ⟨rfl, ?_⟩
  rcases Nat.lt_or_eq_of_le hsealed.token with hlt | heq
  · have hbarred := hsealed.barred token session (by omega) hs
    rw [hpc] at hbarred
    exact hbarred.elim
  · simp only [issueOf]
    omega

theorem Sys.OnceOk.issue_sealed (hok : s.OnceOk) {task token : Nat} {session : Session}
    {reply : Reply} {request : Request} (hs : s.sessions task token = some session)
    (h : (advance utcOffset clk task session reply s.store).issue = some request) :
    ∃ row', Sealed (s.step utcOffset (clk, .work task token reply))
      (issueOf task token session request) row' := by
  obtain ⟨program, phase, row, row', operation, -, hrow, hheld, happly, hstore⟩ := advance_issue h
  obtain ⟨row₁, r, hsession⟩ := hok.ok.sessions task token session hs
  have hstored := hsession.stored
  rw [hrow] at hstored
  cases hstored
  obtain ⟨r', run, hrun, hof⟩ := hok.ok.store.named task row hrow
  obtain rfl := ofRun_unique hof hsession.of
  obtain ⟨hkept, hstatus, hmarked, hmove⟩ : TaskKept row row' ∧ _ ∧ _ ∧ Move row run row' run :=
    begin_moved happly
  have hmoved : MovedAt Move s.store (s.store.putTask task row') task r' row row' run run :=
    movedAt_task hrow hrun hof hkept hmove
  have hopen := terminal_of_running (heldBy_iff.mp hheld).1
  have hlatest := hmoved.latest (hok.ok.store.latest_of_open hrow hof hopen)
  rw [if_pos rfl] at hlatest
  have hstep : (s.step utcOffset (clk, .work task token reply)).store =
      s.store.putTask task row' := by
    simp only [Sys.step, hs]
    exact hstore
  have htoken := token_of_held hsession hheld
  have hkeep : row'.leaseToken = row.leaseToken := by
    obtain ⟨-, rfl⟩ := update_eq_some.mp happly
    rfl
  refine ⟨row', ?_, hmarked, by simp only [issueOf]; omega, fun token' session' hlt hs' => ?_⟩
  · rw [hstep]
    simpa only [issueOf, hsession.run, Option.getD_some] using hlatest
  · -- no claim is later than the one that holds the task
    have hok' : (s.step utcOffset (clk, .work task token reply)).Ok := hok.ok.step _
    obtain ⟨row₂, r₂, hsession'⟩ := hok'.sessions task token' session' hs'
    have hstored := hsession'.stored
    rw [hstep, hlatest.stored] at hstored
    cases hstored
    have hle := hsession'.bound
    simp only [issueOf] at hlt
    omega

theorem Sys.OnceOk.step (hok : s.OnceOk) (e : Clock × Label) :
    (s.step utcOffset e).OnceOk := by
  obtain ⟨clk, label⟩ := e
  have hsealed : ∀ e ∈ s.log, e.exposes = true →
      ∃ row', Sealed (s.step utcOffset (clk, label)) e row' := by
    intro e he hx
    obtain ⟨row, hsealed⟩ := hok.seals e he hx
    exact hsealed.step hok he hx
  have hknown : ∀ task token session',
      (s.step utcOffset (clk, label)).sessions task token = some session' →
      Known ((s.step utcOffset (clk, label)).log.filter (Issue.by task token)) session'.pc :=
    fun task token session' h => hok.known_step label h
  obtain hlog | ⟨task, token, reply, session, rfl, hs, hstep⟩ := step_log s clk utcOffset label
  · refine ⟨hok.ok.step _, hknown, ?_, ?_⟩
    · rw [hlog]
      exact hsealed
    · rw [hlog]
      exact hok.once
  · have hlog : (s.step utcOffset (clk, .work task token reply)).log =
        ((advance utcOffset clk task session reply s.store).issue.map
            (issueOf task token session)).toList ++
          if (advance utcOffset clk task session reply s.store).settled then
            settle task token s.log
          else s.log := by
      rw [hstep]
      rfl
    generalize hrest : (if (advance utcOffset clk task session reply s.store).settled then
      settle task token s.log else s.log) = rest at hlog
    have hback : ∀ e ∈ rest, ∃ old ∈ s.log, e.run = old.run ∧ e.task = old.task ∧
        e.token = old.token ∧ (e.exposes = true → old.exposes = true) := by
      intro e he
      rw [← hrest] at he
      split at he
      · obtain ⟨old, hold, hr, ht, hk, -, hx⟩ := mem_settle he
        exact ⟨old, hold, hr, ht, hk, hx⟩
      · exact ⟨e, he, rfl, rfl, rfl, id⟩
    have honce : rest.Pairwise Once := by
      rw [← hrest]
      split
      · exact settle_once hok.once
      · exact hok.once
    refine ⟨hok.ok.step _, hknown, fun e he hx => ?_, ?_⟩
    · rw [hlog] at he
      rcases List.mem_append.mp he with he | he
      · rw [Option.mem_toList, Option.map_eq_some_iff] at he
        obtain ⟨request, hissue, rfl⟩ := he
        exact hok.issue_sealed hs hissue
      · obtain ⟨old, hold, hr, ht, hk, hexposed⟩ := hback e he
        obtain ⟨row', hsealed'⟩ := hsealed old hold (hexposed hx)
        exact ⟨row', by rw [hr, ht]; exact hsealed'.latest, hsealed'.boundary,
          by rw [hk]; exact hsealed'.token, by rw [ht, hk]; exact hsealed'.barred⟩
    · rw [hlog]
      refine List.pairwise_append.mpr ⟨?_, honce, fun new hnew older hold => ?_⟩
      · cases (advance utcOffset clk task session reply s.store).issue <;> simp
      · rw [Option.mem_toList, Option.map_eq_some_iff] at hnew
        obtain ⟨request, hissue, rfl⟩ := hnew
        obtain ⟨old, hmem, hr, ht, hk, hexposed⟩ := hback older hold
        intro hx hrun
        rw [ht, hk]
        exact hok.issue_once hs hissue hmem (hexposed hx) (hrun.trans hr)

theorem Sys.init_onceOk : Sys.init.OnceOk where
  ok := Sys.init_ok
  known := fun _ _ _ h => by cases h
  seals := fun _ h => by cases h
  once := .nil

/-- Once an execution has let out a campaign request that is not proven to have
stayed, no other execution lets out a request for the run: in every reachable
state, a request that is later in the log than such a one and is for the same
run is of the same task under the same claim. -/
theorem campaign_created_once (utcOffset : String → String → String) (es : List (Clock × Label)) :
    (Lib.run (Sys.step utcOffset) Sys.init es).log.Pairwise fun newer older =>
      older.request.createsCampaign = true → older.proven = false → newer.run = older.run →
        newer.task = older.task ∧ newer.token = older.token := by
  have hok : (Lib.run (Sys.step utcOffset) Sys.init es).OnceOk :=
    run_preserves (fun _ e hok => hok.step e) Sys.init_onceOk es
  refine hok.once.imp fun {newer older} honce hcampaign hproven hrun => honce ?_ hrun
  simp [Issue.exposes, hcampaign, hproven]

end

def consumer : Consumer := { taskType := .campaignCreate, lanes := [.bulk], worker := 5 }

def working (now : Int) (task token : Nat) (replies : List Reply) : List (Clock × Label) :=
  replies.map fun reply => (instant now, .work task token reply)

def upToCampaign (now : Int) (task token : Nat) : List (Clock × Label) :=
  (instant now, .claim task consumer (some 1)) ::
    working now task token [.go, .go, .go, .resolved, .go, .go, .go, .answered .done, .go]

/-- The worker is lost with its request out; the task is swept, and the operator
asks for a resume. -/
def lostRun : List (Clock × Label) :=
  launching 1 0 sampleConfig "k1" ++ upToCampaign 2 0 1 ++
    [(instant 3, .crash 0 1), (instant 4000, .outside 0 (.failStuckCampaignCreate 60)),
      (instant 4001, .resume 0 "operator" none 0 none)]

example : (Lib.run (Sys.step fun _ _ => "+0000") Sys.init lostRun).log.map
    (fun issue => (issue.run, issue.task, issue.token, issue.exposes)) = [(0, 0, 1, true)] := by
  decide +kernel

end StopBot.Campaigns
