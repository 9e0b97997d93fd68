import StopBot.Campaigns.Layout
import StopBot.Campaigns.Rules

/-!
# The execution of a plan is its preview

Against a client that answers every call with an id, the executor creates the
objects of the preview, in its order and under its names and tags, and nothing
else.
-/

namespace StopBot.Campaigns

open Lib Calls

-- ------------------------------------------------------------
-- Clients and what they are asked for
-- ------------------------------------------------------------

def Answer.objectId : Answer → Option String
  | .object (.obj fields) => ((Obj.get? fields "id").filter Json.truthy).map Worker.pyStr
  | .object _ | .done | .value _ | .raised .. => none

def Fits : Request → Answer → Prop
  | .graph _ _, answer => answer.objectId.isSome
  | .uploadImage _, answer | .uploadVideo _, answer | .videoThumbnail _, answer =>
    ∃ text, answer = .value text
  | .uniquify, answer | .waitVideoReady _, answer => answer = .done
  | .progress _, _ | .record .., _ => True

abbrev Client := List (Await × Answer) → Await → Answer

def Client.AnswersWithIds (client : Client) : Prop :=
  ∀ log await, Fits await.request (client log await)

structure Created where
  edge : Edge
  body : Obj
  id : String
  deriving Repr

def sent (log : List (Await × Answer)) : List Created :=
  log.filterMap fun (await, answer) =>
    match await.request with
    | .graph edge body => some { edge, body, id := answer.objectId.getD "" }
    | _ => none

-- ------------------------------------------------------------
-- What a plan asks for
-- ------------------------------------------------------------

/-- The objects created for a block: the campaign, its ad sets, and by ad set
and concept a creative and an ad. -/
structure BlockRun where
  campaign : Created
  adsets : List Created
  ads : List (List (Created × Created))
  deriving Repr

def adPairs (row : List (Created × Created)) : List Created :=
  row.flatMap fun (creative, ad) => [creative, ad]

def BlockRun.log (run : BlockRun) : List Created :=
  run.campaign :: run.adsets ++ run.ads.flatMap adPairs

def AdsetFollows (campaignId : String) (spec : AdsetSpec) (adset : Created) : Prop :=
  adset.edge = .adsets ∧ adset.body = assign "campaign_id" (.str campaignId) spec.body

def AdFollows (adsetId : String) (spec : AdSpec) (pair : Created × Created) : Prop :=
  pair.1.edge = .adcreatives ∧ Obj.get? pair.1.body "name" = some (.str spec.code) ∧
    Obj.get? pair.1.body "url_tags" = some (.str spec.urlTags) ∧
    pair.2.edge = .ads ∧ pair.2.body = adBody spec.code adsetId pair.1.id

structure BlockRun.Follows (spec : BlockSpec) (run : BlockRun) : Prop where
  campaign : run.campaign.edge = .campaigns ∧ run.campaign.body = spec.body
  adsets : List.Forall₂ (AdsetFollows run.campaign.id) spec.adsets run.adsets
  ads : List.Forall₂ (fun item row => List.Forall₂ (AdFollows item.2.id) item.1.ads row)
    (spec.adsets.zip run.adsets) run.ads

/-- Whatever the ids are, the execution succeeds, and the objects created are
those of the plan. -/
def Executes (cfg : CampaignConfig) (specs : List BlockSpec) : Prop :=
  ∀ client : Client, client.AnswersWithIds → ∃ created s runs,
    ((executeCampaignSpec cfg specs (resolveConceptsFromConfig cfg) {}).play client []).1 =
      .ok (.ok created, s) ∧
    List.Forall₂ BlockRun.Follows specs runs ∧
    sent ((executeCampaignSpec cfg specs (resolveConceptsFromConfig cfg) {}).play client []).2 =
      runs.flatMap BlockRun.log

-- ------------------------------------------------------------
-- Rules for what a part sends
-- ------------------------------------------------------------

/-- Against such a client a part ends without an exception, and what it sent
meets `post` with its value. -/
def Sends {ε α : Type} (part : Exec ε α) (post : α → List Created → Prop) : Prop :=
  ∀ base, Triple (history fun await => Fits await.request) (fun log _ => sent log = base) part
    (fun log value _ => ∃ more, sent log = base ++ more ∧ post value more) (fun _ _ _ => False)

section
variable {ε α β : Type}

theorem sent_append (log log' : List (Await × Answer)) :
    sent (log ++ log') = sent log ++ sent log' :=
  List.filterMap_append

theorem Sends.bind {first : Exec ε α} {rest : α → Exec ε β} {mid : α → List Created → Prop}
    {post : β → List Created → Prop} (hfirst : Sends first mid)
    (hrest : ∀ value more, mid value more →
      Sends (rest value) fun v more' => post v (more ++ more')) :
    Sends (first >>= rest) post := by
  intro base
  refine .bind (hfirst base) fun value g s => ?_
  rintro ⟨more, hsent, hmid⟩
  refine (hrest value more hmid (base ++ more) g s hsent).imp ?_
  rintro g' ⟨exc | v, s'⟩ hend
  · exact hend
  · obtain ⟨more', hsent', hpost⟩ := hend
    exact ⟨more ++ more', by rw [hsent', List.append_assoc], hpost⟩

theorem Sends.imp {part : Exec ε α} {post post' : α → List Created → Prop} (h : Sends part post)
    (himp : ∀ value more, post value more → post' value more) : Sends part post' := fun base =>
  (h base).imp (fun _ _ hs => hs) (fun _ value _ ⟨more, hsent, hpost⟩ =>
    ⟨more, hsent, himp value more hpost⟩) fun _ _ _ hs => hs

theorem Sends.pure {value : α} {post : α → List Created → Prop} (h : post value []) :
    Sends (pure value : Exec ε α) post := fun base =>
  .pure fun _ _ hs => ⟨[], by simpa using hs, h⟩

theorem Sends.silent {first : Exec ε Unit} {rest : Unit → Exec ε β}
    {post : β → List Created → Prop} (hfirst : Sends first fun _ more => more = [])
    (hrest : Sends (rest ()) post) : Sends (first >>= rest) post :=
  .bind hfirst fun _ _ hmore => by simpa [hmore] using hrest

theorem sends_modify {f : ExecState → ExecState} :
    Sends (Exec.modify f : Exec ε Unit) fun _ more => more = [] := fun base =>
  .modify fun _ _ hs => ⟨[], by simpa using hs, rfl⟩

theorem sends_emit : Sends (emit : Exec ε Unit) fun _ more => more = [] := fun base =>
  .emit (fun _ _ _ => trivial) fun g s answer hs _ => ⟨[], by
    rw [List.append_nil, ← hs]; exact (sent_append g _).trans (by simp [sent]), rfl⟩

theorem sends_ask (request : Request) : Sends (Exec.ask request : Exec ε Answer) fun answer more =>
    Fits request answer ∧ more = sent [(⟨{}, request⟩, answer)] := fun base =>
  .ask (fun _ _ _ => trivial) fun g s answer hs hfits =>
    ⟨_, by rw [← hs]; exact sent_append g _, hfits, rfl⟩

theorem sends_ask_other {request : Request} (h : ∀ edge body, request ≠ .graph edge body) :
    Sends (Exec.ask request : Exec ε Answer) fun answer more =>
      Fits request answer ∧ more = [] := by
  refine (sends_ask request).imp fun answer more hpost => ⟨hpost.1, hpost.2.trans ?_⟩
  cases request <;> simp_all [sent]

theorem sends_setStage (stage : Stage) :
    Sends (setStage stage : Exec ε Unit) fun _ more => more = [] := sends_modify

end

theorem sends_doneOf : Sends (doneOf .done) fun _ more => more = [] := .pure rfl

theorem sends_valueOf (text : String) :
    Sends (valueOf (.value text)) fun value more => value = text ∧ more = [] := .pure ⟨rfl, rfl⟩

theorem sends_responseId {answer : Answer} {id what : String} (h : answer.objectId = some id) :
    Sends (objectOf answer >>= fun response => extractId response what) fun value more =>
      value = id ∧ more = [] := by
  cases answer with
  | object response =>
    cases response with
    | obj fields =>
      obtain ⟨value, hvalue, rfl⟩ := Option.map_eq_some_iff.mp h
      have hextract : extractId (.obj fields) what = pure (Worker.pyStr value) := by
        simp [extractId, hvalue]
      show Sends (extractId (.obj fields) what) _
      rw [hextract]
      exact .pure ⟨rfl, rfl⟩
    | null | bool _ | num _ _ | str _ | arr _ => simp [Answer.objectId] at h
  | done | value _ | raised _ _ => simp [Answer.objectId] at h

theorem sends_ask_graph {ε : Type} (edge : Edge) (body : Obj) :
    Sends (Exec.ask (.graph edge body) : Exec ε Answer) fun answer more =>
      ∃ id, answer.objectId = some id ∧ more = [⟨edge, body, id⟩] := by
  refine (sends_ask _).imp ?_
  rintro answer more ⟨hfits, rfl⟩
  obtain ⟨id, hid⟩ := Option.isSome_iff_exists.mp hfits
  exact ⟨id, hid, by simp [sent, hid]⟩

theorem sends_createObject (edge : Edge) (body : Obj) (what : String) :
    Sends (createObject edge body what) fun id more => more = [⟨edge, body, id⟩] := by
  refine .bind (sends_ask_graph edge body) ?_
  rintro answer more ⟨id, hid, rfl⟩
  refine (sends_responseId hid).imp ?_
  rintro value more ⟨rfl, rfl⟩
  rfl

theorem sends_createCampaign (body : Obj) :
    Sends (createCampaign body) fun id more =>
      more = [⟨.campaigns, assign "status" (.str createdObjectStatus) body, id⟩] := by
  refine .bind (sends_ask_graph _ _) ?_
  rintro answer more ⟨id, hid, rfl⟩
  refine .silent sends_modify ((sends_responseId hid).imp ?_)
  rintro value more ⟨rfl, rfl⟩
  rfl

-- ------------------------------------------------------------
-- Ad sets and ads
-- ------------------------------------------------------------

theorem assign_paused {body : Obj} (h : pausedBody body = true) :
    assign "status" (.str createdObjectStatus) body = body := by
  induction body with
  | nil => simp [pausedBody] at h
  | cons field rest ih =>
    obtain ⟨key, value⟩ := field
    by_cases hkey : key = "status"
    · subst hkey
      cases value <;> simp_all [pausedBody, assign]
    · have hrest : pausedBody rest = true := by
        simpa [pausedBody, Ne.symm hkey] using h
      simp [assign, hkey, ih hrest]

theorem pausedBody_assign {body : Obj} {value : Json} (h : pausedBody body = true) :
    pausedBody (assign "campaign_id" value body) = true := by
  induction body with
  | nil => simp [pausedBody] at h
  | cons field rest ih =>
    obtain ⟨key, other⟩ := field
    by_cases hid : key = "campaign_id"
    · subst hid
      simpa [pausedBody, assign] using h
    · by_cases hstatus : key = "status"
      · subst hstatus
        simpa [pausedBody, assign] using h
      · have hrest : pausedBody rest = true := by
          simpa [pausedBody, Ne.symm hstatus] using h
        simpa [pausedBody, assign, hid, Ne.symm hstatus] using ih hrest

theorem sends_createAdset (campaignId : String) {spec : AdsetSpec} (index : Nat)
    (hpaused : pausedBody spec.body = true) :
    Sends (createAdset campaignId spec index) fun id more =>
      ∃ adset, AdsetFollows campaignId spec adset ∧ adset.id = id ∧ more = [adset] := by
  refine .bind (sends_createObject _ _ _) ?_
  rintro id more rfl
  refine .silent sends_modify (.silent sends_emit (.pure ?_))
  exact ⟨_, ⟨rfl, assign_paused (pausedBody_assign hpaused)⟩, rfl, rfl⟩

theorem sends_createAdsets (campaignId : String) {specs : List AdsetSpec}
    (hpaused : ∀ spec ∈ specs, pausedBody spec.body = true) (start : Nat) :
    Sends (createAdsets campaignId (specs.zipIdx start)) fun ids more =>
      List.Forall₂ (AdsetFollows campaignId) specs more ∧ ids = more.map Created.id := by
  induction specs generalizing start with
  | nil => exact .pure ⟨.nil, rfl⟩
  | cons spec rest ih =>
    rw [List.zipIdx_cons]
    refine .bind (sends_createAdset campaignId _ (hpaused spec List.mem_cons_self)) ?_
    rintro id more ⟨adset, hadset, rfl, rfl⟩
    refine .bind (ih (fun other hother => hpaused other (List.mem_cons_of_mem _ hother)) _) ?_
    rintro ids more ⟨hrest, rfl⟩
    refine .pure ⟨?_, ?_⟩
    · simpa using List.Forall₂.cons hadset hrest
    · simp

theorem sends_countUpload : Sends countUpload fun _ more => more = [] :=
  .silent sends_modify sends_emit

theorem creativeBody_carries (cfg : CampaignConfig) (name urlTags : String) (media : String × Obj) :
    Obj.get? (creativeBody cfg name urlTags media) "name" = some (.str name) ∧
      Obj.get? (creativeBody cfg name urlTags media) "url_tags" = some (.str urlTags) := by
  simp [creativeBody]

theorem sends_uploadMedia (cfg : CampaignConfig) (ad : UniquifiedAd) :
    Sends (uploadMedia cfg ad) fun body more => more = [] ∧
      Obj.get? body "name" = some (.str ad.code) ∧
      Obj.get? body "url_tags" = some (.str (urlTagsOf cfg ad.code)) := by
  unfold uploadMedia
  cases ad.kind with
  | video =>
    refine .bind (sends_ask_other (by simp)) ?_
    rintro answer more ⟨⟨videoId, rfl⟩, rfl⟩
    refine .bind (sends_valueOf videoId) ?_
    rintro value more ⟨rfl, rfl⟩
    refine .silent sends_modify (.bind (sends_ask_other (by simp)) ?_)
    rintro answer more ⟨rfl, rfl⟩
    refine .silent sends_doneOf (.bind (sends_ask_other (by simp)) ?_)
    rintro answer more ⟨⟨thumbUrl, rfl⟩, rfl⟩
    refine .bind (sends_valueOf thumbUrl) ?_
    rintro value' more ⟨rfl, rfl⟩
    refine .silent sends_countUpload (.pure ⟨rfl, ?_⟩)
    unfold videoCreativeBody
    exact creativeBody_carries cfg ad.code (urlTagsOf cfg ad.code) (_, _)
  | image =>
    refine .bind (sends_ask_other (by simp)) ?_
    rintro answer more ⟨⟨imageHash, rfl⟩, rfl⟩
    refine .bind (sends_valueOf imageHash) ?_
    rintro value more ⟨rfl, rfl⟩
    refine .silent sends_modify (.silent sends_countUpload (.pure ⟨rfl, ?_⟩))
    unfold imageCreativeBody
    exact creativeBody_carries cfg ad.code (urlTagsOf cfg ad.code) (_, _)

theorem sends_createAd (cfg : CampaignConfig) (adsetId : String) (ad : UniquifiedAd) :
    Sends (createAd cfg adsetId ad) fun _ more =>
      ∃ pair, AdFollows adsetId (adSpec cfg ad.code) pair ∧ more = [pair.1, pair.2] := by
  refine .silent (sends_setStage _) (.bind (sends_uploadMedia cfg ad) ?_)
  rintro body more ⟨rfl, hname, htags⟩
  refine .silent (sends_setStage _) (.bind (sends_createObject _ _ _) ?_)
  rintro creativeId more rfl
  refine .silent sends_modify (.silent sends_emit (.bind (sends_ask_other (by simp)) ?_))
  rintro answer more ⟨-, rfl⟩
  refine .bind (sends_createObject _ _ _) ?_
  rintro adId more rfl
  refine .silent sends_modify (sends_emit.imp ?_)
  rintro _ more rfl
  refine ⟨(⟨.adcreatives, body, creativeId⟩, ⟨.ads, adBody ad.code adsetId creativeId, adId⟩), ?_,
    rfl⟩
  simp only [AdFollows, adSpec]
  exact ⟨trivial, hname, htags, trivial, trivial⟩

-- ------------------------------------------------------------
-- Blocks
-- ------------------------------------------------------------

theorem sends_ads (cfg : CampaignConfig) (adsetId : String) (ads : List UniquifiedAd) :
    Sends (Exec.each (createAd cfg adsetId) ads) fun _ more => ∃ row,
      List.Forall₂ (AdFollows adsetId) (ads.map fun ad => adSpec cfg ad.code) row ∧
        more = adPairs row := by
  induction ads with
  | nil => exact .pure ⟨[], .nil, rfl⟩
  | cons ad rest ih =>
    refine .bind (sends_createAd cfg adsetId ad) ?_
    rintro _ more ⟨pair, hpair, rfl⟩
    refine ih.imp ?_
    rintro _ more ⟨row, hrow, rfl⟩
    exact ⟨pair :: row, .cons hpair hrow, rfl⟩

theorem sends_adsets (cfg : CampaignConfig) {codes : List String} {specs : List AdsetSpec}
    {adsets : List Created} {plan : List (List UniquifiedAd)}
    (hlength : specs.length = plan.length)
    (hspecs : ∀ spec ∈ specs, spec.ads = codes.map (adSpec cfg))
    (hplan : ∀ row ∈ plan, row.map UniquifiedAd.code = codes) :
    Sends (Exec.each (fun (adsetId, ads) => Exec.each (createAd cfg adsetId) ads)
      ((adsets.map Created.id).zip plan)) fun _ more => ∃ rows,
        List.Forall₂ (fun item row => List.Forall₂ (AdFollows item.2.id) item.1.ads row)
          (specs.zip adsets) rows ∧ more = rows.flatMap adPairs := by
  induction specs generalizing adsets plan with
  | nil =>
    obtain rfl := List.length_eq_zero_iff.mp hlength.symm
    rw [List.zip_nil_right]
    exact .pure ⟨[], .nil, rfl⟩
  | cons spec rest ih =>
    cases plan with
    | nil => simp at hlength
    | cons row plan =>
      cases adsets with
      | nil => exact .pure ⟨[], .nil, rfl⟩
      | cons adset adsets =>
        have hads : spec.ads = row.map fun ad => adSpec cfg ad.code := by
          rw [hspecs spec List.mem_cons_self, ← hplan row List.mem_cons_self, List.map_map]
          rfl
        refine .bind (sends_ads cfg adset.id row) ?_
        rintro _ more ⟨pairs, hpairs, rfl⟩
        have hrest := @ih adsets plan (by simpa using hlength)
          (fun other hother => hspecs other (List.mem_cons_of_mem _ hother))
          fun other hother => hplan other (List.mem_cons_of_mem _ hother)
        refine hrest.imp ?_
        rintro _ more ⟨rows, hrows, rfl⟩
        exact ⟨pairs :: rows, .cons (by rw [hads]; exact hpairs) hrows, rfl⟩

section
variable {utcOffset : String → String → String} {cfg : CampaignConfig} {start : Nat}
  {block : CampaignBlock} {blocks : List CampaignBlock} {spec : BlockSpec} {specs : List BlockSpec}

theorem length_blockConcepts (block : CampaignBlock) :
    (blockConcepts block).length = block.conceptRefs.length := by
  simp [blockConcepts]

theorem sends_planBlock (h : IsBlock utcOffset cfg start block spec)
    (hmem : block ∈ cfg.campaigns) (hadsets : block.adsets ≠ []) :
    Sends (planBlock cfg spec (blockConcepts block) start) fun plan more => more = [] ∧
      spec.adsets.length = plan.length ∧ ∀ row ∈ plan,
        row.map UniquifiedAd.code = codesFrom cfg block.conceptRefs.length start := by
  have hcopies : 1 ≤ spec.adsets.length := by
    rw [h.adsets]
    exact List.length_pos_iff.mpr hadsets
  have hconcepts : blockConcepts block ≠ [] := by
    simpa [← List.length_pos_iff, length_blockConcepts] using h.concepts
  obtain ⟨plan, hplan, hlength, hcodes⟩ :=
    buildUniquificationPlan_ok cfg (nodup_blockConcepts block) hcopies hconcepts h.positive
  have hkey : (cfg.campaigns.any fun other => other.key == spec.key) = true :=
    List.any_eq_true.mpr ⟨block, hmem, by simp [h.key]⟩
  rw [length_blockConcepts] at hcodes
  rw [planBlock, if_pos hkey, hplan]
  exact .pure ⟨rfl, hlength.symm, hcodes⟩

theorem sends_executeBlock (h : IsBlock utcOffset cfg start block spec)
    (hmem : block ∈ cfg.campaigns) (hadsets : block.adsets ≠ []) :
    Sends (executeBlock cfg spec (blockConcepts block) start) fun _ more => ∃ run : BlockRun,
      run.Follows spec ∧ more = run.log := by
  have hpaused := h.paused
  simp only [allPausedSpec, List.all_cons, List.all_nil, Bool.and_true, Bool.and_eq_true,
    List.all_eq_true] at hpaused
  obtain ⟨⟨-, hbody⟩, hadsetBodies⟩ := hpaused
  unfold executeBlock
  refine .bind (sends_planBlock h hmem hadsets) ?_
  rintro plan more ⟨rfl, hlength, hcodes⟩
  refine .silent sends_modify (.silent sends_emit (.bind (sends_ask_other (by simp)) ?_))
  rintro answer more ⟨rfl, rfl⟩
  refine .silent sends_doneOf (.silent (sends_setStage _) (.bind (sends_createCampaign _) ?_))
  rintro campaignId more rfl
  refine .silent sends_modify (.silent sends_emit (.bind (sends_createAdsets campaignId
    (fun adset hadset => (hadsetBodies adset hadset).1.2) 0) ?_))
  rintro adsetIds adsets ⟨hfollow, rfl⟩
  refine .silent (sends_setStage _) (.silent sends_emit
    ((sends_adsets cfg hlength h.ads hcodes).imp ?_))
  rintro _ more ⟨rows, hrows, rfl⟩
  refine ⟨⟨⟨.campaigns, spec.body, campaignId⟩, adsets, rows⟩, ⟨⟨rfl, rfl⟩, hfollow, hrows⟩, ?_⟩
  simp [BlockRun.log, assign_paused hbody]

theorem Sends.catching {ε' : Type} {body : Exec Raised Unit}
    {handler : ExecState → Raised → Exec ε' Unit} {post : Unit → List Created → Prop}
    (h : Sends body post) : Sends (body.catching handler) post := fun base =>
  .catching (h base) fun _ _ _ hfalse => hfalse.elim

theorem sends_executeBlocks (h : AreBlocks utcOffset cfg start blocks specs)
    (hmem : ∀ block ∈ blocks, block ∈ cfg.campaigns) (hadsets : ∀ block ∈ blocks, block.adsets ≠ [])
    {concepts : List (String × List ConceptInput)}
    (hconcepts : ∀ block ∈ blocks, concepts.lookup block.key = some (blockConcepts block)) :
    Sends (executeBlocks cfg concepts start specs) fun _ more => ∃ runs : List BlockRun,
      List.Forall₂ BlockRun.Follows specs runs ∧ more = runs.flatMap BlockRun.log := by
  induction h with
  | nil => exact .pure ⟨[], .nil, rfl⟩
  | @cons start block blocks spec specs head tail ih =>
    have hfound : (concepts.lookup spec.key).getD [] = blockConcepts block := by
      rw [head.key, hconcepts block List.mem_cons_self, Option.getD_some]
    have hnonempty : (blockConcepts block).isEmpty = false := by
      rw [List.isEmpty_eq_false_iff, ← List.length_pos_iff, length_blockConcepts]
      exact List.length_pos_iff.mpr head.concepts
    simp only [executeBlocks, hfound, hnonempty, Bool.false_eq_true, if_false]
    refine .bind (Sends.catching (sends_executeBlock head (hmem block List.mem_cons_self)
      (hadsets block List.mem_cons_self))) ?_
    rintro _ more ⟨run, hrun, rfl⟩
    have hrest := ih (fun other hother => hmem other (List.mem_cons_of_mem _ hother))
      (fun other hother => hadsets other (List.mem_cons_of_mem _ hother))
      fun other hother => hconcepts other (List.mem_cons_of_mem _ hother)
    rw [blockCodeSpan, length_blockConcepts]
    refine hrest.imp ?_
    rintro _ more ⟨runs, hruns, rfl⟩
    exact ⟨run :: runs, .cons hrun hruns, rfl⟩

theorem AreBlocks.allPaused (h : AreBlocks utcOffset cfg start blocks specs) :
    allPausedSpec specs = true := by
  induction h with
  | nil => rfl
  | cons head tail ih =>
    have hhead := head.paused
    simp only [allPausedSpec, List.all_cons, List.all_nil, Bool.and_true] at hhead ih ⊢
    rw [hhead, ih, Bool.true_and]

theorem AreBlocks.executes (h : AreBlocks utcOffset cfg cfg.codeStart cfg.campaigns specs)
    (hkeys : (cfg.campaigns.map CampaignBlock.key).Nodup)
    (hadsets : ∀ block ∈ cfg.campaigns, block.adsets ≠ []) : Executes cfg specs := by
  intro client hclient
  have hpairs : ((cfg.campaigns.map fun block => (block.key, blockConcepts block)).map
      Prod.fst).Nodup := by
    rw [List.map_map]
    exact hkeys
  have hconcepts : ∀ block ∈ cfg.campaigns,
      (resolveConceptsFromConfig cfg).lookup block.key = some (blockConcepts block) := by
    intro block hblock
    rw [resolveConceptsFromConfig, Dict.ofPairs_of_nodup hpairs]
    exact Dict.lookup_of_mem hpairs (List.mem_map.mpr ⟨block, hblock, rfl⟩)
  have hsends : Sends (executeCampaignSpec cfg specs (resolveConceptsFromConfig cfg))
      fun _ more => ∃ runs : List BlockRun,
        List.Forall₂ BlockRun.Follows specs runs ∧ more = runs.flatMap BlockRun.log := by
    unfold executeCampaignSpec
    rw [(pausedRefusal_eq_none specs).mpr h.allPaused]
    refine .bind (sends_executeBlocks h (fun _ hblock => hblock) hadsets hconcepts) ?_
    rintro _ more ⟨runs, hruns, rfl⟩
    refine .silent (sends_setStage _) (.silent sends_emit fun base g s hs => ?_)
    exact ⟨[], by simpa using hs, runs, hruns, by simp⟩
  obtain ⟨⟨result, s⟩, hplay, hend⟩ := (hsends [] [] {} rfl).play fun log await => hclient log await
  cases result with
  | error failure => exact hend.elim
  | ok created =>
    obtain ⟨more, hsent, runs, hruns, rfl⟩ := hend
    exact ⟨created, s, runs, hplay, hruns, by simpa using hsent⟩

/-- The execution of a configuration is its preview, its codes are distinct, and
the slices of the plan execute its blocks. -/
theorem preview_equals_execution (hkeys : (cfg.campaigns.map CampaignBlock.key).Nodup)
    (hadsets : ∀ block ∈ cfg.campaigns, block.adsets ≠ [])
    (hbuilt : buildCampaignSpec utcOffset cfg = .ok specs) :
    Executes cfg specs ∧
    (∀ b i c b' i' c' ad ad', adAt specs b i c = some ad → adAt specs b' i' c' = some ad' →
      ad.code = ad'.code → b = b' ∧ c = c') ∧
    ∃ slices, campaignPlanSlices cfg = .ok slices ∧
      List.Forall₂ (fun slice spec => buildCampaignSpec utcOffset slice = .ok [spec] ∧
        Executes slice [spec]) (startedAt cfg.codeStart slices) specs := by
  have h := areBlocks_of_built hbuilt
  refine ⟨h.executes hkeys hadsets, fun b i c b' i' c' ad ad' => h.code_injective,
    _, if_pos hkeys, h.slices.imp ?_⟩
  rintro slice spec ⟨block, start, hblock, hmem, rfl⟩
  have hslice := buildCampaignSpec_slice hblock
  refine ⟨hslice, (areBlocks_of_built hslice).executes (by simp) ?_⟩
  intro other hother
  obtain rfl := List.mem_singleton.mp hother
  exact hadsets _ hmem

end

def readyClient : Client := fun _ await =>
  match await.request with
  | .graph .. => .object (.obj [("id", .str "1")])
  | .uploadImage _ | .uploadVideo _ | .videoThumbnail _ => .value "1"
  | .uniquify | .waitVideoReady _ | .progress _ | .record .. => .done

theorem readyClient_answersWithIds : readyClient.AnswersWithIds := by
  intro log await
  cases h : await.request <;>
    simp [Fits, readyClient, h, Answer.objectId, Json.truthy]

def twoCampaigns : CampaignConfig :=
  { sampleConfig with campaigns :=
    [{ key := "c1", name := "main", adsets := ["a1", "a2"], conceptRefs := ["1.jpeg", "1.jpeg"] },
      { key := "c2", name := "second", adsets := ["a1"], conceptRefs := ["2.mp4"] }] }

theorem preview_equals_execution_two :
    ∃ specs, buildCampaignSpec (fun _ _ => "+00:00") twoCampaigns = .ok specs ∧
      specs.length = 2 ∧ (twoCampaigns.campaigns.map CampaignBlock.key).Nodup ∧
      (∀ block ∈ twoCampaigns.campaigns, block.adsets ≠ []) ∧ Executes twoCampaigns specs :=
  ⟨_, rfl, rfl, by decide, by decide, (preview_equals_execution (by decide) (by decide) rfl).1⟩

/-- The preview of a campaign without ad sets is not executed: the executor
refuses to make no copies. -/
theorem preview_without_adsets :
    let cfg := { sampleConfig with campaigns :=
      [{ key := "c1", name := "main", adsets := [], conceptRefs := ["1.jpeg"] }] }
    ∃ specs, buildCampaignSpec (fun _ _ => "+00:00") cfg = .ok specs ∧
      (cfg.campaigns.map CampaignBlock.key).Nodup ∧
      (∀ block ∈ cfg.campaigns, block.conceptRefs ≠ []) ∧ ¬ Executes cfg specs := by
  refine ⟨_, rfl, by decide, by decide, fun h => ?_⟩
  obtain ⟨created, s, runs, hplay, -⟩ := h readyClient readyClient_answersWithIds
  cases hplay

end StopBot.Campaigns
