import StopBot.Campaigns.Executor
import StopBot.Lib.Checks

/-!
# The codes of a plan

The preview lays the codes out by `build_code_layout`, the executor by the
variants of its concepts. Both number a block from the codes of the blocks
before it, so they agree code by code, and a slice that starts where the slices
before it end is the block of the whole plan.
-/

namespace StopBot.Campaigns

open Lib

-- ------------------------------------------------------------
-- Codes
-- ------------------------------------------------------------

theorem pad3_injective {m n : Nat} (h : pad3 m = pad3 n) : m = n := by
  have hvalue : ∀ k, Nat.ofDigitChars 10 (pad3 k).toList 0 = k := by
    intro k
    simp [pad3, Nat.ofDigitChars_append, Nat.ofDigitChars_replicate_zero]
  rw [← hvalue m, ← hvalue n, h]

theorem creativeCode_injective {offer pre : String} {m n : Nat}
    (h : creativeCode offer pre m = creativeCode offer pre n) : m = n := by
  unfold creativeCode at h
  exact pad3_injective (by simpa using h)

def codesFrom (cfg : CampaignConfig) (count start : Nat) : List String :=
  (List.range' start count).map (creativeCode cfg.offerCode cfg.creativePrefix)

@[simp] theorem length_codesFrom (cfg : CampaignConfig) (count start : Nat) :
    (codesFrom cfg count start).length = count := by
  simp [codesFrom]

theorem buildCodeLayout_eq_ok {cfg : CampaignConfig} {count copies start : Nat}
    {layout : List (List String)} :
    buildCodeLayout cfg.offerCode count copies cfg.creativePrefix start = .ok layout ↔
      1 ≤ start ∧ layout = List.replicate copies (codesFrom cfg count start) := by
  unfold buildCodeLayout creativeCodes codesFrom
  by_cases hstart : start < 1
  · have hnot : ¬ 1 ≤ start := by omega
    simp [hstart, hnot, bind_eq_ok]
  · have hpos : 1 ≤ start := by omega
    simp only [hstart, hpos, if_false, true_and, ok_bind]
    exact ⟨fun h => (Except.ok.inj h).symm, fun h => h ▸ rfl⟩

-- ------------------------------------------------------------
-- Concepts
-- ------------------------------------------------------------

theorem conceptOf_index {key : String} {i j : Nat} {ref ref' : String}
    (h : (conceptOf key i ref).conceptId = (conceptOf key j ref').conceptId) : i = j := by
  have hchars := congrArg String.toList h
  simp only [conceptOf, String.toList_append, List.append_assoc,
    List.append_cancel_left_eq] at hchars
  have hdigits : ∀ (n : Nat) (rest : List Char),
      ((toString n).toList ++ (":".toList ++ rest)).takeWhile (· != ':') = (toString n).toList := by
    intro n rest
    have hall : ∀ c ∈ (toString n).toList, (c != ':') = true := by
      intro c hc
      have hcolon := PyText.notMem_toString_nat (c := ':') (by decide) n
      rw [bne_iff_ne]
      rintro rfl
      exact hcolon hc
    rw [List.takeWhile_append_of_pos hall]
    simp
  apply PyText.toString_nat_inj
  rw [← hdigits i, ← hdigits j, hchars]

theorem nodup_blockConcepts (block : CampaignBlock) :
    ((blockConcepts block).map ConceptInput.conceptId).Nodup := by
  have hindices : (block.conceptRefs.zipIdx.map Prod.snd).Nodup := by
    rw [List.zipIdx_map_snd]
    exact List.nodup_range'
  rw [blockConcepts, List.map_map]
  refine List.Nodup.map_on ?_ (List.Nodup.of_map Prod.snd hindices)
  rintro ⟨ref, i⟩ hmem ⟨ref', j⟩ hmem' heq
  obtain rfl : i = j := conceptOf_index heq
  rw [List.mem_zipIdx_iff_getElem?] at hmem hmem'
  simp_all

-- ------------------------------------------------------------
-- The plan of the executor
-- ------------------------------------------------------------

/-- The copy of the concept at `index` that goes into the ad set `copy`. -/
def variantOf (codes : List String) (copy : Nat) (concept : ConceptInput) (index : Nat) :
    UniquifiedAd :=
  { conceptId := concept.conceptId, copyIndex := copy, code := codes.getD index ""
    kind := concept.kind }

theorem getElem?_conceptVariants {codes : List String} {copies copy index : Nat}
    {concept : ConceptInput} (hcopy : copy < copies) (hindex : index < codes.length) :
    (conceptVariants (List.replicate copies codes) concept index)[copy]? =
      some (variantOf codes copy concept index) := by
  have hall : conceptVariants (List.replicate copies codes) concept index =
      (List.replicate copies codes).zipIdx.map fun item =>
        variantOf codes item.2 concept index := by
    unfold conceptVariants
    rw [← List.filterMap_eq_map]
    refine List.filterMap_congr ?_
    rintro ⟨codes', copy'⟩ hmem
    obtain rfl : codes' = codes := List.eq_of_mem_replicate (List.fst_mem_of_mem_zipIdx hmem)
    simp [variantOf, hindex]
  rw [hall]
  simp [hcopy]

/-- With distinct ids every concept keeps its own variants, so an ad set gets the
codes of the block in the order of the concepts. -/
theorem planRow_codes {concepts : List ConceptInput} {codes : List String} {copies copy : Nat}
    (hids : (concepts.map ConceptInput.conceptId).Nodup) (hlength : codes.length = concepts.length)
    (hcopy : copy < copies) :
    (concepts.filterMap fun concept => ((Dict.ofPairs (concepts.zipIdx.map fun (concept, index) =>
      (concept.conceptId, conceptVariants (List.replicate copies codes) concept index))).lookup
        concept.conceptId).bind (·[copy]?)).map UniquifiedAd.code = codes := by
  set pairs := concepts.zipIdx.map fun (concept, index) =>
    (concept.conceptId, conceptVariants (List.replicate copies codes) concept index) with hpairs
  have hkeys : (pairs.map Prod.fst).Nodup := by
    have hmap : pairs.map Prod.fst = concepts.map ConceptInput.conceptId := by
      rw [hpairs, List.map_map]
      conv_rhs => rw [← List.zipIdx_map_fst 0 concepts, List.map_map]
      rfl
    rwa [hmap]
  have hfound : ∀ item ∈ concepts.zipIdx,
      ((Dict.ofPairs pairs).lookup item.1.conceptId).bind (·[copy]?) =
        some (variantOf codes copy item.1 item.2) := by
    rintro ⟨concept, index⟩ hmem
    have hindex : index < codes.length := by
      have := List.snd_lt_of_mem_zipIdx hmem
      omega
    rw [Dict.ofPairs_of_nodup hkeys,
      Dict.lookup_of_mem hkeys (List.mem_map.mpr ⟨_, hmem, rfl⟩), Option.bind_some]
    exact getElem?_conceptVariants hcopy hindex
  have hrow : concepts.filterMap (fun concept =>
      ((Dict.ofPairs pairs).lookup concept.conceptId).bind (·[copy]?)) =
        concepts.zipIdx.map fun item => variantOf codes copy item.1 item.2 := by
    conv_lhs => rw [← List.zipIdx_map_fst 0 concepts, List.filterMap_map]
    rw [← List.filterMap_eq_map]
    exact List.filterMap_congr hfound
  rw [hrow, List.map_map]
  refine List.ext_getElem (by simp [hlength]) fun i hi hi' => ?_
  simp [variantOf, hi']

theorem buildUniquificationPlan_ok (cfg : CampaignConfig) {concepts : List ConceptInput}
    {copies start : Nat} (hids : (concepts.map ConceptInput.conceptId).Nodup)
    (hcopies : 1 ≤ copies) (hconcepts : concepts ≠ []) (hstart : 1 ≤ start) :
    ∃ plan, buildUniquificationPlan cfg concepts copies start = .ok plan ∧ plan.length = copies ∧
      ∀ row ∈ plan, row.map UniquifiedAd.code = codesFrom cfg concepts.length start := by
  have hlayout : buildCodeLayout cfg.offerCode concepts.length copies cfg.creativePrefix start =
      .ok (List.replicate copies (codesFrom cfg concepts.length start)) :=
    buildCodeLayout_eq_ok.mpr ⟨hstart, rfl⟩
  unfold buildUniquificationPlan
  rw [if_neg (by omega), if_neg (by simpa using hconcepts), hlayout]
  refine ⟨_, rfl, by simp, fun row hrow => ?_⟩
  obtain ⟨copy, hcopy, rfl⟩ := List.mem_map.mp hrow
  exact planRow_codes hids (by simp) (List.mem_range.mp hcopy)

-- ------------------------------------------------------------
-- The preview
-- ------------------------------------------------------------

/-- What a block of the preview is: the codes from `start` on in every ad set. -/
structure IsBlock (utcOffset : String → String → String) (cfg : CampaignConfig)
    (start : Nat) (block : CampaignBlock) (spec : BlockSpec) : Prop where
  concepts : block.conceptRefs ≠ []
  positive : 1 ≤ start
  built : buildBlock utcOffset cfg block start = .ok spec
  paused : allPausedSpec [spec] = true
  key : spec.key = block.key
  adsets : spec.adsets.length = block.adsets.length
  ads : ∀ adset ∈ spec.adsets,
    adset.ads = (codesFrom cfg block.conceptRefs.length start).map (adSpec cfg)

section
variable {utcOffset : String → String → String} {cfg : CampaignConfig} {start : Nat}
  {block : CampaignBlock} {blocks : List CampaignBlock} {spec : BlockSpec} {specs : List BlockSpec}

theorem pausedBody_campaignBody (name : String) : pausedBody (campaignBody cfg name) = true := by
  simp [pausedBody, campaignBody]

theorem pausedBody_adsetBody (name : String) :
    pausedBody (adsetBody utcOffset cfg name) = true := by
  simp [pausedBody, adsetBody]

theorem isBlock_of_built (hconcepts : block.conceptRefs ≠ [])
    (hbuilt : buildBlock utcOffset cfg block start = .ok spec) :
    IsBlock utcOffset cfg start block spec := by
  have hbuilt' := hbuilt
  unfold buildBlock at hbuilt
  obtain ⟨layout, hlayout, hspec⟩ := bind_eq_ok.mp hbuilt
  obtain ⟨hstart, rfl⟩ := buildCodeLayout_eq_ok.mp hlayout
  obtain rfl := Except.ok.inj hspec
  refine ⟨hconcepts, hstart, hbuilt', ?_, rfl, by simp, fun adset hadset => ?_⟩
  · simp [allPausedSpec, pausedBody_campaignBody, pausedBody_adsetBody, adSpec]
  · obtain ⟨⟨template, codes⟩, hmem, rfl⟩ := List.mem_map.mp hadset
    obtain rfl := List.eq_of_mem_replicate (List.of_mem_zip hmem).2
    rfl

inductive AreBlocks (utcOffset : String → String → String) (cfg : CampaignConfig) :
    Nat → List CampaignBlock → List BlockSpec → Prop
  | nil {start : Nat} : AreBlocks utcOffset cfg start [] []
  | cons {start : Nat} {block : CampaignBlock} {blocks : List CampaignBlock} {spec : BlockSpec}
      {specs : List BlockSpec} (head : IsBlock utcOffset cfg start block spec)
      (tail : AreBlocks utcOffset cfg (start + block.conceptRefs.length) blocks specs) :
      AreBlocks utcOffset cfg start (block :: blocks) (spec :: specs)

theorem areBlocks_of_built (h : buildBlocks utcOffset cfg start blocks = .ok specs) :
    AreBlocks utcOffset cfg start blocks specs := by
  induction blocks generalizing start specs with
  | nil =>
    obtain rfl := Except.ok.inj h
    exact .nil
  | cons block rest ih =>
    unfold buildBlocks at h
    split at h
    · cases h
    · rename_i hrefs
      obtain ⟨spec, hspec, h⟩ := bind_eq_ok.mp h
      obtain ⟨specs', hspecs, h⟩ := bind_eq_ok.mp h
      obtain rfl := Except.ok.inj h
      exact .cons (isBlock_of_built (fun hnil => hrefs (by simp [hnil])) hspec) (ih hspecs)

def adAt (specs : List BlockSpec) (b i c : Nat) : Option AdSpec :=
  (specs[b]?.bind (·.adsets[i]?)).bind (·.ads[c]?)

def planNumber (start : Nat) (blocks : List CampaignBlock) (b c : Nat) : Nat :=
  start + ((blocks.take b).map fun block => block.conceptRefs.length).sum + c

theorem AreBlocks.code (h : AreBlocks utcOffset cfg start blocks specs) {b i c : Nat} {ad : AdSpec}
    (hat : adAt specs b i c = some ad) :
    (∃ block, blocks[b]? = some block ∧ c < block.conceptRefs.length) ∧
      ad.code = creativeCode cfg.offerCode cfg.creativePrefix (planNumber start blocks b c) := by
  induction h generalizing b with
  | nil => simp [adAt] at hat
  | @cons start block blocks spec specs head tail ih =>
    cases b with
    | zero =>
      obtain ⟨adset, hadset, hat⟩ := Option.bind_eq_some_iff.mp hat
      rw [head.ads adset (List.mem_of_getElem? hadset), List.getElem?_map,
        Option.map_eq_some_iff] at hat
      obtain ⟨code, hcode, rfl⟩ := hat
      obtain ⟨hlt, rfl⟩ := List.getElem?_eq_some_iff.mp hcode
      rw [length_codesFrom] at hlt
      exact ⟨⟨block, rfl, hlt⟩, by simp [adSpec, codesFrom, planNumber]⟩
    | succ b =>
      obtain ⟨hblock, hcode⟩ := ih hat
      refine ⟨hblock, hcode.trans (congrArg _ ?_)⟩
      simp [planNumber]
      omega

theorem planNumber_lt {start b b' c c' : Nat} {block : CampaignBlock}
    (hblock : blocks[b]? = some block) (hc : c < block.conceptRefs.length) (hb : b < b') :
    planNumber start blocks b c < planNumber start blocks b' c' := by
  obtain ⟨rest, hrest⟩ : blocks.take (b + 1) <+: blocks.take b' := List.take_prefix_take_left hb
  rw [List.take_add_one, hblock] at hrest
  unfold planNumber
  rw [← hrest]
  simp only [Option.toList_some, List.map_append, List.map_cons, List.map_nil, List.sum_append,
    List.sum_cons, List.sum_nil]
  omega

theorem AreBlocks.code_injective (h : AreBlocks utcOffset cfg start blocks specs)
    {b i c b' i' c' : Nat} {ad ad' : AdSpec} (hat : adAt specs b i c = some ad)
    (hat' : adAt specs b' i' c' = some ad') (hcode : ad.code = ad'.code) : b = b' ∧ c = c' := by
  obtain ⟨⟨block, hblock, hc⟩, heq⟩ := h.code hat
  obtain ⟨⟨block', hblock', hc'⟩, heq'⟩ := h.code hat'
  have hnumber : planNumber start blocks b c = planNumber start blocks b' c' :=
    creativeCode_injective (heq.symm.trans (hcode.trans heq'))
  obtain hlt | rfl | hgt := Nat.lt_trichotomy b b'
  · exact absurd hnumber (Nat.ne_of_lt (planNumber_lt hblock hc hlt))
  · exact ⟨rfl, by simpa [planNumber] using hnumber⟩
  · exact absurd hnumber (Nat.ne_of_gt (planNumber_lt hblock' hc' hgt))

-- ------------------------------------------------------------
-- Slices
-- ------------------------------------------------------------

/-- The slices, each from the code after the spans of the slices before it. -/
def startedAt : Nat → List CampaignConfig → List CampaignConfig
  | _, [] => []
  | start, slice :: rest =>
    { slice with codeStart := start } :: startedAt (start + totalCodeSpan slice) rest

theorem buildCampaignSpec_slice (head : IsBlock utcOffset cfg start block spec) :
    buildCampaignSpec utcOffset { cfg with campaigns := [block], codeStart := start } =
      .ok [spec] := by
  have hlength : ¬ block.conceptRefs.length < 1 := by
    have := List.length_pos_iff.mpr head.concepts
    omega
  have hbuilt : buildBlock utcOffset { cfg with campaigns := [block], codeStart := start } block
      start = .ok spec := head.built
  simp [buildCampaignSpec, buildBlocks, hlength, hbuilt]

theorem AreBlocks.slices (h : AreBlocks utcOffset cfg start blocks specs) :
    List.Forall₂ (fun slice spec => ∃ block start, IsBlock utcOffset cfg start block spec ∧
        block ∈ blocks ∧ slice = { cfg with campaigns := [block], codeStart := start })
      (startedAt start (blocks.map fun block => { cfg with campaigns := [block] })) specs := by
  induction h with
  | nil => exact .nil
  | @cons start block blocks spec specs head tail ih =>
    refine .cons ⟨block, start, head, List.mem_cons_self, rfl⟩ ?_
    have hspan : totalCodeSpan { cfg with campaigns := [block] } = block.conceptRefs.length := by
      simp [totalCodeSpan, blockCodeSpan]
    rw [hspan]
    refine ih.imp ?_
    rintro slice spec' ⟨block', start', hblock, hmem, rfl⟩
    exact ⟨block', start', hblock, List.mem_cons_of_mem _ hmem, rfl⟩

end

end StopBot.Campaigns
