import StopBot.Campaigns.Preview
import StopBot.Lib.Query

/-!
# The ad id in the tags

What `_ensure_ad_id_url_tag` does to a template, read as a query string. The
expression that looks for the key goes over the whole template, its fragment
included, and takes `?` for a delimiter wherever it stands.
-/

namespace StopBot.Campaigns

open Lib Calls Query

/-- `&` cuts parameters, and with `mark` so does `?`, as in the expression of the source. -/
def isDelimiter (mark : Bool) (c : Char) : Bool :=
  c == '&' || (mark && c == '?')

/-- The key is `sub8`, in any case. -/
def isSub8 (parameter : List Char) : Bool :=
  match key parameter with
  | [s, u, b, '8'] =>
    (s == 's' || s == 'S' || s == Char.ofNat 0x17f) && (u == 'u' || u == 'U') &&
      (b == 'b' || b == 'B')
  | _ => false

def carriesSub8 (mark : Bool) (tags : String) : Bool :=
  (parameters (isDelimiter mark) tags.toList).any isSub8

structure AdIdTracked (mark : Bool) (template : String) : Prop where
  present : carriesSub8 mark (ensureAdIdUrlTag template) = true
  kept : parameters (isDelimiter mark) (PyText.strip template).toList <+:
    parameters (isDelimiter mark) (ensureAdIdUrlTag template).toList
  fragment : fragment (ensureAdIdUrlTag template).toList = fragment (PyText.strip template).toList
  idempotent : ensureAdIdUrlTag (ensureAdIdUrlTag template) = ensureAdIdUrlTag template

/-- A key that the expression finds is one of a parameter; and if it finds none, the template does
not end in a `?` that cuts nothing. -/
structure TracksAdId (mark : Bool) (template : String) : Prop where
  found : hasSub8Key true (PyText.strip template).toList = true →
    carriesSub8 mark (PyText.strip template) = true
  added : hasSub8Key true (PyText.strip template).toList = false →
    mark = true ∨ (beforeFragment (PyText.strip template).toList).getLast? ≠ some '?'

-- ------------------------------------------------------------
-- The template with its tag
-- ------------------------------------------------------------

/-- What `_ensure_ad_id_url_tag` puts after the base. -/
def separator (base : List Char) : List Char :=
  match base.getLast? with
  | none => []
  | some c => if c == '?' || c == '&' then [] else ['&']

def tag : List Char := adIdUrlTag.toList

theorem tag_eq : tag = "sub8=\x7b\x7bad.id\x7d\x7d".toList := rfl

theorem ensureAdIdUrlTag_found {template : String}
    (h : hasSub8Key true (PyText.strip template).toList = true) :
    ensureAdIdUrlTag template = PyText.strip template := by
  simp [ensureAdIdUrlTag, h]

theorem ensureAdIdUrlTag_added {template : String}
    (h : hasSub8Key true (PyText.strip template).toList = false) :
    (ensureAdIdUrlTag template).toList =
      beforeFragment (PyText.strip template).toList ++
        separator (beforeFragment (PyText.strip template).toList) ++ tag ++
        fragment (PyText.strip template).toList := by
  unfold ensureAdIdUrlTag tag separator beforeFragment fragment
  simp only [h, Bool.false_eq_true, if_false, String.toList_append, String.toList_ofList]
  cases ((PyText.strip template).toList.takeWhile (· != '#')).getLast? with
  | none => simp
  | some c => by_cases hc : (c == '?' || c == '&') = true <;> simp [hc]

theorem strip_idem (template : String) :
    PyText.strip (PyText.strip template) = PyText.strip template := by
  simp only [PyText.strip, String.toList_ofList]
  rw [PyText.stripChars_of_trimmed (PyText.trimmed_stripChars _)]

/-- A key may begin after a text that ends in `?` or `&`. -/
def keyStart (start : Bool) (cs : List Char) : Bool :=
  match cs.getLast? with
  | none => start
  | some c => c == '?' || c == '&'

theorem hasSub8Key_append {xs ys : List Char} {start : Bool}
    (h : hasSub8Key (keyStart start xs) ys = true) : hasSub8Key start (xs ++ ys) = true := by
  induction xs generalizing start with
  | nil => exact h
  | cons c xs ih =>
    have hstart : keyStart start (c :: xs) = keyStart (c == '?' || c == '&') xs := by
      unfold keyStart
      rw [List.getLast?_cons]
      cases xs.getLast? <;> rfl
    rw [List.cons_append, hasSub8Key, ih (hstart ▸ h), Bool.or_true]

theorem hasSub8Key_tag (rest : List Char) : hasSub8Key true (tag ++ rest) = true := by
  rw [tag_eq]
  rfl

theorem keyStart_separator (base : List Char) : keyStart true (base ++ separator base) = true := by
  cases hlast : base.getLast? with
  | none =>
    rw [List.getLast?_eq_none_iff.mp hlast]
    rfl
  | some c =>
    by_cases hc : (c == '?' || c == '&') = true
    · simp [separator, hlast, hc, keyStart]
    · simp [separator, hlast, hc, keyStart]

theorem hash_notMem_tagged (cs : List Char) :
    '#' ∉ beforeFragment cs ++ separator (beforeFragment cs) ++ tag := by
  simp only [List.mem_append, not_or]
  refine ⟨⟨hash_notMem_beforeFragment cs, ?_⟩, by decide⟩
  unfold separator
  split
  · simp
  · split <;> simp

theorem trimmed_tagged {cs : List Char} (h : PyText.Trimmed cs) :
    PyText.Trimmed (beforeFragment cs ++ separator (beforeFragment cs) ++ tag ++ fragment cs) where
  head := by
    intro c hc
    cases hbase : beforeFragment cs with
    | nil =>
      rw [hbase] at hc
      simp only [separator, List.getLast?_nil, List.nil_append, List.append_nil, tag_eq] at hc
      cases hc
      decide
    | cons b base =>
      refine h.head c ?_
      rw [hbase] at hc
      rw [← beforeFragment_append_fragment cs, hbase]
      exact hc
  last := by
    intro c hc
    cases hlast : (fragment cs).getLast? with
    | none =>
      rw [List.getLast?_append, hlast, List.getLast?_append] at hc
      cases hc
      decide
    | some d =>
      refine h.last c ?_
      rw [List.getLast?_append, hlast] at hc
      rw [← beforeFragment_append_fragment cs, List.getLast?_append, hlast]
      exact hc

theorem hasSub8Key_tagged (base rest : List Char) :
    hasSub8Key true (base ++ separator base ++ tag ++ rest) = true := by
  rw [List.append_assoc]
  apply hasSub8Key_append
  rw [keyStart_separator]
  exact hasSub8Key_tag rest

theorem ensureAdIdUrlTag_idem (template : String) :
    ensureAdIdUrlTag (ensureAdIdUrlTag template) = ensureAdIdUrlTag template := by
  cases hfound : hasSub8Key true (PyText.strip template).toList with
  | true =>
    rw [ensureAdIdUrlTag_found hfound, ensureAdIdUrlTag_found (by rw [strip_idem]; exact hfound),
      strip_idem]
  | false =>
    have htrimmed : PyText.Trimmed (ensureAdIdUrlTag template).toList := by
      rw [ensureAdIdUrlTag_added hfound]
      refine trimmed_tagged ?_
      rw [PyText.strip, String.toList_ofList]
      exact PyText.trimmed_stripChars _
    have hstrip : PyText.strip (ensureAdIdUrlTag template) = ensureAdIdUrlTag template := by
      rw [PyText.strip, PyText.stripChars_of_trimmed htrimmed, String.ofList_toList]
    rw [ensureAdIdUrlTag_found, hstrip]
    rw [hstrip, ensureAdIdUrlTag_added hfound]
    exact hasSub8Key_tagged _ _

-- ------------------------------------------------------------
-- The parameters with the tag
-- ------------------------------------------------------------

section
variable {mark : Bool}

theorem tag_whole : ∀ c ∈ tag, isDelimiter mark c = false := by
  have hall : (tag.all fun c => !isDelimiter mark c) = true := by
    cases mark <;> decide
  intro c hc
  simpa using List.all_eq_true.mp hall c hc

/-- The tag is a parameter of its own, unless it comes after a `?` that cuts nothing. -/
theorem pieces_tagged {base : List Char} (h : mark = true ∨ base.getLast? ≠ some '?') :
    pieces (isDelimiter mark) (base ++ separator base ++ tag) =
      pieces (isDelimiter mark) base ++ [tag] := by
  have htag : pieces (isDelimiter mark) tag = [tag] := pieces_of_whole (by decide) tag_whole
  cases hlast : base.getLast? with
  | none =>
    obtain rfl := List.getLast?_eq_none_iff.mp hlast
    simpa [separator] using htag
  | some d =>
    obtain ⟨xs, rfl⟩ := List.getLast?_eq_some_iff.mp hlast
    by_cases hd : (d == '?' || d == '&') = true
    · have hcuts : isDelimiter mark d = true := by
        rw [hlast] at h
        rcases h with rfl | hne
        · simpa [isDelimiter, or_comm] using hd
        · have hamp : d = '&' := by simpa [show d ≠ '?' from fun heq => hne (by rw [heq])] using hd
          simp [isDelimiter, hamp]
      have hsep : separator (xs ++ [d]) = [] := by simp [separator, hd]
      have hbase := pieces_append_cons xs [] hcuts
      rw [hsep, List.append_nil, List.append_assoc, List.singleton_append,
        pieces_append_cons xs tag hcuts, htag, hbase, pieces_nil, List.append_nil]
    · have hsep : separator (xs ++ [d]) = ['&'] := by simp [separator, hd]
      rw [hsep, List.append_assoc _ ['&'], List.singleton_append,
        pieces_append_cons _ tag (by simp [isDelimiter]), htag]

theorem isSub8_tag : isSub8 tag = true := by
  decide

theorem hasSub8Key_of_isSub8 {piece rest : List Char} (h : isSub8 piece = true)
    (hrest : rest = [] ∨ ∃ d more, rest = d :: more ∧ (d = '&' ∨ d = '#')) :
    hasSub8Key true (piece ++ rest) = true := by
  unfold isSub8 at h
  split at h
  · rename_i s u b hkey
    have hparts : key piece ++ piece.dropWhile (· != '=') = piece := List.takeWhile_append_dropWhile
    rw [hkey] at hparts
    have hnext : piece.dropWhile (· != '=') = [] ∨
        ∃ more, piece.dropWhile (· != '=') = '=' :: more := by
      cases hdrop : piece.dropWhile (· != '=') with
      | nil => exact .inl rfl
      | cons c more =>
        have hhead := List.head?_dropWhile_not (· != '=') piece
        rw [hdrop] at hhead
        exact .inr ⟨more, by simpa using hhead⟩
    rw [← hparts, List.append_assoc]
    simp only [List.cons_append, List.nil_append, hasSub8Key, Bool.true_and, Bool.or_eq_true]
    refine .inl ?_
    simp only [matchesSub8, h, Bool.true_and]
    rcases hnext with hnil | ⟨more, hcons⟩
    · rw [hnil]
      rcases hrest with rfl | ⟨d, more, rfl, rfl | rfl⟩ <;> rfl
    · rw [hcons]
      rfl
  · cases h

theorem not_isSub8_of_not_found {cs piece : List Char} (h : hasSub8Key true cs = false)
    (hmem : piece ∈ (beforeFragment cs).splitOnP (isDelimiter false)) : isSub8 piece = false := by
  obtain ⟨before, after, hbase, hbefore, hafter⟩ := mem_splitOnP hmem
  cases hsub8 : isSub8 piece with
  | false => rfl
  | true =>
    have hrest : after ++ fragment cs = [] ∨
        ∃ d more, after ++ fragment cs = d :: more ∧ (d = '&' ∨ d = '#') := by
      rcases hafter with rfl | ⟨d, more, rfl, hd⟩
      · rcases fragment_eq_nil_or cs with hnil | ⟨more, hmore⟩
        · exact .inl hnil
        · exact .inr ⟨'#', more, hmore, .inr rfl⟩
      · exact .inr ⟨d, more ++ fragment cs, rfl, .inl (by simpa [isDelimiter] using hd)⟩
    have hstart : keyStart true before = true := by
      rcases hbefore with rfl | ⟨more, d, rfl, hd⟩
      · rfl
      · have hamp : d = '&' := by simpa [isDelimiter] using hd
        simp [keyStart, hamp]
    have hfound : hasSub8Key true (before ++ (piece ++ (after ++ fragment cs))) = true :=
      hasSub8Key_append (by rw [hstart]; exact hasSub8Key_of_isSub8 hsub8 hrest)
    rw [← List.append_assoc, ← List.append_assoc, ← hbase, beforeFragment_append_fragment,
      h] at hfound
    cases hfound

theorem isSub8_of_append {piece rest : List Char} (hmark : '?' ∈ piece)
    (h : isSub8 (piece ++ rest) = true) : isSub8 piece = true := by
  by_cases heq : '=' ∈ piece
  · unfold isSub8 at h ⊢
    rw [key_append heq rest] at h
    exact h
  · have hall : ∀ c ∈ piece, (c != '=') = true := fun c hc => by
      simp only [bne_iff_ne, ne_eq]
      exact fun hceq => heq (hceq ▸ hc)
    have hin : '?' ∈ key (piece ++ rest) := by
      rw [key, List.takeWhile_append_of_pos hall]
      exact List.mem_append_left _ hmark
    unfold isSub8 at h
    split at h
    · rename_i s u b hkey
      rw [hkey] at hin
      simp only [List.mem_cons, List.not_mem_nil, or_false] at hin
      rcases hin with rfl | rfl | rfl | height
      · rw [show ('?' == 's' || '?' == 'S' || '?' == Char.ofNat 0x17f) = false by decide] at h
        cases h
      · simp at h
      · simp at h
      · exact absurd height (by decide)
    · cases h

/-- The tag after a `?` that cuts nothing is the end of a value. -/
theorem not_isSub8_of_marked {cs piece : List Char} (h : hasSub8Key true cs = false)
    (hlast : (beforeFragment cs).getLast? = some '?')
    (hmem : piece ∈ (beforeFragment cs ++ tag).splitOnP (isDelimiter false)) :
    isSub8 piece = false := by
  rcases mem_splitOnP_append tag_whole hmem with hbase | ⟨last, hpiece, rfl, hplace⟩
  · exact not_isSub8_of_not_found h hbase
  · have hends : '?' ∈ last := by
      rcases hplace with hwhole | ⟨before, d, hbase, hd⟩
      · rw [← hwhole]
        exact List.mem_of_getLast? hlast
      · rw [hbase, List.getLast?_append, List.getLast?_cons] at hlast
        cases hin : last.getLast? with
        | none =>
          have hmark : d = '?' := by simpa [hin] using hlast
          rw [hmark] at hd
          cases hd
        | some c =>
          have hc : c = '?' := by simpa [hin] using hlast
          exact hc ▸ List.mem_of_getLast? hin
    cases hsub8 : isSub8 (last ++ tag) with
    | false => rfl
    | true =>
      have hkey := isSub8_of_append hends hsub8
      rw [not_isSub8_of_not_found h hpiece] at hkey
      cases hkey

theorem parameters_added {template : String}
    (h : hasSub8Key true (PyText.strip template).toList = false) :
    parameters (isDelimiter mark) (ensureAdIdUrlTag template).toList =
      pieces (isDelimiter mark) (beforeFragment (PyText.strip template).toList ++
        separator (beforeFragment (PyText.strip template).toList) ++ tag) := by
  rw [ensureAdIdUrlTag_added h, parameters,
    beforeFragment_append (hash_notMem_tagged _) (fragment_eq_nil_or _)]

theorem fragment_ensured (template : String) :
    fragment (ensureAdIdUrlTag template).toList = fragment (PyText.strip template).toList := by
  cases hfound : hasSub8Key true (PyText.strip template).toList with
  | true => rw [ensureAdIdUrlTag_found hfound]
  | false =>
    rw [ensureAdIdUrlTag_added hfound,
      fragment_append (hash_notMem_tagged _) (fragment_eq_nil_or _)]

/-- The tags carry the key exactly in the cases that `TracksAdId` lists. -/
theorem carriesSub8_ensured (mark : Bool) (template : String) :
    carriesSub8 mark (ensureAdIdUrlTag template) = true ↔ TracksAdId mark template := by
  cases hfound : hasSub8Key true (PyText.strip template).toList with
  | true =>
    rw [ensureAdIdUrlTag_found hfound]
    exact ⟨fun hcarries => ⟨fun _ => hcarries, by simp [hfound]⟩, fun h => h.found hfound⟩
  | false =>
    rw [carriesSub8, parameters_added hfound]
    constructor
    · intro hcarries
      refine ⟨by simp [hfound], fun _ => ?_⟩
      by_contra hmarked
      simp only [not_or, ne_eq, not_not] at hmarked
      obtain ⟨hmark, hlast⟩ := hmarked
      have hmark : mark = false := by simpa using hmark
      subst hmark
      obtain ⟨piece, hpiece, hsub8⟩ := List.any_eq_true.mp hcarries
      have hsep : separator (beforeFragment (PyText.strip template).toList) = [] := by
        simp [separator, hlast]
      rw [hsep, List.append_nil] at hpiece
      rw [not_isSub8_of_marked hfound hlast (List.mem_filter.mp hpiece).1] at hsub8
      cases hsub8
    · intro h
      rw [pieces_tagged (h.added hfound)]
      simp [isSub8_tag]

theorem parameters_prefix (mark : Bool) (template : String) (h : TracksAdId mark template) :
    parameters (isDelimiter mark) (PyText.strip template).toList <+:
      parameters (isDelimiter mark) (ensureAdIdUrlTag template).toList := by
  cases hfound : hasSub8Key true (PyText.strip template).toList with
  | true => simp only [ensureAdIdUrlTag_found hfound, List.prefix_rfl]
  | false =>
    rw [parameters_added hfound, pieces_tagged (h.added hfound)]
    exact List.prefix_append _ _

end

theorem adIdTracked_iff (mark : Bool) (template : String) :
    AdIdTracked mark template ↔ TracksAdId mark template := by
  constructor
  · exact fun h => (carriesSub8_ensured mark template).mp h.present
  · intro h
    constructor
    · exact (carriesSub8_ensured mark template).mpr h
    · exact parameters_prefix mark template h
    · exact fragment_ensured template
    · exact ensureAdIdUrlTag_idem template

-- ------------------------------------------------------------
-- The creatives of an execution
-- ------------------------------------------------------------

def urlTagsTemplateOf (cfg : CampaignConfig) (code : String) : String :=
  match cfg.urlTagsTemplate with
  | some custom => if PyText.strip custom = "" then defaultTemplate else custom
  | none => defaultTemplate
where
  defaultTemplate : String :=
    "sub2=" ++ cfg.byerTag ++ "&sub3=" ++ code ++ "&sub4=" ++ cfg.account.actNum ++
      "&sub5=\x7b\x7bcampaign.name\x7d\x7d&sub6=\x7b\x7badset.name\x7d\x7d" ++
      "&sub7=\x7b\x7bad.name\x7d\x7d"

theorem urlTagsOf_eq (cfg : CampaignConfig) (code : String) :
    urlTagsOf cfg code = ensureAdIdUrlTag (urlTagsTemplateOf cfg code) := rfl

def HasTags (cfg : CampaignConfig) (body : Obj) : Prop :=
  ∃ code, Obj.get? body "url_tags" = some (.str (urlTagsOf cfg code))

def tagged (cfg : CampaignConfig) : Monitor Unit Await Answer :=
  asking fun await => ∀ body, await.request = .graph .adcreatives body → HasTags cfg body

def Tags {ε α : Type} (cfg : CampaignConfig) (part : Exec ε α) (post : α → Prop) : Prop :=
  Triple (tagged cfg) (fun _ _ => True) part (fun _ value _ => post value) fun _ _ _ => True

section
variable {ε α β : Type} {cfg : CampaignConfig}

theorem Tags.bind {first : Exec ε α} {rest : α → Exec ε β} {mid : α → Prop} {post : β → Prop}
    (hfirst : Tags cfg first mid) (hrest : ∀ value, mid value → Tags cfg (rest value) post) :
    Tags cfg (first >>= rest) post :=
  Triple.bind hfirst fun value g s hmid => hrest value hmid g s trivial

theorem Tags.pure {value : α} {post : α → Prop} (h : post value) :
    Tags cfg (Pure.pure value : Exec ε α) post :=
  Triple.pure fun _ _ _ => h

theorem tags_modify (f : ExecState → ExecState) :
    Tags cfg (Exec.modify f : Exec ε Unit) fun _ => True :=
  Triple.modify fun _ _ _ => trivial

theorem tags_emit : Tags cfg (emit : Exec ε Unit) fun _ => True :=
  Triple.emit (fun _ _ _ _ h => by cases h) fun _ _ _ _ _ => trivial

theorem tags_ask {request : Request}
    (h : ∀ body, request = .graph .adcreatives body → HasTags cfg body) :
    Tags cfg (Exec.ask request : Exec ε Answer) fun _ => True :=
  Triple.ask (fun _ _ _ => h) fun _ _ _ _ _ => trivial

theorem tags_createObject {edge : Edge} {body : Obj} (what : String)
    (h : edge = .adcreatives → HasTags cfg body) :
    Tags cfg (createObject edge body what) fun _ => True :=
  .bind (tags_ask (by rintro _ ⟨⟩; exact h rfl)) fun answer _ =>
    .bind (objectOf_keeps answer) fun response _ => extractId_keeps response what

theorem tags_countUpload : Tags cfg countUpload fun _ => True :=
  .bind (tags_modify _) fun _ _ => tags_emit

theorem tags_createCampaign (body : Obj) : Tags cfg (createCampaign body) fun _ => True :=
  .bind (tags_ask fun _ h => by cases h) fun answer _ => .bind (tags_modify _) fun _ _ =>
    .bind (objectOf_keeps answer) fun response _ => extractId_keeps response _

theorem tags_createAdsets (campaignId : String) (specs : List (AdsetSpec × Nat)) :
    Tags cfg (createAdsets campaignId specs) fun _ => True := by
  induction specs with
  | nil => exact .pure trivial
  | cons item rest ih =>
    have hadset : Tags cfg (createAdset campaignId item.1 item.2) fun _ => True :=
      .bind (tags_createObject _ fun h => by cases h) fun _ _ => .bind (tags_modify _) fun _ _ =>
        .bind tags_emit fun _ _ => .pure trivial
    exact .bind hadset fun _ _ => .bind ih fun _ _ => .pure trivial

theorem tags_uploadMedia (ad : UniquifiedAd) : Tags cfg (uploadMedia cfg ad) (HasTags cfg) := by
  unfold uploadMedia
  cases ad.kind with
  | video =>
    refine .bind (tags_ask fun _ h => by cases h) fun answer _ => .bind (valueOf_keeps answer)
      fun videoId _ => .bind (tags_modify _) fun _ _ => .bind (tags_ask fun _ h => by cases h)
      fun ready _ => .bind (doneOf_keeps ready) fun _ _ => .bind (tags_ask fun _ h => by cases h)
      fun answer' _ => .bind (valueOf_keeps answer') fun thumbUrl _ => .bind tags_countUpload
      fun _ _ => .pure ⟨ad.code, ?_⟩
    unfold videoCreativeBody
    exact (creativeBody_carries cfg ad.code (urlTagsOf cfg ad.code) (_, _)).2
  | image =>
    refine .bind (tags_ask fun _ h => by cases h) fun answer _ => .bind (valueOf_keeps answer)
      fun imageHash _ => .bind (tags_modify _) fun _ _ => .bind tags_countUpload
      fun _ _ => .pure ⟨ad.code, ?_⟩
    unfold imageCreativeBody
    exact (creativeBody_carries cfg ad.code (urlTagsOf cfg ad.code) (_, _)).2

theorem tags_createAd (adsetId : String) (ad : UniquifiedAd) :
    Tags cfg (createAd cfg adsetId ad) fun _ => True :=
  .bind (tags_modify _) fun _ _ => .bind (tags_uploadMedia ad) fun _ hbody =>
    .bind (tags_modify _) fun _ _ => .bind (tags_createObject _ fun _ => hbody) fun _ _ =>
    .bind (tags_modify _) fun _ _ => .bind tags_emit fun _ _ =>
    .bind (tags_ask fun _ h => by cases h) fun _ _ =>
    .bind (tags_createObject _ fun h => by cases h) fun _ _ =>
      .bind (tags_modify _) fun _ _ => tags_emit

theorem tags_planBlock (spec : BlockSpec) (concepts : List ConceptInput) (codeStart : Nat) :
    Tags cfg (planBlock cfg spec concepts codeStart) fun _ => True := by
  unfold planBlock
  split
  · split
    · exact .pure trivial
    · exact Triple.raise fun _ _ _ => trivial
  · exact Triple.raise fun _ _ _ => trivial

theorem tags_executeBlock (spec : BlockSpec) (concepts : List ConceptInput) (codeStart : Nat) :
    Tags cfg (executeBlock cfg spec concepts codeStart) fun _ => True := by
  refine .bind (tags_planBlock spec concepts codeStart) fun plan _ => .bind (tags_modify _)
    fun _ _ => .bind tags_emit fun _ _ => .bind (tags_ask fun _ h => by cases h)
    fun answer _ => .bind (doneOf_keeps answer) fun _ _ => .bind (tags_modify _)
    fun _ _ => .bind (tags_createCampaign spec.body) fun campaignId _ => .bind (tags_modify _)
    fun _ _ => .bind tags_emit fun _ _ => .bind (tags_createAdsets campaignId _)
    fun adsetIds _ => .bind (tags_modify _) fun _ _ => .bind tags_emit fun _ _ => ?_
  exact Triple.each fun item _ => Triple.each fun ad _ => tags_createAd item.1 ad

theorem tags_executeBlocks (concepts : List (String × List ConceptInput)) (codeStart : Nat)
    (specs : List BlockSpec) :
    Tags cfg (executeBlocks cfg concepts codeStart specs) fun _ => True := by
  induction specs generalizing codeStart with
  | nil => exact .pure trivial
  | cons spec rest ih =>
    unfold executeBlocks
    simp only
    split
    · refine Tags.bind (?_ : Tags cfg _ fun _ => True) fun _ _ => ih _
      exact fun _ _ _ => trivial
    · refine Tags.bind (?_ : Tags cfg _ fun _ => True) fun _ _ => ih _
      exact Triple.catching (tags_executeBlock spec _ codeStart) fun _ _ _ _ => trivial

theorem tags_executeCampaignSpec (specs : List BlockSpec)
    (concepts : List (String × List ConceptInput)) :
    Tags cfg (executeCampaignSpec cfg specs concepts) fun _ => True := by
  unfold executeCampaignSpec
  split
  · exact Triple.raise fun _ _ _ => trivial
  · exact .bind (tags_executeBlocks concepts _ specs) fun _ _ => .bind (tags_modify _)
      fun _ _ => .bind tags_emit fun _ _ => fun _ _ _ => trivial

end

/-- The tags made from a template carry the ad id under the condition, and so do the creatives of
an execution. -/
theorem ad_id_tracked_iff (mark : Bool) (template : String) (cfg : CampaignConfig)
    (specs : List BlockSpec) (concepts : List (String × List ConceptInput)) (client : Client) :
    (AdIdTracked mark template ↔ TracksAdId mark template) ∧
    ∀ (await : Await) (answer : Answer) (body : Obj),
      (await, answer) ∈ ((executeCampaignSpec cfg specs concepts {}).play client []).2 →
      await.request = .graph .adcreatives body →
      ∃ code tags, Obj.get? body "url_tags" = some (.str tags) ∧
        (carriesSub8 mark tags = true ↔ TracksAdId mark (urlTagsTemplateOf cfg code)) := by
  refine ⟨adIdTracked_iff mark template, ?_⟩
  intro await answer body hlog hrequest
  have hmeets := @tags_executeCampaignSpec cfg specs concepts () {} trivial
  rcases hmeets.asked client [] (await, answer) hlog with hold | hasked
  · cases hold
  · obtain ⟨code, htags⟩ := hasked body hrequest
    exact ⟨code, _, htags, by rw [urlTagsOf_eq, carriesSub8_ensured]⟩

theorem ad_id_tracked_custom :
    TracksAdId false "utm_source=custom" ∧ AdIdTracked false "utm_source=custom" := by
  have htracks : TracksAdId false "utm_source=custom" :=
    ⟨fun hfound => absurd hfound (by decide +kernel), fun _ => .inr (by decide +kernel)⟩
  exact ⟨htracks,
    (ad_id_tracked_iff false "utm_source=custom" sampleConfig [] [] readyClient).1.mpr htracks⟩

/-- A key in the fragment alone keeps the tag out. -/
theorem ad_id_only_in_fragment :
    ¬ AdIdTracked true "a=1#x&sub8=2" ∧ ¬ AdIdTracked false "a=1#x&sub8=2" := by
  constructor
  · exact fun h => absurd h.present (by decide +kernel)
  · exact fun h => absurd h.present (by decide +kernel)

end StopBot.Campaigns
