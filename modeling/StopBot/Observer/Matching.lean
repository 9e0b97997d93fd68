import StopBot.Lib.WordSearch
import StopBot.Lib.JsText
import StopBot.Rules.Context
import Mathlib.Data.List.MinMax
import Mathlib.Data.String.Basic
import Mathlib.Data.Prod.Lex

/-!
# Offers and owners by name

`match_offer_for_ad` and `campaign_matches_owner` of the observer, and the copy
of the second in the browser agent, `am-owner.ts`. Codes and tags are looked for
as words in texts of one case. The case mappings of Unicode are parameters.
-/

namespace StopBot.Observer

open Lib WordSearch Rules

/-- `str.casefold`, which folds no text away. -/
structure CaseFolding where
  fold : String → String
  empty_iff : ∀ text, fold text = "" ↔ text = ""

-- ------------------------------------------------------------
-- Offers
-- ------------------------------------------------------------

/-- The pattern of a code is searched for; an empty code is passed over. -/
def CaseFolding.finds (f : CaseFolding) (code text : String) : Bool :=
  f.fold code != "" && search isWordChar (f.fold code).toList (f.fold text).toList

/-- One round of `_best_match_in`: a longer code wins, and of two as long the smaller one. -/
def pick (f : CaseFolding) (text : String) (best : Option OfferRules) (offer : OfferRules) :
    Option OfferRules :=
  if f.finds offer.code text then
    match best with
    | none => some offer
    | some held =>
      if held.code.length < offer.code.length then some offer
      else if offer.code.length = held.code.length ∧ offer.code < held.code then some offer
      else some held
  else best

def bestMatchIn (f : CaseFolding) (offers : List OfferRules) (text : String) : Option OfferRules :=
  offers.foldl (pick f text) none

def matchOfferForAd (f : CaseFolding) (campaignName adName : String) (offers : List OfferRules) :
    Option OfferRules :=
  match bestMatchIn f offers adName with
  | some matched => some matched
  | none => bestMatchIn f offers campaignName

/-- The code of the offer occurs in the text as a word, in any case; an empty one occurs nowhere. -/
def CodeOccurs (f : CaseFolding) (text : String) (offer : OfferRules) : Prop :=
  offer.code ≠ "" ∧ Occurs isWordChar (f.fold offer.code).toList (f.fold text).toList

/-- Of the offers whose codes occur, the one with the longest code, and of those the one with the
smallest. -/
structure Chosen (f : CaseFolding) (offers : List OfferRules) (text : String) (offer : OfferRules) :
    Prop where
  mem : offer ∈ offers
  occurs : CodeOccurs f text offer
  best : ∀ other ∈ offers, CodeOccurs f text other → other ≠ offer →
    other.code.length < offer.code.length ∨
      (other.code.length = offer.code.length ∧ offer.code < other.code)

def rank (offer : OfferRules) : ℕ ×ₗ Stringᵒᵈ :=
  toLex (offer.code.length, OrderDual.toDual offer.code)

theorem rank_lt {a b : OfferRules} : rank a < rank b ↔
    a.code.length < b.code.length ∨ (a.code.length = b.code.length ∧ b.code < a.code) := by
  rw [rank, rank, Prod.Lex.toLex_lt_toLex]
  rfl

section
variable {f : CaseFolding} {offers : List OfferRules} {text : String} {offer : OfferRules}

theorem finds_iff : f.finds offer.code text = true ↔ CodeOccurs f text offer := by
  rw [CaseFolding.finds, CodeOccurs, Bool.and_eq_true, search_iff, bne_iff_ne, ne_eq, f.empty_iff]

theorem pick_eq_argAux (best : Option OfferRules) (h : f.finds offer.code text = true) :
    pick f text best offer = List.argAux (fun a b => rank b < rank a) best offer := by
  unfold pick List.argAux
  rw [if_pos h]
  cases best with
  | none => rfl
  | some held =>
    simp only [rank_lt]
    by_cases hlonger : held.code.length < offer.code.length
    · simp [hlonger]
    · have hsame : held.code.length = offer.code.length ↔
          offer.code.length = held.code.length := eq_comm
      simp [hlonger, hsame]

theorem bestMatchIn_eq_argmax :
    bestMatchIn f offers text =
      (offers.filter fun offer => f.finds offer.code text).argmax rank := by
  have hfold : ∀ best, offers.foldl (pick f text) best =
      (offers.filter fun offer => f.finds offer.code text).foldl
        (List.argAux fun a b => rank b < rank a) best := by
    induction offers with
    | nil => exact fun _ => rfl
    | cons offer offers ih =>
      intro best
      rw [List.foldl_cons, ih]
      cases hfinds : f.finds offer.code text with
      | true =>
        simp only [List.filter_cons, hfinds, if_true, List.foldl_cons, pick_eq_argAux best hfinds]
      | false =>
        simp only [List.filter_cons, hfinds, pick, Bool.false_eq_true, if_false]
  exact hfold none

theorem bestMatchIn_eq_some (hcodes : (offers.map OfferRules.code).Nodup) :
    bestMatchIn f offers text = some offer ↔ Chosen f offers text offer := by
  have hinj : ∀ a ∈ offers, ∀ b ∈ offers, a.code = b.code → a = b := fun a ha b hb =>
    List.inj_on_of_nodup_map hcodes ha hb
  have hmatching : ∀ {a : OfferRules}, a ∈ offers.filter (fun offer => f.finds offer.code text) ↔
      a ∈ offers ∧ CodeOccurs f text a := by
    simp [List.mem_filter, finds_iff]
  rw [bestMatchIn_eq_argmax]
  constructor
  · intro hmax
    obtain ⟨hmem, hoccurs⟩ := hmatching.mp (List.argmax_mem hmax)
    refine ⟨hmem, hoccurs, fun other hother hoccurs' hne => rank_lt.mp ?_⟩
    have hle := List.le_of_mem_argmax (hmatching.mpr ⟨hother, hoccurs'⟩) hmax
    refine lt_of_le_of_ne hle fun hrank => hne (hinj other hother offer hmem ?_)
    exact congrArg (fun r : ℕ ×ₗ Stringᵒᵈ => OrderDual.ofDual (ofLex r).2) hrank
  · rintro ⟨hmem, hoccurs, hbest⟩
    have hin := hmatching.mpr ⟨hmem, hoccurs⟩
    cases hmax : (offers.filter fun offer => f.finds offer.code text).argmax rank with
    | none =>
      rw [List.argmax_eq_none.mp hmax] at hin
      cases hin
    | some other =>
      obtain ⟨hother, hoccurs'⟩ := hmatching.mp (List.argmax_mem hmax)
      have hle := List.le_of_mem_argmax hin hmax
      by_contra hne
      have hlt := hbest other hother hoccurs' fun heq => hne (by rw [heq])
      exact absurd (rank_lt.mpr hlt) (not_lt.mpr hle)

theorem bestMatchIn_eq_none :
    bestMatchIn f offers text = none ↔ ∀ offer ∈ offers, ¬ CodeOccurs f text offer := by
  rw [bestMatchIn_eq_argmax, List.argmax_eq_none, List.filter_eq_nil_iff]
  simp only [finds_iff]

theorem bestMatchIn_perm {permuted : List OfferRules} (hcodes : (offers.map OfferRules.code).Nodup)
    (hperm : permuted.Perm offers) : bestMatchIn f permuted text = bestMatchIn f offers text := by
  have hcodes' : (permuted.map OfferRules.code).Nodup :=
    (hperm.map OfferRules.code).nodup_iff.mpr hcodes
  apply Option.ext
  intro offer
  rw [bestMatchIn_eq_some hcodes', bestMatchIn_eq_some hcodes]
  constructor
  · exact fun h => ⟨hperm.mem_iff.mp h.mem, h.occurs,
      fun other hother => h.best other (hperm.mem_iff.mpr hother)⟩
  · exact fun h => ⟨hperm.mem_iff.mpr h.mem, h.occurs,
      fun other hother => h.best other (hperm.mem_iff.mp hother)⟩

theorem matchOfferForAd_eq_some (campaignName adName : String)
    (hcodes : (offers.map OfferRules.code).Nodup) :
    matchOfferForAd f campaignName adName offers = some offer ↔
      Chosen f offers adName offer ∨
        ((∀ other ∈ offers, ¬ CodeOccurs f adName other) ∧ Chosen f offers campaignName offer) := by
  unfold matchOfferForAd
  cases had : bestMatchIn f offers adName with
  | none =>
    have hnone := bestMatchIn_eq_none.mp had
    constructor
    · exact fun h => .inr ⟨hnone, (bestMatchIn_eq_some hcodes).mp h⟩
    · rintro (hchosen | ⟨-, hchosen⟩)
      · exact absurd hchosen.occurs (hnone offer hchosen.mem)
      · exact (bestMatchIn_eq_some hcodes).mpr hchosen
  | some matched =>
    have hmatched := (bestMatchIn_eq_some hcodes).mp had
    constructor
    · intro h
      obtain rfl := Option.some.inj h
      exact .inl hmatched
    · rintro (hchosen | ⟨hnone, -⟩)
      · have hbest := (bestMatchIn_eq_some hcodes).mpr hchosen
        rw [had] at hbest
        exact hbest
      · exact absurd hmatched.occurs (hnone matched hmatched.mem)

theorem matchOfferForAd_eq_none (campaignName adName : String) :
    matchOfferForAd f campaignName adName offers = none ↔
      ∀ offer ∈ offers, ¬ CodeOccurs f adName offer ∧ ¬ CodeOccurs f campaignName offer := by
  unfold matchOfferForAd
  cases had : bestMatchIn f offers adName with
  | none =>
    have hnone := bestMatchIn_eq_none.mp had
    simp only [bestMatchIn_eq_none]
    exact ⟨fun h offer hmem => ⟨hnone offer hmem, h offer hmem⟩,
      fun h offer hmem => (h offer hmem).2⟩
  | some matched =>
    simp only [reduceCtorEq, false_iff]
    intro h
    rw [bestMatchIn_eq_none.mpr fun offer hmem => (h offer hmem).1] at had
    cases had

end

/-- Over distinct codes the match does not depend on the order of the offers: it is the choice over
the name of the ad, else over the name of the campaign, and there is none when no code occurs. -/
theorem match_offer_contract (f : CaseFolding) (campaignName adName : String)
    {offers : List OfferRules} (hcodes : (offers.map OfferRules.code).Nodup) :
    (∀ permuted : List OfferRules, permuted.Perm offers →
      matchOfferForAd f campaignName adName permuted =
        matchOfferForAd f campaignName adName offers) ∧
    (∀ offer, matchOfferForAd f campaignName adName offers = some offer ↔
      Chosen f offers adName offer ∨
        ((∀ other ∈ offers, ¬ CodeOccurs f adName other) ∧ Chosen f offers campaignName offer)) ∧
    (matchOfferForAd f campaignName adName offers = none ↔
      ∀ offer ∈ offers, ¬ CodeOccurs f adName offer ∧ ¬ CodeOccurs f campaignName offer) := by
  refine ⟨fun permuted hperm => ?_, fun offer => matchOfferForAd_eq_some campaignName adName hcodes,
    matchOfferForAd_eq_none campaignName adName⟩
  unfold matchOfferForAd
  rw [bestMatchIn_perm hcodes hperm, bestMatchIn_perm hcodes hperm]

/-- The folding of ASCII texts. -/
def asciiFolding : CaseFolding where
  fold text := String.ofList (text.toList.map Char.toLower)
  empty_iff text := by
    rw [← String.toList_inj, ← String.toList_inj]
    simp

def namedOffer (code : String) : OfferRules :=
  { code, cpaThreshold := none, frequencyThreshold := none }

theorem match_offer_two_codes :
    (([namedOffer "CR1", namedOffer "CR2"]).map OfferRules.code).Nodup ∧
      matchOfferForAd asciiFolding "CR1 | CR2 | DE" "" [namedOffer "CR2", namedOffer "CR1"] =
        matchOfferForAd asciiFolding "CR1 | CR2 | DE" "" [namedOffer "CR1", namedOffer "CR2"] := by
  have hcodes : (([namedOffer "CR1", namedOffer "CR2"]).map OfferRules.code).Nodup := by decide
  exact ⟨hcodes, (match_offer_contract asciiFolding "CR1 | CR2 | DE" "" hcodes).1 _ (.swap _ _ _)⟩

-- ------------------------------------------------------------
-- Owners
-- ------------------------------------------------------------

def ownerPieces (raw : String) : List String :=
  ((raw.toList.map fun c => if c = ';' then ',' else c).splitOn ',').map String.ofList

def parseOwnerTags : Option String → List String
  | none => []
  | some raw =>
    if raw = "" then []
    else ((ownerPieces raw).map PyText.strip).filter (· ≠ "")

/-- The pattern of a tag is searched for in the names of the campaign and of the ad. -/
def campaignMatchesOwner (f : CaseFolding) (campaignName adName : String)
    (ownerTag : Option String) :
    Bool :=
  let tags := parseOwnerTags ownerTag
  tags.isEmpty || tags.any fun tag =>
    search isWordChar (f.fold tag).toList (f.fold campaignName).toList ||
      search isWordChar (f.fold tag).toList (f.fold adName).toList

namespace AmOwner

def parseOwnerTags : Option String → List String
  | none => []
  | some raw =>
    if raw = "" then []
    else ((ownerPieces raw).map JsText.trim).filter (· ≠ "")

/-- The expression of the tag is tested on the name of the campaign. -/
def campaignMatchesOwner (toLowerCase : String → String) (campaignName : String)
    (ownerTag : Option String) : Bool :=
  let tags := parseOwnerTags ownerTag
  tags.isEmpty || tags.any fun tag =>
    search isWordUnit (utf16 (toLowerCase tag).toList) (utf16 (toLowerCase campaignName).toList)

/-- The ids of the campaigns that match; without tags there are none to ask for. -/
def resolveOwnerCampaignIds (toLowerCase : String → String)
    (campaigns : List (String × Option String)) (ownerTag : Option String) : List String :=
  if (parseOwnerTags ownerTag).isEmpty then []
  else (campaigns.filter fun campaign =>
    campaignMatchesOwner toLowerCase (campaign.2.getD "") ownerTag).map Prod.fst

end AmOwner

/-- The pieces of a tag string, before their ends are trimmed. -/
def tagPieces : Option String → List String
  | none => []
  | some raw => if raw = "" then [] else ownerPieces raw

def finds (f : CaseFolding) (campaignName piece : String) : Bool :=
  let tag := PyText.strip piece
  tag != "" && search isWordChar (f.fold tag).toList (f.fold campaignName).toList

def AmOwner.finds (toLowerCase : String → String) (campaignName piece : String) : Bool :=
  let tag := JsText.trim piece
  tag != "" &&
    search isWordUnit (utf16 (toLowerCase tag).toList) (utf16 (toLowerCase campaignName).toList)

/-- The two languages trim a piece alike, and the tag and the name have the same lower case
as their folding. -/
def ReadAlike (f : CaseFolding) (toLowerCase : String → String)
    (campaignName piece : String) : Prop :=
  JsText.trim piece = PyText.strip piece ∧
    (PyText.strip piece ≠ "" → toLowerCase (PyText.strip piece) = f.fold (PyText.strip piece) ∧
      toLowerCase campaignName = f.fold campaignName)

/-- Both find some tag; or each piece is read alike, or dropped by both or kept by both and
found by neither. -/
def Mirrored (f : CaseFolding) (toLowerCase : String → String) (campaignName : String)
    (ownerTag : Option String) : Prop :=
  (∃ piece ∈ tagPieces ownerTag, AmOwner.finds toLowerCase campaignName piece = true ∧
      finds f campaignName piece = true) ∨
    ∀ piece ∈ tagPieces ownerTag, ReadAlike f toLowerCase campaignName piece ∨
      (JsText.trim piece = "" ↔ PyText.strip piece = "") ∧
        AmOwner.finds toLowerCase campaignName piece = false ∧ finds f campaignName piece = false

section
variable {f : CaseFolding} {toLowerCase : String → String} {campaignName piece : String}
  {ownerTag : Option String}

theorem search_empty {tag : String} (h : tag ≠ "") :
    search isWordChar (f.fold tag).toList (f.fold "").toList = false := by
  have hempty : f.fold "" = "" := (f.empty_iff "").mpr rfl
  rw [hempty, Bool.eq_false_iff]
  intro hfound
  obtain ⟨before, after, htext, -, -⟩ := search_iff.mp hfound
  have hword := (List.append_eq_nil_iff.mp (List.append_eq_nil_iff.mp htext.symm).1).2
  refine h ((f.empty_iff tag).mp ?_)
  rw [← String.toList_inj]
  exact hword

theorem parseOwnerTags_eq :
    parseOwnerTags ownerTag = ((tagPieces ownerTag).map PyText.strip).filter (· ≠ "") := by
  cases ownerTag with
  | none => rfl
  | some raw =>
    simp only [parseOwnerTags, tagPieces]
    split <;> rfl

theorem AmOwner.parseOwnerTags_eq :
    AmOwner.parseOwnerTags ownerTag = ((tagPieces ownerTag).map JsText.trim).filter (· ≠ "") := by
  cases ownerTag with
  | none => rfl
  | some raw =>
    simp only [AmOwner.parseOwnerTags, tagPieces]
    split <;> rfl

theorem campaignMatchesOwner_iff : campaignMatchesOwner f campaignName "" ownerTag = true ↔
    (∀ piece ∈ tagPieces ownerTag, PyText.strip piece = "") ∨
      ∃ piece ∈ tagPieces ownerTag, finds f campaignName piece = true := by
  simp only [campaignMatchesOwner, parseOwnerTags_eq, Bool.or_eq_true, List.isEmpty_iff,
    List.filter_eq_nil_iff, List.any_eq_true, List.mem_filter, List.mem_map, finds]
  refine or_congr (by simp) ⟨?_, ?_⟩
  · rintro ⟨tag, ⟨⟨piece, hpiece, rfl⟩, hne⟩, hfound⟩
    have hne' : PyText.strip piece ≠ "" := by simpa using hne
    rw [search_empty hne', Bool.false_eq_true, or_false] at hfound
    exact ⟨piece, hpiece, by simp [hne', hfound]⟩
  · rintro ⟨piece, hpiece, hfound⟩
    simp only [Bool.and_eq_true, bne_iff_ne] at hfound
    exact ⟨_, ⟨⟨piece, hpiece, rfl⟩, by simpa using hfound.1⟩, .inl hfound.2⟩

theorem AmOwner.campaignMatchesOwner_iff :
    AmOwner.campaignMatchesOwner toLowerCase campaignName ownerTag = true ↔
      (∀ piece ∈ tagPieces ownerTag, JsText.trim piece = "") ∨
        ∃ piece ∈ tagPieces ownerTag, AmOwner.finds toLowerCase campaignName piece = true := by
  simp only [AmOwner.campaignMatchesOwner, AmOwner.parseOwnerTags_eq, Bool.or_eq_true,
    List.isEmpty_iff, List.filter_eq_nil_iff, List.any_eq_true, List.mem_filter, List.mem_map,
    AmOwner.finds]
  refine or_congr (by simp) ⟨?_, ?_⟩
  · rintro ⟨tag, ⟨⟨piece, hpiece, rfl⟩, hne⟩, hfound⟩
    have hne' : JsText.trim piece ≠ "" := by simpa using hne
    exact ⟨piece, hpiece, by simp [hne', hfound]⟩
  · rintro ⟨piece, hpiece, hfound⟩
    simp only [Bool.and_eq_true, bne_iff_ne] at hfound
    exact ⟨_, ⟨⟨piece, hpiece, rfl⟩, by simpa using hfound.1⟩, hfound.2⟩

theorem ReadAlike.finds_eq (h : ReadAlike f toLowerCase campaignName piece) :
    AmOwner.finds toLowerCase campaignName piece = finds f campaignName piece := by
  obtain ⟨htrim, hfold⟩ := h
  unfold AmOwner.finds finds
  rw [htrim]
  by_cases hne : PyText.strip piece = ""
  · simp [hne]
  · obtain ⟨htag, hname⟩ := hfold hne
    have hword : (f.fold (PyText.strip piece)).toList ≠ [] := by
      intro hnil
      refine hne ((f.empty_iff _).mp ?_)
      rw [← String.toList_inj]
      exact hnil
    simp only [htag, hname, search_utf16 hword]

theorem Mirrored.matches_eq (h : Mirrored f toLowerCase campaignName ownerTag) :
    AmOwner.campaignMatchesOwner toLowerCase campaignName ownerTag =
      campaignMatchesOwner f campaignName "" ownerTag := by
  rw [Bool.eq_iff_iff, AmOwner.campaignMatchesOwner_iff, campaignMatchesOwner_iff]
  obtain ⟨piece, hpiece, hcopy, horiginal⟩ | hall := h
  · exact iff_of_true (.inr ⟨piece, hpiece, hcopy⟩) (.inr ⟨piece, hpiece, horiginal⟩)
  · refine or_congr (forall₂_congr fun piece hpiece => ?_)
      (exists_congr fun piece => and_congr_right fun hpiece => ?_)
    · obtain halike | ⟨hdropped, -⟩ := hall piece hpiece
      · rw [halike.1]
      · exact hdropped
    · obtain halike | ⟨-, hcopy, horiginal⟩ := hall piece hpiece
      · rw [halike.finds_eq]
      · rw [hcopy, horiginal]

end

/-- Where the two mirror each other, the copy decides as the original does, for one campaign and
for all that are resolved. Elsewhere no tag is found by both, and some piece is a tag, or is found,
in one language only. -/
theorem owner_mirror_of_mirrored (f : CaseFolding) (toLowerCase : String → String)
    (ownerTag : Option String) :
    (∀ campaignName, Mirrored f toLowerCase campaignName ownerTag →
      AmOwner.campaignMatchesOwner toLowerCase campaignName ownerTag =
        campaignMatchesOwner f campaignName "" ownerTag) ∧
    (∀ campaignName, ¬ Mirrored f toLowerCase campaignName ownerTag →
      ∃ piece ∈ tagPieces ownerTag, ¬ (JsText.trim piece = "" ↔ PyText.strip piece = "") ∨
        AmOwner.finds toLowerCase campaignName piece ≠ finds f campaignName piece) ∧
    ∀ campaigns : List (String × Option String),
      AmOwner.parseOwnerTags ownerTag ≠ [] →
      (∀ campaign ∈ campaigns, Mirrored f toLowerCase (campaign.2.getD "") ownerTag) →
      AmOwner.resolveOwnerCampaignIds toLowerCase campaigns ownerTag =
        (campaigns.filter fun campaign =>
          campaignMatchesOwner f (campaign.2.getD "") "" ownerTag).map Prod.fst := by
  refine ⟨fun campaignName h => h.matches_eq, fun campaignName h => ?_, fun campaigns htags h => ?_⟩
  · obtain ⟨hboth, hpieces⟩ := not_or.mp h
    push Not at hboth hpieces
    obtain ⟨piece, hpiece, -, hdecided⟩ := hpieces
    refine ⟨piece, hpiece, ?_⟩
    by_cases hdropped : JsText.trim piece = "" ↔ PyText.strip piece = ""
    · refine .inr fun heq => ?_
      cases hcopy : AmOwner.finds toLowerCase campaignName piece with
      | true => exact hboth piece hpiece hcopy (heq ▸ hcopy)
      | false => exact hdecided hdropped hcopy (heq ▸ hcopy)
    · exact .inl hdropped
  · rw [AmOwner.resolveOwnerCampaignIds, if_neg (by simpa using htags)]
    refine congrArg (List.map Prod.fst) (List.filter_congr fun campaign hcampaign => ?_)
    exact (h campaign hcampaign).matches_eq

def asciiLowerCase (text : String) : String := String.ofList (text.toList.map Char.toLower)

def sharpFolding : CaseFolding where
  fold text := String.ofList (text.toList.flatMap fun c =>
    if c = 'ß' then ['s', 's'] else [c.toLower])
  empty_iff text := by
    rw [← String.toList_inj, ← String.toList_inj]
    simp only [String.toList_ofList, String.toList_empty, List.flatMap_eq_nil_iff]
    constructor
    · intro h
      rw [List.eq_nil_iff_forall_not_mem]
      intro c hc
      have hnil := h c hc
      split at hnil <;> cases hnil
    · intro h
      simp [h]

/-- The first tag is found by both, before the second one that folds otherwise is reached. -/
theorem owner_mirror_first_tag :
    asciiLowerCase "ß" ≠ sharpFolding.fold "ß" ∧
      AmOwner.campaignMatchesOwner asciiLowerCase "MV | GH | CR2" (some "MV,ß") =
        campaignMatchesOwner sharpFolding "MV | GH | CR2" "" (some "MV,ß") := by
  have hmirrored : Mirrored sharpFolding asciiLowerCase "MV | GH | CR2" (some "MV,ß") :=
    .inl ⟨"MV", by decide +kernel⟩
  exact ⟨by decide, (owner_mirror_of_mirrored sharpFolding asciiLowerCase (some "MV,ß")).1
    _ hmirrored⟩

/-- A byte order mark is white space in one language only, and the folding of the sharp s is not
its lower case. -/
theorem owner_mirror_diverges :
    (AmOwner.campaignMatchesOwner asciiLowerCase "mv" (some "\ufeff") = true ∧
      campaignMatchesOwner sharpFolding "mv" "" (some "\ufeff") = false) ∧
    (AmOwner.campaignMatchesOwner asciiLowerCase "Straße" (some "STRASSE") = false ∧
      campaignMatchesOwner sharpFolding "Straße" "" (some "STRASSE") = true) := by
  decide +kernel

end StopBot.Observer
