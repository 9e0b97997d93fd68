import StopBot.Lib.Jsonb
import StopBot.Scan.AmRows

/-!
# Pages of a scan

A scan follows the cursor of Graph from page to page, twenty at most, in two
loops: the metrics of `am_tabular` and the metadata of an edge. What a page
must look like to stop the loop with an error differs between the two.
-/

namespace StopBot.Scan

open Lib

-- ------------------------------------------------------------
-- Replies
-- ------------------------------------------------------------

structure GraphError where
  code : Option Int := none
  type : Option String := none
  errorSubcode : Option Int := none
  message : Option String := none
  deriving DecidableEq, Repr

/-- The `__amError` object: no answer, or an answer that is not JSON. -/
structure AmError where
  status : Option Nat := none
  body : Option String := none
  message : Option String := none
  redirected : Bool := false
  finalUrl : Option String := none
  contentType : Option String := none
  deriving DecidableEq, Repr

/-- What one call of `fetchJson` ends in. A body without a list under `data` has none there. -/
inductive Reply (δ : Type)
  | thrown
  | failure (e : AmError)
  | body (error : Option GraphError) (data : Option (List δ)) (after : Option String)
  deriving Repr

variable {δ ι : Type}

/-- The next call; past the last reply the page is gone and the call throws. -/
def nextReply : List (Reply δ) → Reply δ × List (Reply δ)
  | [] => (.thrown, [])
  | reply :: rest => (reply, rest)

def loginRequiredSubcodes : List Int := [458, 459, 460, 463, 464, 467]

/-- `text` has one of the words. -/
def mentions (text : String) (words : List String) : Bool :=
  words.any (JsText.includes text)

/-- `/^\s*<(?:!doctype|html)\b/i`. -/
def startsAsHtml (text : String) : Bool :=
  let rest := (text.toList.map Char.toLower).dropWhile JsText.isSpace
  ["<!doctype", "<html"].any fun tag =>
    tag.toList.isPrefixOf rest &&
      match (rest.drop tag.length).head? with
      | some c => !(c.isAlphanum || c == '_')
      | none => true

/-- `/login\.php|checkpoint|<title>[^<]*log ?in/i`. -/
def looksLikeLogin (text : String) : Bool :=
  let low := text.toList.map Char.toLower
  mentions (String.ofList low) ["login.php", "checkpoint"] ||
    low.tails.any fun rest =>
      "<title>".toList.isPrefixOf rest &&
        mentions (String.ofList ((rest.drop 7).takeWhile (· != '<'))) ["login", "log in"]

/-- `/session.*expired|log ?in|checkpoint|re-?authenticate|not logged in|logged out/`. -/
def asksToLogIn (message : String) : Bool :=
  let isBreak (c : Char) : Bool := c == '\n' || c == '\r' || c.toNat == 0x2028 || c.toNat == 0x2029
  (message.toList.splitOnP isBreak).any (fun line => line.tails.any fun rest =>
      "session".toList.isPrefixOf rest &&
        JsText.includes (String.ofList (rest.drop 7)) "expired") ||
    mentions message ["login", "log in", "checkpoint", "reauthenticate", "re-authenticate",
      "not logged in", "logged out"]

def isLoginRequiredResponse : Reply δ → Bool
  | .thrown => false
  | .failure e =>
    e.redirected ||
      mentions (JsText.toLowerCase (e.finalUrl.getD "")) ["login.php", "checkpoint", "/login/"] ||
      JsText.includes (JsText.toLowerCase (e.contentType.getD "")) "text/html" ||
      startsAsHtml (e.body.getD "") || looksLikeLogin (e.body.getD "")
  | .body error _ _ =>
    match error with
    | none => false
    | some g =>
      (g.code == some 190 || g.type == some "OAuthException") &&
        (loginRequiredSubcodes.contains (g.errorSubcode.getD 0) ||
          asksToLogIn (JsText.toLowerCase (g.message.getD "")))

def retryTransient (isTransient : Reply δ → Bool) :
    List Nat → List (Reply δ) → Reply δ × List (Reply δ)
  | [], replies => nextReply replies
  | _ :: delays, replies =>
    match nextReply replies with
    | (reply, rest) =>
      if isTransient reply then retryTransient isTransient delays rest else (reply, rest)

-- ------------------------------------------------------------
-- The loop
-- ------------------------------------------------------------

structure Report where
  error : String
  authExpired : Bool := false
  loginRequired : Bool := false
  deriving DecidableEq, Repr

inductive Verdict
  | throws
  | reports (r : Report)
  | accepts
  deriving DecidableEq, Repr

structure Fetched (ι : Type) where
  items : List ι
  report : Option Report
  deriving Repr

def hasCursor : Reply δ → Bool
  | .body _ _ (some after) => after != ""
  | _ => false

section Loop

variable (next : List (Reply δ) → Reply δ × List (Reply δ)) (verdict : Reply δ → Verdict)
  (items : Reply δ → List ι)

/-- At most `n` pages, each asked for with the cursor of the one before; none when a call throws. -/
def fetchPages : Nat → List (Reply δ) → List ι → Option (Fetched ι)
  | 0, _, found => some ⟨found, none⟩
  | n + 1, replies, found =>
    match next replies with
    | (reply, rest) =>
      match verdict reply with
      | .throws => none
      | .reports r => some ⟨found, some r⟩
      | .accepts =>
        if hasCursor reply && !(items reply).isEmpty then fetchPages n rest (found ++ items reply)
        else some ⟨found ++ items reply, none⟩

end Loop

def pageLimit : Nat := 20

def amTabularRetryDelaysMs : List Nat := [300, 800]

def isFailure : Reply δ → Bool
  | .failure _ => true
  | _ => false

/-- `status ?? error ?? ''` in a template; an error object prints as JavaScript prints objects. -/
def loginDetail : Reply δ → String
  | .failure e => (e.status.map toString).getD ""
  | .body (some _) _ _ => "[object Object]"
  | _ => ""

def failureDetail (e : AmError) : String :=
  (e.status.map toString).getD "" ++ " " ++ ((e.body.or e.message).getD "")

def amVerdict (reply : Reply AmBlock) : Verdict :=
  if isLoginRequiredResponse reply then
    .reports { error := "am_tabular: login_required (" ++ loginDetail reply ++ ")",
               loginRequired := true }
  else
    match reply with
    | .thrown => .throws
    | .failure e => .reports { error := "am_tabular: " ++ failureDetail e }
    | .body (some g) _ _ =>
      .reports { error := "am_tabular: " ++ (g.code.map toString).getD "" ++ " " ++
        g.message.getD "",
                 authExpired := g.code == some 190 || g.type == some "OAuthException" }
    | .body none _ _ => .accepts

def amItems : Reply AmBlock → List AmRow
  | .body _ data _ => parseAmTabular data
  | _ => []

def fetchAllAmTabular (replies : List (Reply AmBlock)) : Option (Fetched AmRow) :=
  fetchPages (retryTransient isFailure amTabularRetryDelaysMs) amVerdict amItems
    pageLimit replies []

-- ------------------------------------------------------------
-- Metadata
-- ------------------------------------------------------------

/-- A property of a value; none is `undefined`. -/
def field? (value : Json) (key : String) : Option Json :=
  match value with
  | .obj fields => Obj.get? fields key
  | _ => none

/-- `String(value)`, for scalars. -/
def jsString : Json → String
  | .null => "null"
  | .bool b => if b then "true" else "false"
  | .str s => s
  | .num m 0 => toString m
  | value => value.render

def notNull (value : Option Json) : Option Json :=
  value.filter fun v => v.typeName != "null"

/-- `value`, unless it is nullish or prints as nothing. -/
def nonEmpty (value : Option Json) : Option Json :=
  (notNull value).filter fun v => jsString v != ""

structure LightMeta where
  id : String
  name : Option String
  effectiveStatus : Option String
  moderationReason : Option String
  campaignId : Option String
  adsetId : Option String
  dailyBudget : Option String
  lifetimeBudget : Option String
  creativeThumbUrl : Option String
  creativeImageUrl : Option String
  videoId : Option String
  pixelId : Option String
  budgetRemaining : Option String
  learningStage : Option String
  deriving Repr

def cleanModerationText (text : String) : Option String :=
  let normalized := JsText.collapseSpace text
  if normalized = "" then none else some normalized

def labelled (label text : String) : String :=
  if label = "" then text else label ++ ": " ++ text

mutual
def collectModerationFeedback (label : String) : Json → List String
  | .str s => ((cleanModerationText s).map (labelled label)).toList
  | .arr items => collectItems label items
  | .obj fields => collectFields fields
  | _ => []
def collectItems (label : String) : List Json → List String
  | [] => []
  | item :: items => collectModerationFeedback label item ++ collectItems label items
def collectFields : List (String × Json) → List String
  | [] => []
  | (key, nested) :: fields =>
    collectModerationFeedback (PyText.replace '_' ' ' key) nested ++ collectFields fields
end

def issueText (issue : Json) : Option String :=
  let part (key : String) : Option String :=
    ((field? issue key).bind Json.asStr?).bind cleanModerationText
  match part "error_summary", part "error_message" with
  | some summary, some message =>
    some (if summary = message then message else summary ++ ": " ++ message)
  | summary, message => message.or summary

def moderationReasonLimit : Nat := 600

def extractModerationReason (value : Json) : Option String :=
  let feedback := collectModerationFeedback "" ((field? value "ad_review_feedback").getD .null)
  let issues := match field? value "issues_info" with
    | some (.arr items) => items.filterMap issueText
    | _ => []
  match (feedback ++ issues).eraseDups with
  | [] => none
  | unique =>
    some (String.ofList (JsText.clipUnits moderationReasonLimit (" · ".intercalate unique).toList))

def lightMeta? (d : Json) : Option LightMeta :=
  let text (key : String) : Option String := (field? d key).map jsString
  let creative (key : String) : Option Json := (field? d "creative").bind (field? · key)
  let videoData (key : String) : Option Json :=
    ((creative "object_story_spec").bind (field? · "video_data")).bind (field? · key)
  (notNull (field? d "id")).map fun id => {
    id := jsString id
    name := text "name"
    effectiveStatus := text "effective_status"
    moderationReason := extractModerationReason d
    campaignId := text "campaign_id"
    adsetId := text "adset_id"
    dailyBudget := text "daily_budget"
    lifetimeBudget := text "lifetime_budget"
    creativeThumbUrl := (creative "thumbnail_url").map jsString
    creativeImageUrl :=
      (nonEmpty ((nonEmpty (creative "image_url")).or (videoData "image_url"))).map jsString
    videoId := (nonEmpty ((notNull (creative "video_id")).or (videoData "video_id"))).map jsString
    pixelId := ((field? d "promoted_object").bind (field? · "pixel_id")).map jsString
    budgetRemaining := text "budget_remaining"
    learningStage := ((field? d "learning_stage_info").bind (field? · "status")).map jsString }

def parseLightList (data : Option (List Json)) : List LightMeta :=
  (data.getD []).filterMap lightMeta?

/-- The Graph error of a body is not looked at here. -/
def edgeVerdict (edge : String) (reply : Reply Json) : Verdict :=
  if isLoginRequiredResponse reply then
    .reports { error := edge ++ ": login_required (" ++ loginDetail reply ++ ")",
               loginRequired := true }
  else
    match reply with
    | .thrown => .throws
    | .failure e => .reports { error := edge ++ ": " ++ failureDetail e }
    | .body _ _ _ => .accepts

def edgeItems : Reply Json → List LightMeta
  | .body _ data _ => parseLightList data
  | _ => []

def fetchAllEdge (edge : String) (replies : List (Reply Json)) : Option (Fetched LightMeta) :=
  fetchPages nextReply (edgeVerdict edge) edgeItems pageLimit replies []

-- ------------------------------------------------------------
-- Truncation
-- ------------------------------------------------------------

def isDataPage : Reply δ → Bool
  | .body none (some _) _ => true
  | _ => false

def hasNext (items : Reply δ → List ι) (reply : Reply δ) : Bool :=
  hasCursor reply && !(items reply).isEmpty

def page (next : List (Reply δ) → Reply δ × List (Reply δ)) (replies : List (Reply δ)) (i : Nat) :
    Reply δ :=
  (next ((fun rest => (next rest).2)^[i] replies)).1

/-- A list returned without an error is all there is: pages of data up to the first after which
there is nothing to ask for, one of the `n` that can be asked for, and the items of all of them. -/
def NeverTruncates (items : Reply δ → List ι) (n : Nat) (pages : Nat → Reply δ)
    (result : Option (Fetched ι)) : Prop :=
  ∀ fetched, result = some fetched → fetched.report = none →
    ∃ last < n, (∀ i ≤ last, isDataPage (pages i) = true) ∧
      (∀ i < last, hasNext items (pages i) = true) ∧ hasNext items (pages last) = false ∧
      fetched.items = (List.range (last + 1)).flatMap fun i => items (pages i)

/-- No answer, one that is not JSON, or a login page. -/
def isFailedPage : Reply δ → Bool
  | .thrown | .failure _ => true
  | .body error data after => isLoginRequiredResponse (.body error data after)

def isErrorPage : Reply δ → Bool
  | .body (some _) _ _ => true
  | reply => isFailedPage reply

/-- One of the first `n` pages, each before it followed by a next one, is loud; or it is the
last one and these are all pages of data. -/
def Told (loud : Reply δ → Bool) (items : Reply δ → List ι) (n : Nat)
    (pages : Nat → Reply δ) : Prop :=
  ∃ k < n, (∀ i < k, hasNext items (pages i) = true) ∧
    (loud (pages k) = true ∨
      hasNext items (pages k) = false ∧ ∀ i ≤ k, isDataPage (pages i) = true)

section Truncation

variable {next : List (Reply δ) → Reply δ × List (Reply δ)} {verdict : Reply δ → Verdict}
  {items : Reply δ → List ι} {loud : Reply δ → Bool} {pages : Nat → Reply δ} {n k : Nat}

@[simp] theorem page_zero (replies : List (Reply δ)) : page next replies 0 = (next replies).1 := rfl

theorem fetchPages_accepted {replies : List (Reply δ)} (found : List ι)
    (h : verdict (next replies).1 = .accepts) :
    fetchPages next verdict items (n + 1) replies found =
      if hasNext items (next replies).1 = true then
        fetchPages next verdict items n (next replies).2 (found ++ items (next replies).1)
      else some ⟨found ++ items (next replies).1, none⟩ := by
  simp only [fetchPages, h]
  rfl

theorem fetchPages_refused {replies : List (Reply δ)} {found : List ι} {fetched : Fetched ι}
    (hrefused : verdict (next replies).1 ≠ .accepts)
    (h : fetchPages next verdict items (n + 1) replies found = some fetched) :
    fetched.report ≠ none := by
  cases hverdict : verdict (next replies).1 with
  | throws => simp [fetchPages, hverdict] at h
  | reports r =>
    simp only [fetchPages, hverdict, Option.some.injEq] at h
    simp [← h]
  | accepts => exact absurd hverdict hrefused

/-- What a loop returns without an error: accepted pages up to the first without a next
one, or `n` accepted pages that all have one. -/
theorem fetchPages_silent {replies : List (Reply δ)} {found : List ι} {fetched : Fetched ι}
    (h : fetchPages next verdict items n replies found = some fetched)
    (hreport : fetched.report = none) :
    ∃ k ≤ n, (∀ i < k, verdict (page next replies i) = .accepts) ∧
      fetched.items = found ++ (List.range k).flatMap (fun i => items (page next replies i)) ∧
      ((∃ j, k = j + 1 ∧ (∀ i < j, hasNext items (page next replies i) = true) ∧
          hasNext items (page next replies j) = false) ∨
        k = n ∧ ∀ i < k, hasNext items (page next replies i) = true) := by
  induction n generalizing replies found with
  | zero =>
    cases h
    exact ⟨0, le_rfl, by simp, by simp, .inr ⟨rfl, by simp⟩⟩
  | succ n ih =>
    have haccepts : verdict (next replies).1 = .accepts := by
      by_contra hrefused
      exact fetchPages_refused hrefused h hreport
    rw [fetchPages_accepted found haccepts] at h
    by_cases hmore : hasNext items (next replies).1 = true
    · rw [if_pos hmore] at h
      obtain ⟨k, hk, haccepted, hitems, hend⟩ := ih h
      refine ⟨k + 1, by omega, ?_, ?_, ?_⟩
      · rintro (_ | i) hi
        · exact haccepts
        · exact haccepted i (by omega)
      · rw [hitems, List.range_succ_eq_map, List.flatMap_cons, List.append_assoc, List.flatMap_map]
        rfl
      · obtain ⟨j, rfl, hnext, hlast⟩ | ⟨rfl, hnext⟩ := hend
        · refine .inl ⟨j + 1, rfl, ?_, hlast⟩
          rintro (_ | i) hi
          · exact hmore
          · exact hnext i (by omega)
        · refine .inr ⟨rfl, ?_⟩
          rintro (_ | i) hi
          · exact hmore
          · exact hnext i (by omega)
    · rw [if_neg hmore, Option.some.injEq] at h
      subst h
      refine ⟨1, by omega, ?_, by simp [List.range_succ],
        .inl ⟨0, rfl, by simp, by simpa using hmore⟩⟩
      rintro i hi
      obtain rfl : i = 0 := by omega
      exact haccepts

theorem fetchPages_refused_or_silent (n : Nat) (replies : List (Reply δ)) (found : List ι) :
    (∃ k < n, (∀ i < k, hasNext items (page next replies i) = true) ∧
        verdict (page next replies k) ≠ .accepts) ∨
      ∃ fetched, fetchPages next verdict items n replies found = some fetched ∧
        fetched.report = none := by
  induction n generalizing replies found with
  | zero => exact .inr ⟨_, rfl, rfl⟩
  | succ n ih =>
    by_cases haccepts : verdict (next replies).1 = .accepts
    · rw [fetchPages_accepted found haccepts]
      by_cases hmore : hasNext items (next replies).1 = true
      · rw [if_pos hmore]
        obtain ⟨k, hk, hnext, hrefused⟩ | hsilent :=
          ih (next replies).2 (found ++ items (next replies).1)
        · refine .inl ⟨k + 1, by omega, ?_, hrefused⟩
          rintro (_ | i) hi
          · exact hmore
          · exact hnext i (by omega)
        · exact .inr hsilent
      · rw [if_neg hmore]
        exact .inr ⟨_, rfl, rfl⟩
    · exact .inl ⟨0, by omega, by simp, haccepts⟩

/-- A loop that refuses exactly the loud pages truncates silently unless it is told. -/
theorem neverTruncates_iff (hloud : ∀ reply, loud reply = true ↔ verdict reply ≠ .accepts) (n : Nat)
    (replies : List (Reply δ)) :
    NeverTruncates items n (page next replies) (fetchPages next verdict items n replies []) ↔
      Told loud items n (page next replies) := by
  constructor
  · intro hnever
    have hcases : (∃ k < n, (∀ i < k, hasNext items (page next replies i) = true) ∧
        verdict (page next replies k) ≠ .accepts) ∨
        ∃ fetched, fetchPages next verdict items n replies [] = some fetched ∧
          fetched.report = none :=
      fetchPages_refused_or_silent n replies []
    obtain ⟨k, hk, hnext, hrefused⟩ | ⟨fetched, hfetched, hreport⟩ := hcases
    · exact ⟨k, hk, hnext, .inl ((hloud _).mpr hrefused)⟩
    · obtain ⟨last, hlast, hdata, hnext, hend, -⟩ := hnever fetched hfetched hreport
      exact ⟨last, hlast, hnext, .inr ⟨hend, hdata⟩⟩
  · rintro ⟨k, hk, hnext, htold⟩ fetched hfetched hreport
    obtain ⟨m, hm, haccepted, hitems, ⟨j, rfl, hbefore, hend⟩ | ⟨rfl, hall⟩⟩ :=
      fetchPages_silent hfetched hreport
    · -- the page the loop ended on is the `k`th: all before either one have a next one
      have hjk : k ≤ j := by
        by_contra hlt
        rw [hnext j (by omega)] at hend
        cases hend
      rcases htold with hloudk | ⟨hendk, hdata⟩
      · exact absurd (haccepted k (by omega)) ((hloud _).mp hloudk)
      · obtain rfl : k = j := by
          by_contra hne
          rw [hbefore k (by omega)] at hendk
          cases hendk
        exact ⟨k, hk, hdata, hbefore, hend, by simpa using hitems⟩
    · rcases htold with hloudk | ⟨hendk, -⟩
      · exact absurd (haccepted k hk) ((hloud _).mp hloudk)
      · rw [hall k hk] at hendk
        cases hendk

end Truncation

/-- The answers to the requests of a scan of metrics, after the repeats. -/
def amPages (replies : List (Reply AmBlock)) : Nat → Reply AmBlock :=
  page (retryTransient isFailure amTabularRetryDelaysMs) replies

def edgePages (replies : List (Reply Json)) : Nat → Reply Json :=
  page nextReply replies

theorem isErrorPage_iff (reply : Reply AmBlock) :
    isErrorPage reply = true ↔ amVerdict reply ≠ .accepts := by
  rcases reply with _ | e | ⟨_ | g, data, after⟩
  · simp [isErrorPage, isFailedPage, amVerdict, isLoginRequiredResponse]
  · simp only [isErrorPage, isFailedPage, amVerdict]
    split <;> simp
  · simp [isErrorPage, isFailedPage, amVerdict, isLoginRequiredResponse]
  · simp only [isErrorPage, amVerdict]
    split <;> simp

theorem isFailedPage_iff (edge : String) (reply : Reply Json) :
    isFailedPage reply = true ↔ edgeVerdict edge reply ≠ .accepts := by
  cases reply with
  | thrown => simp [isFailedPage, edgeVerdict, isLoginRequiredResponse]
  | failure e =>
    simp only [isFailedPage, edgeVerdict]
    split <;> simp
  | body error data after =>
    simp only [isFailedPage, edgeVerdict]
    split <;> simp_all

/-- A scan reports every truncation exactly when one of its first twenty pages, all with a
next one before it, fails (for metrics also with a Graph error), or is the last of pages that
are all lists of data without a Graph error. -/
theorem scan_truncation_reported_iff (edge : String) (metrics : List (Reply AmBlock))
    (nodes : List (Reply Json)) :
    (NeverTruncates amItems 20 (amPages metrics) (fetchAllAmTabular metrics) ↔
      Told isErrorPage amItems 20 (amPages metrics)) ∧
    (NeverTruncates edgeItems 20 (edgePages nodes) (fetchAllEdge edge nodes) ↔
      Told isFailedPage edgeItems 20 (edgePages nodes)) :=
  ⟨neverTruncates_iff isErrorPage_iff 20 metrics,
    neverTruncates_iff (isFailedPage_iff edge) 20 nodes⟩

/-- A Graph error on an edge is an empty list without an error. -/
theorem scan_edge_error_unreported :
    ¬ NeverTruncates edgeItems 20 (edgePages [.body (some { code := some 100 }) none none])
      (fetchAllEdge "ads" [.body (some { code := some 100 }) none none]) := by
  intro hnever
  obtain ⟨last, -, hdata, -⟩ := hnever ⟨[], none⟩ rfl rfl
  have hpage := hdata 0 (Nat.zero_le last)
  cases hpage

end StopBot.Scan
