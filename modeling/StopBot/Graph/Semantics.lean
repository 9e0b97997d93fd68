import StopBot.Graph.Batch
import StopBot.Lib.Percent

/-!
# Graph requests whose method cannot be overridden

`validate_graph_request_semantics`: names are decoded to the end before they
are compared, in the query and at every depth of the body. The case folding of
Unicode is a parameter that agrees with the lower case on ASCII, and
`json.loads` is one too; its objects are lists of pairs, repeated keys included.
-/

namespace StopBot.Graph

open Lib

-- ------------------------------------------------------------
-- Names
-- ------------------------------------------------------------

structure CaseFolding where
  fold : Char → List Char
  ascii : ∀ c : Char, c.toNat < 0x80 → fold c = [c.toLower]

def CaseFolding.casefold (f : CaseFolding) (text : List Char) : List Char :=
  text.flatMap f.fold

/-- One percent decoding; none when the bytes are not UTF-8. -/
def percentDecode (plusAsSpace : Bool) (text : List Char) : Option (List Char) :=
  unquote (if plusAsSpace then text.map fun c => if c = '+' then ' ' else c else text)

def decodeRound (plusAsSpace : Bool) (text : List Char) : Option (List Char) :=
  if malformedEscape text then none else percentDecode plusAsSpace text

inductive RequestError
  | valueError (message : String)
  | unexpected
  deriving DecidableEq, Repr

def ambiguousMethod : RequestError := .valueError "Graph request method semantics are ambiguous"

def decodeGraphComponent (value : String) (plusAsSpace : Bool) : Except RequestError (List Char) :=
  match settle (decodeRound plusAsSpace) 5 value.toList with
  | some decoded => .ok decoded
  | none => .error ambiguousMethod

def folded (f : CaseFolding) (text : List Char) : String :=
  String.ofList (f.casefold (PyText.stripChars text))

def normalizedGraphParameterName (f : CaseFolding) (value : String) :
    Except RequestError String := do
  let decoded ← decodeGraphComponent value true
  .ok (folded f decoded)

def methodOverride : RequestError := .valueError "Graph method override is not authorized"

/-- Sibling names: none is `method` and no two are the same. -/
def checkNames (f : CaseFolding) (duplicate : RequestError) :
    List String → List String → Except RequestError Unit
  | [], _ => .ok ()
  | rawKey :: rest, seen => do
    let name ← normalizedGraphParameterName f rawKey
    if name = "method" then .error methodOverride
    else if name ∈ seen then .error duplicate
    else checkNames f duplicate rest (name :: seen)

-- ------------------------------------------------------------
-- Requests
-- ------------------------------------------------------------

mutual
def checkBody (f : CaseFolding) : Json → Except RequestError Unit
  | .arr items => checkItems f items
  | .obj fields => do
    checkFields f fields
    checkNames f (.valueError "Graph JSON parameter semantics are ambiguous")
      (fields.map Prod.fst) []
  | _ => .ok ()
def checkItems (f : CaseFolding) : List Json → Except RequestError Unit
  | [] => .ok ()
  | item :: items => do
    checkBody f item
    checkItems f items
def checkFields (f : CaseFolding) : List (String × Json) → Except RequestError Unit
  | [] => .ok ()
  | (_, value) :: fields => do
    checkBody f value
    checkFields f fields
end

def loadCanonicalGraphBody (f : CaseFolding) (loads : String → Except LoadsError Json)
    (bodyJson : String) : Except RequestError Unit :=
  match loads bodyJson with
  | .ok value => checkBody f value
  -- the hook was called for the objects before the place where the text goes wrong
  | .error (.jsonDecodeError closed) => do
    checkItems f closed
    .error (.valueError "Graph body_json must be canonical JSON")
  | .error (.other closed) => do
    checkItems f closed
    .error .unexpected

structure GraphRequest where
  method : String
  endpoint : String
  queryParams : List (String × String)
  bodyJson : String
  deriving DecidableEq, Repr

def endpointSemantics : RequestError :=
  .valueError "Graph endpoint query/fragment semantics are not authorized"

/-- No `?` and no `#`. -/
def plainPath (text : List Char) : Bool :=
  !text.contains '?' && !text.contains '#'

/-- `if holds: raise error`. -/
def refuseIf (holds : Bool) (error : RequestError) : Except RequestError Unit :=
  if holds then .error error else .ok ()

def validateBody (f : CaseFolding) (loads : String → Except LoadsError Json)
    (request : GraphRequest) : Except RequestError Unit :=
  if request.bodyJson = "" then .ok ()
  else do
    loadCanonicalGraphBody f loads request.bodyJson
    refuseIf (PyText.upper (PyText.strip request.method) == "GET")
      (.valueError "Graph GET body semantics are not authorized")

def validateGraphRequestSemantics (f : CaseFolding) (loads : String → Except LoadsError Json)
    (request : GraphRequest) : Except RequestError Unit := do
  refuseIf (!plainPath request.endpoint.toList) endpointSemantics
  let decodedEndpoint ← decodeGraphComponent request.endpoint false
  refuseIf (!plainPath decodedEndpoint) endpointSemantics
  checkNames f (.valueError "Graph query parameter semantics are ambiguous")
    (request.queryParams.map Prod.fst) []
  validateBody f loads request

theorem refuseIf_eq_ok {holds : Bool} {error : RequestError} :
    refuseIf holds error = .ok () ↔ holds = false := by
  cases holds <;> simp [refuseIf]

-- ------------------------------------------------------------
-- Decoded names
-- ------------------------------------------------------------

theorem decodeRound_eq_some {plusAsSpace : Bool} (x y : List Char)
    (h : decodeRound plusAsSpace x = some y) : percentDecode plusAsSpace x = some y := by
  unfold decodeRound at h
  split at h
  · cases h
  · exact h

theorem decodeGraphComponent_ok {value : String} {plusAsSpace : Bool} {decoded : List Char}
    (h : decodeGraphComponent value plusAsSpace = .ok decoded) :
    settle (decodeRound plusAsSpace) 5 value.toList = some decoded := by
  unfold decodeGraphComponent at h
  split at h
  · rename_i found hfound
    cases h
    exact hfound
  · cases h

theorem decodeRound_of_plain {text : List Char} (hpercent : '%' ∉ text) (hplus : '+' ∉ text) :
    decodeRound true text = some text := by
  have hmap : (text.map fun c => if c = '+' then ' ' else c) = text := by
    refine (List.map_congr_left fun c hc => if_neg ?_).trans (List.map_id _)
    rintro rfl
    exact hplus hc
  rw [decodeRound, malformedEscape_of_plain hpercent, if_neg Bool.false_ne_true, percentDecode,
    if_pos rfl, hmap, unquote_of_plain hpercent]

theorem mem_stripChars {c : Char} {text : List Char} (hmem : c ∈ text)
    (hspace : PyText.isSpace c = false) : c ∈ PyText.stripChars text := by
  have hdrop : ∀ l : List Char, c ∈ l → c ∈ l.dropWhile PyText.isSpace := by
    intro l hl
    induction l with
    | nil => cases hl
    | cons d rest ih =>
      by_cases hd : PyText.isSpace d = true
      · rw [List.dropWhile_cons_of_pos hd]
        rcases List.mem_cons.mp hl with rfl | hl
        · rw [hspace] at hd
          cases hd
        · exact ih hl
      · rwa [List.dropWhile_cons_of_neg hd]
  rw [PyText.stripChars, List.mem_reverse]
  exact hdrop _ (List.mem_reverse.mpr (hdrop _ hmem))

theorem mem_folded (f : CaseFolding) {c : Char} {text : List Char} (hmem : c ∈ text)
    (hspace : PyText.isSpace c = false) (hascii : c.toNat < 0x80) (hlower : c.toLower = c) :
    c ∈ (folded f text).toList := by
  rw [folded, String.toList_ofList, CaseFolding.casefold, List.mem_flatMap]
  refine ⟨c, mem_stripChars hmem hspace, ?_⟩
  rw [f.ascii c hascii, hlower]
  exact List.mem_singleton_self c

theorem decodeRound_of_method (f : CaseFolding) {text : List Char} (h : folded f text = "method") :
    decodeRound true text = some text := by
  refine decodeRound_of_plain (fun hmem => ?_) fun hmem => ?_
  · have hchar := mem_folded f hmem (by decide) (by decide) (by decide)
    rw [h] at hchar
    exact absurd hchar (by decide)
  · have hchar := mem_folded f hmem (by decide) (by decide) (by decide)
    rw [h] at hchar
    exact absurd hchar (by decide)

/-- Nothing on the way to the settled name reads `method` unless the settled name does. -/
theorem method_settles (f : CaseFolding) {key : String} {decoded t : List Char} {k : Nat}
    (h : settle (decodeRound true) 5 key.toList = some decoded)
    (ht : steps (percentDecode true) k key.toList = some t) (hmethod : folded f t = "method") :
    folded f decoded = "method" := by
  obtain ⟨j, hj⟩ := steps_settle decodeRound_eq_some h ht
  rw [steps_of_fixed (decodeRound_of_method f hmethod), Option.some.injEq] at hj
  rw [← hj, hmethod]

def FullyDecoded (key : String) (t : List Char) : Prop :=
  percentDecode true t = some t ∧ ∃ k, steps (percentDecode true) k key.toList = some t

theorem FullyDecoded.eq_settled {key : String} {decoded t : List Char} (ht : FullyDecoded key t)
    (h : settle (decodeRound true) 5 key.toList = some decoded) : decoded = t := by
  obtain ⟨hfixed, k, hk⟩ := ht
  obtain ⟨j, hj⟩ := steps_settle decodeRound_eq_some h hk
  refine steps_keep (P := fun x => x = t) (fun x y hxy hx => ?_) hj rfl
  have hdecode := decodeRound_eq_some x y hxy
  rw [hx, hfixed] at hdecode
  exact (Option.some.inj hdecode).symm

-- ------------------------------------------------------------
-- The guard
-- ------------------------------------------------------------

/-- Sibling names without a hidden method override and without aliases. -/
structure OverrideFree (f : CaseFolding) (keys : List String) : Prop where
  hidden : ∀ key ∈ keys, ∀ k t, steps (percentDecode true) k key.toList = some t →
    folded f t ≠ "method"
  aliases : keys.Pairwise fun a b => ∀ x y, FullyDecoded a x → FullyDecoded b y →
    folded f x ≠ folded f y

theorem normalizedGraphParameterName_ok {f : CaseFolding} {key name : String}
    (h : normalizedGraphParameterName f key = .ok name) :
    ∃ decoded, settle (decodeRound true) 5 key.toList = some decoded ∧ folded f decoded = name := by
  obtain ⟨decoded, hdecoded, h⟩ := bind_eq_ok.mp h
  cases h
  exact ⟨decoded, decodeGraphComponent_ok hdecoded, rfl⟩

theorem checkNames_ok {f : CaseFolding} {duplicate : RequestError} {keys seen : List String}
    (h : checkNames f duplicate keys seen = .ok ()) :
    OverrideFree f keys ∧ ∀ key ∈ keys, ∀ t, FullyDecoded key t → folded f t ∉ seen := by
  induction keys generalizing seen with
  | nil =>
    exact ⟨⟨fun key hkey => (nomatch hkey), List.Pairwise.nil⟩, fun key hkey => (nomatch hkey)⟩
  | cons key rest ih =>
    obtain ⟨name, hname, h⟩ := bind_eq_ok.mp h
    obtain ⟨decoded, hsettle, rfl⟩ := normalizedGraphParameterName_ok hname
    split_ifs at h with hmethod hseen
    obtain ⟨hrest, hnew⟩ := ih h
    refine ⟨⟨?_, List.pairwise_cons.mpr ⟨fun other hother x y hx hy heq => ?_, hrest.aliases⟩⟩, ?_⟩
    · rw [List.forall_mem_cons]
      exact ⟨fun k t ht hread => hmethod (method_settles f hsettle ht hread), hrest.hidden⟩
    · refine hnew other hother y hy ?_
      rw [← heq, ← hx.eq_settled hsettle]
      exact List.mem_cons_self
    · rw [List.forall_mem_cons]
      refine ⟨fun t ht => ?_, fun other hother t ht hmem => ?_⟩
      · rw [← ht.eq_settled hsettle]
        exact hseen
      · exact hnew other hother t ht (List.mem_cons_of_mem _ hmem)

mutual
/-- The objects of a document, at any depth. -/
def objects : Json → List Obj
  | .arr items => objectsOfItems items
  | .obj fields => fields :: objectsOfFields fields
  | _ => []
def objectsOfItems : List Json → List Obj
  | [] => []
  | item :: items => objects item ++ objectsOfItems items
def objectsOfFields : List (String × Json) → List Obj
  | [] => []
  | (_, value) :: fields => objects value ++ objectsOfFields fields
end

theorem plainPath_iff {text : List Char} : plainPath text = true ↔ '?' ∉ text ∧ '#' ∉ text := by
  simp [plainPath]

theorem plainPath_of_settled {endpoint : String} {decoded t : List Char} {k : Nat}
    (h : settle (decodeRound false) 5 endpoint.toList = some decoded)
    (hplain : plainPath decoded = true)
    (ht : steps (percentDecode false) k endpoint.toList = some t) : '?' ∉ t ∧ '#' ∉ t := by
  obtain ⟨j, hj⟩ := steps_settle decodeRound_eq_some h ht
  have hkeep : ∀ c : Char, c.toNat < 0x80 → c ≠ '%' → hexValue c = none → c ∈ t → c ∈ decoded := by
    intro c hascii hpercent hhex hmem
    refine steps_keep (P := fun x => c ∈ x) (fun x y hxy hx => ?_) hj hmem
    have hdecode := decodeRound_eq_some x y hxy
    rw [percentDecode, if_neg Bool.false_ne_true] at hdecode
    exact mem_unquote hdecode hascii hpercent hhex hx
  obtain ⟨hquery, hfragment⟩ := plainPath_iff.mp hplain
  exact ⟨fun hmem => hquery (hkeep '?' (by decide) (by decide) (by decide) hmem),
    fun hmem => hfragment (hkeep '#' (by decide) (by decide) (by decide) hmem)⟩

mutual
theorem checkBody_ok {f : CaseFolding} : ∀ {value : Json}, checkBody f value = .ok () →
    ∀ o ∈ objects value, OverrideFree f (o.map Prod.fst)
  | .arr items, h, o, ho =>
    checkItems_ok (by simpa [checkBody] using h) o (by simpa [objects] using ho)
  | .obj fields, h, o, ho => by
    rw [checkBody] at h
    obtain ⟨⟨⟩, hfields, hnames⟩ := bind_eq_ok.mp h
    rw [objects] at ho
    rcases List.mem_cons.mp ho with rfl | ho
    · exact (checkNames_ok hnames).1
    · exact checkFields_ok hfields o ho
  | .null, _, o, ho => by simp [objects] at ho
  | .bool _, _, o, ho => by simp [objects] at ho
  | .num _ _, _, o, ho => by simp [objects] at ho
  | .str _, _, o, ho => by simp [objects] at ho
theorem checkItems_ok {f : CaseFolding} : ∀ {items : List Json}, checkItems f items = .ok () →
    ∀ o ∈ objectsOfItems items, OverrideFree f (o.map Prod.fst)
  | [], _, o, ho => by simp [objectsOfItems] at ho
  | item :: items, h, o, ho => by
    rw [checkItems] at h
    obtain ⟨⟨⟩, hitem, hitems⟩ := bind_eq_ok.mp h
    rw [objectsOfItems] at ho
    rcases List.mem_append.mp ho with ho | ho
    · exact checkBody_ok hitem o ho
    · exact checkItems_ok hitems o ho
theorem checkFields_ok {f : CaseFolding} : ∀ {fields : List (String × Json)},
    checkFields f fields = .ok () → ∀ o ∈ objectsOfFields fields, OverrideFree f (o.map Prod.fst)
  | [], _, o, ho => by simp [objectsOfFields] at ho
  | (_, value) :: fields, h, o, ho => by
    rw [checkFields] at h
    obtain ⟨⟨⟩, hvalue, hfields⟩ := bind_eq_ok.mp h
    rw [objectsOfFields] at ho
    rcases List.mem_append.mp ho with ho | ho
    · exact checkBody_ok hvalue o ho
    · exact checkFields_ok hfields o ho
end

theorem validateBody_ok {f : CaseFolding} {loads : String → Except LoadsError Json}
    {request : GraphRequest} (h : validateBody f loads request = .ok ())
    (hbody : request.bodyJson ≠ "") : ∃ body, loads request.bodyJson = .ok body ∧
      ∀ o ∈ objects body, OverrideFree f (o.map Prod.fst) := by
  rw [validateBody, if_neg hbody] at h
  obtain ⟨⟨⟩, hload, -⟩ := bind_eq_ok.mp h
  unfold loadCanonicalGraphBody at hload
  split at hload
  · rename_i body hbody
    exact ⟨body, hbody, checkBody_ok hload⟩
  · obtain ⟨-, -, hload⟩ := bind_eq_ok.mp hload
    cases hload
  · obtain ⟨-, -, hload⟩ := bind_eq_ok.mp hload
    cases hload

/-- A request that is accepted hides no method override: not in the query, not at any depth of the
body, under no number of decodings; no two siblings are the same name; and its path has no query. -/
theorem method_override_guard_complete (f : CaseFolding) (loads : String → Except LoadsError Json)
    (request : GraphRequest) (h : validateGraphRequestSemantics f loads request = .ok ()) :
    OverrideFree f (request.queryParams.map Prod.fst) ∧
      (request.bodyJson ≠ "" → ∃ body, loads request.bodyJson = .ok body ∧
        ∀ o ∈ objects body, OverrideFree f (o.map Prod.fst)) ∧
      ∀ k t, steps (percentDecode false) k request.endpoint.toList = some t → '?' ∉ t ∧
        '#' ∉ t := by
  obtain ⟨⟨⟩, -, h⟩ := bind_eq_ok.mp h
  obtain ⟨decoded, hdecoded, h⟩ := bind_eq_ok.mp h
  obtain ⟨⟨⟩, hplain, h⟩ := bind_eq_ok.mp h
  obtain ⟨⟨⟩, hquery, h⟩ := bind_eq_ok.mp h
  refine ⟨(checkNames_ok hquery).1, fun hbody => validateBody_ok h hbody, fun k t ht => ?_⟩
  exact plainPath_of_settled (decodeGraphComponent_ok hdecoded)
    (by simpa using refuseIf_eq_ok.mp hplain) ht

/-- Case folding of ASCII names. -/
def asciiFolding : CaseFolding where
  fold c := [c.toLower]
  ascii _ _ := rfl

/-- A creative with an object in an object. -/
def storyBody : Json :=
  .obj [("object_story_spec", .obj [("page_id", .str "8"),
    ("link_data", .obj [("link", .str "x")])]),
    ("na%6De", .str "y")]

def storyText : String :=
  "\x7b\"object_story_spec\":\x7b\"page_id\":\"8\",\"link_data\":\x7b\"link\":\"x\"\x7d\x7d," ++
    "\"na%6De\":\"y\"\x7d"

def storyLoads (text : String) : Except LoadsError Json :=
  if text = storyText then .ok storyBody else .error .jsonDecodeError

theorem method_override_guard_complete_plain :
    validateGraphRequestSemantics asciiFolding storyLoads
        ⟨"POST", "/act_7/ads", [("fields", "id"), ("na%6De", "x")], storyText⟩ = .ok () ∧
      OverrideFree asciiFolding ["fields", "na%6De"] ∧
      ∀ o ∈ objects storyBody, OverrideFree asciiFolding (o.map Prod.fst) := by
  have haccepted : validateGraphRequestSemantics asciiFolding storyLoads
      ⟨"POST", "/act_7/ads", [("fields", "id"), ("na%6De", "x")], storyText⟩ = .ok () := by
    decide +kernel
  obtain ⟨hquery, hbody, -⟩ := method_override_guard_complete _ _ _ haccepted
  obtain ⟨body, hload, hfree⟩ := hbody (by decide)
  obtain rfl : storyBody = body := Except.ok.inj hload
  exact ⟨haccepted, hquery, hfree⟩

end StopBot.Graph
