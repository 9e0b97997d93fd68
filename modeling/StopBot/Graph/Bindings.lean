import Mathlib.Data.List.Sort
import StopBot.Graph.Semantics
import StopBot.Lib.JsText
import StopBot.Lib.JsonText
import StopBot.Lib.WordSearch

/-!
# What an operation text is bound to

`graph_operation_binding` and `media_operation_binding` of the client, and the
same texts as browser-agent builds them: the method, the target, and digests of
the parameters and of the body. The two sides sort the parameters differently;
a text still stands for one request, up to the order of its parameters.
-/

namespace StopBot.Graph

open Lib

-- ------------------------------------------------------------
-- Digests
-- ------------------------------------------------------------

def isHexDigit (c : Char) : Bool :=
  ('0' ≤ c && c ≤ '9') || ('a' ≤ c && c ≤ 'f')

/-- `[0-9a-f]{n}`. -/
def isHex (n : Nat) (s : String) : Bool :=
  s.toList.length == n && s.toList.all isHexDigit

structure Sha256 where
  hexdigest : String → String
  hex : ∀ text, isHex 64 (hexdigest text) = true

def Sha256.Pins (sha : Sha256) (text : String) : Prop :=
  ∀ other, sha.hexdigest other = sha.hexdigest text → other = text

theorem Sha256.length (sha : Sha256) (text : String) : (sha.hexdigest text).toList.length = 64 := by
  have h := sha.hex text
  simp only [isHex, Bool.and_eq_true, beq_iff_eq] at h
  exact h.1

abbrev Pairs := List (String × String)

def codePointsLe (p q : String × String) : Bool :=
  decide (p.1 < q.1) || (p.1 == q.1 && decide (p.2 ≤ q.2))

def unitsLe (p q : String × String) : Bool :=
  let units (s : String) := WordSearch.utf16 s.toList
  decide (units p.1 < units q.1) || (units p.1 == units q.1 && decide (units p.2 ≤ units q.2))

def canonicalText (le : String × String → String × String → Bool) (values : Pairs) : String :=
  String.ofList (JsonText.array (JsonText.pair JsonText.quote JsonText.quote) (values.mergeSort le))

variable {sha : Sha256} {le le' : String × String → String × String → Bool}

theorem canonicalText_perm {values values' : Pairs}
    (h : canonicalText le values = canonicalText le' values') :
    values.Perm values' := by
  have hdelimits := (JsonText.quote_delimits.pair JsonText.quote_delimits).array JsonText.pair_opens
  have hsorted := hdelimits.inj (String.ofList_inj.mp h)
  exact ((List.mergeSort_perm values le).symm.trans (.of_eq hsorted)).trans
    (List.mergeSort_perm values' le')

-- ------------------------------------------------------------
-- Operation texts
-- ------------------------------------------------------------

/-- `METHOD:endpoint|q=digest|b=digest`. -/
def bindingText (sha : Sha256) (le : String × String → String × String → Bool)
    (request : GraphRequest) :
    String :=
  request.method ++ ":" ++ request.endpoint ++ "|q=" ++
    sha.hexdigest (canonicalText le request.queryParams) ++
    "|b=" ++ sha.hexdigest request.bodyJson

def GraphRequest.normalized (request : GraphRequest) : GraphRequest :=
  { request with method := PyText.upper (PyText.strip request.method) }

/-- What the client's side rests on: the hash, case folding and `json.loads`. -/
structure ClientHost where
  sha : Sha256
  folding : CaseFolding
  loads : String → Except LoadsError Json

def graphOperationBinding (host : ClientHost) (request : GraphRequest) :
    Except RequestError String := do
  validateGraphRequestSemantics host.folding host.loads request.normalized
  .ok (bindingText host.sha codePointsLe request.normalized)

def mediaOperationBinding (sha : Sha256) (rpc : String) (attributes : Pairs) : String :=
  rpc ++ "|r=" ++ sha.hexdigest (canonicalText codePointsLe attributes)

/-- `graphOperationBinding` of browser-agent, past its own check of the semantics. -/
def agentGraphBinding (sha : Sha256) (request : GraphRequest) : String :=
  bindingText sha unitsLe { request with method := JsText.toUpperCase (JsText.trim request.method) }

-- ------------------------------------------------------------
-- One text, one request
-- ------------------------------------------------------------

theorem append_only_inj {c : Char} {a b a' b' : List Char} (ha : c ∉ a) (hb : c ∉ b)
    (h : a ++ c :: b = a' ++ c :: b') : a = a' ∧ b = b' := by
  have hcount := congrArg (List.count c) h
  simp only [List.count_append, List.count_cons_self, List.count_eq_zero_of_not_mem ha,
    List.count_eq_zero_of_not_mem hb] at hcount
  have hb' : c ∉ b' := List.count_eq_zero.mp (by omega)
  exact PyText.append_last_inj hb hb' h

theorem bindingText_parts {r r' : GraphRequest} (hmethod : ':' ∉ r.method.toList)
    (hendpoint : ':' ∉ r.endpoint.toList) (h : bindingText sha le' r' = bindingText sha le r) :
    r'.method = r.method ∧ r'.endpoint = r.endpoint ∧
      sha.hexdigest (canonicalText le' r'.queryParams) = sha.hexdigest
        (canonicalText le r.queryParams) ∧
      sha.hexdigest r'.bodyJson = sha.hexdigest r.bodyJson := by
  have hlist := congrArg String.toList h
  simp only [bindingText, String.toList_append] at hlist
  obtain ⟨hlist, hbody⟩ := List.append_inj' hlist (by rw [sha.length, sha.length])
  obtain ⟨hlist, -⟩ := List.append_inj' hlist rfl
  obtain ⟨hlist, hquery⟩ := List.append_inj' hlist (by rw [sha.length, sha.length])
  obtain ⟨hlist, -⟩ := List.append_inj' hlist rfl
  obtain ⟨hm, he⟩ := append_only_inj hmethod hendpoint (by simpa using hlist.symm)
  simp only [String.toList_inj] at hm he hquery hbody
  exact ⟨hm.symm, he.symm, hquery, hbody⟩

structure GraphRequest.Same (r r' : GraphRequest) : Prop where
  method : r.method = r'.method
  endpoint : r.endpoint = r'.endpoint
  queryParams : r.queryParams.Perm r'.queryParams
  bodyJson : r.bodyJson = r'.bodyJson

def GraphRequest.Pinned (sha : Sha256) (r : GraphRequest) : Prop :=
  sha.Pins (bindingText sha codePointsLe r) ∧ sha.Pins (canonicalText codePointsLe r.queryParams) ∧
    sha.Pins r.bodyJson

theorem GraphRequest.Pinned.same {r r' : GraphRequest} (h : r.Pinned sha)
    (hmethod : ':' ∉ r.method.toList) (hendpoint : ':' ∉ r.endpoint.toList)
    (hdigest : sha.hexdigest (bindingText sha le' r') =
      sha.hexdigest (bindingText sha codePointsLe r)) :
    r'.Same r := by
  obtain ⟨hm, he, hquery, hbody⟩ := bindingText_parts hmethod hendpoint (h.1 _ hdigest)
  exact ⟨hm, he, canonicalText_perm (h.2.1 _ hquery), h.2.2 _ hbody⟩

end StopBot.Graph
