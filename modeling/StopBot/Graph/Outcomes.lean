import StopBot.Graph.Bulk

/-!
# What the outcome of a batch proves

The evidence is read off the answer of Meta, sub-response by sub-response; the
outcome of the handler and the worker is then compared with it. A batch whose
only decided answers are refusals ends in `rejected` whatever its other
answers are, and a code or a body that cannot be read makes the parser raise.
-/

namespace StopBot.Graph

open Lib Worker

-- ------------------------------------------------------------
-- Evidence
-- ------------------------------------------------------------

/-- The sub-response of each of `n` requests. With more sub-responses than
requests none can be attributed; with fewer the last requests have none. -/
def answers (response : Json) (n : Nat) : List (Option Json) :=
  match batchItems response with
  | some items =>
    if items.length ≤ n then items.map some ++ List.replicate (n - items.length) none
    else List.replicate n none
  | none => List.replicate n none

section Evidence

variable (loads : String → Except LoadsError Json)

/-- The code and the body of a sub-response; none where there is no object. -/
def reading : Option Json → Except BatchRaise (Option (Int × Json))
  | some (.obj fields) => do
    let code ← readCode (Obj.get? fields "code")
    let body ← readBody loads (Obj.get? fields "body")
    .ok (some (code, body))
  | _ => .ok none

def successField : Json → Option Bool
  | .obj fields =>
    match Obj.get? fields "success" with
    | some (.bool b) => some b
    | _ => none
  | _ => none

def answers2xx (acknowledgement : Option Bool) (answer : Option Json) : Bool :=
  match reading loads answer with
  | .ok (some (code, body)) => transportSuccess code && successField body == acknowledgement
  | _ => false

def acknowledged : Option Json → Bool :=
  answers2xx loads (some true)

def transportFailed (answer : Option Json) : Bool :=
  match reading loads answer with
  | .ok (some (code, _)) => !transportSuccess code
  | _ => true

/-- Meta says no: a Graph error or `success=false`. -/
def refused (answer : Option Json) : Bool :=
  match reading loads answer with
  | .ok (some (_, body)) => successField body == some false || (graphError? body).isSome
  | _ => false

def Absent : Option Json → Prop
  | some (.obj _) => False
  | _ => True

def Readable (answer : Option Json) : Prop :=
  ∃ r, reading loads answer = .ok r

def failureOf (answer : Option Json) : Except BatchRaise GraphErrorClass :=
  match reading loads answer with
  | .ok (some (code, body)) => classifySubFailure (answered .mutationAck 0 code body)
  | _ => .ok .temporaryError

def acknowledgedIds (ids : List String) (response : Json) : List String :=
  ((ids.zip (answers response ids.length)).filter fun p => acknowledged loads p.2).map Prod.fst

end Evidence

-- ------------------------------------------------------------
-- Parsed entries
-- ------------------------------------------------------------

variable {loads : String → Except LoadsError Json}

theorem classifyMetaMutationEvidence_eq (body : Json) :
    classifyMetaMutationEvidence body = match successField body with
      | some true => .confirmed
      | some false => .rejected
      | none => .unknown := by
  cases body with
  | obj fields =>
    simp only [classifyMetaMutationEvidence, successField]
    split <;> simp_all
  | _ => rfl

structure Reads (loads : String → Except LoadsError Json) (answer : Option Json)
    (sub : SubResult) : Prop where
  success : sub.success = acknowledged loads answer
  unknown : (sub.mutationEvidence == some .unknown) = answers2xx loads none answer
  transport : (!sub.success && sub.mutationEvidence.isNone) = transportFailed loads answer
  failure : classifySubFailure sub = failureOf loads answer

theorem reads_unanswered {answer : Option Json} (h : reading loads answer = .ok none)
    (error : String) (index : Nat) : Reads loads answer (unanswered error index) where
  success := by simp [unanswered, acknowledged, answers2xx, h]
  unknown := by simp [unanswered, answers2xx, h]
  transport := by simp [unanswered, transportFailed, h]
  failure := by
    rw [failureOf, h]
    rfl

theorem reads_answered {answer : Option Json} {code : Int} {body : Json}
    (h : reading loads answer = .ok (some (code, body))) (index : Nat) :
    Reads loads answer (answered .mutationAck index code body) := by
  refine ⟨?_, ?_, ?_, by rw [failureOf, h]; rfl⟩
  all_goals
    simp only [acknowledged, answers2xx, transportFailed, h, answered,
      classifyMetaMutationEvidence_eq]
    cases transportSuccess code with
    | false => simp
    | true => rcases successField body with _ | _ | _ <;> decide

def entryOf (index : Nat) : Option (Int × Json) → SubResult
  | some (code, body) => answered .mutationAck index code body
  | none => unanswered "null_response" index

theorem parseItem_eq (index : Nat) (item : Json) :
    parseItem loads .mutationAck index item = (reading loads (some item)).map (entryOf index) := by
  cases item with
  | obj fields =>
    simp only [parseItem, reading]
    cases readCode (Obj.get? fields "code") with
    | error e => rfl
    | ok code => cases readBody loads (Obj.get? fields "body") <;> rfl
  | _ => rfl

theorem parseItem_eq_ok {index : Nat} {item : Json} {sub : SubResult} :
    parseItem loads .mutationAck index item = .ok sub ↔
      ∃ r, reading loads (some item) = .ok r ∧ sub = entryOf index r := by
  rw [parseItem_eq]
  cases reading loads (some item) <;> simp [Except.map, eq_comm]

theorem entryOf_index (index : Nat) (r : Option (Int × Json)) :
    (entryOf index r).index = index := by
  rcases r with _ | ⟨code, body⟩ <;> rfl

theorem reads_entryOf {answer : Option Json} {r : Option (Int × Json)}
    (h : reading loads answer = .ok r) (index : Nat) : Reads loads answer (entryOf index r) := by
  rcases r with _ | ⟨code, body⟩
  · exact reads_unanswered h _ _
  · exact reads_answered h index

theorem reads_items {items : List Json} {start : Nat} {results : List SubResult}
    (h : List.Forall₂ (fun x sub => parseItem loads .mutationAck x.2 x.1 = .ok sub)
      (items.zipIdx start) results) :
    results.map (·.index) = List.range' start items.length ∧
      List.Forall₂ (Reads loads) (items.map some) results := by
  induction items generalizing start results with
  | nil =>
    cases h
    exact ⟨rfl, .nil⟩
  | cons item items ih =>
    rw [List.zipIdx_cons] at h
    obtain _ | ⟨hsub, hrest⟩ := h
    obtain ⟨r, hr, rfl⟩ := parseItem_eq_ok.mp hsub
    obtain ⟨hindex, hreads⟩ := ih hrest
    refine ⟨?_, .cons (reads_entryOf hr start) hreads⟩
    rw [List.map_cons, hindex, List.length_cons, List.range'_succ, entryOf_index]

theorem reads_missing (loads : String → Except LoadsError Json) (error : String)
    (indices : List Nat) :
    List.Forall₂ (Reads loads) (List.replicate indices.length none)
      (indices.map (unanswered error)) := by
  induction indices with
  | nil => exact .nil
  | cons index indices ih => exact .cons (reads_unanswered rfl error index) ih

/-- One entry for each request, saying what its sub-response says. -/
theorem parseBatchResponse_reads {response : Json} {n : Nat} {parsed : List SubResult} (hn : 0 < n)
    (h : parseBatchResponse loads response (some n) .mutationAck = .ok parsed) :
    parsed.map (·.index) = List.range n ∧
      List.Forall₂ (Reads loads) (answers response n) parsed := by
  have hindices : ∀ error (indices : List Nat),
      (indices.map (unanswered error)).map (·.index) = indices := fun error indices => by
    rw [List.map_map]
    exact List.map_id _
  have hreplicate := fun error => reads_missing loads error (List.range n)
  simp only [List.length_range] at hreplicate
  obtain ⟨k, rfl⟩ := Nat.exists_eq_succ_of_ne_zero hn.ne'
  unfold parseBatchResponse at h
  unfold answers
  cases hitems : batchItems response with
  | none =>
    simp only [hitems] at h
    cases h
    exact ⟨hindices _ _, hreplicate _⟩
  | some items =>
    simp only [hitems, Option.any_some, Option.getD_some, decide_eq_true_eq] at h ⊢
    split_ifs at h with hmany
    · cases h
      rw [if_neg (by omega)]
      exact ⟨hindices _ _, hreplicate _⟩
    · obtain ⟨results, hresults, h⟩ := bind_eq_ok.mp h
      cases h
      obtain ⟨hindex, hreads⟩ := reads_items (mapM_eq_ok.mp hresults)
      have hlength : results.length = items.length := by
        simpa using congrArg List.length hindex
      rw [if_pos (by omega), hlength]
      constructor
      · have happend : List.range' 0 items.length ++
            List.range' (0 + items.length) (k + 1 - items.length) = _ := List.range'_append_1
        rw [Nat.zero_add] at happend
        rw [List.map_append, hindices, hindex, List.range_eq_range', happend]
        congr 1
        omega
      · have hmissing := reads_missing loads "missing_response"
          (List.range' items.length (k + 1 - items.length))
        rw [List.length_range'] at hmissing
        exact List.rel_append hreads hmissing

/-- The parser raises exactly on a sub-response whose code or body cannot be read. -/
theorem parseBatchResponse_isOk {response : Json} {n : Nat} :
    (∃ parsed, parseBatchResponse loads response (some n) .mutationAck = .ok parsed) ↔
      ∀ answer ∈ answers response n, Readable loads answer := by
  have hnone : ∀ k, ∀ answer ∈ List.replicate k none, Readable loads answer := fun k answer h => by
    obtain rfl := List.eq_of_mem_replicate h
    exact ⟨none, rfl⟩
  unfold parseBatchResponse answers
  cases hitems : batchItems response with
  | none => exact ⟨fun _ => hnone n, fun _ => ⟨_, rfl⟩⟩
  | some items =>
    simp only [Option.any_some, Option.getD_some, decide_eq_true_eq]
    by_cases hmany : n < items.length
    · rw [if_pos hmany, if_neg (by omega)]
      exact ⟨fun _ => hnone n, fun _ => ⟨_, rfl⟩⟩
    · rw [if_neg hmany, if_pos (by omega)]
      have hitem : (∃ results, items.zipIdx.mapM
            (fun x => parseItem loads .mutationAck x.2 x.1) = .ok results) ↔
          ∀ item ∈ items, Readable loads (some item) := by
        rw [mapM_isOk]
        constructor
        · intro h item hmem
          obtain ⟨i, hi, rfl⟩ := List.getElem_of_mem hmem
          obtain ⟨sub, hsub⟩ := h (items[i], i) (by simp [List.mem_zipIdx_iff_getElem?])
          obtain ⟨r, hr, -⟩ := parseItem_eq_ok.mp hsub
          exact ⟨r, hr⟩
        · rintro h ⟨item, index⟩ hmem
          obtain ⟨r, hr⟩ := h item (List.fst_mem_of_mem_zipIdx hmem)
          exact ⟨_, parseItem_eq_ok.mpr ⟨r, hr, rfl⟩⟩
      constructor
      · rintro ⟨parsed, h⟩ answer hmem
        obtain ⟨results, hresults, -⟩ := bind_eq_ok.mp h
        rcases List.mem_append.mp hmem with hmem | hmem
        · obtain ⟨item, hitem', rfl⟩ := List.mem_map.mp hmem
          exact hitem.mp ⟨results, hresults⟩ item hitem'
        · exact hnone _ answer hmem
      · intro h
        obtain ⟨results, hresults⟩ := hitem.mpr fun item hmem =>
          h (some item) (List.mem_append_left _ (List.mem_map_of_mem hmem))
        exact ⟨_, bind_eq_ok.mpr ⟨results, hresults, rfl⟩⟩

-- ------------------------------------------------------------
-- Handler
-- ------------------------------------------------------------

/-- The handler raises to be called again: no sub-request was answered for, and
either a class cannot be found or all of them are temporary. -/
def Resends (parsed : List SubResult) : Prop :=
  (∀ sub ∈ parsed, (!sub.success && sub.mutationEvidence.isNone) = true) ∧
    ((∃ sub ∈ parsed, ∀ cls, classifySubFailure sub ≠ .ok cls) ∨
      ∀ sub ∈ parsed, ∃ cls, classifySubFailure sub = .ok cls ∧ cls.isTemporary = true)

variable {ids : List String} {status : String} {response : Json} {parsed : List SubResult}

theorem ambiguousIds_eq_nil (hindex : ∀ sub ∈ parsed, sub.index < ids.length) :
    ((parsed.filter fun sub => sub.mutationEvidence == some .unknown).filterMap fun sub =>
        ids[sub.index]?) = [] ↔
      ∀ sub ∈ parsed, (sub.mutationEvidence == some .unknown) = false := by
  rw [List.filterMap_eq_nil_iff]
  constructor
  · intro h sub hsub
    cases hunknown : sub.mutationEvidence == some .unknown with
    | false => rfl
    | true =>
      have hnone := h sub (List.mem_filter.mpr ⟨hsub, hunknown⟩)
      rw [List.getElem?_eq_none_iff] at hnone
      exact absurd (hindex sub hsub) (by omega)
  · intro h sub hsub
    obtain ⟨hmem, hunknown⟩ := List.mem_filter.mp hsub
    rw [h sub hmem] at hunknown
    cases hunknown

def subException (sub : SubResult) : Except BatchRaise (GraphErrorClass × Json × Json) :=
  (classifySubFailure sub).map fun cls => (cls, subCode sub.body, subSubcode sub.body)

theorem subException_temporary {sub : SubResult} :
    (∃ exc, subException sub = .ok exc ∧ exc.1.isTemporary = true) ↔
      ∃ cls, classifySubFailure sub = .ok cls ∧ cls.isTemporary = true := by
  simp only [subException, map_eq_ok]
  constructor
  · rintro ⟨exc, ⟨cls, hcls, rfl⟩, htemporary⟩
    exact ⟨cls, hcls, htemporary⟩
  · rintro ⟨cls, hcls, htemporary⟩
    exact ⟨_, ⟨cls, hcls, rfl⟩, htemporary⟩

/-- With no answer at all, the handler goes on only when some class is permanent. -/
theorem resends_iff {classified : List (GraphErrorClass × Json × Json)}
    (hall : ∀ sub ∈ parsed, (!sub.success && sub.mutationEvidence.isNone) = true)
    (h : parsed.mapM subException = .ok classified) :
    Resends parsed ↔ (classified.all fun exc => exc.1.isTemporary) = true := by
  have hfound : ∀ sub ∈ parsed, ∃ cls, classifySubFailure sub = .ok cls := fun sub hsub => by
    obtain ⟨exc, hexc⟩ := mapM_isOk.mp ⟨classified, h⟩ sub hsub
    obtain ⟨cls, hcls, -⟩ := map_eq_ok.mp hexc
    exact ⟨cls, hcls⟩
  rw [List.all_eq_true, forall_mem_mapM h]
  simp only [subException_temporary]
  constructor
  · rintro ⟨-, ⟨sub, hsub, hraises⟩ | htemporary⟩
    · obtain ⟨cls, hcls⟩ := hfound sub hsub
      exact absurd hcls (hraises cls)
    · exact htemporary
  · exact fun htemporary => ⟨hall, .inr htemporary⟩

theorem concludeBatch_eq_ok {result : Json} (hne : parsed ≠ [])
    (hindex : ∀ sub ∈ parsed, sub.index < ids.length) :
    concludeBatch ids status response parsed = .ok result ↔
      (∀ sub ∈ parsed, (sub.mutationEvidence == some .unknown) = false) ∧ ¬ Resends parsed ∧
        bulkResult ids status response parsed = result := by
  unfold concludeBatch
  by_cases hknown : ∀ sub ∈ parsed, (sub.mutationEvidence == some .unknown) = false
  swap
  · rw [if_pos (mt (ambiguousIds_eq_nil hindex).mp hknown)]
    exact ⟨fun h => (nomatch h), fun h => absurd h.1 hknown⟩
  rw [if_neg (not_not.mpr ((ambiguousIds_eq_nil hindex).mpr hknown)), and_iff_right hknown]
  by_cases hall : ∀ sub ∈ parsed, (!sub.success && sub.mutationEvidence.isNone) = true
  swap
  · rw [if_neg fun h => hall (List.length_filter_eq_length_iff.mp h.2),
      and_iff_right fun h => hall h.1]
    exact ⟨Except.ok.inj, congrArg Except.ok⟩
  rw [List.filter_eq_self.mpr hall, if_pos ⟨hne, rfl⟩]
  change (parsed.mapM subException >>= _) = _ ↔ _
  cases hclasses : parsed.mapM subException with
  | error e =>
    have hraises : ∃ sub ∈ parsed, ∀ cls, classifySubFailure sub ≠ .ok cls := by
      by_contra hnone
      push Not at hnone
      have hfound : ∀ sub ∈ parsed, ∃ exc, subException sub = .ok exc := fun sub hsub => by
        obtain ⟨cls, hcls⟩ := hnone sub hsub
        exact ⟨_, map_eq_ok.mpr ⟨cls, hcls, rfl⟩⟩
      obtain ⟨classified, hok⟩ := mapM_isOk.mpr hfound
      cases hok.symm.trans hclasses
    exact ⟨fun h => (nomatch h), fun h => absurd ⟨hall, .inl hraises⟩ h.1⟩
  | ok classified =>
    rw [resends_iff hall hclasses, ok_bind]
    cases classified with
    | nil =>
      have hempty := (mapM_eq_ok.mp hclasses).length_eq
      exact absurd (List.length_eq_zero_iff.mp hempty) hne
    | cons exc rest =>
      obtain ⟨cls, code, subcode⟩ := exc
      dsimp only
      by_cases htemporary : (((cls, code, subcode) :: rest).all fun exc => exc.1.isTemporary) = true
      · rw [if_pos htemporary]
        exact ⟨fun h => (nomatch h), fun h => absurd htemporary h.1⟩
      · rw [if_neg htemporary, and_iff_right htemporary]
        exact ⟨Except.ok.inj, congrArg Except.ok⟩

-- ------------------------------------------------------------
-- Assessment
-- ------------------------------------------------------------

def picked (ids : List String) (marks : List Bool) : List String :=
  ((ids.zip marks).filter Prod.snd).map Prod.fst

@[simp] theorem picked_cons (id : String) (mark : Bool) (ids : List String) (marks : List Bool) :
    picked (id :: ids) (mark :: marks) = (if mark then [id] else []) ++ picked ids marks := by
  cases mark <;> simp [picked]

theorem picked_sublist (ids : List String) (marks : List Bool) :
    List.Sublist (picked ids marks) ids := by
  induction ids generalizing marks with
  | nil => simp [picked]
  | cons id ids ih =>
    rcases marks with _ | ⟨_ | _, marks⟩
    · simp [picked]
    · simpa using (ih marks).cons id
    · simpa using ih marks

def Named (all ids : List String) (parsed : List SubResult) : Prop :=
  List.Forall₂ (fun id sub => idAt all sub.index = .str id) ids parsed

theorem named_of_index (h : parsed.map (·.index) = List.range ids.length) :
    Named ids ids parsed := by
  have hlength : parsed.length = ids.length := by simpa using congrArg List.length h
  refine List.forall₂_iff_get.mpr ⟨hlength.symm, fun i hi hi' => ?_⟩
  have hindex : (parsed.get ⟨i, hi'⟩).index = i := by
    have hget := congrArg (fun l : List Nat => l[i]?) h
    simpa [hi, hi'] using hget
  rw [hindex, idAt, List.getElem?_eq_getElem hi]
  rfl

theorem modifiedIds_eq {all : List String} (h : Named all ids parsed) :
    (parsed.filter (·.success)).map (fun sub => idAt all sub.index) =
      (picked ids (parsed.map (·.success))).map .str := by
  induction h with
  | nil => rfl
  | cons hid hrest ih =>
    rename_i id sub ids parsed
    cases hsuccess : sub.success <;> simp [hsuccess, hid, ih]

theorem strip_ne_empty {id : String} (h : PyText.isDigits id = true) : PyText.strip id ≠ "" := by
  rw [PyText.strip_of_isDigits h]
  rintro rfl
  exact absurd h (by decide)

theorem successfulIds_eq {all : List String} (seen : List String) (h : Named all ids parsed)
    (hdigits : ∀ id ∈ ids, PyText.isDigits id = true) (hnodup : ids.Nodup)
    (hseen : ∀ id ∈ ids, id ∉ seen) :
    successfulIds (parsed.map (subResult all)) seen = .ok
      (picked ids (parsed.map (·.success))) := by
  induction h generalizing seen with
  | nil => rfl
  | cons hid hrest ih =>
    rename_i id sub ids parsed
    rw [List.forall_mem_cons] at hdigits hseen
    rw [List.nodup_cons] at hnodup
    have hblank := strip_ne_empty hdigits.1
    have htail := ih (id :: seen) hdigits.2 hnodup.2 fun other hother => by
      rw [List.mem_cons, not_or]
      exact ⟨ne_of_mem_of_not_mem hother hnodup.1, hseen.2 other hother⟩
    simp only [List.map_cons, subResult, hid, successfulIds, Obj.get?_cons, List.cons_append,
      picked_cons]
    simp only [if_true, String.reduceEq, if_false]
    rw [if_neg (by simp [hblank, hseen.1]), htail, ok_bind]
    cases sub.success <;> rfl

theorem idTexts?_str {texts : List String} (h : ∀ id ∈ texts, PyText.isDigits id = true) :
    idTexts? (texts.map .str) = some texts := by
  induction texts with
  | nil => rfl
  | cons id texts ih =>
    rw [List.forall_mem_cons] at h
    have hblank := strip_ne_empty h.1
    have htail : (texts.map Json.str).mapM
        (fun item => item.asStr?.filter fun s => PyText.strip s != "") = some texts := ih h.2
    rw [List.map_cons, idTexts?, List.mapM_cons, htail]
    simp [Json.asStr?, Option.filter_some, hblank]

theorem nonnegativeInt?_num (n : Nat) : nonnegativeInt? (some (.num n 0)) = some n := rfl

theorem assessBulkResult_eq (hne : ids ≠ []) (hnodup : ids.Nodup)
    (hdigits : ∀ id ∈ ids, PyText.isDigits id = true)
    (hindex : parsed.map (·.index) = List.range ids.length) :
    (assessBulkResult (bulkResult ids status response parsed)).state =
      if ∀ sub ∈ parsed, sub.success = false then .rejected
      else if ∀ sub ∈ parsed, sub.success = true then .confirmed else .partly := by
  have hnamed := named_of_index hindex
  have hsublist := picked_sublist ids (parsed.map (·.success))
  have htexts := idTexts?_str fun id hid => hdigits id (hsublist.subset hid)
  have hlength : (picked ids (parsed.map (·.success))).length =
      (parsed.filter (·.success)).length := by
    simpa using (congrArg List.length (modifiedIds_eq hnamed)).symm
  have hcount : (parsed.filter (·.success)).length +
      (parsed.filter fun sub => !sub.success).length =
      parsed.length := (List.length_eq_length_filter_add _).symm
  have hparsed : 0 < parsed.length := by
    have := congrArg List.length hindex
    simp only [List.length_map, List.length_range] at this
    rw [this]
    exact List.length_pos_iff.mpr hne
  have hnone : (∀ sub ∈ parsed, sub.success = false) ↔ (parsed.filter (·.success)).length = 0 := by
    simp [List.filter_eq_nil_iff]
  have hall : (∀ sub ∈ parsed, sub.success = true) ↔
      (parsed.filter fun sub => !sub.success).length = 0 := by
    simp [List.filter_eq_nil_iff]
  have hsuccessful := successfulIds_eq [] hnamed hdigits hnodup fun _ _ => List.not_mem_nil
  simp only [assessBulkResult, bulkResult, Obj.get?_cons, String.reduceEq, if_true, if_false,
    Option.getD_some, modifiedIds_eq hnamed, htexts, hnodup.sublist hsublist, not_true_eq_false,
    nonnegativeInt?_num, assessCounts, List.length_map, hcount, ne_eq, hsuccessful,
      hlength, or_self,
    hnone, hall]
  generalize (parsed.filter (·.success)).length = succeeded at hcount ⊢
  generalize (parsed.filter fun sub => !sub.success).length = failed at hcount ⊢
  split_ifs <;> first | rfl | omega

-- ------------------------------------------------------------
-- Outcome
-- ------------------------------------------------------------

structure BulkSound (loads : String → Except LoadsError Json) (params : Obj) (ids : List String)
    (response : Json) : Prop where
  parse : ∃ parsed, parseBatchResponse loads response (some ids.length) .mutationAck = .ok parsed ∧
    parsed.map (·.index) = List.range ids.length
  confirmed : ∀ result, executeBulk loads params response = .ok result →
    (assessBulkResult result).state = .confirmed →
    ∀ answer ∈ answers response ids.length, acknowledged loads answer = true
  partly : ∀ result, executeBulk loads params response = .ok result →
    (assessBulkResult result).state = .partly →
    (∃ fields, result = .obj fields ∧ Obj.get? fields "modified_ids" =
        some (.arr ((acknowledgedIds loads ids response).map .str))) ∧
      ∃ answer ∈ answers response ids.length, acknowledged loads answer = false
  rejected : ∀ result, executeBulk loads params response = .ok result →
    (assessBulkResult result).state = .rejected →
    ∀ answer ∈ answers response ids.length, refused loads answer = true
  absent : (∃ answer ∈ answers response ids.length, Absent answer) →
    (∀ answer ∈ answers response ids.length, acknowledged loads answer = false) →
    ∀ result, executeBulk loads params response = .ok result →
      (assessBulkResult result).state ≠ .rejected

/-- Answers that say nothing stand beside a final refusal: nothing is acknowledged and nothing is
ambiguous, some answer refuses nothing, and some other does so for good. -/
structure Shadowed (loads : String → Except LoadsError Json) (all : List (Option Json)) : Prop where
  settled : ∀ answer ∈ all,
    acknowledged loads answer = false ∧ answers2xx loads none answer = false
  silent : ∃ answer ∈ all, refused loads answer = false
  final : (∃ answer ∈ all, answers2xx loads (some false) answer = true) ∨
    (∀ answer ∈ all, ∃ cls, failureOf loads answer = .ok cls) ∧
      ∃ answer ∈ all, ∃ cls, failureOf loads answer = .ok cls ∧ cls.isTemporary = false

section Outcome

variable {params : Obj}

theorem executeBulk_eq (h : extractParams params = .ok (ids, status)) :
    executeBulk loads params response =
      parseBatchResponse loads response (some ids.length) .mutationAck >>=
        concludeBatch ids status response := by
  obtain ⟨hne, -, hmany, hdigits, hstatus⟩ := extractParams_ok h
  obtain ⟨entries, hentries⟩ := mapM_isOk.mpr fun id (hid : id ∈ ids) =>
    ⟨_, makeBatchEntry_ok (hdigits id hid) hstatus⟩
  have hlength := (mapM_eq_ok.mp hentries).length_eq
  have hpayload : buildBatchPayload entries = .ok entries := by
    rw [buildBatchPayload, if_neg, if_neg (by omega)]
    rintro rfl
    exact hne (List.length_eq_zero_iff.mp hlength)
  rw [executeBulk, h, ok_bind]
  dsimp only
  rw [hentries, ok_bind, hpayload, ok_bind]

theorem parsed_of_requested (h : extractParams params = .ok (ids, status))
    (hparsed : parseBatchResponse loads response (some ids.length) .mutationAck = .ok parsed) :
    parsed ≠ [] ∧ (∀ sub ∈ parsed, sub.index < ids.length) ∧
      parsed.map (·.index) = List.range ids.length ∧
      List.Forall₂ (Reads loads) (answers response ids.length) parsed := by
  have hpos := List.length_pos_iff.mpr (extractParams_ok h).1
  obtain ⟨hindex, hreads⟩ := parseBatchResponse_reads hpos hparsed
  refine ⟨?_, fun sub hsub => ?_, hindex, hreads⟩
  · rintro rfl
    exact hpos.ne (by simpa using congrArg List.length hindex)
  · rw [← List.mem_range, ← hindex]
    exact List.mem_map_of_mem hsub

theorem transportFailed_of_settled {answer : Option Json}
    (h : acknowledged loads answer = false ∧ answers2xx loads none answer = false) :
    transportFailed loads answer = !answers2xx loads (some false) answer := by
  simp only [acknowledged, answers2xx] at h ⊢
  unfold transportFailed
  split
  · rename_i code body hreading
    simp only [hreading] at h ⊢
    cases hcode : transportSuccess code with
    | false => rfl
    | true =>
      rw [hcode] at h
      rcases hfield : successField body with _ | _ | _
      · simp [hfield] at h
      · rfl
      · simp [hfield] at h
  · rfl

theorem resends_answers {all : List (Option Json)}
    (hreads : List.Forall₂ (Reads loads) all parsed) :
    Resends parsed ↔ (∀ answer ∈ all, transportFailed loads answer = true) ∧
      ((∃ answer ∈ all, ∀ cls, failureOf loads answer ≠ .ok cls) ∨
        ∀ answer ∈ all, ∃ cls, failureOf loads answer = .ok cls ∧ cls.isTemporary = true) := by
  have htransport := forall_mem_of_forall₂ (P := fun answer => transportFailed loads answer = true)
    (Q := fun sub => (!sub.success && sub.mutationEvidence.isNone) = true) hreads
    fun answer sub h => by rw [h.transport]
  have htemporary := forall_mem_of_forall₂
    (P := fun answer => ∃ cls, failureOf loads answer = .ok cls ∧ cls.isTemporary = true)
    (Q := fun sub => ∃ cls, classifySubFailure sub = .ok cls ∧ cls.isTemporary = true) hreads
    fun answer sub h => by rw [h.failure]
  have hfound := forall_mem_of_forall₂ (P := fun answer => ∃ cls, failureOf loads answer = .ok cls)
    (Q := fun sub => ∃ cls, classifySubFailure sub = .ok cls) hreads
    fun answer sub h => by rw [h.failure]
  have hraises : (∃ answer ∈ all, ∀ cls, failureOf loads answer ≠ .ok cls) ↔
      ∃ sub ∈ parsed, ∀ cls, classifySubFailure sub ≠ .ok cls := by
    rw [← not_iff_not]
    push Not
    exact hfound
  rw [Resends, htransport, htemporary, hraises]

theorem final_of_not_resends {all : List (Option Json)}
    (hsettled : ∀ answer ∈ all,
      acknowledged loads answer = false ∧ answers2xx loads none answer = false)
    (hreads : List.Forall₂ (Reads loads) all parsed) :
    ¬ Resends parsed ↔ (∃ answer ∈ all, answers2xx loads (some false) answer = true) ∨
      (∀ answer ∈ all, ∃ cls, failureOf loads answer = .ok cls) ∧
        ∃ answer ∈ all, ∃ cls, failureOf loads answer = .ok cls ∧ cls.isTemporary = false := by
  have hfailed : (∀ answer ∈ all, transportFailed loads answer = true) ↔
      ¬ ∃ answer ∈ all, answers2xx loads (some false) answer = true := by
    push Not
    refine forall₂_congr fun answer hmem => ?_
    rw [transportFailed_of_settled (hsettled answer hmem), Bool.not_eq_true', ne_eq,
      Bool.not_eq_true]
  rw [resends_answers hreads, hfailed, not_and_or, not_not, not_or]
  refine or_congr_right ?_
  push Not
  refine and_congr_right fun hfound => exists_congr fun answer => and_congr_right fun hmem => ?_
  obtain ⟨cls, hcls⟩ := hfound answer hmem
  simp [hcls]

theorem refused_of_absent {answer : Option Json} (h : Absent answer) :
    refused loads answer = false := by
  rcases answer with _ | _ | _ | _ | _ | _ | _
  all_goals first | rfl | exact h.elim

theorem acknowledgedIds_eq
    (hreads : List.Forall₂ (Reads loads) (answers response ids.length) parsed) :
    picked ids (parsed.map (·.success)) = acknowledgedIds loads ids response := by
  have hmarks : parsed.map (·.success) = (answers response ids.length).map
      (acknowledged loads) := by
    generalize answers response ids.length = all at hreads
    induction hreads with
    | nil => rfl
    | cons h _ ih => rw [List.map_cons, List.map_cons, h.success, ih]
  rw [hmarks, picked, acknowledgedIds, List.zip_map_right, List.filter_map, List.map_map]
  rfl

/-- A batch outcome says what Meta answered exactly when every sub-response can be read and none
that says nothing stands beside a final refusal. -/
theorem bulk_outcome_sound_iff (loads : String → Except LoadsError Json) (response : Json)
    (h : extractParams params = .ok (ids, status)) :
    BulkSound loads params ids response ↔
      (∀ answer ∈ answers response ids.length, Readable loads answer) ∧
        ¬ Shadowed loads (answers response ids.length) := by
  obtain ⟨hne, hnodup, -, hdigits, -⟩ := extractParams_ok h
  have hexecute : executeBulk loads params response = _ := executeBulk_eq h
  constructor
  · intro hsound
    obtain ⟨parsed, hparsed, -⟩ := hsound.parse
    refine ⟨parseBatchResponse_isOk.mp ⟨parsed, hparsed⟩, fun hshadowed => ?_⟩
    obtain ⟨hparsedne, hbound, hindex, hreads⟩ := parsed_of_requested h hparsed
    have hunknown : ∀ sub ∈ parsed, (sub.mutationEvidence == some .unknown) = false :=
      (forall_mem_of_forall₂ hreads fun answer sub h => by rw [h.unknown]).mp
        fun answer hmem => (hshadowed.settled answer hmem).2
    have hfailed : ∀ sub ∈ parsed, sub.success = false :=
      (forall_mem_of_forall₂ hreads fun answer sub h => by rw [h.success]).mp
        fun answer hmem => (hshadowed.settled answer hmem).1
    have hfinal := (final_of_not_resends hshadowed.settled hreads).mpr hshadowed.final
    have hresult : executeBulk loads params response =
        .ok (bulkResult ids status response parsed) := by
      rw [hexecute, hparsed, ok_bind]
      exact (concludeBatch_eq_ok hparsedne hbound).mpr ⟨hunknown, hfinal, rfl⟩
    obtain ⟨answer, hmem, hsilent⟩ := hshadowed.silent
    have hrefused := hsound.rejected _ hresult
      (by rw [assessBulkResult_eq hne hnodup hdigits hindex, if_pos hfailed]) answer hmem
    rw [hsilent] at hrefused
    cases hrefused
  · rintro ⟨hreadable, hshadowed⟩
    obtain ⟨parsed, hparsed⟩ := parseBatchResponse_isOk.mpr hreadable
    obtain ⟨hparsedne, hbound, hindex, hreads⟩ := parsed_of_requested h hparsed
    have hreturns : ∀ result, executeBulk loads params response = .ok result →
        (∀ sub ∈ parsed, (sub.mutationEvidence == some .unknown) = false) ∧ ¬ Resends parsed ∧
          bulkResult ids status response parsed = result := by
      intro result hresult
      rw [hexecute, hparsed, ok_bind] at hresult
      exact (concludeBatch_eq_ok hparsedne hbound).mp hresult
    have hstate : (assessBulkResult (bulkResult ids status response parsed)).state = _ :=
      assessBulkResult_eq hne hnodup hdigits hindex
    have hmarks : ∀ b, (∀ answer ∈ answers response ids.length, acknowledged loads answer = b) ↔
        ∀ sub ∈ parsed, sub.success = b := fun b =>
      forall_mem_of_forall₂ hreads fun answer sub h => by rw [h.success]
    have hrejected : ∀ result, executeBulk loads params response = .ok result →
        (assessBulkResult result).state = .rejected →
        ∀ answer ∈ answers response ids.length, refused loads answer = true := by
      intro result hresult houtcome
      obtain ⟨hunknown, hfinal, rfl⟩ := hreturns result hresult
      rw [hstate] at houtcome
      have hfailed : ∀ sub ∈ parsed, sub.success = false := by
        split_ifs at houtcome with hfailed
        exact hfailed
      have hsettled : ∀ answer ∈ answers response ids.length,
          acknowledged loads answer = false ∧ answers2xx loads none answer = false :=
            fun answer hmem =>
        ⟨(hmarks false).mpr hfailed answer hmem,
          (forall_mem_of_forall₂ hreads fun answer sub h => by rw [h.unknown]).mpr hunknown
            answer hmem⟩
      by_contra hsilent
      push Not at hsilent
      obtain ⟨answer, hmem, hsilent⟩ := hsilent
      exact hshadowed ⟨hsettled, ⟨answer, hmem, by simpa using hsilent⟩,
        (final_of_not_resends hsettled hreads).mp hfinal⟩
    refine ⟨⟨parsed, hparsed, hindex⟩, ?_, ?_, hrejected, ?_⟩
    · intro result hresult houtcome
      obtain ⟨-, -, rfl⟩ := hreturns result hresult
      rw [hstate] at houtcome
      split_ifs at houtcome with hnone hall
      exact (hmarks true).mpr hall
    · intro result hresult houtcome
      obtain ⟨-, -, rfl⟩ := hreturns result hresult
      rw [hstate] at houtcome
      split_ifs at houtcome with hnone hall
      refine ⟨⟨_, rfl, ?_⟩, ?_⟩
      · simp only [Obj.get?_cons, String.reduceEq, if_false, if_true]
        rw [modifiedIds_eq (named_of_index hindex), acknowledgedIds_eq hreads]
      · rw [← hmarks true] at hall
        push Not at hall
        simpa using hall
    · rintro ⟨answer, hmem, habsent⟩ - result hresult houtcome
      have hrefused := hrejected result hresult houtcome answer hmem
      rw [refused_of_absent habsent] at hrefused
      cases hrefused

def pausePair : Obj :=
  [("ad_ids", .arr [.str "11", .str "12"]), ("action", .str "pause")]

def subResponse (success : Bool) : Json :=
  .obj [("code", .num 200 0), ("body", .obj [("success", .bool success)])]

/-- Both acknowledged: the condition holds, and with it the promise. -/
theorem bulk_outcome_sound_pair :
    extractParams pausePair = .ok (["11", "12"], "PAUSED") ∧
      BulkSound (fun _ => .error .jsonDecodeError) pausePair ["11", "12"]
        (.arr [subResponse true, subResponse true]) := by
  have hparams : extractParams pausePair = .ok (["11", "12"], "PAUSED") := rfl
  refine ⟨hparams, (bulk_outcome_sound_iff _ _ hparams).mpr ⟨fun answer hmem => ?_, fun h => ?_⟩⟩
  · obtain rfl : answer = some (subResponse true) := by simpa [answers, batchItems] using hmem
    exact ⟨_, rfl⟩
  · have hfirst := (h.settled (some (subResponse true)) (by simp [answers, batchItems])).1
    cases hfirst

/-- A sub-response that never came beside one Meta refuses: the batch ends rejected. -/
theorem bulk_outcome_null_rejected :
    ¬ BulkSound (fun _ => .error .jsonDecodeError) pausePair ["11", "12"]
      (.arr [.null, subResponse false]) := by
  intro hsound
  have hrefused := hsound.rejected _ rfl rfl (some .null) (by simp [answers, batchItems])
  cases hrefused

end Outcome

end StopBot.Graph
