import StopBot.Duplicates.Plan
import StopBot.Graph.Batch

/-!
# Status changes of many ads in one batch

The `bulk_status_change` handler on the answer of the Graph batch call, and the
worker's reading of its result. The texts of requests and log lines beyond the
entries themselves are left out.
-/

namespace StopBot.Graph

open Lib Worker

-- ------------------------------------------------------------
-- Request
-- ------------------------------------------------------------

def maxBatchEntries : Nat := 50

structure BatchEntry where
  method : String
  relativeUrl : String
  deriving DecidableEq, Repr

def validateRelativeUrl (url : String) : Except BatchRaise Unit :=
  let starts (word : String) : Bool := word.toList.isPrefixOf url.toList
  if starts "http://" || starts "https://" || starts "//" then
    .error (.valueError ("relative_url должен быть относительным (без host), получено " ++
      Duplicates.pyRepr (.str url)))
  else if starts "/" then
    .error (.valueError ("relative_url не должен начинаться с /, получено " ++
      Duplicates.pyRepr (.str url)))
  else if url.toList.any fun c => c == '\x7b' || c == '\x7d' || c == '$' then
    .error (.valueError "relative_url must not contain cross-entry templates")
  else .ok ()

def makeBatchEntry (method relativeUrl : String) : Except BatchRaise BatchEntry :=
  if method = "" then
    .error (.valueError ("method обязателен и должен быть str, получено " ++
      Duplicates.pyRepr (.str method)))
  else if PyText.upper method ∉ ["GET", "POST", "DELETE", "PUT"] then
    .error (.valueError ("method: допустимо GET/POST/DELETE/PUT, получено " ++
      Duplicates.pyRepr (.str method)))
  else if relativeUrl = "" then .error (.valueError "relative_url не должен быть пустым")
  else do
    validateRelativeUrl relativeUrl
    .ok ⟨PyText.upper method, relativeUrl⟩

def buildBatchPayload (entries : List BatchEntry) : Except BatchRaise (List BatchEntry) :=
  if entries = [] then
    .error (.valueError "entries пустой — Batch API требует минимум один sub-request")
  else if maxBatchEntries < entries.length then
    .error (.valueError ("entries слишком много (" ++ toString entries.length ++ " > " ++
      toString maxBatchEntries ++ ")"))
  else .ok entries

def actionToStatus : List (String × String) :=
  [("pause", "PAUSED"), ("activate", "ACTIVE"), ("paused", "PAUSED"), ("active", "ACTIVE")]

def objectId (raw : Json) : Except BatchRaise String :=
  match Duplicates.requireNumericId (.str (PyText.strip (pyStr raw))) "object_id" with
  | .ok id => .ok id
  | .error message => .error (.mutationValidationError message)

def dedupe (ids : List String) : List String :=
  ids.foldl (fun kept id => if id ∈ kept then kept else kept ++ [id]) []

/-- `_extract_params`: the ids without repetition, and the Graph status. -/
def extractParams (params : Obj) : Except BatchRaise (List String × String) :=
  let rawAction := (params.get? "action").getD .null
  let action := PyText.strip (PyText.lower (pyStr (rawAction.orElse (.str ""))))
  match ((params.get? "ad_ids").getD .null).orElse (.arr []) with
  | .arr (raw :: rest) =>
    match actionToStatus.lookup action with
    | none =>
      .error (.mutationValidationError ("action: допустимо pause/activate, получено " ++
        Duplicates.pyRepr rawAction))
    | some status => do
      let ids ← (raw :: rest).mapM objectId
      if maxBatchEntries < ids.length then
        .error (.mutationValidationError ("bulk_status_change: слишком много объектов (" ++
          toString ids.length ++ " > " ++ toString maxBatchEntries ++ ")"))
      else .ok (dedupe ids, status)
  | _ => .error (.mutationValidationError "ad_ids: ожидается непустой список ID")

theorem dedupe_spec (ids : List String) :
    (dedupe ids).Nodup ∧ dedupe ids ⊆ ids ∧ (dedupe ids).length ≤ ids.length ∧
      (ids ≠ [] → dedupe ids ≠ []) := by
  have hfold : ∀ (ids kept : List String), kept.Nodup →
      let all := ids.foldl (fun kept id => if id ∈ kept then kept else kept ++ [id]) kept
      all.Nodup ∧ all ⊆ kept ++ ids ∧ all.length ≤ kept.length + ids.length ∧
        (kept ++ ids ≠ [] → all ≠ []) := by
    intro ids
    induction ids with
    | nil => intro kept h; simp [h]
    | cons id ids ih =>
      intro kept h
      rw [List.foldl_cons]
      by_cases hmem : id ∈ kept
      · obtain ⟨hnodup, hsub, hlength, hne⟩ := ih kept h
        rw [if_pos hmem]
        refine ⟨hnodup, fun x hx => ?_, hlength.trans (by simp), fun _ => hne ?_⟩
        · rcases List.mem_append.mp (hsub hx) with hx | hx
          · exact List.mem_append_left _ hx
          · exact List.mem_append_right _ (List.mem_cons_of_mem _ hx)
        · exact List.append_ne_nil_of_left_ne_nil (List.ne_nil_of_mem hmem) _
      · obtain ⟨hnodup, hsub, hlength, hne⟩ := ih (kept ++ [id]) (by
          rw [List.nodup_append]
          refine ⟨h, List.nodup_singleton id, fun a ha b hb => ?_⟩
          obtain rfl := List.mem_singleton.mp hb
          exact ne_of_mem_of_not_mem ha hmem)
        rw [if_neg hmem]
        refine ⟨hnodup, by simpa using hsub, ?_, fun _ => hne (by simp)⟩
        simp only [List.length_append, List.length_cons, List.length_nil] at hlength ⊢
        omega
  simpa [dedupe] using hfold ids [] List.nodup_nil

theorem objectId_eq_ok {raw : Json} {id : String} (h : objectId raw = .ok id) :
    PyText.isDigits id = true := by
  unfold objectId at h
  split at h
  · rename_i id' hid
    cases h
    exact (Duplicates.requireNumericId_eq_ok hid).2
  · cases h

theorem extractParams_ok {params : Obj} {ids : List String} {status : String}
    (h : extractParams params = .ok (ids, status)) :
    ids ≠ [] ∧ ids.Nodup ∧ ids.length ≤ maxBatchEntries ∧ (∀ id ∈ ids, PyText.isDigits id = true) ∧
      (status = "PAUSED" ∨ status = "ACTIVE") := by
  unfold extractParams at h
  simp only at h
  split at h
  · rename_i raw rest hraw
    split at h
    · cases h
    · rename_i found hstatus
      obtain ⟨all, hall, h⟩ := bind_eq_ok.mp h
      split_ifs at h with hmany
      cases h
      have hforall := mapM_eq_ok.mp hall
      obtain ⟨hnodup, hsub, hlength, hne⟩ := dedupe_spec all
      refine ⟨hne ?_, hnodup, hlength.trans (by omega), fun id hid => ?_, ?_⟩
      · rintro rfl
        cases hforall
      · obtain ⟨i, hi, rfl⟩ := List.getElem_of_mem (hsub hid)
        exact objectId_eq_ok (hforall.get (by rw [hforall.length_eq]; exact hi) hi)
      · simp only [actionToStatus, List.lookup_cons, List.lookup_nil] at hstatus
        grind
  · cases h

theorem makeBatchEntry_ok {id status : String} (hid : PyText.isDigits id = true)
    (hstatus : status = "PAUSED" ∨ status = "ACTIVE") :
    makeBatchEntry "POST" (id ++ "?status=" ++ status) =
      .ok ⟨"POST", id ++ "?status=" ++ status⟩ := by
  have hne : id.toList ≠ [] := by
    simp only [PyText.isDigits, Bool.and_eq_true] at hid
    simpa using hid.1
  obtain ⟨c, cs, hcs⟩ := List.exists_cons_of_ne_nil hne
  have hurl : (id ++ "?status=" ++ status).toList = c ::
      (cs ++ "?status=".toList ++ status.toList) := by
    simp [hcs]
  have hstart : ∀ (x : Char) (word : List Char), x ∉ id.toList →
      (x :: word).isPrefixOf (c :: (cs ++ "?status=".toList ++ status.toList)) = false := by
    intro x word hx
    rw [List.isPrefixOf_cons_cons, Bool.and_eq_false_iff]
    left
    rw [beq_eq_false_iff_ne]
    rintro rfl
    exact hx (by rw [hcs]; exact List.mem_cons_self)
  have hplain : ((c :: (cs ++ "?status=".toList ++ status.toList)).any
      fun c => c == '\x7b' || c == '\x7d' || c == '$') = false := by
    rw [show c :: (cs ++ "?status=".toList ++ status.toList) =
      id.toList ++ ("?status=".toList ++ status.toList) by rw [hcs]; simp, List.any_append,
      Bool.or_eq_false_iff]
    constructor
    · rw [List.any_eq_false]
      rintro x hx
      simp only [Bool.or_eq_true, beq_iff_eq]
      rintro ((rfl | rfl) | rfl) <;> exact PyText.notMem_of_isDigits hid (by decide) hx
    · rcases hstatus with rfl | rfl <;> decide
  have hvalid : validateRelativeUrl (id ++ "?status=" ++ status) = .ok () := by
    have hh : 'h' ∉ id.toList := PyText.notMem_of_isDigits hid (by decide)
    have hslash : '/' ∉ id.toList := PyText.notMem_of_isDigits hid (by decide)
    simp only [validateRelativeUrl, hurl]
    rw [show "http://".toList = 'h' :: "ttp://".toList from rfl,
      show "https://".toList = 'h' :: "ttps://".toList from rfl,
      show "//".toList = '/' :: "/".toList from rfl, show "/".toList = '/' :: [] from rfl,
      hstart _ _ hh, hstart _ _ hh, hstart _ _ hslash, hstart _ _ hslash, hplain]
    rfl
  have hnonempty : id ++ "?status=" ++ status ≠ "" := by
    intro h
    rw [h] at hurl
    cases hurl
  rw [makeBatchEntry, if_neg (by decide), if_neg (by decide), if_neg hnonempty, hvalid]
  rfl

-- ------------------------------------------------------------
-- Handler
-- ------------------------------------------------------------

/-- `object_ids[index]`, or None past the end. -/
def idAt (ids : List String) (index : Nat) : Json :=
  match ids[index]? with
  | some id => .str id
  | none => .null

def subResult (ids : List String) (sub : SubResult) : Json :=
  .obj ([("id", idAt ids sub.index), ("success", .bool sub.success), ("code", .num sub.code 0)] ++
    if sub.error.isTruthy then [("error", sub.error)] else [])

def bulkResult (ids : List String) (status : String) (graphResponse : Json)
    (parsed : List SubResult) : Json :=
  let succeeded := parsed.filter (·.success)
  .obj [("success", .bool true), ("graph_response", graphResponse),
    ("modified_ids", .arr (succeeded.map fun sub => idAt ids sub.index)),
    ("status_applied", .str status), ("batch_size", .num ids.length 0),
    ("succeeded", .num succeeded.length 0),
    ("failed", .num (parsed.filter fun sub => !sub.success).length 0),
    ("sub_results", .arr (parsed.map (subResult ids)))]

/-- What the handler makes of the parsed answer. -/
def concludeBatch (ids : List String) (status : String) (graphResponse : Json)
    (parsed : List SubResult) : Except BatchRaise Json := do
  let ambiguousIds :=
    (parsed.filter fun sub => sub.mutationEvidence == some .unknown).filterMap fun sub =>
      ids[sub.index]?
  if ambiguousIds ≠ [] then
    .error (.ambiguousResultError ("Meta batch mutation returned no exact success=true " ++
      "acknowledgement for ids=" ++ ",".intercalate ambiguousIds))
  else
    let transportFailures := parsed.filter fun sub => !sub.success && sub.mutationEvidence.isNone
    if transportFailures ≠ [] ∧ transportFailures.length = parsed.length then
      let classified ← transportFailures.mapM fun sub =>
        (classifySubFailure sub).map fun cls => (cls, subCode sub.body, subSubcode sub.body)
      match classified with
      | (cls, code, subcode) :: _ =>
        if classified.all fun exc => exc.1.isTemporary then .error (.graphError cls code subcode)
        else .ok (bulkResult ids status graphResponse parsed)
      | [] => .ok (bulkResult ids status graphResponse parsed)
    else .ok (bulkResult ids status graphResponse parsed)

/-- `BulkStatusChangeHandler.execute`, on the answer the batch call returns. -/
def executeBulk (loads : String → Except LoadsError Json) (params : Obj) (graphResponse : Json) :
    Except BatchRaise Json := do
  let (ids, status) ← extractParams params
  let entries ← ids.mapM fun id => makeBatchEntry "POST" (id ++ "?status=" ++ status)
  let _ ← buildBatchPayload entries
  let parsed ← parseBatchResponse loads graphResponse (some ids.length) .mutationAck
  concludeBatch ids status graphResponse parsed

-- ------------------------------------------------------------
-- Assessment
-- ------------------------------------------------------------

inductive BulkState
  | confirmed
  | rejected
  | partly
  | invalid
  deriving DecidableEq, Repr

structure BulkAssessment where
  state : BulkState
  reason : String
  deriving DecidableEq, Repr

def nonnegativeInt? : Option Json → Option Nat
  | some (.num (.ofNat n) 0) => some n
  | _ => none

/-- The loop over `sub_results`: the ids that succeeded, or why the list is invalid. -/
def successfulIds : List Json → List String → Except String (List String)
  | [], _ => .ok []
  | .obj item :: rest, seen =>
    match Obj.get? item "id", Obj.get? item "success" with
    | some (.str id), some (.bool success) =>
      if PyText.strip id = "" ∨ id ∈ seen then .error "bulk_sub_result_invalid"
      else do
        let ids ← successfulIds rest (id :: seen)
        .ok (if success then id :: ids else ids)
    | _, _ => .error "bulk_sub_result_invalid"
  | _ :: _, _ => .error "bulk_sub_result_not_object"

def assessCounts (acknowledged : Bool) (modifiedIds : List String) (succeeded failed : Nat)
    (subResults : List Json) : BulkAssessment :=
  if succeeded + failed ≠ subResults.length then ⟨.invalid, "bulk_result_counts_mismatch"⟩
  else
    match successfulIds subResults [] with
    | .error reason => ⟨.invalid, reason⟩
    | .ok successful =>
      if successful.length ≠ succeeded ∨ successful ≠ modifiedIds then
        ⟨.invalid, "bulk_modified_ids_mismatch"⟩
      else if succeeded = 0 ∧ 0 < failed then ⟨.rejected, "bulk_all_rejected"⟩
      else if 0 < succeeded ∧ 0 < failed then ⟨.partly, "bulk_partially_applied"⟩
      else if acknowledged = false then ⟨.invalid, "bulk_acknowledgement_conflict"⟩
      else if succeeded = 0 then ⟨.invalid, "bulk_empty_acknowledgement"⟩
      else ⟨.confirmed, "handler_confirmed"⟩

def assessBulkResult (result : Json) : BulkAssessment :=
  match result with
  | .obj fields =>
    match Obj.get? fields "success" with
    | some (.bool acknowledged) =>
      match (Obj.get? fields "modified_ids").getD (.arr []) with
      | .arr items =>
        match idTexts? items with
        | none => ⟨.invalid, "handler_modified_ids_invalid"⟩
        | some ids =>
          if ¬ ids.Nodup then ⟨.invalid, "handler_modified_ids_not_unique"⟩
          else
            match nonnegativeInt? (Obj.get? fields "succeeded"),
                nonnegativeInt? (Obj.get? fields "failed"), Obj.get? fields "sub_results" with
            | some succeeded, some failed, some (.arr subResults) =>
              assessCounts acknowledged ids succeeded failed subResults
            | _, _, _ => ⟨.invalid, "bulk_result_shape_invalid"⟩
      | _ => ⟨.invalid, "handler_modified_ids_invalid"⟩
    | _ => ⟨.invalid, "handler_success_not_boolean"⟩
  | _ => ⟨.invalid, "handler_result_not_object"⟩

end StopBot.Graph
