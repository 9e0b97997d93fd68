import Mathlib.Data.List.Nodup

/-!
# Dictionaries in order of insertion

A dictionary is the list of its items. Setting a key that is there keeps the
place of the key and replaces its value.
-/

namespace StopBot.Lib.Dict

variable {κ β : Type} [DecidableEq κ]

/-- `d[key] = value`. -/
def set (key : κ) (value : β) : List (κ × β) → List (κ × β)
  | [] => [(key, value)]
  | (k, v) :: rest => if k = key then (key, value) :: rest else (k, v) :: set key value rest

def ofPairs (pairs : List (κ × β)) : List (κ × β) :=
  pairs.foldl (fun d item => set item.1 item.2 d) []

theorem set_of_notMem {key : κ} {value : β} {d : List (κ × β)} (h : key ∉ d.map Prod.fst) :
    set key value d = d ++ [(key, value)] := by
  induction d with
  | nil => rfl
  | cons item rest ih =>
    rw [List.map_cons, List.mem_cons, not_or] at h
    rw [set, if_neg (Ne.symm h.1), ih h.2]
    rfl

theorem keys_set_of_mem {key : κ} {value : β} {d : List (κ × β)} (h : key ∈ d.map Prod.fst) :
    (set key value d).map Prod.fst = d.map Prod.fst := by
  induction d with
  | nil => simp at h
  | cons item rest ih =>
    obtain ⟨k, v⟩ := item
    by_cases hk : k = key
    · rw [set, if_pos hk, List.map_cons, List.map_cons, hk]
    · have hrest : key ∈ rest.map Prod.fst := by
        rw [List.map_cons, List.mem_cons] at h
        exact h.resolve_left (Ne.symm hk)
      rw [set, if_neg hk, List.map_cons, List.map_cons, ih hrest]

theorem nodup_set {key : κ} {value : β} {d : List (κ × β)} (h : (d.map Prod.fst).Nodup) :
    ((set key value d).map Prod.fst).Nodup := by
  by_cases hmem : key ∈ d.map Prod.fst
  · rw [keys_set_of_mem hmem]
    exact h
  · rw [set_of_notMem hmem, List.map_append]
    exact List.nodup_append.mpr ⟨h, List.nodup_singleton _, fun a ha b hb => by
      obtain rfl := List.mem_singleton.mp hb
      exact ne_of_mem_of_not_mem ha hmem⟩

theorem lookup_set (key : κ) (value : β) (d : List (κ × β)) (other : κ) :
    (set key value d).lookup other = if other = key then some value else d.lookup other := by
  induction d with
  | nil => by_cases h : other = key <;> simp [set, List.lookup_cons, h, beq_eq_false_iff_ne.mpr]
  | cons item rest ih =>
    obtain ⟨k, v⟩ := item
    by_cases hk : k = key <;> by_cases ho : other = key <;> by_cases hko : other = k <;>
      simp_all [set, List.lookup_cons, beq_eq_false_iff_ne.mpr]

theorem ofPairs_of_nodup {pairs : List (κ × β)} (h : (pairs.map Prod.fst).Nodup) :
    ofPairs pairs = pairs := by
  suffices ∀ d : List (κ × β), ((d ++ pairs).map Prod.fst).Nodup →
      pairs.foldl (fun d item => set item.1 item.2 d) d = d ++ pairs from this [] h
  clear h
  induction pairs with
  | nil => intro d _; simp
  | cons item rest ih =>
    intro d hd
    have hfresh : item.1 ∉ d.map Prod.fst := by
      intro hmem
      rw [List.map_append, List.nodup_append] at hd
      exact hd.2.2 _ hmem _ (by simp) rfl
    have hd' : (d ++ [item]) ++ rest = d ++ item :: rest := by simp
    rw [List.foldl_cons, set_of_notMem hfresh, ih _ (by rw [hd']; exact hd), hd']

theorem lookup_of_mem {pairs : List (κ × β)} {key : κ} {value : β}
    (h : (pairs.map Prod.fst).Nodup) (hmem : (key, value) ∈ pairs) :
    pairs.lookup key = some value := by
  induction pairs with
  | nil => simp at hmem
  | cons item rest ih =>
    obtain ⟨hfresh, hrest⟩ := List.nodup_cons.mp h
    obtain rfl | hmem := List.mem_cons.mp hmem
    · simp
    · have hne : key ≠ item.1 := fun heq =>
        hfresh (List.mem_map.mpr ⟨(key, value), hmem, heq⟩)
      rw [List.lookup_cons, beq_false_of_ne hne]
      exact ih hrest hmem

end StopBot.Lib.Dict
