import StopBot.Lib.Dict

/-!
# Objects and maps of JavaScript

The own properties of an object, or the items of a map, in order of insertion.
A key occurs once. Assigning to `__proto__` of a plain object makes no property
of it; spreading copies whatever properties there are.
-/

namespace StopBot.Lib

structure Record (β : Type) where
  entries : List (String × β)
  nodup : (entries.map Prod.fst).Nodup
  deriving Repr

namespace Record

variable {β : Type}

def empty : Record β := ⟨[], List.nodup_nil⟩

def get? (r : Record β) (key : String) : Option β :=
  r.entries.lookup key

def keys (r : Record β) : List String :=
  r.entries.map Prod.fst

def set (r : Record β) (key : String) (value : β) : Record β :=
  ⟨Dict.set key value r.entries, Dict.nodup_set r.nodup⟩

/-- `object[key] = value`. -/
def assign (r : Record β) (key : String) (value : β) : Record β :=
  if key = "__proto__" then r else r.set key value

def indexKey? (key : String) : Option Nat :=
  let value := Nat.ofDigitChars 10 key.toList 0
  if toString value = key ∧ value < 4294967295 then some value else none

/-- `Object.values(object)[0]`: the least array index comes before other names. -/
def firstValue (r : Record β) : Option β :=
  let indexed := r.entries.filterMap fun item => (indexKey? item.1).map fun i => (i, item.2)
  match indexed.map Prod.fst |>.min? with
  | some least => indexed.lookup least
  | none => r.entries.head?.map Prod.snd

/-- The properties of `items` over those of `r`, one after the other. -/
def setAll (r : Record β) (items : List (String × β)) : Record β :=
  items.foldl (fun r item => r.set item.1 item.2) r

/-- `{ ...left, ...right }`. -/
def spread (left right : Record β) : Record β :=
  left.setAll right.entries

@[simp] theorem get?_empty (key : String) : (empty : Record β).get? key = none := rfl

@[simp] theorem get?_set (r : Record β) (key : String) (value : β) (other : String) :
    (r.set key value).get? other = if other = key then some value else r.get? other :=
  Dict.lookup_set key value r.entries other

theorem get?_isSome (r : Record β) (key : String) : (r.get? key).isSome = true ↔ key ∈ r.keys := by
  simp [get?, keys]

theorem mem_entries_of_get? {r : Record β} {key : String} {value : β}
    (h : r.get? key = some value) : (key, value) ∈ r.entries := by
  obtain ⟨before, after, hentries, -⟩ := List.lookup_eq_some_iff.mp h
  rw [hentries]
  exact List.mem_append_right _ List.mem_cons_self

theorem get?_setAll (r : Record β) {items : List (String × β)} (h : (items.map Prod.fst).Nodup)
    (key : String) : (r.setAll items).get? key = (items.lookup key).or (r.get? key) := by
  induction items generalizing r with
  | nil => rfl
  | cons item rest ih =>
    obtain ⟨k, v⟩ := item
    obtain ⟨hfresh, hrest⟩ := List.nodup_cons.mp h
    have hstep : (r.setAll ((k, v) :: rest)).get? key =
        (rest.lookup key).or ((r.set k v).get? key) := ih (r.set k v) hrest
    rw [hstep, get?_set]
    by_cases hk : key = k
    · subst hk
      have hnone : rest.lookup key = none := by
        rw [List.lookup_eq_none_iff]
        intro p hp
        rw [bne_iff_ne]
        exact fun heq => hfresh (List.mem_map.mpr ⟨p, hp, heq.symm⟩)
      simp [hnone]
    · simp [hk, List.lookup_cons, beq_eq_false_iff_ne.mpr hk]

/-- The right object wins where it has the property. -/
@[simp] theorem get?_spread (left right : Record β) (key : String) :
    (left.spread right).get? key = (right.get? key).or (left.get? key) :=
  get?_setAll left right.nodup key

theorem get?_assign (r : Record β) (key : String) (value : β) (other : String) :
    (r.assign key value).get? other =
      if other = key ∧ key ≠ "__proto__" then some value else r.get? other := by
  unfold assign
  by_cases hproto : key = "__proto__" <;> simp [hproto]

theorem get?_foldl {α : Type} {f : Record β → α → Record β} {gives : α → Option β} {key : String}
    (hf : ∀ out item, (f out item).get? key = (gives item).or (out.get? key))
    (items : List α) (out : Record β) :
    (items.foldl f out).get? key = (items.reverse.findSome? gives).or (out.get? key) := by
  induction items generalizing out with
  | nil => rfl
  | cons item items ih =>
    rw [List.foldl_cons, ih, hf]
    simp [List.findSome?_append, Option.or_assoc]

end Record

end StopBot.Lib
