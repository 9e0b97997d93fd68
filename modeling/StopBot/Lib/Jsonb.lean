import Mathlib.Algebra.Group.Int.Defs
import Mathlib.Algebra.GroupWithZero.Nat

/-!
# JSON documents as PostgreSQL's `jsonb` keeps them

Objects are association lists; a key is looked up at its first occurrence.
The operators are those of SQL: `||` on objects, `-` with a key, `->` and
`->>`. The laws say what a lookup finds after each of them.
-/

namespace StopBot.Lib

/-- A number is `mantissa * 10 ^ exponent`. -/
inductive Json
  | null
  | bool (b : Bool)
  | num (mantissa exponent : Int)
  | str (s : String)
  | arr (items : List Json)
  | obj (fields : List (String × Json))
  deriving Repr

abbrev Obj := List (String × Json)

mutual
/-- The text of a document, as a cast to `text` prints it (quoting as Lean does). -/
def Json.render : Json → String
  | .null => "null"
  | .bool b => if b then "true" else "false"
  | .num m e => if e = 0 then toString m else toString m ++ "e" ++ toString e
  | .str s => s.quote
  | .arr items => "[" ++ renderItems items ++ "]"
  | .obj fields => "\x7b" ++ renderFields fields ++ "\x7d"
def renderItems : List Json → String
  | [] => ""
  | [item] => item.render
  | item :: items => item.render ++ ", " ++ renderItems items
def renderFields : List (String × Json) → String
  | [] => ""
  | [(key, value)] => key.quote ++ ": " ++ value.render
  | (key, value) :: fields => key.quote ++ ": " ++ value.render ++ ", " ++ renderFields fields
end

namespace Json

/-- `->>` of an extracted value: NULL for the JSON null, the bare text of a string. -/
def text : Json → Option String
  | .null => none
  | .str s => some s
  | value => some value.render

/-- `jsonb_typeof`. -/
def typeName : Json → String
  | .null => "null"
  | .bool _ => "boolean"
  | .num .. => "number"
  | .str _ => "string"
  | .arr _ => "array"
  | .obj _ => "object"

def truthy : Json → Bool
  | .null => false
  | .bool b => b
  | .num m _ => m != 0
  | .str s => s != ""
  | .arr items => !items.isEmpty
  | .obj fields => !fields.isEmpty

def asStr? : Json → Option String
  | .str s => some s
  | _ => none

/-- `value is True` in Python. -/
def isTrue : Json → Bool
  | .bool b => b
  | _ => false

end Json

namespace Obj

/-- `object -> key`. -/
def get? (o : Obj) (key : String) : Option Json :=
  o.lookup key

/-- `object ->> key`. -/
def text (o : Obj) (key : String) : Option String :=
  (o.get? key).bind Json.text

/-- `object - key`. -/
def erase (o : Obj) (key : String) : Obj :=
  o.filter fun field => !(field.1 == key)

/-- `left || right`: the fields of `right` win. -/
def merge (left right : Obj) : Obj :=
  left.filter (fun field => (right.lookup field.1).isNone) ++ right

theorem lookup_filter_key (o : Obj) (keep : String → Bool) (key : String) :
    (o.filter fun field => keep field.1).lookup key =
      if keep key then o.lookup key else none := by
  induction o with
  | nil => simp
  | cons field o ih =>
    obtain ⟨k, v⟩ := field
    by_cases hk : key = k
    · subst hk
      cases hkeep : keep key <;> simp [hkeep, ih]
    · have hbeq : (key == k) = false := by simpa using hk
      cases hkeep : keep k <;> simp [hkeep, ih, List.lookup_cons, hbeq]

@[simp] theorem get?_nil (key : String) : get? [] key = none := rfl

@[simp] theorem get?_cons (k : String) (v : Json) (o : Obj) (key : String) :
    get? ((k, v) :: o) key = if key = k then some v else get? o key := by
  by_cases h : key = k
  · simp [get?, h]
  · have hbeq : (key == k) = false := by simpa using h
    simp [get?, List.lookup_cons, h, hbeq]

@[simp] theorem get?_erase (o : Obj) (gone key : String) :
    (o.erase gone).get? key = if key = gone then none else o.get? key := by
  have h := lookup_filter_key o (fun k => !(k == gone)) key
  by_cases hk : key = gone <;> simp [get?, erase, hk] at h ⊢ <;> exact h

@[simp] theorem get?_merge (left right : Obj) (key : String) :
    (left.merge right).get? key = (right.get? key).or (left.get? key) := by
  have h := lookup_filter_key left (fun k => (right.lookup k).isNone) key
  simp only [get?, merge, List.lookup_append, h]
  cases right.lookup key <;> simp

theorem text_merge_of_some {left right : Obj} {key : String} {value : Json}
    (h : right.get? key = some value) : (left.merge right).text key = value.text := by
  simp [text, h]

theorem text_merge_of_none {left right : Obj} {key : String} (h : right.get? key = none) :
    (left.merge right).text key = left.text key := by
  simp [text, h]

theorem text_erase_of_ne {o : Obj} {gone key : String} (h : key ≠ gone) :
    (o.erase gone).text key = o.text key := by
  simp [text, h]

end Obj

end StopBot.Lib
