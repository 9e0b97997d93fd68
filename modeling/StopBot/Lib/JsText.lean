import Mathlib.Data.List.Infix
import StopBot.Lib.PyText

/-!
# Text operations of JavaScript

`trim`, the cases, and the tests of plain numerals and words. The cases map the
ASCII letters and the code points whose mapping lands in ASCII, as Python's do.
-/

namespace StopBot.Lib.JsText

def isSpace (c : Char) : Bool :=
  let n := c.toNat
  (9 ≤ n && n ≤ 13) || n == 32 || n == 0xa0 || n == 0x1680 || (0x2000 ≤ n && n ≤ 0x200a) ||
    n == 0x2028 || n == 0x2029 || n == 0x202f || n == 0x205f || n == 0x3000 || n == 0xfeff

def trim (s : String) : String :=
  String.ofList ((s.toList.dropWhile isSpace).reverse.dropWhile isSpace).reverse

def toLowerCase (s : String) : String :=
  String.ofList (s.toList.flatMap PyText.lowerChar)

def toUpperCase (s : String) : String :=
  String.ofList (s.toList.flatMap PyText.upperChar)

structure Trimmed (cs : List Char) : Prop where
  head : ∀ c ∈ cs.head?, isSpace c = false
  last : ∀ c ∈ cs.getLast?, isSpace c = false

theorem head_dropWhile_isSpace (cs : List Char) :
    ∀ c ∈ (cs.dropWhile isSpace).head?, isSpace c = false := by
  intro c hc
  have hhead := List.head?_dropWhile_not isSpace cs
  rw [Option.mem_def.mp hc] at hhead
  exact hhead

theorem trimmed_trim (s : String) : Trimmed (trim s).toList where
  head := by
    intro c hc
    have hbegins : (trim s).toList <+: s.toList.dropWhile isSpace := by
      rw [trim, String.toList_ofList, ← List.reverse_suffix, List.reverse_reverse]
      exact List.dropWhile_suffix _
    refine head_dropWhile_isSpace s.toList c ?_
    obtain ⟨rest, hrest⟩ := hbegins
    rw [← hrest, List.head?_append, Option.mem_def.mp hc]
    rfl
  last := by
    intro c hc
    rw [trim, String.toList_ofList, List.getLast?_reverse] at hc
    exact head_dropWhile_isSpace _ c hc

theorem trim_of_trimmed {s : String} (h : Trimmed s.toList) : trim s = s := by
  have hkeep : ∀ xs : List Char, (∀ c ∈ xs.head?, isSpace c = false) →
      xs.dropWhile isSpace = xs := by
    intro xs hxs
    cases xs with
    | nil => rfl
    | cons c xs => rw [List.dropWhile_cons_of_neg (by simp [hxs c rfl])]
  rw [trim, hkeep _ h.head, hkeep _ (by simpa using h.last), List.reverse_reverse,
    String.ofList_toList]

theorem isSpace_of_letter {c : Char} (h : 65 ≤ c.toNat ∧ c.toNat ≤ 90) : isSpace c = false := by
  unfold isSpace
  generalize c.toNat = n at h
  grind

theorem isSpace_upperChar {c d : Char} (hd : d ∈ PyText.upperChar c) (hc : isSpace c = false) :
    isSpace d = false := by
  unfold PyText.upperChar at hd
  split at hd
  case h_11 =>
    obtain rfl := List.mem_singleton.mp hd
    unfold Char.toUpper
    split
    · rename_i hlower
      have hlow : 97 ≤ c.val.toNat := hlower.1
      have hhigh : c.val.toNat ≤ 122 := hlower.2
      have hval : (c.val + ('A'.val - 'a'.val)).toNat = c.val.toNat - 32 := by
        rw [UInt32.toNat_add, show ('A'.val - 'a'.val).toNat = 2 ^ 32 - 32 by decide]
        omega
      exact isSpace_of_letter (by rw [Char.toNat, hval]; omega)
    · exact hc
  all_goals
    simp only [List.mem_cons, List.not_mem_nil, or_false] at hd
    rcases hd with rfl | rfl | rfl <;> decide

theorem upperChar_ne_nil (c : Char) : PyText.upperChar c ≠ [] := by
  unfold PyText.upperChar
  split <;> simp

theorem Trimmed.toUpperCase {s : String} (h : Trimmed s.toList) :
    Trimmed (toUpperCase s).toList where
  head := by
    intro c hc
    rw [JsText.toUpperCase, String.toList_ofList] at hc
    cases hs : s.toList with
    | nil => simp [hs] at hc
    | cons a as =>
      rw [hs] at hc
      obtain ⟨b, bs, hb⟩ := List.exists_cons_of_ne_nil (upperChar_ne_nil a)
      simp only [List.flatMap_cons, hb, List.cons_append, List.head?_cons, Option.mem_def,
        Option.some.injEq] at hc
      refine isSpace_upperChar (c := a) (by simp [hb, hc]) (h.head a (by simp [hs]))
  last := by
    intro c hc
    rw [JsText.toUpperCase, String.toList_ofList] at hc
    rcases List.eq_nil_or_concat s.toList with hs | ⟨as, a, hs⟩
    · simp [hs] at hc
    · have hlast : (PyText.upperChar a).getLast? = some c := by
        obtain ⟨b, bs, hb⟩ := List.exists_cons_of_ne_nil (upperChar_ne_nil a)
        simpa [hs, hb, List.getLast?_append] using hc
      exact isSpace_upperChar (List.mem_of_getLast? hlast) (h.last a (by simp [hs]))

def includes (text word : String) : Bool :=
  text.toList.tails.any fun rest => word.toList.isPrefixOf rest

theorem includes_eq_false {text word : String} {allowed : Char → Bool}
    (htext : ∀ c ∈ text.toList, allowed c = true)
    (hword : (word.toList.any fun c => !allowed c) = true) :
    includes text word = false := by
  obtain ⟨c, hc, hout⟩ := List.any_eq_true.mp hword
  simp only [includes, List.any_eq_false]
  rintro rest hrest hprefix
  have hmem := (List.isPrefixOf_iff_prefix.mp hprefix).subset hc
  have hin := htext c ((List.mem_tails _ _).mp hrest |>.subset hmem)
  simp [hin] at hout

/-- `/\s+/g` to one space, and `trim`. -/
def collapseSpace (s : String) : String :=
  trim (String.ofList (s.toList.foldr (fun c rest =>
    if isSpace c then (if rest.head? = some ' ' then rest else ' ' :: rest) else c :: rest) []))

/-- `text.slice(0, n)` in UTF-16 units; a pair that is cut in half is dropped. -/
def clipUnits : Nat → List Char → List Char
  | _, [] => []
  | n, c :: rest =>
    let units := if 0x10000 ≤ c.toNat then 2 else 1
    if units ≤ n then c :: clipUnits (n - units) rest else []

/-- `/^\d+$/`. -/
def isNumeral (s : String) : Bool :=
  !s.toList.isEmpty && s.toList.all Char.isDigit

/-- `/^\d+(?:\.\d+)?$/`. -/
def isDecimal (s : String) : Bool :=
  match s.toList.span Char.isDigit with
  | ([], _) => false
  | (_, []) => true
  | (_, '.' :: rest) => !rest.isEmpty && rest.all Char.isDigit
  | _ => false

end StopBot.Lib.JsText
