import Mathlib.Data.List.Infix
import Mathlib.Data.List.Flatten

/-!
# Search for a word

`(?<![a-z0-9])word(?![a-z0-9])`, over any alphabet: the word with no letter of a
word on either side. The search of an engine goes from position to position.
The engine of JavaScript sees the units of UTF-16, and finds there what a search
over code points finds.
-/

namespace StopBot.Lib.WordSearch

section
variable {α : Type} [DecidableEq α] {isWord : α → Bool} {word text : List α}

def free (isWord : α → Bool) (c : Option α) : Bool :=
  !c.any isWord

def matchesAt (isWord : α → Bool) (word text : List α) : Bool :=
  word.isPrefixOf text && free isWord (text.drop word.length).head?

/-- The search from a position on; `previous` is what stands before it. -/
def searchFrom (isWord : α → Bool) (word : List α) : Option α → List α → Bool
  | previous, [] => free isWord previous && matchesAt isWord word []
  | previous, c :: text =>
    (free isWord previous && matchesAt isWord word (c :: text)) ||
      searchFrom isWord word (some c) text

def search (isWord : α → Bool) (word text : List α) : Bool :=
  searchFrom isWord word none text

def Occurs (isWord : α → Bool) (word text : List α) : Prop :=
  ∃ before after, text = before ++ word ++ after ∧ free isWord before.getLast? = true ∧
    free isWord after.head? = true

theorem matchesAt_iff : matchesAt isWord word text = true ↔
    ∃ after, text = word ++ after ∧ free isWord after.head? = true := by
  unfold matchesAt
  rw [Bool.and_eq_true, List.isPrefixOf_iff_prefix]
  constructor
  · rintro ⟨⟨after, rfl⟩, hfree⟩
    exact ⟨after, rfl, by simpa using hfree⟩
  · rintro ⟨after, rfl, hfree⟩
    exact ⟨⟨after, rfl⟩, by simpa using hfree⟩

theorem searchFrom_iff (previous : Option α) : searchFrom isWord word previous text = true ↔
    ∃ before after, text = before ++ word ++ after ∧
      free isWord (before.getLast?.or previous) = true ∧ free isWord after.head? = true := by
  induction text generalizing previous with
  | nil =>
    simp only [searchFrom, Bool.and_eq_true, matchesAt_iff]
    constructor
    · rintro ⟨hprevious, after, htext, hafter⟩
      exact ⟨[], after, htext, hprevious, hafter⟩
    · rintro ⟨before, after, htext, hbefore, hafter⟩
      obtain ⟨hparts, rfl⟩ := List.append_eq_nil_iff.mp htext.symm
      obtain ⟨rfl, rfl⟩ := List.append_eq_nil_iff.mp hparts
      exact ⟨hbefore, [], rfl, hafter⟩
  | cons c text ih =>
    simp only [searchFrom, Bool.or_eq_true, Bool.and_eq_true, matchesAt_iff, ih]
    constructor
    · rintro (⟨hprevious, after, htext, hafter⟩ | ⟨before, after, rfl, hbefore, hafter⟩)
      · exact ⟨[], after, htext, hprevious, hafter⟩
      · refine ⟨c :: before, after, rfl, ?_, hafter⟩
        rw [List.getLast?_cons]
        cases hlast : before.getLast? <;> simpa [hlast] using hbefore
    · rintro ⟨before, after, htext, hbefore, hafter⟩
      cases before with
      | nil => exact .inl ⟨hbefore, after, htext, hafter⟩
      | cons d before =>
        obtain ⟨rfl, rfl⟩ := List.cons.inj htext
        refine .inr ⟨before, after, rfl, ?_, hafter⟩
        rw [List.getLast?_cons] at hbefore
        cases hlast : before.getLast? <;> simpa [hlast] using hbefore

theorem search_iff : search isWord word text = true ↔ Occurs isWord word text := by
  simp only [search, searchFrom_iff, Option.or_none, Occurs]

end

-- ------------------------------------------------------------
-- UTF-16
-- ------------------------------------------------------------

def units (c : Char) : List Nat :=
  if c.toNat < 0x10000 then [c.toNat]
  else [0xd800 + (c.toNat - 0x10000) / 0x400, 0xdc00 + (c.toNat - 0x10000) % 0x400]

def utf16 (text : List Char) : List Nat :=
  text.flatMap units

/-- `[a-z0-9]`, as a unit and as a code point. -/
def isWordUnit (n : Nat) : Bool :=
  (97 ≤ n && n ≤ 122) || (48 ≤ n && n ≤ 57)

def isWordChar (c : Char) : Bool :=
  isWordUnit c.toNat

theorem toNat_ranges (c : Char) : c.toNat < 0xd800 ∨ (0xdfff < c.toNat ∧ c.toNat < 0x110000) := by
  have hvalid := c.valid
  simpa [UInt32.isValidChar, Nat.isValidChar] using hvalid

theorem units_cases (c : Char) :
    (units c = [c.toNat] ∧ (c.toNat < 0xd800 ∨ 0xdfff < c.toNat) ∧ c.toNat < 0x10000) ∨
    ∃ high low, units c = [0xd800 + high, 0xdc00 + low] ∧ high < 0x400 ∧ low < 0x400 ∧
      c.toNat = 0x10000 + high * 0x400 + low := by
  have hranges := toNat_ranges c
  unfold units
  split
  · exact .inl ⟨rfl, by omega, by omega⟩
  · exact .inr ⟨_, _, rfl, by omega, by omega, by omega⟩

theorem units_head_ne_low {c : Char} {n : Nat} {rest : List Nat} (h : units c = n :: rest) :
    ∀ low, low < 0x400 → n ≠ 0xdc00 + low := by
  intro low hlow heq
  rcases units_cases c with ⟨hunits, hrange, -⟩ | ⟨high, low', hunits, hhigh, -, -⟩
  · rw [hunits] at h
    have hn := (List.cons.inj h).1
    omega
  · rw [hunits] at h
    have hn := (List.cons.inj h).1
    omega

theorem units_append_inj {c d : Char} {xs ys : List Nat} (h : units c ++ xs = units d ++ ys) :
    c = d ∧ xs = ys := by
  rcases units_cases c with ⟨hc, hrangec, hboundc⟩ | ⟨highc, lowc, hc, hhc, hlc, hvaluec⟩ <;>
    rcases units_cases d with ⟨hd, hranged, hboundd⟩ | ⟨highd, lowd, hd, hhd, hld, hvalued⟩ <;>
    rw [hc, hd] at h <;>
    simp only [List.cons_append, List.nil_append, List.cons.injEq] at h
  · exact ⟨Char.toNat_inj.mp h.1, h.2⟩
  · omega
  · omega
  · exact ⟨Char.toNat_inj.mp (by omega), h.2.2⟩

theorem utf16_prefix {word text : List Char} {rest : List Nat}
    (h : utf16 text = utf16 word ++ rest) :
    ∃ after, text = word ++ after ∧ utf16 after = rest := by
  induction word generalizing text with
  | nil => exact ⟨text, rfl, h⟩
  | cons w word ih =>
    cases text with
    | nil =>
      have hnil : utf16 (w :: word) = [] := (List.append_eq_nil_iff.mp h.symm).1
      rcases units_cases w with ⟨hw, -⟩ | ⟨high, low, hw, -⟩ <;> simp [utf16, hw] at hnil
    | cons c text =>
      simp only [utf16, List.flatMap_cons, List.append_assoc] at h
      obtain ⟨rfl, htail⟩ := units_append_inj h
      obtain ⟨after, rfl, hafter⟩ := ih htail
      exact ⟨after, rfl, hafter⟩

/-- A word that is found in the units of a text begins where a code point does. -/
theorem utf16_infix {word text : List Char} (hword : word ≠ []) {before rest : List Nat}
    (h : utf16 text = before ++ utf16 word ++ rest) :
    ∃ before' after, text = before' ++ word ++ after ∧ utf16 before' = before ∧
      utf16 after = rest := by
  induction text generalizing before with
  | nil =>
    have hnil := (List.append_eq_nil_iff.mp (List.append_eq_nil_iff.mp h.symm).1).2
    obtain ⟨w, word, rfl⟩ := List.exists_cons_of_ne_nil hword
    rcases units_cases w with ⟨hw, -⟩ | ⟨high, low, hw, -⟩ <;> simp [utf16, hw] at hnil
  | cons c text ih =>
    cases before with
    | nil =>
      obtain ⟨after, htext, hafter⟩ := utf16_prefix h
      exact ⟨[], after, htext, rfl, hafter⟩
    | cons u before =>
      simp only [utf16, List.flatMap_cons, List.cons_append] at h
      rcases units_cases c with ⟨hc, -⟩ | ⟨high, low, hc, hhigh, hlow, -⟩
      · rw [hc] at h
        obtain ⟨hu, htail⟩ := List.cons.inj h
        obtain ⟨before', after, rfl, hbefore, hafter⟩ := ih htail
        exact ⟨c :: before', after,
          rfl, by rw [utf16, List.flatMap_cons, hc, ← hbefore, hu]; rfl, hafter⟩
      · rw [hc] at h
        obtain ⟨hu, htail⟩ := List.cons.inj h
        cases before with
        | nil =>
          -- the word would begin inside a pair
          obtain ⟨w, word, rfl⟩ := List.exists_cons_of_ne_nil hword
          cases hw : units w with
          | nil =>
            rcases units_cases w with ⟨hw', -⟩ | ⟨_, _, hw', -⟩ <;> rw [hw'] at hw <;> cases hw
          | cons n more =>
            simp only [List.nil_append, List.flatMap_cons, hw, List.cons_append] at htail
            exact absurd (List.cons.inj htail).1.symm (units_head_ne_low hw low hlow)
        | cons v before =>
          obtain ⟨hv, htail⟩ := List.cons.inj htail
          obtain ⟨before', after, rfl, hbefore, hafter⟩ := ih htail
          exact ⟨c :: before', after, rfl,
            by rw [utf16, List.flatMap_cons, hc, ← hbefore, hu, hv]; rfl, hafter⟩

theorem free_head_utf16 (text : List Char) :
    free isWordUnit (utf16 text).head? = free isWordChar text.head? := by
  cases text with
  | nil => rfl
  | cons c text =>
    rcases units_cases c with ⟨hc, -⟩ | ⟨high, low, hc, hhigh, -, hvalue⟩
    · simp [utf16, hc, free, isWordChar]
    · have hunit : isWordUnit (0xd800 + high) = false := by simp [isWordUnit]; omega
      have hchar : isWordUnit c.toNat = false := by simp [isWordUnit]; omega
      simp [utf16, hc, free, isWordChar, hunit, hchar]

theorem free_last_utf16 (text : List Char) :
    free isWordUnit (utf16 text).getLast? = free isWordChar text.getLast? := by
  rcases List.eq_nil_or_concat text with rfl | ⟨text, c, rfl⟩
  · rfl
  · rcases units_cases c with ⟨hc, -⟩ | ⟨high, low, hc, -, hlow, hvalue⟩
    · simp [utf16, hc, free, isWordChar]
    · have hunit : isWordUnit (0xdc00 + low) = false := by simp [isWordUnit]; omega
      have hchar : isWordUnit c.toNat = false := by simp [isWordUnit]; omega
      simp [utf16, hc, free, isWordChar, hunit, hchar]

/-- A search over units finds what a search over code points finds. -/
theorem search_utf16 {word : List Char} (hword : word ≠ []) (text : List Char) :
    search isWordUnit (utf16 word) (utf16 text) = search isWordChar word text := by
  rw [Bool.eq_iff_iff, search_iff, search_iff]
  constructor
  · rintro ⟨before, after, htext, hbefore, hafter⟩
    obtain ⟨before', after', rfl, rfl, rfl⟩ := utf16_infix hword htext
    exact ⟨before', after', rfl, by rw [← free_last_utf16]; exact hbefore,
      by rw [← free_head_utf16]; exact hafter⟩
  · rintro ⟨before, after, rfl, hbefore, hafter⟩
    exact ⟨utf16 before, utf16 after, by simp [utf16], by rw [free_last_utf16]; exact hbefore,
      by rw [free_head_utf16]; exact hafter⟩

end StopBot.Lib.WordSearch
