import StopBot.Lib.PyText

/-!
# `int` of a text

Python reads white space, a sign and decimal digits of any script, with single
underscores between digits. On a plain numeral it is the number the numeral
writes.
-/

namespace StopBot.Lib.PyText

/-- The zeros of the decimal digits (category `Nd`); each is followed by its nine. -/
def decimalZeros : List Nat :=
  [48, 1632, 1776, 1984, 2406, 2534, 2662, 2790, 2918, 3046, 3174, 3302, 3430, 3558, 3664, 3792,
    3872, 4160, 4240, 6112, 6160, 6470, 6608, 6784, 6800, 6992, 7088, 7232, 7248, 42528, 43216,
    43264, 43472, 43504, 43600, 44016, 65296, 66720, 68912, 69734, 69872, 69942, 70096, 70384,
    70736, 70864, 71248, 71360, 71472, 71904, 72016, 72784, 73040, 73120, 92768, 92864, 93008,
    120782, 120792, 120802, 120812, 120822, 123200, 123632, 125264, 130032]

def decimalValue (c : Char) : Option Nat :=
  decimalZeros.findSome? fun lo =>
    if lo ≤ c.toNat ∧ c.toNat < lo + 10 then some (c.toNat - lo) else none

def decimalDigits (cs : List Char) : Option Nat :=
  let groups := cs.splitOn '_'
  if groups.any List.isEmpty then none
  else groups.flatten.foldlM (fun acc c => (decimalValue c).map fun d => acc * 10 + d) 0

/-- `int(s)` of a text; none when it raises. -/
def int? (s : String) : Option Int :=
  match stripChars s.toList with
  | '-' :: cs => (decimalDigits cs).map fun n => -(n : Int)
  | '+' :: cs => (decimalDigits cs).map fun n => (n : Int)
  | cs => (decimalDigits cs).map fun n => (n : Int)

/-- A numeral without leading zero, as SQL's `'^[1-9][0-9]*$'` accepts it. -/
def isNumeral : List Char → Bool
  | c :: cs => c.isDigit && c != '0' && cs.all Char.isDigit
  | [] => false

theorem isDigit_of_isNumeral {cs : List Char} (h : isNumeral cs = true) :
    ∀ c ∈ cs, c.isDigit = true := by
  cases cs with
  | nil => cases h
  | cons c cs =>
    simp only [isNumeral, Bool.and_eq_true, List.all_eq_true] at h
    intro x hx
    rcases List.mem_cons.mp hx with rfl | hx
    · exact h.1.1
    · exact h.2 x hx

theorem isDigit_bounds {c : Char} (h : c.isDigit = true) : 48 ≤ c.toNat ∧ c.toNat < 58 := by
  simp only [Char.isDigit, Bool.and_eq_true, decide_eq_true_eq, ge_iff_le,
    UInt32.le_iff_toNat_le] at h
  have hlo : 48 ≤ c.toNat := h.1
  have hhi : c.toNat ≤ 57 := h.2
  omega

theorem decimalValue_digit {c : Char} (h : c.isDigit = true) :
    decimalValue c = some (c.toNat - '0'.toNat) := by
  have hb := isDigit_bounds h
  simp only [decimalValue, decimalZeros, List.findSome?_cons]
  rw [if_pos ⟨hb.1, by omega⟩]
  rfl

theorem foldlM_digits {cs : List Char} (h : cs.all Char.isDigit = true) (acc : Nat) :
    cs.foldlM (fun acc c => (decimalValue c).map fun d => acc * 10 + d) acc =
      some (Nat.ofDigitChars 10 cs acc) := by
  induction cs generalizing acc with
  | nil => rfl
  | cons c cs ih =>
    simp only [List.all_cons, Bool.and_eq_true] at h
    simp only [List.foldlM_cons, decimalValue_digit h.1, Option.map_some, Nat.ofDigitChars_cons]
    rw [Nat.mul_comm 10 acc]
    exact ih h.2 _

theorem stripChars_of_noSpace {cs : List Char} (h : ∀ c ∈ cs, isSpace c = false) :
    stripChars cs = cs := by
  have hkeep : ∀ l : List Char, (∀ c ∈ l, isSpace c = false) → l.dropWhile isSpace = l := by
    intro l hl
    cases l with
    | nil => rfl
    | cons c l => simp [hl c List.mem_cons_self]
  rw [stripChars, hkeep cs h, hkeep cs.reverse (by simpa using h), List.reverse_reverse]

def spaceCodes : List Nat :=
  [9, 10, 11, 12, 13, 28, 29, 30, 31, 32, 0x85, 0xa0, 0x1680, 0x2000, 0x2001, 0x2002,
    0x2003, 0x2004,
    0x2005, 0x2006, 0x2007, 0x2008, 0x2009, 0x200a, 0x2028, 0x2029, 0x202f, 0x205f, 0x3000]

theorem isSpace_of_digit {c : Char}
    (h : (digitRanges.any fun (lo, hi) => lo ≤ c.toNat && c.toNat ≤ hi) = true) :
    isSpace c = false := by
  cases hspace : isSpace c with
  | false => rfl
  | true =>
    have hcode : c.toNat ∈ spaceCodes := by
      simp only [isSpace, Bool.or_eq_true, Bool.and_eq_true, decide_eq_true_eq,
        beq_iff_eq] at hspace
      simp only [spaceCodes, List.mem_cons, List.not_mem_nil, or_false]
      omega
    have hnone : ∀ n ∈ spaceCodes,
        (digitRanges.any fun (lo, hi) => decide (lo ≤ n) && decide (n ≤ hi)) = false := by
      decide
    rw [hnone _ hcode] at h
    cases h

theorem strip_of_isDigits {s : String} (h : isDigits s = true) : strip s = s := by
  simp only [isDigits, Bool.and_eq_true, List.all_eq_true] at h
  rw [strip, stripChars_of_noSpace fun c hc => isSpace_of_digit (h.2 c hc), String.ofList_toList]

/-- On a numeral Python and SQL read the same number. -/
theorem int?_of_isNumeral {s : String} (h : isNumeral s.toList = true) :
    int? s = some (Nat.ofDigitChars 10 s.toList 0 : Nat) := by
  unfold int?
  generalize s.toList = l at h
  cases l with
  | nil => cases h
  | cons c cs =>
    simp only [isNumeral, Bool.and_eq_true] at h
    have hall : (c :: cs).all Char.isDigit = true := by simp [h.1.1, h.2]
    have hdigit : ∀ x ∈ c :: cs, 48 ≤ x.toNat ∧ x.toNat < 58 := fun x hx =>
      isDigit_bounds (List.all_eq_true.mp hall x hx)
    have hspace : ∀ x ∈ c :: cs, isSpace x = false := by
      intro x hx
      have hb := hdigit x hx
      simp only [isSpace, Bool.or_eq_false_iff, Bool.and_eq_false_iff, decide_eq_false_iff_not,
        beq_eq_false_iff_ne]
      omega
    have hplain : '_' ∉ c :: cs := by
      intro hmem
      exact absurd (hdigit _ hmem) (by decide)
    have hc := hdigit c List.mem_cons_self
    have hvalue : decimalDigits (c :: cs) = some (Nat.ofDigitChars 10 (c :: cs) 0) := by
      simp only [decimalDigits, List.splitOn_eq_singleton hplain]
      simpa using foldlM_digits hall 0
    rw [stripChars_of_noSpace hspace]
    split
    · rename_i heq
      cases heq
      exact absurd hc (by decide)
    · rename_i heq
      cases heq
      exact absurd hc (by decide)
    · rw [hvalue]
      rfl

end StopBot.Lib.PyText
