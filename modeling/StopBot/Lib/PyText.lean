/-!
# Text operations of Python

`str.strip`, `str.upper`, `str.isdigit` and slicing, on the code points of a
string. Case conversion maps the ASCII letters and the code points whose full
mapping lands in ASCII; every other code point is kept, so a comparison with
an ASCII constant comes out as it does in Python.
-/

namespace StopBot.Lib.PyText

/-- The code points `str.strip()` removes. -/
def isSpace (c : Char) : Bool :=
  let n := c.toNat
  (9 ≤ n && n ≤ 13) || (28 ≤ n && n ≤ 32) || n == 0x85 || n == 0xa0 || n == 0x1680 ||
    (0x2000 ≤ n && n ≤ 0x200a) || n == 0x2028 || n == 0x2029 || n == 0x202f ||
    n == 0x205f || n == 0x3000

def stripChars (cs : List Char) : List Char :=
  ((cs.dropWhile isSpace).reverse.dropWhile isSpace).reverse

def strip (s : String) : String :=
  String.ofList (stripChars s.toList)

def upperChar (c : Char) : List Char :=
  match c.toNat with
  | 0x131 => ['I']
  | 0x17f => ['S']
  | 0xdf => ['S', 'S']
  | 0xfb00 => ['F', 'F']
  | 0xfb01 => ['F', 'I']
  | 0xfb02 => ['F', 'L']
  | 0xfb03 => ['F', 'F', 'I']
  | 0xfb04 => ['F', 'F', 'L']
  | 0xfb05 => ['S', 'T']
  | 0xfb06 => ['S', 'T']
  | _ => [c.toUpper]

def upper (s : String) : String :=
  String.ofList (s.toList.flatMap upperChar)

/-- `İ` lowers to two code points and the Kelvin sign to `k`. -/
def lowerChar (c : Char) : List Char :=
  match c.toNat with
  | 0x130 => ['i', Char.ofNat 0x307]
  | 0x212a => ['k']
  | _ => [c.toLower]

def lower (s : String) : String :=
  String.ofList (s.toList.flatMap lowerChar)

/-- `s.replace(old, new)`, for single characters. -/
def replace (old new : Char) (s : String) : String :=
  String.ofList (s.toList.map fun c => if c = old then new else c)

/-- `s[:n]`. -/
def clip (n : Nat) (s : String) : String :=
  String.ofList (s.toList.take n)

/-- The code points with a digit value, as ranges. -/
def digitRanges : List (Nat × Nat) :=
  [(48, 57), (178, 179), (185, 185), (1632, 1641), (1776, 1785), (1984, 1993), (2406, 2415),
    (2534, 2543), (2662, 2671), (2790, 2799), (2918, 2927), (3046, 3055), (3174, 3183),
    (3302, 3311), (3430, 3439), (3558, 3567), (3664, 3673), (3792, 3801), (3872, 3881),
    (4160, 4169), (4240, 4249), (4969, 4977), (6112, 6121), (6160, 6169), (6470, 6479),
    (6608, 6618), (6784, 6793), (6800, 6809), (6992, 7001), (7088, 7097), (7232, 7241),
    (7248, 7257), (8304, 8304), (8308, 8313), (8320, 8329), (9312, 9320), (9332, 9340),
    (9352, 9360), (9450, 9450), (9461, 9469), (9471, 9471), (10102, 10110), (10112, 10120),
    (10122, 10130), (42528, 42537), (43216, 43225), (43264, 43273), (43472, 43481),
    (43504, 43513), (43600, 43609), (44016, 44025), (65296, 65305), (66720, 66729),
    (68160, 68163), (68912, 68921), (69216, 69224), (69714, 69722), (69734, 69743),
    (69872, 69881), (69942, 69951), (70096, 70105), (70384, 70393), (70736, 70745),
    (70864, 70873), (71248, 71257), (71360, 71369), (71472, 71481), (71904, 71913),
    (72016, 72025), (72784, 72793), (73040, 73049), (73120, 73129), (92768, 92777),
    (92864, 92873), (93008, 93017), (120782, 120831), (123200, 123209), (123632, 123641),
    (125264, 125273), (127232, 127242), (130032, 130041)]

/-- `str.isdigit`: at least one code point, and all of them digits. -/
def isDigits (s : String) : Bool :=
  !s.isEmpty && s.toList.all fun c => digitRanges.any fun (lo, hi) => lo ≤ c.toNat && c.toNat ≤ hi

theorem notMem_of_isDigits {s : String} (h : isDigits s = true) {c : Char}
    (hc : (digitRanges.any fun (lo, hi) => lo ≤ c.toNat && c.toNat ≤ hi) = false) :
    c ∉ s.toList := by
  simp only [isDigits, Bool.and_eq_true, List.all_eq_true] at h
  intro hmem
  rw [h.2 c hmem] at hc
  cases hc

-- ------------------------------------------------------------
-- Parts that can be read back
-- ------------------------------------------------------------

theorem append_last_inj {α : Type} {c : α} {a a' d d' : List α} (hd : c ∉ d) (hd' : c ∉ d')
    (h : a ++ c :: d = a' ++ c :: d') : a = a' ∧ d = d' := by
  obtain ⟨e, hae, hde⟩ | ⟨e, hae, hde⟩ := List.append_eq_append_iff.mp h
  · cases e with
    | nil => simp_all
    | cons x e =>
      obtain ⟨rfl, rfl⟩ := List.cons.inj hde
      simp at hd
  · cases e with
    | nil => simp_all
    | cons x e =>
      obtain ⟨rfl, rfl⟩ := List.cons.inj hde
      simp at hd'

theorem toString_nat_inj {m n : Nat} (h : (toString m).toList = (toString n).toList) : m = n := by
  simp only [Nat.toString_eq_repr, Nat.toList_repr] at h
  have hback := congrArg (Nat.ofDigitChars 10 · 0) h
  simpa using hback

theorem notMem_toString_nat {c : Char} (hc : c.isDigit = false) (n : Nat) :
    c ∉ (toString n).toList := by
  intro hmem
  simp only [Nat.toString_eq_repr, Nat.toList_repr] at hmem
  rw [Nat.isDigit_of_mem_toDigits (by decide) (by decide) hmem] at hc
  cases hc

structure Trimmed (cs : List Char) : Prop where
  head : ∀ c ∈ cs.head?, isSpace c = false
  last : ∀ c ∈ cs.getLast?, isSpace c = false

theorem dropWhile_isSpace_head (cs : List Char) :
    ∀ c ∈ (cs.dropWhile isSpace).head?, isSpace c = false := by
  intro c hc
  have hhead := List.head?_dropWhile_not isSpace cs
  rw [Option.mem_def.mp hc] at hhead
  exact hhead

theorem trimmed_stripChars (cs : List Char) : Trimmed (stripChars cs) where
  head := by
    intro c hc
    have hbegins : stripChars cs <+: cs.dropWhile isSpace := by
      rw [← List.reverse_suffix, stripChars, List.reverse_reverse]
      exact List.dropWhile_suffix _
    refine dropWhile_isSpace_head cs c ?_
    obtain ⟨rest, hrest⟩ := hbegins
    rw [← hrest, List.head?_append, Option.mem_def.mp hc]
    rfl
  last := by
    intro c hc
    rw [stripChars, List.getLast?_reverse] at hc
    exact dropWhile_isSpace_head _ c hc

theorem stripChars_of_trimmed {cs : List Char} (h : Trimmed cs) : stripChars cs = cs := by
  have hkeep : ∀ xs : List Char, (∀ c ∈ xs.head?, isSpace c = false) →
      xs.dropWhile isSpace = xs := by
    intro xs hxs
    cases xs with
    | nil => rfl
    | cons c xs => rw [List.dropWhile_cons_of_neg (by simp [hxs c rfl])]
  rw [stripChars, hkeep cs h.head, hkeep cs.reverse (by simpa using h.last), List.reverse_reverse]

end StopBot.Lib.PyText
