import Mathlib.Tactic.IntervalCases
import StopBot.Lib.Decimal
import StopBot.Lib.PyInt

/-!
# Plain decimal texts

Digits without leading zeros and an optional fraction, the number such a text
writes, and the text of a number with a fixed count of decimals. The text of
a number of steps is plain and writes that number.
-/

namespace StopBot.Lib.PlainDecimal

/-- `^(?:0|[1-9][0-9]*)(?:\.[0-9]+)?$`. -/
def isPlain (cs : List Char) : Bool :=
  let whole := cs.takeWhile Char.isDigit
  (whole == ['0'] || PyText.isNumeral whole) &&
    match cs.dropWhile Char.isDigit with
    | [] => true
    | '.' :: fraction => !fraction.isEmpty && fraction.all Char.isDigit
    | _ => false

/-- The number a plain text writes. -/
def value (cs : List Char) : ℚ :=
  let fraction := (cs.dropWhile Char.isDigit).drop 1
  Nat.ofDigitChars 10 (cs.takeWhile Char.isDigit) 0 +
    Nat.ofDigitChars 10 fraction 0 / 10 ^ fraction.length

def padded (places n : Nat) : List Char :=
  List.replicate (places - (Nat.toDigits 10 n).length) '0' ++ Nat.toDigits 10 n

/-- The text of a number of steps of `1 / 10 ^ places`. -/
def ofSteps (places n : Nat) : List Char :=
  Nat.toDigits 10 (n / 10 ^ places) ++
    if places = 0 then [] else '.' :: padded places (n % 10 ^ places)

/-- `format(q, f".{places}f")`: ties to even. -/
def fixedPoint (places : Nat) (q : ℚ) : String :=
  let n := halfEven (q * 10 ^ places)
  String.ofList ((if q < 0 then ['-'] else []) ++ ofSteps places n.natAbs)

theorem isDigit_toDigits {c : Char} {n : Nat} (h : c ∈ Nat.toDigits 10 n) : c.isDigit = true :=
  Nat.isDigit_of_mem_toDigits (by decide) (by decide) h

theorem isDigit_padded {c : Char} {places n : Nat} (h : c ∈ padded places n) :
    c.isDigit = true := by
  rcases List.mem_append.mp h with h | h
  · rw [List.eq_of_mem_replicate h]
    rfl
  · exact isDigit_toDigits h

theorem length_padded {places n : Nat} (hplaces : 0 < places) (hn : n < 10 ^ places) :
    (padded places n).length = places := by
  have hle : (Nat.toDigits 10 n).length ≤ places :=
    (Nat.length_toDigits_le_iff (by decide) hplaces).mpr hn
  simp only [padded, List.length_append, List.length_replicate]
  omega

theorem ofDigitChars_padded {places n : Nat} : Nat.ofDigitChars 10 (padded places n) 0 = n := by
  simp [padded, Nat.ofDigitChars_append]

theorem whole_toDigits (n : Nat) :
    Nat.toDigits 10 n = ['0'] ∨ PyText.isNumeral (Nat.toDigits 10 n) = true := by
  induction n using Nat.strongRecOn with
  | _ n ih =>
    rcases Nat.lt_or_ge n 10 with hlt | hge
    · rcases Nat.eq_zero_or_pos n with rfl | hpos
      · exact .inl (Nat.toDigits_zero 10)
      · right
        rw [Nat.toDigits_of_lt_base hlt]
        interval_cases n <;> decide
    · right
      rw [Nat.toDigits_of_base_le (by decide) hge]
      have hdiv : 0 < n / 10 := Nat.div_pos hge (by decide)
      rcases ih (n / 10) (by omega) with hzero | hnumeral
      · have hback := congrArg (Nat.ofDigitChars 10 · 0) hzero
        simp only [Nat.ofDigitChars_ten_toDigits] at hback
        rw [hback] at hdiv
        exact absurd hdiv (by decide)
      · cases hdigits : Nat.toDigits 10 (n / 10) with
        | nil => exact absurd hdigits Nat.toDigits_ne_nil
        | cons c cs =>
          rw [hdigits] at hnumeral
          simp only [PyText.isNumeral, Bool.and_eq_true, List.cons_append, List.all_append,
            List.all_cons, List.all_nil, Bool.and_true] at hnumeral ⊢
          refine ⟨hnumeral.1, hnumeral.2, ?_⟩
          have hmod : n % 10 < 10 := Nat.mod_lt _ (by decide)
          interval_cases n % 10 <;> decide

theorem takeWhile_ofSteps (places n : Nat) :
    (ofSteps places n).takeWhile Char.isDigit = Nat.toDigits 10 (n / 10 ^ places) := by
  rw [ofSteps, List.takeWhile_append_of_pos fun c hc => isDigit_toDigits hc]
  split_ifs
  · simp
  · simp

theorem dropWhile_ofSteps (places n : Nat) :
    (ofSteps places n).dropWhile Char.isDigit =
      if places = 0 then [] else '.' :: padded places (n % 10 ^ places) := by
  rw [ofSteps, List.dropWhile_append_of_pos fun c hc => isDigit_toDigits hc]
  split_ifs
  · rfl
  · rw [List.dropWhile_cons_of_neg (by decide)]

theorem isPlain_ofSteps (places n : Nat) : isPlain (ofSteps places n) = true := by
  have hwhole : (Nat.toDigits 10 (n / 10 ^ places) == ['0'] ||
      PyText.isNumeral (Nat.toDigits 10 (n / 10 ^ places))) = true := by
    simpa using whole_toDigits (n / 10 ^ places)
  simp only [isPlain, takeWhile_ofSteps, dropWhile_ofSteps, hwhole, Bool.true_and]
  by_cases hplaces : places = 0
  · simp [hplaces]
  · have hlength := length_padded (Nat.pos_of_ne_zero hplaces)
      (Nat.mod_lt n (Nat.pow_pos (by decide) : 0 < 10 ^ places))
    simp only [hplaces, if_false, Bool.and_eq_true, Bool.not_eq_true', List.isEmpty_eq_false_iff]
    refine ⟨?_, List.all_eq_true.mpr fun c hc => isDigit_padded hc⟩
    intro hnil
    rw [hnil] at hlength
    exact hplaces hlength.symm

theorem value_ofSteps (places n : Nat) : value (ofSteps places n) = n / 10 ^ places := by
  simp only [value, takeWhile_ofSteps, dropWhile_ofSteps, Nat.ofDigitChars_ten_toDigits]
  by_cases hplaces : places = 0
  · simp [hplaces]
  · have hpow : 0 < 10 ^ places := Nat.pow_pos (by decide)
    have hsplit : (n : ℚ) = 10 ^ places * (n / 10 ^ places : ℕ) + (n % 10 ^ places : ℕ) := by
      exact_mod_cast (Nat.div_add_mod n (10 ^ places)).symm
    have hq : (0 : ℚ) < 10 ^ places := by positivity
    simp only [hplaces, if_false, List.drop_succ_cons, List.drop_zero,
      length_padded (Nat.pos_of_ne_zero hplaces) (Nat.mod_lt n hpow), ofDigitChars_padded]
    rw [eq_div_iff hq.ne', add_mul, div_mul_cancel₀ _ hq.ne', hsplit]
    ring

theorem stripChars_of_isPlain {cs : List Char} (h : isPlain cs = true) :
    PyText.stripChars cs = cs := by
  have hspace {c : Char} (hc : c.isDigit = true ∨ c = '.') : PyText.isSpace c = false := by
    rcases hc with hc | rfl
    · have hb := PyText.isDigit_bounds hc
      simp only [PyText.isSpace, Bool.or_eq_false_iff, Bool.and_eq_false_iff,
        decide_eq_false_iff_not,
        beq_eq_false_iff_ne]
      omega
    · decide
  refine PyText.stripChars_of_noSpace fun c hc => hspace ?_
  rw [← List.takeWhile_append_dropWhile (p := Char.isDigit) (l := cs)] at hc
  rcases List.mem_append.mp hc with hc | hc
  · exact .inl (List.all_eq_true.mp List.all_takeWhile c hc)
  · simp only [isPlain, Bool.and_eq_true] at h
    split at h
    · rename_i hdrop
      rw [hdrop] at hc
      cases hc
    · rename_i fraction hdrop
      rw [hdrop] at hc
      rcases List.mem_cons.mp hc with hc | hc
      · exact .inr hc
      · simp only [Bool.and_eq_true] at h
        exact .inl (List.all_eq_true.mp h.2.2 c hc)
    · exact absurd h.2 (by simp)

theorem value_nonneg (cs : List Char) : 0 ≤ value cs := by
  unfold value
  positivity

end StopBot.Lib.PlainDecimal
