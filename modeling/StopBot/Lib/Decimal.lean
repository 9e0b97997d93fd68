import Mathlib.Algebra.Order.Field.Power
import Mathlib.Data.Int.Log
import Mathlib.Data.Rat.Floor
import Mathlib.Algebra.Order.Floor.Ring
import Mathlib.Tactic.Linarith
import Mathlib.Tactic.Positivity
import Mathlib.Tactic.FieldSimp
import Mathlib.Tactic.Ring

/-!
# Decimal arithmetic

The decimal numbers of a context with a precision and an exponent range. A
finite number is kept as the rational it denotes: two spellings of one value
(`2.5`, `2.50`) compare equal and round alike, and only their texts differ.
The signals that trap by default raise; the others round. `exact` is the
arithmetic of unlimited precision.
-/

namespace StopBot.Lib

inductive DecimalError
  | invalidOperation
  | divisionByZero
  | overflow
  deriving DecidableEq, Repr

inductive Decimal
  | finite (value : ℚ)
  | infinite (negative : Bool)
  | nan (signaling : Bool)
  deriving DecidableEq, Repr

inductive Arithmetic
  | exact
  | rounded (prec emax : Nat)
  deriving DecidableEq, Repr

/-- The default context: 28 digits, exponents up to 999999. -/
def Arithmetic.default : Arithmetic := .rounded 28 999999

-- ------------------------------------------------------------
-- Rounding
-- ------------------------------------------------------------

/-- To the nearest integer, ties away from zero. -/
def halfUp (q : ℚ) : ℤ :=
  if q < 0 then -⌊-q + 1 / 2⌋ else ⌊q + 1 / 2⌋

/-- To the nearest integer, ties to the even one. -/
def halfEven (q : ℚ) : ℤ :=
  if q - ⌊q⌋ < 1 / 2 then ⌊q⌋
  else if 1 / 2 < q - ⌊q⌋ then ⌊q⌋ + 1
  else if ⌊q⌋ % 2 = 0 then ⌊q⌋ else ⌊q⌋ + 1

theorem le_halfUp {q : ℚ} {n : ℤ} (h : (n : ℚ) ≤ q) : n ≤ halfUp q := by
  unfold halfUp
  split
  · rw [← neg_le_neg_iff, neg_neg]
    refine Int.floor_le_iff.mpr ?_
    push_cast
    linarith
  · refine Int.le_floor.mpr ?_
    linarith

theorem halfUp_le {q : ℚ} {n : ℤ} (h : q ≤ n) : halfUp q ≤ n := by
  unfold halfUp
  split
  · rw [← neg_le_neg_iff, neg_neg]
    refine Int.le_floor.mpr ?_
    push_cast
    linarith
  · refine Int.floor_le_iff.mpr ?_
    linarith

theorem halfUp_intCast (n : ℤ) : halfUp n = n :=
  le_antisymm (halfUp_le le_rfl) (le_halfUp le_rfl)

theorem halfEven_bounds (q : ℚ) : ⌊q⌋ ≤ halfEven q ∧ halfEven q ≤ ⌊q⌋ + 1 := by
  unfold halfEven
  split_ifs <;> constructor <;> omega

theorem le_halfEven {q : ℚ} {n : ℤ} (h : (n : ℚ) ≤ q) : n ≤ halfEven q :=
  le_trans (Int.le_floor.mpr h) (halfEven_bounds q).1

theorem halfEven_le {q : ℚ} {n : ℤ} (h : q ≤ n) : halfEven q ≤ n := by
  rcases h.lt_or_eq with h | h
  · have hfloor : ⌊q⌋ < n := Int.floor_lt.mpr h
    exact le_trans (halfEven_bounds q).2 hfloor
  · subst h
    simp [halfEven]

theorem halfEven_intCast (n : ℤ) : halfEven n = n :=
  le_antisymm (halfEven_le le_rfl) (le_halfEven le_rfl)

theorem halfUp_mono {p q : ℚ} (h : p ≤ q) : halfUp p ≤ halfUp q := by
  unfold halfUp
  split_ifs with hp hq hq
  · exact neg_le_neg (Int.floor_le_floor (by linarith))
  · have hleft : (0 : ℤ) ≤ ⌊-p + 1 / 2⌋ := Int.floor_nonneg.mpr (by linarith)
    have hright : (0 : ℤ) ≤ ⌊q + 1 / 2⌋ := Int.floor_nonneg.mpr (by linarith)
    omega
  · exact absurd (le_trans (not_lt.mp hp) h) (not_le.mpr hq)
  · exact Int.floor_le_floor (by linarith)

theorem le_halfUp_iff {q : ℚ} {n : ℤ} (hq : 0 ≤ q) : n ≤ halfUp q ↔ (n : ℚ) - 1 / 2 ≤ q := by
  rw [halfUp, if_neg (not_lt.mpr hq), Int.le_floor]
  constructor <;> intro h <;> linarith

theorem halfEven_mono {p q : ℚ} (h : p ≤ q) : halfEven p ≤ halfEven q := by
  rcases lt_or_ge (⌊p⌋ + 1 : ℚ) q with hfar | hnear
  · refine le_trans (halfEven_bounds p).2 (le_halfEven ?_)
    push_cast
    exact hfar.le
  · rcases hnear.lt_or_eq with hlt | heq
    · have hfloor : ⌊q⌋ = ⌊p⌋ := by
        refine le_antisymm ?_ (Int.floor_le_floor h)
        exact Int.lt_add_one_iff.mp (Int.floor_lt.mpr (by push_cast; exact hlt))
      unfold halfEven
      rw [hfloor]
      split_ifs with h1 h2 h3 h4 h5 <;> first | omega | (exfalso; linarith)
    · have hq : q = ((⌊p⌋ + 1 : ℤ) : ℚ) := by push_cast; exact heq
      rw [hq, halfEven_intCast]
      exact (halfEven_bounds p).2

theorem halfEven_eq_of_even {q : ℚ} {n : ℤ} (hn : n % 2 = 0) (h : |q - n| ≤ 1 / 2) :
    halfEven q = n := by
  have hfloor := Int.floor_le q
  have hnext := Int.lt_floor_add_one q
  rw [abs_le] at h
  have hcases : ⌊q⌋ = n ∨ ⌊q⌋ = n - 1 := by
    have hlow : ((n - 2 : ℤ) : ℚ) < ⌊q⌋ := by push_cast; linarith
    have hhigh : (⌊q⌋ : ℚ) < ((n + 1 : ℤ) : ℚ) := by push_cast; linarith
    have hlow' : n - 2 < ⌊q⌋ := by exact_mod_cast hlow
    have hhigh' : ⌊q⌋ < n + 1 := by exact_mod_cast hhigh
    omega
  unfold halfEven
  rcases hcases with hcase | hcase
  · rw [hcase] at hfloor hnext ⊢
    split_ifs with h1 h2 <;> first | rfl | (exfalso; linarith)
  · rw [hcase] at hfloor hnext ⊢
    push_cast at hfloor hnext ⊢
    split_ifs with h1 h2 h3
    · exfalso; linarith
    · omega
    · omega
    · omega

theorem abs_halfEven_sub_le (q : ℚ) : |(halfEven q : ℚ) - q| ≤ 1 / 2 := by
  have hfloor := Int.floor_le q
  have hnext := Int.lt_floor_add_one q
  unfold halfEven
  rw [abs_le]
  split_ifs <;> constructor <;> push_cast <;> linarith

-- ------------------------------------------------------------
-- Operations
-- ------------------------------------------------------------

namespace Arithmetic

/-- An exact result rounded to the context. -/
def finish : Arithmetic → ℚ → Except DecimalError Decimal
  | .exact, q => .ok (.finite q)
  | .rounded prec emax, q =>
    if q = 0 then .ok (.finite 0)
    else
      let exponent := max (Int.log 10 |q| - prec + 1) (-(emax : ℤ) - prec + 1)
      let result := (halfEven (q / 10 ^ exponent) : ℚ) * 10 ^ exponent
      if emax < Int.log 10 |result| then .error .overflow else .ok (.finite result)

def mul (A : Arithmetic) : Decimal → Decimal → Except DecimalError Decimal
  | .finite a, .finite b => A.finish (a * b)
  | .nan true, _ | _, .nan true => .error .invalidOperation
  | .nan false, _ | _, .nan false => .ok (.nan false)
  | .infinite n, .infinite m => .ok (.infinite (n != m))
  | .infinite n, .finite a | .finite a, .infinite n =>
    if a = 0 then .error .invalidOperation else .ok (.infinite (n != Decidable.decide (a < 0)))

def div (A : Arithmetic) : Decimal → Decimal → Except DecimalError Decimal
  | .finite a, .finite b =>
    if b = 0 then .error (if a = 0 then .invalidOperation else .divisionByZero)
    else A.finish (a / b)
  | .nan true, _ | _, .nan true => .error .invalidOperation
  | .nan false, _ | _, .nan false => .ok (.nan false)
  | .infinite _, .infinite _ => .error .invalidOperation
  | .infinite n, .finite b => .ok (.infinite (n != Decidable.decide (b < 0)))
  | .finite _, .infinite _ => .ok (.finite 0)

def fits : Arithmetic → ℤ → Bool
  | .exact, _ => true
  | .rounded prec _, n => Decidable.decide (n.natAbs < 10 ^ prec)

def quantize (A : Arithmetic) (rounding : ℚ → ℤ) (step : ℚ) : Decimal → Except DecimalError Decimal
  | .finite q =>
    if A.fits (rounding (q / step)) then .ok (.finite (rounding (q / step) * step))
    else .error .invalidOperation
  | .infinite _ => .error .invalidOperation
  | .nan true => .error .invalidOperation
  | .nan false => .ok (.nan false)

theorem quantize_eq_finite {A : Arithmetic} {rounding : ℚ → ℤ} {step t : ℚ} {d : Decimal}
    (h : A.quantize rounding step d = .ok (.finite t)) :
    ∃ q, d = .finite q ∧ A.fits (rounding (q / step)) = true ∧ t = rounding (q / step) * step := by
  unfold quantize at h
  split at h
  · rename_i q
    split_ifs at h with hfits
    simp only [Except.ok.injEq, Decimal.finite.injEq] at h
    exact ⟨q, rfl, hfits, h.symm⟩
  all_goals cases h

theorem mul_eq_finite {A : Arithmetic} {a b : Decimal} {r : ℚ} (h : A.mul a b = .ok (.finite r)) :
    ∃ x y, a = .finite x ∧ b = .finite y := by
  unfold mul at h
  split at h
  case h_1 x y => exact ⟨x, y, rfl, rfl⟩
  all_goals first | cases h | (split_ifs at h; cases h)

theorem div_eq_finite {A : Arithmetic} {a : Decimal} {y r : ℚ}
    (h : A.div a (.finite y) = .ok (.finite r)) : ∃ x, a = .finite x := by
  unfold div at h
  cases a with
  | finite x => exact ⟨x, rfl⟩
  | infinite n => cases h
  | nan signaling => cases signaling <;> cases h

-- ------------------------------------------------------------
-- Results in range
-- ------------------------------------------------------------

def Regular : Arithmetic → Prop
  | .exact => True
  | .rounded prec emax => 1 ≤ prec ∧ prec + 4 ≤ emax

theorem default_regular : Arithmetic.default.Regular := ⟨by decide, by decide⟩

/-- At most `extra` digits longer than the precision. -/
def Short (A : Arithmetic) (extra : Nat) (q : ℚ) : Prop :=
  match A with
  | .exact => True
  | .rounded prec _ => |q| ≤ 10 ^ (prec + extra)

theorem finish_eq_ok {A : Arithmetic} {q : ℚ} {d : Decimal} (h : A.finish q = .ok d) :
    ∃ r, d = .finite r := by
  unfold finish at h
  split at h
  · exact ⟨_, (Except.ok.inj h).symm⟩
  · simp only at h
    split_ifs at h
    · exact ⟨_, (Except.ok.inj h).symm⟩
    · exact ⟨_, (Except.ok.inj h).symm⟩

theorem halfEven_mul_le {q : ℚ} {exponent k : ℤ} (hexp : exponent ≤ k) (hq : |q| ≤ 10 ^ k) :
    |(halfEven (q / 10 ^ exponent) : ℚ) * 10 ^ exponent| ≤ 10 ^ k := by
  have hpos : (0 : ℚ) < 10 ^ exponent := by positivity
  obtain ⟨n, hn⟩ : ∃ n : ℕ, k = exponent + n := ⟨(k - exponent).toNat, by omega⟩
  have hpow : (10 : ℚ) ^ k = ((10 ^ n : ℤ) : ℚ) * 10 ^ exponent := by
    rw [hn, zpow_add₀ (by norm_num), zpow_natCast, mul_comm]
    push_cast
    rfl
  rw [hpow] at hq ⊢
  rw [abs_le] at hq
  have hlow : -(10 ^ n : ℤ) ≤ halfEven (q / 10 ^ exponent) := by
    refine le_halfEven ?_
    rw [le_div_iff₀ hpos]
    push_cast at hq ⊢
    linarith [hq.1]
  have hhigh : halfEven (q / 10 ^ exponent) ≤ (10 ^ n : ℤ) := by
    refine halfEven_le ?_
    rw [div_le_iff₀ hpos]
    exact hq.2
  rw [abs_le, ← neg_mul]
  exact ⟨mul_le_mul_of_nonneg_right (by exact_mod_cast hlow) hpos.le,
    mul_le_mul_of_nonneg_right (by exact_mod_cast hhigh) hpos.le⟩

theorem finish_short {A : Arithmetic} {q : ℚ} {extra : Nat} (hA : A.Regular) (hextra : extra ≤ 4)
    (hq : A.Short extra q) :
    ∃ r, A.finish q = .ok (.finite r) ∧ A.Short extra r ∧ (0 ≤ q → 0 ≤ r) := by
  cases A with
  | exact => exact ⟨q, rfl, trivial, id⟩
  | rounded prec emax =>
    obtain ⟨hprec, hemax⟩ := hA
    by_cases hzero : q = 0
    · subst hzero
      refine ⟨0, by simp [finish], ?_, fun _ => le_rfl⟩
      simp only [Short, abs_zero]
      positivity
    · have hpos : 0 < |q| := abs_pos.mpr hzero
      have hq' : |q| ≤ (10 : ℚ) ^ ((prec + extra : ℕ) : ℤ) := by
        rw [zpow_natCast]
        exact hq
      have hlog : Int.log 10 |q| ≤ (prec + extra : ℕ) := by
        have hmono := Int.log_mono_right (b := 10) hpos hq'
        rwa [show ((10 : ℚ)) = ((10 : ℕ) : ℚ) by norm_num, Int.log_zpow (by norm_num)] at hmono
      set exponent := max (Int.log 10 |q| - prec + 1) (-(emax : ℤ) - prec + 1) with hexponent
      set result := (halfEven (q / 10 ^ exponent) : ℚ) * 10 ^ exponent with hresult
      have hexp : exponent ≤ (prec + extra : ℕ) := by omega
      have hle : |result| ≤ (10 : ℚ) ^ ((prec + extra : ℕ) : ℤ) := halfEven_mul_le hexp hq'
      have hrange : ¬ (emax : ℤ) < Int.log 10 |result| := by
        rw [not_lt]
        rcases (abs_nonneg result).eq_or_lt with hr | hr
        · rw [← hr]
          simp
        · have hmono := Int.log_mono_right (b := 10) hr hle
          rw [show ((10 : ℚ)) = ((10 : ℕ) : ℚ) by norm_num, Int.log_zpow (by norm_num)] at hmono
          omega
      refine ⟨result, ?_, ?_, fun hnonneg => ?_⟩
      · simp only [finish, hzero, if_false, ← hexponent, ← hresult, hrange]
      · rw [zpow_natCast] at hle
        exact hle
      · have hround : (0 : ℤ) ≤ halfEven (q / 10 ^ exponent) :=
          le_halfEven (by simpa using div_nonneg hnonneg (by positivity))
        exact mul_nonneg (by exact_mod_cast hround) (by positivity)

theorem short_of_fits {A : Arithmetic} {q : ℚ} (hq : 0 ≤ q) (hfits : A.fits (halfUp q) = true) :
    A.Short 0 q := by
  cases A with
  | exact => trivial
  | rounded prec emax =>
    simp only [fits, decide_eq_true_eq] at hfits
    simp only [Short, Nat.add_zero, abs_of_nonneg hq]
    by_contra hlarge
    have hle : ((10 ^ prec : ℤ)) ≤ halfUp q := le_halfUp (by push_cast; linarith [not_le.mp hlarge])
    have hcast : ((10 ^ prec : ℕ) : ℤ) ≤ halfUp q := by exact_mod_cast hle
    omega

theorem fits_mono {A : Arithmetic} {m n : ℤ} (hm : 0 ≤ m) (hmn : m ≤ n) (h : A.fits n = true) :
    A.fits m = true := by
  cases A with
  | exact => rfl
  | rounded prec emax =>
    simp only [fits, decide_eq_true_eq] at h ⊢
    omega

theorem Short.mono {A : Arithmetic} {extra extra' : Nat} {p q : ℚ} (h : A.Short extra q)
    (hextra : extra ≤ extra') (hp : 0 ≤ p) (hpq : p ≤ 10 ^ (extra' - extra) * q) :
    A.Short extra' p := by
  cases A with
  | exact => trivial
  | rounded prec emax =>
    simp only [Short] at h ⊢
    rw [abs_of_nonneg hp]
    calc p ≤ 10 ^ (extra' - extra) * q := hpq
      _ ≤ 10 ^ (extra' - extra) * 10 ^ (prec + extra) := by
        gcongr
        exact le_trans (le_abs_self q) h
      _ = 10 ^ (prec + extra') := by
        rw [← pow_add]
        congr 1
        omega

-- ------------------------------------------------------------
-- Rounding to the precision
-- ------------------------------------------------------------

section
variable {prec emax : Nat} {p q r : ℚ}

def lastPlace (prec emax : Nat) (q : ℚ) : ℤ :=
  max (Int.log 10 |q| - prec + 1) (-(emax : ℤ) - prec + 1)

theorem finish_rounded_eq (h : finish (.rounded prec emax) q = .ok (.finite r)) :
    r = halfEven (q / 10 ^ lastPlace prec emax q) * 10 ^ lastPlace prec emax q := by
  unfold finish at h
  simp only at h
  split_ifs at h with hzero
  · subst hzero
    have hzero : halfEven 0 = 0 := by exact_mod_cast halfEven_intCast 0
    simpa [hzero] using h.symm
  · exact (Decimal.finite.inj (Except.ok.inj h)).symm

/-- Rounding moves a number by half a unit of its last place at most. -/
theorem abs_finish_sub_le {place : ℤ} (h : finish (.rounded prec emax) q = .ok (.finite r))
    (hplace : lastPlace prec emax q ≤ place) : |r - q| ≤ 10 ^ place / 2 := by
  rw [finish_rounded_eq h]
  have hpos : (0 : ℚ) < 10 ^ lastPlace prec emax q := by positivity
  have hle : (10 : ℚ) ^ lastPlace prec emax q ≤ 10 ^ place :=
    zpow_le_zpow_right₀ (by norm_num) hplace
  have hround := abs_halfEven_sub_le (q / 10 ^ lastPlace prec emax q)
  calc |(halfEven (q / 10 ^ lastPlace prec emax q) : ℚ) * 10 ^ lastPlace prec emax q - q|
      = |(halfEven (q / 10 ^ lastPlace prec emax q) : ℚ) - q / 10 ^ lastPlace prec emax q| *
          10 ^ lastPlace prec emax q := by
        rw [← abs_of_pos hpos, ← abs_mul, abs_of_pos hpos, sub_mul, div_mul_cancel₀ _ hpos.ne']
    _ ≤ 1 / 2 * 10 ^ lastPlace prec emax q := by gcongr
    _ ≤ 10 ^ place / 2 := by linarith

def Representable (prec emax : Nat) (q : ℚ) : Prop :=
  ∃ (n k : ℤ), |n| < 10 ^ prec ∧ -(emax : ℤ) - prec + 1 ≤ k ∧ q = n * 10 ^ k

theorem Representable.lastPlace_le {n k : ℤ} (hn : |n| < 10 ^ prec)
    (hk : -(emax : ℤ) - prec + 1 ≤ k)
    (hq : q = n * 10 ^ k) (hzero : q ≠ 0) : lastPlace prec emax q ≤ k := by
  have hpos : 0 < |q| := abs_pos.mpr hzero
  have hlt : |q| < (10 : ℕ) ^ (prec + k : ℤ) := by
    rw [hq, abs_mul, zpow_add₀ (by norm_num), zpow_natCast,
      abs_of_pos (by positivity : (0 : ℚ) < 10 ^ k)]
    have : (|n| : ℚ) < 10 ^ prec := by exact_mod_cast hn
    push_cast
    gcongr
  have hlog := (Int.lt_zpow_iff_log_lt (by norm_num) hpos).mp hlt
  unfold lastPlace
  omega

theorem Representable.round_eq (hq : Representable prec emax q) :
    (halfEven (q / 10 ^ lastPlace prec emax q) : ℚ) * 10 ^ lastPlace prec emax q = q := by
  obtain ⟨n, k, hn, hk, hqn⟩ := hq
  rcases eq_or_ne q 0 with hzero | hzero
  · have hround : halfEven 0 = 0 := by exact_mod_cast halfEven_intCast 0
    simp [hzero, hround]
  · have hplace := Representable.lastPlace_le hn hk hqn hzero
    obtain ⟨j, hj⟩ : ∃ j : ℕ, k = lastPlace prec emax q + j :=
      ⟨(k - lastPlace prec emax q).toNat, by omega⟩
    have hpos : (0 : ℚ) < 10 ^ lastPlace prec emax q := by positivity
    have hint : q / 10 ^ lastPlace prec emax q = ((n * 10 ^ j : ℤ) : ℚ) := by
      rw [div_eq_iff hpos.ne']
      conv_lhs => rw [hqn, hj, zpow_add₀ (by norm_num), zpow_natCast]
      push_cast
      ring
    rw [hint, halfEven_intCast, ← hint, div_mul_cancel₀ _ hpos.ne']

theorem Representable.finish_eq (hq : Representable prec emax q)
    (h : finish (.rounded prec emax) q = .ok (.finite r)) : r = q := by
  rw [finish_rounded_eq h, hq.round_eq]

theorem Representable.finish_of_log_le (hq : Representable prec emax q)
    (hlog : Int.log 10 |q| ≤ emax) : finish (.rounded prec emax) q = .ok (.finite q) := by
  have hround := hq.round_eq
  unfold lastPlace at hround
  simp only [finish, hround, not_lt.mpr hlog, if_false]
  split_ifs with hzero
  · rw [hzero]
  · rfl

theorem finish_log_le (h : finish (.rounded prec emax) q = .ok (.finite r)) :
    Int.log 10 |r| ≤ emax := by
  unfold finish at h
  simp only at h
  split_ifs at h with hzero hrange
  · obtain rfl := Decimal.finite.inj (Except.ok.inj h)
    simp
  · obtain rfl := Decimal.finite.inj (Except.ok.inj h)
    exact not_lt.mp hrange

theorem finish_mono (hprec : 1 ≤ prec) {p' q' : ℚ} (hp : 0 ≤ p) (hpq : p ≤ q)
    (hp' : finish (.rounded prec emax) p = .ok (.finite p'))
    (hq' : finish (.rounded prec emax) q = .ok (.finite q')) : p' ≤ q' := by
  rcases hp.eq_or_lt with hzero | hpos
  · have hzero' : halfEven 0 = 0 := by exact_mod_cast halfEven_intCast 0
    rw [finish_rounded_eq hp', finish_rounded_eq hq', ← hzero, zero_div, hzero',
      Int.cast_zero, zero_mul]
    have hround : (0 : ℤ) ≤ halfEven (q / 10 ^ lastPlace prec emax q) :=
      le_halfEven (by simpa using div_nonneg (le_trans hp hpq) (by positivity))
    exact mul_nonneg (by exact_mod_cast hround) (by positivity)
  · have hqpos : 0 < q := lt_of_lt_of_le hpos hpq
    have hlog : Int.log 10 |p| ≤ Int.log 10 |q| := by
      rw [abs_of_pos hpos, abs_of_pos hqpos]
      exact Int.log_mono_right hpos hpq
    have hplace : lastPlace prec emax p ≤ lastPlace prec emax q := by
      unfold lastPlace
      omega
    rcases hplace.eq_or_lt with heq | hlt
    · rw [finish_rounded_eq hp', finish_rounded_eq hq', heq]
      have hround : halfEven (p / 10 ^ lastPlace prec emax q) ≤
          halfEven (q / 10 ^ lastPlace prec emax q) :=
        halfEven_mono (by gcongr)
      gcongr
    · -- the larger number has more digits, and a power of ten stands between the two
      have hmore : Int.log 10 |p| < Int.log 10 |q| := by
        unfold lastPlace at hlt
        omega
      have hfirst : lastPlace prec emax q = Int.log 10 |q| - prec + 1 := by
        unfold lastPlace at hlt ⊢
        omega
      have hupper : p' ≤ 10 ^ Int.log 10 |q| := by
        have hbound : |p| ≤ (10 : ℚ) ^ Int.log 10 |q| := by
          refine le_trans (Int.lt_zpow_succ_log_self (b := 10) (by norm_num) |p|).le ?_
          exact_mod_cast zpow_le_zpow_right₀ (by norm_num : (1 : ℚ) ≤ ((10 : ℕ) : ℚ))
            (by omega : Int.log 10 |p| + 1 ≤ Int.log 10 |q|)
        rw [finish_rounded_eq hp']
        exact le_trans (le_abs_self _) (halfEven_mul_le (by omega) hbound)
      refine le_trans hupper ?_
      have hlower : ((10 ^ (prec - 1) : ℤ) : ℚ) ≤ q / 10 ^ lastPlace prec emax q := by
        rw [le_div_iff₀ (by positivity)]
        have hself := Int.zpow_log_le_self (b := 10) (by norm_num) (abs_pos.mpr hqpos.ne')
        rw [abs_of_pos hqpos] at hself hfirst
        refine le_trans (le_of_eq ?_) hself
        rw [hfirst]
        push_cast
        rw [← zpow_natCast, ← zpow_add₀ (by norm_num)]
        congr 1
        omega
      have hround := le_halfEven hlower
      rw [finish_rounded_eq hq']
      calc (10 : ℚ) ^ Int.log 10 |q|
          = ((10 ^ (prec - 1) : ℤ) : ℚ) * 10 ^ lastPlace prec emax q := by
            rw [hfirst]
            push_cast
            rw [← zpow_natCast, ← zpow_add₀ (by norm_num)]
            congr 1
            omega
        _ ≤ halfEven (q / 10 ^ lastPlace prec emax q) * 10 ^ lastPlace prec emax q := by
            gcongr

theorem representable_of_finish (hprec : 1 ≤ prec)
    (h : finish (.rounded prec emax) q = .ok (.finite r)) : Representable prec emax r := by
  rcases eq_or_ne q 0 with hzero | hzero
  · subst hzero
    have hr : r = 0 := by simpa [finish] using h.symm
    exact ⟨0, -(emax : ℤ) - prec + 1, by simp, le_rfl, by simp [hr]⟩
  · have hlow : -(emax : ℤ) - prec + 1 ≤ lastPlace prec emax q := le_max_right _ _
    have hpos : (0 : ℚ) < 10 ^ lastPlace prec emax q := by positivity
    have hlt : |q| < (10 : ℚ) ^ (prec + lastPlace prec emax q : ℤ) := by
      refine lt_of_lt_of_le (Int.lt_zpow_succ_log_self (b := 10) (by norm_num) |q|) ?_
      have hlog : Int.log 10 |q| + 1 ≤ prec + lastPlace prec emax q := by
        unfold lastPlace
        omega
      exact_mod_cast zpow_le_zpow_right₀ (by norm_num : (1 : ℚ) ≤ ((10 : ℕ) : ℚ)) hlog
    have hbound : |halfEven (q / 10 ^ lastPlace prec emax q)| ≤ 10 ^ prec := by
      rw [zpow_add₀ (by norm_num), zpow_natCast, ← div_lt_iff₀ hpos] at hlt
      have hq := abs_lt.mp (by rwa [← abs_of_pos hpos, ← abs_div] at hlt :
        |q / 10 ^ lastPlace prec emax q| < 10 ^ prec)
      rw [abs_le]
      exact ⟨le_halfEven (by push_cast; exact hq.1.le), halfEven_le (by push_cast; exact hq.2.le)⟩
    rcases hbound.lt_or_eq with hn | hn
    · exact ⟨_, _, hn, hlow, finish_rounded_eq h⟩
    · -- all digits carried: one digit fewer, one place up
      obtain ⟨k, rfl⟩ : ∃ k, prec = k + 1 := ⟨prec - 1, by omega⟩
      have hr := finish_rounded_eq h
      rcases abs_eq (by positivity) |>.mp hn with hn | hn <;> rw [hn] at hr
      · refine ⟨10 ^ k, lastPlace (k + 1) emax q + 1, ?_, by omega, ?_⟩
        · rw [abs_of_pos (by positivity)]
          exact pow_lt_pow_right₀ (by norm_num) (by omega)
        · rw [hr, zpow_add₀ (by norm_num)]
          push_cast
          ring
      · refine ⟨-10 ^ k, lastPlace (k + 1) emax q + 1, ?_, by omega, ?_⟩
        · rw [abs_neg, abs_of_pos (by positivity)]
          exact pow_lt_pow_right₀ (by norm_num) (by omega)
        · rw [hr, zpow_add₀ (by norm_num)]
          push_cast
          ring

theorem Representable.mul_pow (h : Representable prec emax q) (j : ℕ) :
    Representable prec emax (q * 10 ^ j) := by
  obtain ⟨n, k, hn, hk, rfl⟩ := h
  refine ⟨n, k + j, hn, by omega, ?_⟩
  rw [zpow_add₀ (by norm_num), zpow_natCast]
  ring

end

end Arithmetic

namespace Decimal

/-- `a < b`; an ordering with a NaN raises. -/
def lt : Decimal → Decimal → Except DecimalError Bool
  | .nan _, _ | _, .nan _ => .error .invalidOperation
  | .finite a, .finite b => .ok (Decidable.decide (a < b))
  | .infinite n, .infinite m => .ok (n && !m)
  | .infinite n, .finite _ => .ok n
  | .finite _, .infinite m => .ok !m

/-- `a <= b`. -/
def le (a b : Decimal) : Except DecimalError Bool :=
  (b.lt a).map (!·)

/-- `a == b`; a quiet NaN equals nothing. -/
def eq : Decimal → Decimal → Except DecimalError Bool
  | .nan true, _ | _, .nan true => .error .invalidOperation
  | .nan false, _ | _, .nan false => .ok false
  | .finite a, .finite b => .ok (Decidable.decide (a = b))
  | .infinite n, .infinite m => .ok (n == m)
  | _, _ => .ok false

@[simp] theorem lt_finite (a b : ℚ) : lt (.finite a) (.finite b) = .ok
    (Decidable.decide (a < b)) := rfl

@[simp] theorem le_finite (a b : ℚ) : le (.finite a) (.finite b) = .ok
    (Decidable.decide (a ≤ b)) := by
  simp [le, Except.map, ← not_lt]

theorem le_trans {a b c : Decimal} (hab : a.le b = .ok true) (hbc : b.le c = .ok true) :
    a.le c = .ok true := by
  cases a with
  | nan signaling => cases b <;> simp [le, lt, Except.map] at hab
  | infinite n =>
    cases b with
    | nan signaling => simp [le, lt, Except.map] at hab
    | finite y => cases c <;> simp_all [le, lt, Except.map]
    | infinite m =>
      cases c with
      | infinite k => cases n <;> cases m <;> cases k <;> simp_all [le, lt, Except.map]
      | _ => simp_all [le, lt, Except.map]
  | finite x =>
    cases b with
    | nan signaling => simp [le, lt, Except.map] at hab
    | infinite n => cases c <;> simp_all [le, lt, Except.map]
    | finite y =>
      cases c with
      | nan signaling => simp [le, lt, Except.map] at hbc
      | infinite n => simp_all [le, lt, Except.map]
      | finite z =>
        simp only [le_finite, Except.ok.injEq, decide_eq_true_eq] at hab hbc ⊢
        exact hab.trans hbc

theorem le_of_not_le {a b : Decimal} (h : a.le b = .ok false) : b.le a = .ok true := by
  cases a with
  | nan signaling => cases b <;> simp [le, lt, Except.map] at h
  | infinite n =>
    cases b with
    | infinite m => cases n <;> cases m <;> simp_all [le, lt, Except.map]
    | _ => simp_all [le, lt, Except.map]
  | finite x =>
    cases b with
    | finite y =>
      simp only [le_finite, Except.ok.injEq, decide_eq_false_iff_not, decide_eq_true_eq,
        not_le] at h ⊢
      exact h.le
    | _ => simp_all [le, lt, Except.map]

@[simp] theorem eq_finite (a b : ℚ) : eq (.finite a) (.finite b) = .ok
    (Decidable.decide (a = b)) := rfl

end Decimal

end StopBot.Lib
