import Mathlib.Algebra.Order.Group.Unbundled.Int
import Mathlib.Tactic.SplitIfs

/-!
# Time zones

A zone is an offset that changes at some instants. Where it grows, local times
are skipped (a gap); where it shrinks, they come twice. A local time is
resolved to the first of its instants, and one in a gap with the offset before
the gap, as the `fold=0` times of Python are.
-/

namespace StopBot.Lib

structure Change where
  instant : Int
  before : Int
  after : Int
  deriving DecidableEq, Repr

def Change.shift (c : Change) : Int := |c.after - c.before|

/-- Each change starts from the offset before it and comes after the local
times that the last one skipped or repeated. -/
def Linked (offset : Int) : List Change → Prop
  | [] => True
  | c :: rest =>
    c.before = offset ∧ (∀ d ∈ rest.head?, c.instant + c.shift + d.shift ≤ d.instant) ∧
      Linked c.after rest

structure Zone where
  initial : Int
  changes : List Change
  linked : Linked initial changes

namespace Zone

def offsetFrom (offset : Int) : List Change → Int → Int
  | [], _ => offset
  | c :: rest, t => if t < c.instant then offset else offsetFrom c.after rest t

def foldZeroFrom (offset : Int) : List Change → Int → Int
  | [], _ => offset
  | c :: rest, l =>
    if l < c.instant + max c.before c.after then offset else foldZeroFrom c.after rest l

def gapFrom : List Change → Int → Int
  | [], _ => 0
  | c :: rest, l =>
    if c.instant + c.before ≤ l ∧ l < c.instant + c.after then c.after - c.before
    else gapFrom rest l

def utcOffset (z : Zone) (t : Int) : Int := offsetFrom z.initial z.changes t

/-- The local time of an instant. -/
def shown (z : Zone) (t : Int) : Int := t + z.utcOffset t

def resolve (z : Zone) (l : Int) : Int := l - foldZeroFrom z.initial z.changes l

def gap (z : Zone) (l : Int) : Int := gapFrom z.changes l

def Repeating (z : Zone) (t l : Int) : Prop :=
  ∃ c ∈ z.changes, c.instant ≤ t ∧ c.instant + c.after ≤ l ∧ l < c.instant + c.before

variable {offset t l : Int} {c : Change} {rest : List Change}

theorem shown_ge (h : Linked offset (c :: rest)) (ht : c.instant ≤ t) :
    c.instant + c.after ≤ t + offsetFrom c.after rest t := by
  induction rest generalizing offset c with
  | nil => simp only [offsetFrom]; omega
  | cons d rest ih =>
    obtain ⟨-, hnext, hrest⟩ := h
    have hfar := hnext d rfl
    have hbefore := hrest.1
    simp only [offsetFrom]
    split_ifs with hlt
    · omega
    · have hd := ih hrest (not_lt.mp hlt)
      simp only [Change.shift] at hfar
      have h1 := neg_abs_le (d.after - d.before)
      have h2 := abs_nonneg (c.after - c.before)
      omega

theorem resolve_ge (h : Linked offset (c :: rest)) (hl : c.instant + max c.before c.after ≤ l) :
    c.instant ≤ l - foldZeroFrom c.after rest l := by
  induction rest generalizing offset c with
  | nil => simp only [foldZeroFrom]; omega
  | cons d rest ih =>
    obtain ⟨-, hnext, hrest⟩ := h
    have hfar := hnext d rfl
    simp only [foldZeroFrom]
    split_ifs with hlt
    · omega
    · have hd := ih hrest (not_lt.mp hlt)
      simp only [Change.shift] at hfar
      have h1 := abs_nonneg (c.after - c.before)
      have h2 := abs_nonneg (d.after - d.before)
      omega

theorem later_ge (h : Linked offset (c :: rest)) {d : Change} (hd : d ∈ rest) :
    c.instant ≤ d.instant ∧
      c.instant + max c.before c.after ≤ d.instant + min d.before d.after := by
  induction rest generalizing offset c with
  | nil => cases hd
  | cons e rest ih =>
    obtain ⟨-, hnext, hrest⟩ := h
    have hfar := hnext e rfl
    have hbefore := hrest.1
    simp only [Change.shift] at hfar
    have hc := abs_nonneg (c.after - c.before)
    have hc' := neg_abs_le (c.after - c.before)
    have he := abs_nonneg (e.after - e.before)
    have he' := neg_abs_le (e.after - e.before)
    rcases List.mem_cons.mp hd with rfl | hd
    · constructor <;> omega
    · obtain ⟨hinstant, hlocal⟩ := ih hrest hd
      constructor <;> omega

theorem resolve_lt_iff {changes : List Change} (h : Linked offset changes)
    (hlater : t + offsetFrom offset changes t < l) :
    l - foldZeroFrom offset changes l < t ↔
      ∃ c ∈ changes, c.instant ≤ t ∧ c.instant + c.after ≤ l ∧ l < c.instant + c.before := by
  induction changes generalizing offset with
  | nil =>
    simp only [offsetFrom, foldZeroFrom, List.not_mem_nil, false_and, exists_false, iff_false] at *
    omega
  | cons c rest ih =>
    have hbefore := h.1
    simp only [offsetFrom] at hlater
    simp only [foldZeroFrom]
    split_ifs at hlater with hfirst
    · -- before the change, no period is being repeated yet
      have hnone : ¬ ∃ d ∈ c :: rest,
          d.instant ≤ t ∧ d.instant + d.after ≤ l ∧ l < d.instant + d.before := by
        rintro ⟨d, hd, hle, -⟩
        rcases List.mem_cons.mp hd with rfl | hd
        · omega
        · have := (later_ge h hd).1
          omega
      rw [iff_false_right hnone]
      split_ifs with hlocal
      · omega
      · have := resolve_ge h (not_lt.mp hlocal)
        omega
    · have hshown := shown_ge h (not_lt.mp hfirst)
      split_ifs with hlocal
      · refine iff_of_true (by omega) ⟨c, List.mem_cons_self, by omega, by omega, by omega⟩
      · rw [ih h.2.2 hlater]
        constructor
        · rintro ⟨d, hd, hrepeat⟩
          exact ⟨d, List.mem_cons_of_mem c hd, hrepeat⟩
        · rintro ⟨d, hd, hrepeat⟩
          rcases List.mem_cons.mp hd with rfl | hd
          · omega
          · exact ⟨d, hd, hrepeat⟩

theorem gapFrom_eq_zero (h : Linked offset (c :: rest))
    (hl : l < c.instant + max c.before c.after) :
    gapFrom rest l = 0 := by
  have hlater : ∀ d ∈ rest, l < d.instant + d.before := by
    intro d hd
    have := (later_ge h hd).2
    omega
  clear h hl
  induction rest with
  | nil => rfl
  | cons d rest ih =>
    have hd := hlater d List.mem_cons_self
    rw [gapFrom, if_neg (by omega)]
    exact ih fun e he => hlater e (List.mem_cons_of_mem d he)

theorem shownFrom_resolve {changes : List Change} (h : Linked offset changes) :
    l - foldZeroFrom offset changes l + offsetFrom offset changes
      (l - foldZeroFrom offset changes l) =
      l + gapFrom changes l := by
  induction changes generalizing offset with
  | nil => simp only [foldZeroFrom, offsetFrom, gapFrom]; omega
  | cons c rest ih =>
    have hbefore := h.1
    simp only [foldZeroFrom, offsetFrom, gapFrom]
    by_cases hlocal : l < c.instant + max c.before c.after
    · have hgap := gapFrom_eq_zero h hlocal
      simp only [hlocal, if_true, hgap]
      by_cases hfirst : l - offset < c.instant
      · rw [if_pos hfirst, if_neg (by omega)]
        omega
      · -- in the gap: past the change and before the next one
        have hoffset : offsetFrom c.after rest (l - offset) = c.after := by
          cases rest with
          | nil => rfl
          | cons d rest =>
            have hfar := h.2.1 d rfl
            simp only [Change.shift] at hfar
            have hc := le_abs_self (c.after - c.before)
            have hd := abs_nonneg (d.after - d.before)
            rw [offsetFrom, if_pos (by omega)]
        rw [if_neg hfirst, hoffset, if_pos (by omega)]
        omega
    · have hge := resolve_ge h (not_lt.mp hlocal)
      have hnogap : ¬ (c.instant + c.before ≤ l ∧ l < c.instant + c.after) := by omega
      simp only [hlocal, if_false, not_lt.mpr hge, hnogap]
      exact ih h.2.2

/-- A later local time is resolved to an earlier instant exactly when it is being repeated. -/
theorem resolve_lt (z : Zone) {t l : Int} (h : z.shown t < l) : z.resolve l < t ↔ z.Repeating t l :=
  resolve_lt_iff z.linked h

theorem shown_resolve (z : Zone) (l : Int) : z.shown (z.resolve l) = l + z.gap l :=
  shownFrom_resolve z.linked

end Zone

end StopBot.Lib
