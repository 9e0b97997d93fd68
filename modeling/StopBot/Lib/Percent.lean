/-!
# Percent encoding

`urllib.parse.unquote` with strict UTF-8: escapes inside a run of ASCII
characters are bytes, and each run is decoded by itself. A decoder that is
applied until nothing changes, up to a bound, settles on a fixed point that
every partial decoding leads to.
-/

namespace StopBot.Lib

-- ------------------------------------------------------------
-- UTF-8
-- ------------------------------------------------------------

/-- The characters of a byte sequence, with `owed` continuation bytes still to come, the next of
them between `low` and `high`. -/
def decodeUtf8 (owed low high acc : Nat) : List Nat → Option (List Char)
  | [] => if owed = 0 then some [] else none
  | b :: rest =>
    match owed with
    | 0 =>
      if b < 0x80 then (decodeUtf8 0 0x80 0xBF 0 rest).map (Char.ofNat b :: ·)
      else if 0xC2 ≤ b ∧ b ≤ 0xDF then decodeUtf8 1 0x80 0xBF (b % 32) rest
      else if b = 0xE0 then decodeUtf8 2 0xA0 0xBF (b % 16) rest
      else if b = 0xED then decodeUtf8 2 0x80 0x9F (b % 16) rest
      else if 0xE1 ≤ b ∧ b ≤ 0xEF then decodeUtf8 2 0x80 0xBF (b % 16) rest
      else if b = 0xF0 then decodeUtf8 3 0x90 0xBF (b % 8) rest
      else if 0xF1 ≤ b ∧ b ≤ 0xF3 then decodeUtf8 3 0x80 0xBF (b % 8) rest
      else if b = 0xF4 then decodeUtf8 3 0x80 0x8F (b % 8) rest
      else none
    | n + 1 =>
      if low ≤ b ∧ b ≤ high then
        let value := acc * 64 + b % 64
        if n = 0 then (decodeUtf8 0 0x80 0xBF 0 rest).map (Char.ofNat value :: ·)
        else decodeUtf8 n 0x80 0xBF value rest
      else none

/-- An ASCII byte is a character wherever it stands: no sequence continues with one. -/
theorem mem_decodeUtf8 {owed low high acc b : Nat} {bytes : List Nat} {cs : List Char}
    (h : decodeUtf8 owed low high acc bytes = some cs) (hlow : 0x80 ≤ low) (hb : b < 0x80)
    (hmem : b ∈ bytes) : Char.ofNat b ∈ cs := by
  induction bytes generalizing owed low high acc cs with
  | nil => cases hmem
  | cons c rest ih =>
    unfold decodeUtf8 at h
    cases owed with
    | zero =>
      simp only at h
      by_cases hc : c < 0x80
      · rw [if_pos hc, Option.map_eq_some_iff] at h
        obtain ⟨tail, htail, rfl⟩ := h
        rcases List.mem_cons.mp hmem with rfl | hmem
        · exact List.mem_cons_self
        · exact List.mem_cons_of_mem _ (ih htail (by decide) hmem)
      · have hrest : b ∈ rest := by
          rcases List.mem_cons.mp hmem with rfl | hmem
          · exact absurd hb hc
          · exact hmem
        rw [if_neg hc] at h
        repeat' split at h
        all_goals first
          | cases h
          | exact ih h (by decide) hrest
    | succ n =>
      simp only at h
      split at h
      · rename_i hrange
        have hrest : b ∈ rest := by
          rcases List.mem_cons.mp hmem with rfl | hmem
          · omega
          · exact hmem
        split at h
        · rw [Option.map_eq_some_iff] at h
          obtain ⟨tail, htail, rfl⟩ := h
          exact List.mem_cons_of_mem _ (ih htail (by decide) hrest)
        · exact ih h (by decide) hrest
      · cases h

-- ------------------------------------------------------------
-- Escapes
-- ------------------------------------------------------------

def hexValue (c : Char) : Option Nat :=
  if '0' ≤ c ∧ c ≤ '9' then some (c.toNat - '0'.toNat)
  else if 'a' ≤ c ∧ c ≤ 'f' then some (c.toNat - 'a'.toNat + 10)
  else if 'A' ≤ c ∧ c ≤ 'F' then some (c.toNat - 'A'.toNat + 10)
  else none

def escapedBytes : List Char → List Nat
  | '%' :: hi :: lo :: rest =>
    match hexValue hi, hexValue lo with
    | some a, some b => (16 * a + b) :: escapedBytes rest
    | _, _ => '%'.toNat :: escapedBytes (hi :: lo :: rest)
  | c :: rest => c.toNat :: escapedBytes rest
  | [] => []

def decodeRun (run : List Char) : Option (List Char) :=
  decodeUtf8 0 0x80 0xBF 0 (escapedBytes run)

/-- Run after run; `run` is the one being read. -/
def unquoteRuns (run : List Char) : List Char → Option (List Char)
  | [] => decodeRun run
  | c :: rest =>
    if c.toNat < 0x80 then unquoteRuns (run ++ [c]) rest
    else do
      let decoded ← decodeRun run
      let tail ← unquoteRuns [] rest
      some (decoded ++ c :: tail)

/-- `unquote(text, errors="strict")`; none when it raises. -/
def unquote (text : List Char) : Option (List Char) :=
  if '%' ∈ text then unquoteRuns [] text else some text

/-- `%(?![0-9A-Fa-f]{2})` occurs. -/
def malformedEscape : List Char → Bool
  | [] => false
  | c :: rest =>
    (c == '%' && !(match rest with
      | hi :: lo :: _ => (hexValue hi).isSome && (hexValue lo).isSome
      | _ => false)) || malformedEscape rest

theorem unquote_of_plain {text : List Char} (h : '%' ∉ text) : unquote text = some text := by
  rw [unquote, if_neg h]

theorem malformedEscape_of_plain {text : List Char} (h : '%' ∉ text) :
    malformedEscape text = false := by
  induction text with
  | nil => rfl
  | cons c rest ih =>
    rw [List.mem_cons, not_or] at h
    have hc : (c == '%') = false := beq_eq_false_iff_ne.mpr (Ne.symm h.1)
    simp only [malformedEscape, hc, Bool.false_and, Bool.false_or, ih h.2]

theorem mem_escapedBytes {c : Char} {run : List Char} (hmem : c ∈ run) (hpercent : c ≠ '%')
    (hhex : hexValue c = none) : c.toNat ∈ escapedBytes run := by
  fun_induction escapedBytes run with
  | case1 hi lo rest a b hlo hhi ih =>
    have hrest : c ∈ rest := by
      simp only [List.mem_cons] at hmem
      rcases hmem with rfl | rfl | rfl | hmem
      · exact absurd rfl hpercent
      · simp_all
      · simp_all
      · exact hmem
    exact List.mem_cons_of_mem _ (ih hrest)
  | case2 hi lo rest hnone ih =>
    rcases List.mem_cons.mp hmem with rfl | hmem
    · exact absurd rfl hpercent
    · exact List.mem_cons_of_mem _ (ih hmem)
  | case3 d rest hshape ih =>
    rcases List.mem_cons.mp hmem with rfl | hmem
    · exact List.mem_cons_self
    · exact List.mem_cons_of_mem _ (ih hmem)
  | case4 => cases hmem

theorem mem_unquoteRuns {c : Char} {run text decoded : List Char}
    (h : unquoteRuns run text = some decoded) (hascii : c.toNat < 0x80) (hpercent : c ≠ '%')
    (hhex : hexValue c = none) (hmem : c ∈ run ++ text) : c ∈ decoded := by
  have hdecode : ∀ {run decoded : List Char}, decodeRun run = some decoded → c ∈ run →
      c ∈ decoded := by
    intro run decoded hrun hc
    have hchar := mem_decodeUtf8 hrun (by decide) hascii (mem_escapedBytes hc hpercent hhex)
    rwa [Char.ofNat_toNat] at hchar
  induction text generalizing run decoded with
  | nil => exact hdecode h (by simpa using hmem)
  | cons d rest ih =>
    unfold unquoteRuns at h
    split at h
    · exact ih h (by simpa using hmem)
    · rename_i hd
      obtain ⟨front, hfront, h⟩ := Option.bind_eq_some_iff.mp h
      obtain ⟨tail, htail, h⟩ := Option.bind_eq_some_iff.mp h
      cases h
      rcases List.mem_append.mp hmem with hmem | hmem
      · exact List.mem_append_left _ (hdecode hfront hmem)
      · rcases List.mem_cons.mp hmem with rfl | hmem
        · exact absurd hascii hd
        · exact List.mem_append_right _ (List.mem_cons_of_mem _ (ih htail (by simpa using hmem)))

theorem mem_unquote {c : Char} {text decoded : List Char} (h : unquote text = some decoded)
    (hascii : c.toNat < 0x80) (hpercent : c ≠ '%') (hhex : hexValue c = none) (hmem : c ∈ text) :
    c ∈ decoded := by
  unfold unquote at h
  split at h
  · exact mem_unquoteRuns h hascii hpercent hhex (by simpa using hmem)
  · cases h
    exact hmem

-- ------------------------------------------------------------
-- Decoding to the end
-- ------------------------------------------------------------

section Settle

variable {α : Type}

/-- `step` until nothing changes, at most `n` changes; none when it fails or does not settle. -/
def settle [DecidableEq α] (step : α → Option α) : Nat → α → Option α
  | 0, x => (step x).bind fun y => if y = x then some x else none
  | n + 1, x => (step x).bind fun y => if y = x then some x else settle step n y

/-- `k` steps. -/
def steps (step : α → Option α) : Nat → α → Option α
  | 0, x => some x
  | k + 1, x => (step x).bind (steps step k)

theorem steps_of_fixed {step : α → Option α} {x : α} (h : step x = some x) (k : Nat) :
    steps step k x = some x := by
  induction k with
  | zero => rfl
  | succ k ih => rw [steps, h, Option.bind_some, ih]

/-- Every partial decoding leads to where the decoder settles, also when it is taken with a `step'`
that fails less often. -/
theorem steps_settle [DecidableEq α] {step step' : α → Option α}
    (hstep : ∀ x y, step x = some y → step' x = some y) {n : Nat} {x d : α}
    (h : settle step n x = some d) {k : Nat} {t : α}
    (ht : steps step' k x = some t) : ∃ j, steps step j t = some d := by
  induction n generalizing x k t with
  | zero =>
    obtain ⟨y, hy, hnext⟩ := Option.bind_eq_some_iff.mp h
    split at hnext
    · rename_i heq
      cases hnext
      subst heq
      rw [steps_of_fixed (hstep _ _ hy)] at ht
      cases ht
      exact ⟨0, rfl⟩
    · cases hnext
  | succ n ih =>
    obtain ⟨y, hy, hnext⟩ := Option.bind_eq_some_iff.mp h
    split at hnext
    · rename_i heq
      cases hnext
      subst heq
      rw [steps_of_fixed (hstep _ _ hy)] at ht
      cases ht
      exact ⟨0, rfl⟩
    · cases k with
      | zero =>
        obtain rfl : x = t := Option.some.inj ht
        obtain ⟨j, hj⟩ := ih hnext (k := 0) rfl
        exact ⟨j + 1, by rw [steps, hy, Option.bind_some, hj]⟩
      | succ k =>
        rw [steps, hstep _ _ hy, Option.bind_some] at ht
        exact ih hnext ht

theorem steps_keep {step : α → Option α} {P : α → Prop}
    (hkeep : ∀ x y, step x = some y → P x → P y) {k : Nat} {x y : α} (h : steps step k x = some y)
    (hx : P x) : P y := by
  induction k generalizing x with
  | zero =>
    cases h
    exact hx
  | succ k ih =>
    obtain ⟨z, hz, h⟩ := Option.bind_eq_some_iff.mp h
    exact ih h (hkeep x z hz hx)

end Settle

end StopBot.Lib
