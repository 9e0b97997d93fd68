import Mathlib.Data.List.Basic
import Mathlib.Data.Char
import StopBot.Lib.WordSearch

/-!
# Texts of JSON that can be read back

A code delimits when what was encoded and what follows it can be read off the
text. Quoted strings do, and arrays of what delimits do.
-/

namespace StopBot.Lib.JsonText

variable {α β : Type}

def Delimits (enc : α → List Char) : Prop :=
  ∀ a b rest rest', enc a ++ rest = enc b ++ rest' → a = b ∧ rest = rest'

theorem Delimits.inj {enc : α → List Char} (h : Delimits enc) {a b : α}
    (heq : enc a = enc b) : a = b :=
  (h a b [] [] (by simp [heq])).1

-- ------------------------------------------------------------
-- Strings
-- ------------------------------------------------------------

def hexDigit (n : Nat) : Char :=
  if n < 10 then Char.ofNat (48 + n) else Char.ofNat (87 + n)

def hexValue (c : Char) : Nat :=
  if c.toNat < 58 then c.toNat - 48 else c.toNat - 87

def escape (c : Char) : List Char :=
  if c = '"' then ['\\', '"']
  else if c = '\\' then ['\\', '\\']
  else if c = '\n' then ['\\', 'n']
  else if c = '\r' then ['\\', 'r']
  else if c = '\t' then ['\\', 't']
  else if c.toNat = 8 then ['\\', 'b']
  else if c.toNat = 12 then ['\\', 'f']
  else if c.toNat < 32 then
    ['\\', 'u', '0', '0', hexDigit (c.toNat / 16), hexDigit (c.toNat % 16)]
  else [c]

def quoted (cs : List Char) : List Char :=
  '"' :: (cs.flatMap escape ++ ['"'])

/-- `JSON.stringify` of a string, and `json.dumps` without `ensure_ascii`. -/
def quote (s : String) : List Char :=
  quoted s.toList

/-- `json.dumps` of a string: what is not ASCII is escaped too, by UTF-16 units. -/
def quoteAscii (s : String) : List Char :=
  let escapeUnit (u : Nat) : List Char :=
    ['\\', 'u', hexDigit (u / 4096), hexDigit (u / 256 % 16), hexDigit (u / 16 % 16),
      hexDigit (u % 16)]
  let escapeAscii (c : Char) : List Char :=
    if c.toNat < 127 then escape c else (WordSearch.units c).flatMap escapeUnit
  '"' :: (s.toList.flatMap escapeAscii ++ ['"'])

/-- The character an escaped text begins with; none at the closing quote. -/
def unescape : List Char → Option (Char × List Char)
  | '\\' :: '"' :: rest => some ('"', rest)
  | '\\' :: '\\' :: rest => some ('\\', rest)
  | '\\' :: 'n' :: rest => some ('\n', rest)
  | '\\' :: 'r' :: rest => some ('\r', rest)
  | '\\' :: 't' :: rest => some ('\t', rest)
  | '\\' :: 'b' :: rest => some (Char.ofNat 8, rest)
  | '\\' :: 'f' :: rest => some (Char.ofNat 12, rest)
  | '\\' :: 'u' :: _ :: _ :: high :: low :: rest =>
    some (Char.ofNat (16 * hexValue high + hexValue low), rest)
  | '"' :: _ => none
  | c :: rest => some (c, rest)
  | [] => none

theorem hexValue_control : ∀ n < 32,
    16 * hexValue (hexDigit (n / 16)) + hexValue (hexDigit (n % 16)) = n := by
  decide

theorem unescape_escape (c : Char) (rest : List Char) :
    unescape (escape c ++ rest) = some (c, rest) := by
  unfold escape
  split
  · subst c; rfl
  split
  · subst c; rfl
  split
  · subst c; rfl
  split
  · subst c; rfl
  split
  · subst c; rfl
  split
  · rename_i h
    rw [← Char.ofNat_toNat c, h]
    rfl
  split
  · rename_i h
    rw [← Char.ofNat_toNat c, h]
    rfl
  split
  · rename_i hcontrol
    simp [unescape, hexValue_control c.toNat hcontrol]
  · rename_i hquote hbackslash _ _ _ _ _ _
    unfold unescape
    split <;> simp_all

theorem quoted_delimits : Delimits quoted := by
  have hread : ∀ cs ds rest rest' : List Char, cs.flatMap escape ++ '"' ::
      rest = ds.flatMap escape ++ '"' :: rest' →
      cs = ds ∧ rest = rest' := by
    intro cs
    induction cs with
    | nil =>
      rintro (_ | ⟨d, ds⟩) rest rest' heq
      · simpa using heq
      · have hboth := congrArg unescape heq
        rw [List.flatMap_cons, List.append_assoc, unescape_escape] at hboth
        simp [unescape] at hboth
    | cons c cs ih =>
      rintro (_ | ⟨d, ds⟩) rest rest' heq
      · have hboth := congrArg unescape heq
        rw [List.flatMap_cons, List.append_assoc, unescape_escape] at hboth
        simp [unescape] at hboth
      · have hboth := congrArg unescape heq
        simp only [List.flatMap_cons, List.append_assoc, unescape_escape, Option.some.injEq,
          Prod.mk.injEq] at hboth
        obtain ⟨rfl, htail⟩ := hboth
        obtain ⟨rfl, rfl⟩ := ih ds rest rest' htail
        exact ⟨rfl, rfl⟩
  rintro cs ds rest rest' heq
  exact hread cs ds rest rest' (by simpa [quoted] using heq)

theorem quote_delimits : Delimits quote := by
  rintro a b rest rest' heq
  obtain ⟨hlist, hrest⟩ := quoted_delimits _ _ _ _ heq
  exact ⟨String.toList_inj.mp hlist, hrest⟩

-- ------------------------------------------------------------
-- Arrays
-- ------------------------------------------------------------

def items (enc : α → List Char) : List α → List Char
  | [] => [']']
  | a :: as => ',' :: (enc a ++ items enc as)

def array (enc : α → List Char) : List α → List Char
  | [] => ['[', ']']
  | a :: as => '[' :: (enc a ++ items enc as)

def pair (f : α → List Char) (g : β → List Char) (p : α × β) : List Char :=
  '[' :: (f p.1 ++ ',' :: (g p.2 ++ [']']))

def Opens (enc : α → List Char) : Prop :=
  ∀ a, ∃ c cs, enc a = c :: cs ∧ c ≠ ']'

theorem pair_opens {f : α → List Char} {g : β → List Char} : Opens (pair f g) :=
  fun p => ⟨'[', _, rfl, by decide⟩

theorem Delimits.pair {f : α → List Char} {g : β → List Char} (hf : Delimits f) (hg : Delimits g) :
    Delimits (pair f g) := by
  rintro ⟨a, b⟩ ⟨a', b'⟩ rest rest' heq
  simp only [JsonText.pair, List.cons_append, List.append_assoc, List.cons.injEq, true_and] at heq
  obtain ⟨rfl, hrest⟩ := hf _ _ _ _ heq
  obtain ⟨rfl, hend⟩ := hg _ _ _ _ (List.cons.inj hrest).2
  exact ⟨rfl, by simpa using hend⟩

theorem Delimits.items {enc : α → List Char} (h : Delimits enc) : Delimits (items enc) := by
  intro as
  induction as with
  | nil =>
    rintro (_ | ⟨b, bs⟩) rest rest' heq
    · exact ⟨rfl, by simpa [JsonText.items] using heq⟩
    · simp [JsonText.items] at heq
  | cons a as ih =>
    rintro (_ | ⟨b, bs⟩) rest rest' heq
    · simp [JsonText.items] at heq
    · simp only [JsonText.items, List.cons_append, List.append_assoc, List.cons.injEq,
        true_and] at heq
      obtain ⟨rfl, htail⟩ := h _ _ _ _ heq
      obtain ⟨rfl, rfl⟩ := ih bs rest rest' htail
      exact ⟨rfl, rfl⟩

theorem Delimits.array {enc : α → List Char} (h : Delimits enc) (hopens : Opens enc) :
    Delimits (array enc) := by
  rintro (_ | ⟨a, as⟩) (_ | ⟨b, bs⟩) rest rest' heq
  · exact ⟨rfl, by simpa [JsonText.array] using heq⟩
  · obtain ⟨c, cs, hb, hc⟩ := hopens b
    simp only [JsonText.array, hb, List.cons_append, List.cons.injEq] at heq
    exact absurd heq.2.1.symm hc
  · obtain ⟨c, cs, ha, hc⟩ := hopens a
    simp only [JsonText.array, ha, List.cons_append, List.cons.injEq] at heq
    exact absurd heq.2.1 hc
  · simp only [JsonText.array, List.cons_append, List.append_assoc, List.cons.injEq,
      true_and] at heq
    obtain ⟨rfl, htail⟩ := h _ _ _ _ heq
    obtain ⟨rfl, rfl⟩ := h.items _ _ _ _ htail
    exact ⟨rfl, rfl⟩

example : String.ofList (quote "a\"\n") = "\"a\\\"\\n\"" := by decide

end StopBot.Lib.JsonText
