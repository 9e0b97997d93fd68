import StopBot.Lib.PyText
import Mathlib.Data.List.TakeWhile

/-!
# Query strings

A query string is cut into parameters by its delimiters, up to the first `#`;
what is empty between two delimiters is no parameter. The fragment is the rest,
with its mark.
-/

namespace StopBot.Lib.Query

variable {delimiter : Char → Bool}

def beforeFragment (cs : List Char) : List Char :=
  cs.takeWhile (· != '#')

def fragment (cs : List Char) : List Char :=
  cs.dropWhile (· != '#')

def pieces (delimiter : Char → Bool) (cs : List Char) : List (List Char) :=
  (cs.splitOnP delimiter).filter (· ≠ [])

def parameters (delimiter : Char → Bool) (cs : List Char) : List (List Char) :=
  pieces delimiter (beforeFragment cs)

/-- The key of a parameter. -/
def key (parameter : List Char) : List Char :=
  parameter.takeWhile (· != '=')

theorem key_append {parameter : List Char} (h : '=' ∈ parameter) (rest : List Char) :
    key (parameter ++ rest) = key parameter := by
  induction parameter with
  | nil => cases h
  | cons c parameter ih =>
    by_cases hc : c = '='
    · simp [key, hc]
    · have hmem : '=' ∈ parameter := (List.mem_cons.mp h).resolve_left fun heq => hc heq.symm
      simpa [key, hc] using ih hmem

theorem beforeFragment_append_fragment (cs : List Char) : beforeFragment cs ++ fragment cs = cs :=
  List.takeWhile_append_dropWhile

theorem hash_notMem_beforeFragment (cs : List Char) : '#' ∉ beforeFragment cs := by
  intro h
  have hne := List.mem_takeWhile_imp h
  simp at hne

theorem fragment_eq_nil_or (cs : List Char) :
    fragment cs = [] ∨ ∃ rest, fragment cs = '#' :: rest := by
  cases h : fragment cs with
  | nil => exact .inl rfl
  | cons c rest =>
    have hhead := List.head?_dropWhile_not (· != '#') cs
    rw [show cs.dropWhile (· != '#') = c :: rest from h] at hhead
    simp only [List.head?_cons] at hhead
    exact .inr ⟨rest, by simpa using hhead⟩

theorem beforeFragment_append {base rest : List Char} (hbase : '#' ∉ base)
    (hrest : rest = [] ∨ ∃ more, rest = '#' :: more) : beforeFragment (base ++ rest) = base := by
  have hall : ∀ c ∈ base, (c != '#') = true := fun c hc => by
    simp only [bne_iff_ne, ne_eq]
    exact fun heq => hbase (heq ▸ hc)
  rw [beforeFragment, List.takeWhile_append_of_pos hall]
  rcases hrest with rfl | ⟨more, rfl⟩ <;> simp

theorem fragment_append {base rest : List Char} (hbase : '#' ∉ base)
    (hrest : rest = [] ∨ ∃ more, rest = '#' :: more) : fragment (base ++ rest) = rest := by
  have hparts := beforeFragment_append_fragment (base ++ rest)
  rw [beforeFragment_append hbase hrest] at hparts
  exact List.append_cancel_left hparts

@[simp] theorem pieces_nil : pieces delimiter [] = [] := by
  simp [pieces]

theorem pieces_append_cons (xs ys : List Char) {d : Char} (hd : delimiter d = true) :
    pieces delimiter (xs ++ d :: ys) = pieces delimiter xs ++ pieces delimiter ys := by
  simp [pieces, List.splitOnP_append_cons xs ys hd]

theorem pieces_of_whole {xs : List Char} (hne : xs ≠ []) (h : ∀ c ∈ xs, delimiter c = false) :
    pieces delimiter xs = [xs] := by
  simp [pieces, List.splitOnP_eq_singleton h, hne]

/-- A text has no delimiter, or a first one. -/
theorem delimited_induction (delimiter : Char → Bool) {motive : List Char → Prop}
    (whole : ∀ cs, (∀ c ∈ cs, delimiter c = false) → motive cs)
    (cut : ∀ xs d ys, (∀ c ∈ xs, delimiter c = false) → delimiter d = true → motive ys →
      motive (xs ++ d :: ys)) (cs : List Char) : motive cs := by
  have hxs : ∀ c ∈ cs.takeWhile (!delimiter ·), delimiter c = false := fun c hc => by
    simpa using List.mem_takeWhile_imp hc
  have hparts : cs.takeWhile (!delimiter ·) ++ cs.dropWhile (!delimiter ·) = cs :=
    List.takeWhile_append_dropWhile
  cases hrest : cs.dropWhile (!delimiter ·) with
  | nil =>
    rw [hrest, List.append_nil] at hparts
    exact whole cs (hparts ▸ hxs)
  | cons d ys =>
    have hhead := List.head?_dropWhile_not (!delimiter ·) cs
    rw [hrest] at hparts hhead
    have hshorter : ys.length < cs.length := by
      have hlength := congrArg List.length hparts
      simp only [List.length_append, List.length_cons] at hlength
      omega
    have hys : motive ys := delimited_induction delimiter whole cut ys
    rw [← hparts]
    exact cut _ d ys hxs (by simpa using hhead) hys
  termination_by cs.length

theorem mem_splitOnP {piece cs : List Char} (h : piece ∈ cs.splitOnP delimiter) :
    ∃ before after, cs = before ++ piece ++ after ∧
      (before = [] ∨ ∃ more d, before = more ++ [d] ∧ delimiter d = true) ∧
      (after = [] ∨ ∃ d more, after = d :: more ∧ delimiter d = true) := by
  induction cs using delimited_induction delimiter with
  | whole cs hwhole =>
    rw [List.splitOnP_eq_singleton hwhole, List.mem_singleton] at h
    exact ⟨[], [], by simp [h], .inl rfl, .inl rfl⟩
  | cut xs d ys hxs hd ih =>
    rw [List.splitOnP_append_cons_of_forall_mem hxs d hd] at h
    rcases List.mem_cons.mp h with rfl | hmem
    · exact ⟨[], d :: ys, by simp, .inl rfl, .inr ⟨d, ys, rfl, hd⟩⟩
    · obtain ⟨before, after, rfl, hbefore, hafter⟩ := ih hmem
      refine ⟨xs ++ d :: before, after, by simp, .inr ?_, hafter⟩
      rcases hbefore with rfl | ⟨more, e, rfl, he⟩
      · exact ⟨xs, d, rfl, hd⟩
      · exact ⟨xs ++ d :: more, e, by simp, he⟩

theorem mem_splitOnP_append {piece xs ys : List Char} (hys : ∀ c ∈ ys, delimiter c = false)
    (h : piece ∈ (xs ++ ys).splitOnP delimiter) :
    piece ∈ xs.splitOnP delimiter ∨ ∃ last ∈ xs.splitOnP delimiter, piece = last ++ ys ∧
      (xs = last ∨ ∃ before d, xs = before ++ d :: last ∧ delimiter d = true) := by
  induction xs using delimited_induction delimiter with
  | whole xs hxs =>
    have hall : ∀ c ∈ xs ++ ys, delimiter c = false := fun c hc =>
      (List.mem_append.mp hc).elim (hxs c) (hys c)
    rw [List.splitOnP_eq_singleton hall, List.mem_singleton] at h
    exact .inr ⟨xs, by rw [List.splitOnP_eq_singleton hxs]; exact List.mem_singleton_self xs,
      h, .inl rfl⟩
  | cut xs d rest hxs hd ih =>
    rw [List.append_assoc, List.cons_append,
      List.splitOnP_append_cons_of_forall_mem hxs d hd] at h
    rw [List.splitOnP_append_cons_of_forall_mem hxs d hd]
    rcases List.mem_cons.mp h with rfl | hmem
    · exact .inl List.mem_cons_self
    · rcases ih hmem with hmem | ⟨last, hlast, rfl, hplace⟩
      · exact .inl (List.mem_cons_of_mem _ hmem)
      · refine .inr ⟨last, List.mem_cons_of_mem _ hlast, rfl, .inr ?_⟩
        rcases hplace with rfl | ⟨before, e, rfl, he⟩
        · exact ⟨xs, d, rfl, hd⟩
        · exact ⟨xs ++ d :: before, e, by simp, he⟩

end StopBot.Lib.Query
