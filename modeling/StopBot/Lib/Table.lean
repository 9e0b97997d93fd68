import Mathlib.Data.List.Basic

/-!
# Tables with a serial key

Rows under natural-number ids that a sequence hands out: an insert takes the
next id, nothing is stored at an id the sequence has not reached, and no id is
used twice.
-/

namespace StopBot.Lib

structure Table (α : Type) where
  rows : Nat → Option α
  next : Nat
  unused : ∀ id, next ≤ id → rows id = none

namespace Table

variable {α : Type}

def empty : Table α :=
  { rows := fun _ => none, next := 0, unused := fun _ _ => rfl }

def insert (t : Table α) (row : α) : Table α :=
  { rows := fun id => if id = t.next then some row else t.rows id
    next := t.next + 1
    unused := by
      intro id hid
      have hne : id ≠ t.next := by omega
      simp only [hne, if_false]
      exact t.unused id (by omega) }

/-- Every row for which `change` gives a new one is replaced by it. -/
def update (t : Table α) (change : Nat → α → Option α) : Table α :=
  { rows := fun id => (t.rows id).map fun row => (change id row).getD row
    next := t.next
    unused := by
      intro id hid
      simp [t.unused id hid] }

/-- `update` of the one row stored at `id`. -/
def updateAt (t : Table α) (id : Nat) (change : α → Option α) : Table α :=
  t.update fun i row => if i = id then change row else none

/-- An id is handed out; nothing is stored under it yet. -/
def reserve (t : Table α) : Table α :=
  { rows := t.rows
    next := t.next + 1
    unused := fun id hid => t.unused id (by omega) }

def fill (t : Table α) (id : Nat) (row : α) : Table α :=
  { rows := fun i => if i = id ∧ id < t.next then some row else t.rows i
    next := t.next
    unused := by
      intro i hi
      have hne : ¬ (i = id ∧ id < t.next) := by omega
      simp only [hne, if_false]
      exact t.unused i hi }

def entries (t : Table α) : List (Nat × α) :=
  (List.range t.next).filterMap fun id => (t.rows id).map fun row => (id, row)

theorem insert_rows (t : Table α) (row : α) (id : Nat) :
    (t.insert row).rows id = if id = t.next then some row else t.rows id := rfl

@[simp] theorem update_rows (t : Table α) (change : Nat → α → Option α) (id : Nat) :
    (t.update change).rows id = (t.rows id).map fun row => (change id row).getD row := rfl

@[simp] theorem reserve_rows (t : Table α) (id : Nat) : t.reserve.rows id = t.rows id := rfl

theorem fill_rows (t : Table α) (id : Nat) (row : α) (i : Nat) :
    (t.fill id row).rows i = if i = id ∧ id < t.next then some row else t.rows i := rfl

@[simp] theorem updateAt_rows (t : Table α) (id : Nat) (change : α → Option α) (i : Nat) :
    (t.updateAt id change).rows i =
      (t.rows i).map fun row => (if i = id then change row else none).getD row := rfl

theorem lt_next_of_rows {t : Table α} {id : Nat} {row : α} (h : t.rows id = some row) :
    id < t.next := by
  apply Nat.lt_of_not_le
  intro hle
  rw [t.unused id hle] at h
  cases h

theorem mem_entries {t : Table α} {id : Nat} {row : α} :
    (id, row) ∈ t.entries ↔ t.rows id = some row := by
  simp only [entries, List.mem_filterMap, List.mem_range, Option.map_eq_some_iff, Prod.mk.injEq]
  constructor
  · rintro ⟨i, -, r, hr, rfl, rfl⟩
    exact hr
  · intro h
    exact ⟨id, lt_next_of_rows h, row, h, rfl, rfl⟩

theorem entries_update (t : Table α) (change : Nat → α → Option α) :
    (t.update change).entries =
      t.entries.map fun entry => (entry.1, (change entry.1 entry.2).getD entry.2) := by
  simp only [entries, update, List.map_filterMap, Option.map_map]
  rfl

theorem entries_insert (t : Table α) (row : α) :
    (t.insert row).entries = t.entries ++ [(t.next, row)] := by
  have hold : ∀ id ∈ List.range t.next, (if id = t.next then some row else t.rows id) =
      t.rows id := by
    intro id hid
    have hlt := List.mem_range.mp hid
    exact if_neg (by omega)
  simp only [entries, insert, List.range_succ, List.filterMap_append]
  congr 1
  · exact List.filterMap_congr fun id hid => by rw [hold id hid]
  · simp

theorem entries_pairwise (t : Table α) : t.entries.Pairwise fun a b => a.1 < b.1 := by
  rw [entries, List.pairwise_filterMap]
  refine List.pairwise_lt_range.imp fun {i j} hlt => ?_
  rintro a ha b hb
  obtain ⟨row, -, rfl⟩ := Option.map_eq_some_iff.mp ha
  obtain ⟨row', -, rfl⟩ := Option.map_eq_some_iff.mp hb
  exact hlt

theorem entries_any {t : Table α} {p : α → Bool} :
    (t.entries.any fun entry => p entry.2) = true ↔ ∃ id row, t.rows id = some row ∧
    p row = true := by
  simp only [List.any_eq_true, Prod.exists, mem_entries]

end Table

end StopBot.Lib
