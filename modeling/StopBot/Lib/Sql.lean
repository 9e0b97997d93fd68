/-!
# SQL conditions and selections

Three-valued conditions, as a `WHERE` clause or a `COALESCE(…, FALSE)` column
evaluates them, and `ORDER BY … DESC LIMIT 1`.
-/

namespace StopBot.Lib.Sql

-- ------------------------------------------------------------
-- Three-valued truth
-- ------------------------------------------------------------

/-- A truth value of SQL; `none` is UNKNOWN. -/
abbrev Truth := Option Bool

def Truth.and : Truth → Truth → Truth
  | some false, _ => some false
  | _, some false => some false
  | some true, some true => some true
  | _, _ => none

def all (conditions : List Truth) : Truth :=
  conditions.foldr Truth.and (some true)

/-- `COALESCE(condition, FALSE)`. -/
def holds (t : Truth) : Bool :=
  t.getD false

/-- `left = right`, UNKNOWN when either side is NULL. -/
def eq [DecidableEq α] (left right : Option α) : Truth :=
  match left, right with
  | some a, some b => some (decide (a = b))
  | _, _ => none

/-- `left <= right` over an ordered column. -/
def le (left right : Option Int) : Truth :=
  match left, right with
  | some a, some b => some (decide (a ≤ b))
  | _, _ => none

/-- `left > right`. -/
def gt (left right : Option Int) : Truth :=
  match left, right with
  | some a, some b => some (decide (b < a))
  | _, _ => none

def nullIf [DecidableEq α] (value : Option α) (other : α) : Option α :=
  if value = some other then none else value

def isNotNull (value : Option α) : Truth :=
  some value.isSome

@[simp] theorem holds_eq_true_iff (t : Truth) : holds t = true ↔ t = some true := by
  cases t <;> simp [holds]

theorem and_eq_true_iff (a b : Truth) :
    a.and b = some true ↔ a = some true ∧ b = some true := by
  rcases a with _ | _ | _ <;> rcases b with _ | _ | _ <;> simp [Truth.and]

theorem all_eq_true_iff (ts : List Truth) :
    all ts = some true ↔ ∀ t ∈ ts, t = some true := by
  induction ts with
  | nil => simp [all]
  | cons t ts ih =>
    have hstep : all (t :: ts) = t.and (all ts) := rfl
    rw [hstep, and_eq_true_iff, ih]
    simp

@[simp] theorem eq_eq_true_iff [DecidableEq α] (a b : Option α) :
    eq a b = some true ↔ a = b ∧ b.isSome = true := by
  cases a <;> cases b <;> simp [eq]

@[simp] theorem le_eq_true_iff (a b : Option Int) :
    le a b = some true ↔ ∃ x y, a = some x ∧ b = some y ∧ x ≤ y := by
  cases a <;> cases b <;> simp [le]

@[simp] theorem gt_eq_true_iff (a b : Option Int) :
    gt a b = some true ↔ ∃ x y, a = some x ∧ b = some y ∧ y < x := by
  cases a <;> cases b <;> simp [gt]

@[simp] theorem isNotNull_eq_true_iff (a : Option α) :
    isNotNull a = some true ↔ a.isSome = true := by
  simp [isNotNull]

-- ------------------------------------------------------------
-- ORDER BY … DESC LIMIT 1
-- ------------------------------------------------------------

/-- The first row of `rows` that no other row precedes in the order `before`. -/
def first (before : α → α → Bool) : List α → Option α
  | [] => none
  | row :: rows =>
    match first before rows with
    | none => some row
    | some best => if before best row then some best else some row

theorem first_mem {before : α → α → Bool} {rows : List α} {row : α}
    (h : first before rows = some row) : row ∈ rows := by
  induction rows with
  | nil => cases h
  | cons head rows ih =>
    simp only [first] at h
    split at h
    · cases h
      exact List.mem_cons_self
    · rename_i best hbest
      split at h
      · cases h
        exact List.mem_cons_of_mem _ (ih hbest)
      · cases h
        exact List.mem_cons_self

theorem first_eq_none {before : α → α → Bool} {rows : List α} (h : first before rows = none) :
    rows = [] := by
  cases rows with
  | nil => rfl
  | cons head rows =>
    simp only [first] at h
    split at h
    · cases h
    · split at h <;> cases h

/-- `ORDER BY f DESC LIMIT 1` finds a row with the greatest `f`. -/
theorem first_greatest {f : α → Nat} {rows : List α} {best : α}
    (h : first (fun a b => decide (f b < f a)) rows = some best) :
    ∀ row ∈ rows, f row ≤ f best := by
  induction rows generalizing best with
  | nil => cases h
  | cons head rows ih =>
    simp only [first] at h
    split at h
    · rename_i hnone
      cases h
      rw [first_eq_none hnone]
      simp
    · rename_i top htop
      have htail := ih htop
      intro row hrow
      split at h <;> rename_i hlt <;> cases h <;> simp only [decide_eq_true_eq] at hlt
      · cases List.mem_cons.mp hrow with
        | inl hhead => rw [hhead]; omega
        | inr hrow => exact htail row hrow
      · cases List.mem_cons.mp hrow with
        | inl hhead => exact Nat.le_of_eq (congrArg f hhead)
        | inr hrow =>
          have := htail row hrow
          omega

end StopBot.Lib.Sql
