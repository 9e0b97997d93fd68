import StopBot.Observer.Writers

/-!
# Observer cycles among the other writers

The alert row of one ad, any number of observer cycles that each hold a
snapshot of it, and every other writer, in any order. A cycle loads its
snapshot, runs the reopen or offline-sync transaction, and applies the
transition it decided on the snapshot.
-/

namespace StopBot.Observer

open Lib

/-- Where a cycle stands: `states` is the batch snapshot (`none`: not loaded),
`current` what the row processing goes on with (`none`: nothing to apply). -/
structure Cycle where
  states : Option (Option AlertSnapshot) := none
  current : Option (Option AlertSnapshot) := none
  deriving DecidableEq, Repr

structure AdState where
  row : Option AlertRow
  cycles : Nat → Cycle

inductive Event
  | load (cycle : Nat)
  | prepare (cycle : Nat) (deliveryStatus : Option String) (now : Int)
  | apply (cycle : Nat) (scan : Scan) (now : Int) (committed : Bool)
  | write (w : Writer) (now : Int)
  deriving DecidableEq, Repr

def AdState.setCycle (s : AdState) (k : Nat) (c : Cycle) : AdState :=
  { s with cycles := fun i => if i = k then c else s.cycles i }

@[simp] theorem AdState.setCycle_row (s : AdState) (k : Nat) (c : Cycle) :
    (s.setCycle k c).row = s.row := rfl

/-- The reopen and offline-sync branches of `_process_one_row`: the row they
leave, and what the cycle goes on with. -/
def prepareRow (current : Option AlertSnapshot) (deliveryStatus : Option String) (now : Int)
    (row : Option AlertRow) : Option AlertRow × Option (Option AlertSnapshot) :=
  match current, row with
  | some cur, some r =>
    if shouldReopenDisabled cur.alertState deliveryStatus then
      match reopenReactivatedAlertState now r with
      | some reopened => (some reopened, some none)
      | none => (row, some current)
    else if shouldSyncDisabled cur.alertState deliveryStatus then
      match markDisabledWhenOffline now r with
      | .ok (some synced) => (some synced, none)
      | .ok none => (row, some current)
      | .error _ => (row, none)
    else (row, some current)
  | _, _ => (row, some current)

def step (s : AdState) : Event → AdState
  | .load k => s.setCycle k { states := some (s.row.map AlertRow.snapshot) }
  | .prepare k deliveryStatus now =>
    match (s.cycles k).states with
    | none => s
    | some current =>
      let (row, ready) := prepareRow current deliveryStatus now s.row
      { s with row := row }.setCycle k { states := some current, current := ready }
  | .apply k scan now committed =>
    match (s.cycles k).current with
    | none => s
    | some current =>
      { s with
        row := applyFsmTransition now (scanTransition current scan) scan.scanId committed s.row
        }.setCycle k { s.cycles k with current := none }
  | .write w now => { s with row := w.apply now s.row }

-- ------------------------------------------------------------
-- The rule for the observer's write
-- ------------------------------------------------------------

def terminalSnapshot (current : Option AlertSnapshot) : Bool :=
  AlertState.terminal ((current.map (·.alertState)).getD .normal)

/-- The write of `apply_fsm_transition` respects the terminal states: it never
sets one, and it never changes a row that is in one. -/
def KeepsTerminalRow (before after : Option AlertRow) : Prop :=
  ∀ row, before = some row → ∃ row', after = some row' ∧
    (row.alertState.terminal = false → row'.alertState.terminal = false) ∧
    (row.alertState.terminal = true → row' = row)

/-- An apply step keeps the terminal rows; the other steps are not asked. -/
def ApplyKeepsTerminal (s : AdState) : Event → Prop
  | .apply k scan now committed =>
    KeepsTerminalRow s.row (step s (.apply k scan now committed)).row
  | _ => True

/-- A committed write decided on a terminal snapshot finds the row terminal still. -/
def SnapshotStillTerminal (s : AdState) : Event → Prop
  | .apply k _ _ true =>
    ∀ current row, (s.cycles k).current = some current → s.row = some row →
      terminalSnapshot current = true → row.alertState.terminal = true
  | _ => True

theorem KeepsTerminalRow.refl (row : Option AlertRow) : KeepsTerminalRow row row :=
  fun r hr => ⟨r, hr, fun h => h, fun _ => rfl⟩

/-- The conflict update never changes a terminal row, whatever it proposes. -/
theorem doUpdate_of_terminal {row : AlertRow} (h : row.alertState.terminal = true)
    (now : Int) (new : AlertRow) : doUpdate now row new = row := by
  simp [doUpdate, h]

theorem doUpdate_alertState {row : AlertRow} (h : row.alertState.terminal = false)
    (now : Int) (new : AlertRow) : (doUpdate now row new).alertState = new.alertState := by
  simp [doUpdate, h]

theorem scanTransition_terminal (current : Option AlertSnapshot) (scan : Scan) :
    (scanTransition current scan).newState.terminal = terminalSnapshot current := by
  rw [scanTransition_newState]
  have hcur : (fsmInput current scan).currentState.terminal = terminalSnapshot current := rfl
  obtain ⟨hstay, hopen⟩ := decide_keepsTerminal scan.uuid4 (fsmInput current scan)
  cases ht : terminalSnapshot current with
  | true => rw [hstay (hcur.trans ht), hcur, ht]
  | false => exact hopen (hcur.trans ht)

/-- What one committed write does to the row it finds, in terms of the snapshot. -/
theorem applyFsmTransition_keeps_iff (now : Int) (current : Option AlertSnapshot) (scan : Scan)
    (row : AlertRow) :
    KeepsTerminalRow (some row)
        (applyFsmTransition now (scanTransition current scan) scan.scanId true (some row)) ↔
      (terminalSnapshot current = true → row.alertState.terminal = true) := by
  have hrow : applyFsmTransition now (scanTransition current scan) scan.scanId true (some row) =
      some (doUpdate now row (excluded now (scanTransition current scan) scan.scanId)) := rfl
  rw [hrow]
  cases ht : row.alertState.terminal with
  | true => simp [KeepsTerminalRow, doUpdate_of_terminal ht, ht]
  | false =>
    have hnew : (doUpdate now row
        (excluded now (scanTransition current scan) scan.scanId)).alertState.terminal =
          terminalSnapshot current := by
      rw [doUpdate_alertState ht]
      exact scanTransition_terminal current scan
    simp [KeepsTerminalRow, ht, hnew]

theorem step_keepsTerminal_iff (s : AdState) (e : Event) :
    SnapshotStillTerminal s e ↔ ApplyKeepsTerminal s e := by
  cases e with
  | load k => simp [SnapshotStillTerminal, ApplyKeepsTerminal]
  | prepare k deliveryStatus now => simp [SnapshotStillTerminal, ApplyKeepsTerminal]
  | write w now => simp [SnapshotStillTerminal, ApplyKeepsTerminal]
  | apply k scan now committed =>
    cases committed with
    | false =>
      -- a rolled back transaction leaves the row as it was
      simp only [SnapshotStillTerminal, ApplyKeepsTerminal, true_iff, step]
      split <;> exact KeepsTerminalRow.refl s.row
    | true =>
      simp only [SnapshotStillTerminal, ApplyKeepsTerminal, step]
      cases hc : (s.cycles k).current with
      | none => simp [KeepsTerminalRow.refl]
      | some current =>
        cases hr : s.row with
        | none => simp [KeepsTerminalRow]
        | some row => simp [applyFsmTransition_keeps_iff]

/-- Over every run, from any state: the observer's writes respect the terminal
states exactly when each write decided on a terminal snapshot finds the row
terminal still, that is, when no activation, reopen or compensation committed
between the snapshot and the write. -/
theorem run_applyKeepsTerminal_iff (s : AdState) (es : List Event) :
    AllSteps step SnapshotStillTerminal s es ↔ AllSteps step ApplyKeepsTerminal s es :=
  allSteps_congr step_keepsTerminal_iff s es

/-- A paused ad whose activation is confirmed between the snapshot of a cycle
and the write of that cycle, which found no rule violated. -/
def disabledAd : AdState :=
  { row := some { alertState := .disabled, lastTransitionAt := 0 }, cycles := fun _ => {} }

def activationInsideCycle : List Event :=
  [.load 0, .prepare 0 (some "PAUSED") 10, .write .resetEnabled 20,
    .apply 0 { warningRuleCodes := [], stopRuleCodes := [], scanId := some 1, cycleTs := 5 } 30
      true]

theorem activationInsideCycle_disables :
    ¬ AllSteps step ApplyKeepsTerminal disabledAd activationInsideCycle := by
  rintro ⟨-, -, -, happly, -⟩
  obtain ⟨row', hrow, hopen, -⟩ := happly { lastTransitionAt := 20 } rfl
  have hafter : row' = { alertState := .disabled, lastTransitionAt := 30, lastScanId := some 1 } :=
    (Option.some.inj hrow).symm
  subst hafter
  exact absurd (hopen rfl) (by simp [AlertState.terminal])

end StopBot.Observer
