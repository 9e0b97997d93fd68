/-!
# Runs of a labelled step function

A system is a total step function on a state and a label. A run folds the
labels; `AllSteps` says what held at every step of it, in the state the step
was taken in. Nothing here mentions what the states or the labels are.
-/

namespace StopBot.Lib

variable {σ ε : Type} {step : σ → ε → σ}

def run (step : σ → ε → σ) (s : σ) (es : List ε) : σ :=
  es.foldl step s

@[simp] theorem run_nil (s : σ) : run step s [] = s := rfl

@[simp] theorem run_cons (s : σ) (e : ε) (es : List ε) :
    run step s (e :: es) = run step (step s e) es := rfl

theorem run_append (s : σ) (es fs : List ε) :
    run step s (es ++ fs) = run step (run step s es) fs := by
  simp [run, List.foldl_append]

/-- Every step of the run from `s` meets `C` in the state it is taken in. -/
def AllSteps (step : σ → ε → σ) (C : σ → ε → Prop) : σ → List ε → Prop
  | _, [] => True
  | s, e :: es => C s e ∧ AllSteps step C (step s e) es

@[simp] theorem allSteps_nil {C : σ → ε → Prop} (s : σ) : AllSteps step C s [] := trivial

@[simp] theorem allSteps_cons {C : σ → ε → Prop} (s : σ) (e : ε) (es : List ε) :
    AllSteps step C s (e :: es) ↔ C s e ∧ AllSteps step C (step s e) es := Iff.rfl

instance AllSteps.decidable {C : σ → ε → Prop} [∀ s e, Decidable (C s e)] :
    ∀ (s : σ) (es : List ε), Decidable (AllSteps step C s es)
  | _, [] => .isTrue trivial
  | s, e :: es =>
    have : Decidable (AllSteps step C (step s e) es) := AllSteps.decidable (step s e) es
    inferInstanceAs (Decidable (C s e ∧ AllSteps step C (step s e) es))

theorem allSteps_append {C : σ → ε → Prop} (s : σ) (es fs : List ε) :
    AllSteps step C s (es ++ fs) ↔
      AllSteps step C s es ∧ AllSteps step C (run step s es) fs := by
  induction es generalizing s with
  | nil => simp
  | cons e es ih => simp [ih, and_assoc]

theorem allSteps_of_forall {C : σ → ε → Prop} {es : List ε} (h : ∀ e ∈ es, ∀ s, C s e) (s : σ) :
    AllSteps step C s es := by
  induction es generalizing s with
  | nil => trivial
  | cons e es ih =>
    exact ⟨h e List.mem_cons_self s, ih (fun e' he' => h e' (List.mem_cons_of_mem _ he')) _⟩

theorem AllSteps.take {C : σ → ε → Prop} {s : σ} {es : List ε} (h : AllSteps step C s es)
    (n : Nat) :
    AllSteps step C s (es.take n) := by
  rw [← List.take_append_drop n es, allSteps_append] at h
  exact h.1

theorem allSteps_of_states {C : σ → ε → Prop} {P : σ → Prop}
    (hstep : ∀ s e, P (step s e) → C s e) {s : σ} {es : List ε}
    (h : ∀ n, P (run step s (es.take n))) : AllSteps step C s es := by
  induction es generalizing s with
  | nil => trivial
  | cons e es ih => exact ⟨hstep s e (h 1), ih fun n => h (n + 1)⟩

/-- What a step preserves under its condition holds at the end of every run
whose steps all meet the condition. -/
theorem run_invariant {C : σ → ε → Prop} {I : σ → Prop}
    (hstep : ∀ s e, I s → C s e → I (step s e)) {s : σ} {es : List ε}
    (hs : I s) (hc : AllSteps step C s es) : I (run step s es) := by
  induction es generalizing s with
  | nil => exact hs
  | cons e es ih =>
    obtain ⟨he, hes⟩ := hc
    exact ih (hstep s e hs he) hes

/-- What a step shows under an invariant holds at every step of a run. -/
theorem AllSteps.of_invariant {C D : σ → ε → Prop} {I : σ → Prop}
    (hstep : ∀ s e, I s → C s e → I (step s e) ∧ D s e) {s : σ} {es : List ε}
    (hs : I s) (hc : AllSteps step C s es) : AllSteps step D s es := by
  induction es generalizing s with
  | nil => trivial
  | cons e es ih =>
    obtain ⟨he, hes⟩ := hc
    obtain ⟨hs', hd⟩ := hstep s e hs he
    exact ⟨hd, ih hs' hes⟩

theorem run_preserves {I : σ → Prop} (hstep : ∀ s e, I s → I (step s e))
    {s : σ} (hs : I s) (es : List ε) : I (run step s es) := by
  induction es generalizing s with
  | nil => exact hs
  | cons e es ih => exact ih (hstep s e hs)

theorem allSteps_iff_of_invariant {C D : σ → ε → Prop} {I : σ → Prop}
    (hiff : ∀ s e, I s → (C s e ↔ D s e)) (hstep : ∀ s e, I s → C s e → I (step s e))
    {s : σ} (hs : I s) (es : List ε) : AllSteps step C s es ↔ AllSteps step D s es := by
  induction es generalizing s with
  | nil => simp
  | cons e es ih =>
    simp only [allSteps_cons, ← hiff s e hs]
    exact and_congr_right fun hc => ih (hstep s e hs hc)

theorem allSteps_congr {C D : σ → ε → Prop} (hiff : ∀ s e, C s e ↔ D s e) (s : σ) (es : List ε) :
    AllSteps step C s es ↔ AllSteps step D s es := by
  induction es generalizing s with
  | nil => simp
  | cons e es ih => simp only [allSteps_cons, hiff, ih]

end StopBot.Lib
