/-!
# Obligations along a trace

A trace lists events, the latest first. Some events open an obligation and
some settle it; an obligation is pending when the last event of either kind
opened one. A trace in which nothing is opened while an obligation is pending
has a settling event between any two opening ones.
-/

namespace StopBot.Lib

variable {ε : Type} {opens settles : ε → Bool}

def pending (opens settles : ε → Bool) : List ε → Bool
  | [] => false
  | e :: trace => opens e || (!settles e && pending opens settles trace)

@[simp] theorem pending_cons (e : ε) (trace : List ε) :
    pending opens settles (e :: trace) = (opens e || (!settles e && pending opens settles trace)) :=
  rfl

def Separated (opens settles : ε → Bool) (trace : List ε) : Prop :=
  ∀ later last between first earlier, trace = later ++ last :: between ++ first :: earlier →
    opens last = true → opens first = true → ∃ e ∈ between, settles e = true

theorem separated_nil : Separated opens settles [] := by
  intro later last between first earlier h
  simp at h

theorem exists_settles_of_not_pending {between earlier : List ε} {first : ε}
    (hopen : opens first = true)
    (h : pending opens settles (between ++ first :: earlier) = false) :
    ∃ e ∈ between, settles e = true := by
  induction between with
  | nil => simp [hopen] at h
  | cons e between ih =>
    cases hs : settles e with
    | true => exact ⟨e, List.mem_cons_self, hs⟩
    | false =>
      simp only [List.cons_append, pending_cons, hs, Bool.not_false, Bool.true_and,
        Bool.or_eq_false_iff] at h
      obtain ⟨e', hmem, hs'⟩ := ih h.2
      exact ⟨e', List.mem_cons_of_mem _ hmem, hs'⟩

theorem Separated.cons {trace : List ε} {e : ε} (h : Separated opens settles trace)
    (hopen : opens e = true → pending opens settles trace = false) :
    Separated opens settles (e :: trace) := by
  intro later last between first earlier heq hlast hfirst
  cases later with
  | nil =>
    simp only [List.nil_append, List.cons_append, List.cons.injEq] at heq
    obtain ⟨rfl, rfl⟩ := heq
    exact exists_settles_of_not_pending hfirst (hopen hlast)
  | cons e' later =>
    simp only [List.cons_append, List.cons.injEq] at heq
    exact h later last between first earlier heq.2 hlast hfirst

end StopBot.Lib
