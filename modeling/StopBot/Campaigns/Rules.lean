import StopBot.Campaigns.Executor

/-!
# Rules for parts of the executor

A triple says of a part of the executor, under a monitor of its requests: from
every state that meets `pre`, whatever it is answered, it ends in `post` with
its value, or in `err` with what it raises.
-/

namespace StopBot.Campaigns

open Lib Calls

section
variable {γ : Type} {m : Monitor γ Await Answer} {ε ε' α β : Type}
  {pre : γ → ExecState → Prop} {err : γ → ε → ExecState → Prop}

def Ends (post : γ → α → ExecState → Prop) (err : γ → ε → ExecState → Prop) :
    γ → Except ε α × ExecState → Prop
  | g, (.ok value, s) => post g value s
  | g, (.error exc, s) => err g exc s

def Triple (m : Monitor γ Await Answer) (pre : γ → ExecState → Prop) (part : Exec ε α)
    (post : γ → α → ExecState → Prop) (err : γ → ε → ExecState → Prop) : Prop :=
  ∀ g s, pre g s → Meets m (Ends post err) g (part s)

theorem Triple.imp {pre' : γ → ExecState → Prop} {part : Exec ε α}
    {post post' : γ → α → ExecState → Prop} {err' : γ → ε → ExecState → Prop}
    (h : Triple m pre part post err) (hpre : ∀ g s, pre' g s → pre g s)
    (hpost : ∀ g value s, post g value s → post' g value s)
    (herr : ∀ g exc s, err g exc s → err' g exc s) : Triple m pre' part post' err' := by
  intro g s hs
  refine (h g s (hpre g s hs)).imp ?_
  rintro g' ⟨exc | value, s'⟩ hend
  · exact herr g' exc s' hend
  · exact hpost g' value s' hend

theorem Triple.bind {first : Exec ε α} {rest : α → Exec ε β} {mid : γ → α → ExecState → Prop}
    {post : γ → β → ExecState → Prop} (hfirst : Triple m pre first mid err)
    (hrest : ∀ value, Triple m (fun g s => mid g value s) (rest value) post err) :
    Triple m pre (first >>= rest) post err := by
  intro g s hs
  show Meets m (Ends post err) g (Exec.bind first rest s)
  rw [Exec.bind, meets_bind]
  refine (hfirst g s hs).imp ?_
  rintro g' ⟨exc | value, s'⟩ hend
  · exact hend
  · exact hrest value g' s' hend

theorem Triple.via {first : Exec ε α} {rest : α → Exec ε β} {post : γ → β → ExecState → Prop}
    (mid : γ → α → ExecState → Prop) (hfirst : Triple m pre first mid err)
    (hrest : ∀ value, Triple m (fun g s => mid g value s) (rest value) post err) :
    Triple m pre (first >>= rest) post err := .bind hfirst hrest

theorem Triple.pure {value : α} {post : γ → α → ExecState → Prop}
    (h : ∀ g s, pre g s → post g value s) : Triple m pre (pure value : Exec ε α) post err :=
  fun g s hs => h g s hs

theorem Triple.raise {exc : ε} {post : γ → α → ExecState → Prop}
    (h : ∀ g s, pre g s → err g exc s) : Triple m pre (Exec.raise exc) post err :=
  fun g s hs => h g s hs

theorem Triple.modify {f : ExecState → ExecState} {post : γ → Unit → ExecState → Prop}
    (h : ∀ g s, pre g s → post g () (f s)) : Triple m pre (Exec.modify f : Exec ε Unit) post err :=
  fun g s hs => h g s hs

theorem Triple.ask {request : Request} {post : γ → Answer → ExecState → Prop}
    (hallowed : ∀ g s, pre g s → m.allowed g ⟨s.created, request⟩)
    (h : ∀ g s answer, pre g s → m.admits g ⟨s.created, request⟩ answer →
      post (m.next g ⟨s.created, request⟩ answer) answer s) :
    Triple m pre (Exec.ask request : Exec ε Answer) post err :=
  fun g s hs => ⟨hallowed g s hs, fun answer ha => h g s answer hs ha⟩

theorem Triple.emit {post : γ → Unit → ExecState → Prop}
    (hallowed : ∀ g s, pre g s → m.allowed g ⟨s.created, .progress s.progress⟩)
    (h : ∀ g s answer, pre g s → m.admits g ⟨s.created, .progress s.progress⟩ answer →
      post (m.next g ⟨s.created, .progress s.progress⟩ answer) () s) :
    Triple m pre (Campaigns.emit : Exec ε Unit) post err :=
  fun g s hs => ⟨hallowed g s hs, fun answer ha => h g s answer hs ha⟩

theorem Triple.each {body : β → Exec ε Unit} {items : List β}
    (h : ∀ item ∈ items, Triple m pre (body item) (fun g _ s => pre g s) err) :
    Triple m pre (Exec.each body items) (fun g _ s => pre g s) err := by
  induction items with
  | nil => exact .pure fun _ _ hs => hs
  | cons item rest ih =>
    refine .bind (h item List.mem_cons_self) fun _ => ih fun other hother => ?_
    exact h other (List.mem_cons_of_mem _ hother)

theorem Triple.catching {body : Exec ε α} {handler : ExecState → ε → Exec ε' α}
    {post : γ → α → ExecState → Prop} {mid : γ → ε → ExecState → Prop}
    {err' : γ → ε' → ExecState → Prop} (hbody : Triple m pre body post mid)
    (hhandler : ∀ g exc s, mid g exc s → Meets m (Ends post err') g (handler s exc s)) :
    Triple m pre (body.catching handler) post err' := by
  intro g s hs
  rw [Exec.catching, meets_bind]
  refine (hbody g s hs).imp ?_
  rintro g' ⟨exc | value, s'⟩ hend
  · exact hhandler g' exc s' hend
  · exact hend

-- What reads an answer keeps whatever it raises with.

theorem objectOf_keeps (answer : Answer) :
    Triple m pre (objectOf answer) (fun g _ s => pre g s) (fun g _ s => pre g s) := by
  cases answer with
  | object response => exact .pure fun _ _ hs => hs
  | done => exact .raise fun _ _ hs => hs
  | value text => exact .raise fun _ _ hs => hs
  | raised exc notDispatched => exact .raise fun _ _ hs => hs

theorem doneOf_keeps (answer : Answer) :
    Triple m pre (doneOf answer) (fun g _ s => pre g s) (fun g _ s => pre g s) := by
  cases answer with
  | raised exc notDispatched => exact .raise fun _ _ hs => hs
  | done => exact .pure fun _ _ hs => hs
  | object response => exact .pure fun _ _ hs => hs
  | value text => exact .pure fun _ _ hs => hs

theorem valueOf_keeps (answer : Answer) :
    Triple m pre (valueOf answer) (fun g _ s => pre g s) (fun g _ s => pre g s) := by
  cases answer with
  | value text => exact .pure fun _ _ hs => hs
  | done => exact .raise fun _ _ hs => hs
  | object response => exact .raise fun _ _ hs => hs
  | raised exc notDispatched => exact .raise fun _ _ hs => hs

theorem extractId_keeps (response : Json) (what : String) :
    Triple m pre (extractId response what) (fun g _ s => pre g s)
      (fun g _ s => pre g s) := by
  unfold extractId
  simp only
  split
  · exact .pure fun _ _ hs => hs
  · exact .raise fun _ _ hs => hs

end

end StopBot.Campaigns
