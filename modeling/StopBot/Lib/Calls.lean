/-!
# Programs that call out

A program issues requests one after the other and goes on with what it is
answered; it ends with a value or raises. `run` plays it against a list of
answers, and a request beyond the list is answered with `silence`. Nothing here
says what the requests or the answers are.
-/

namespace StopBot.Lib

inductive Calls (ρ ω α : Type)
  | ret (value : α)
  | raise (error : String)
  | call (request : ρ) (next : ω → Calls ρ ω α)

namespace Calls

variable {ρ ω α β : Type}

def bind : Calls ρ ω α → (α → Calls ρ ω β) → Calls ρ ω β
  | .ret value, f => f value
  | .raise error, _ => .raise error
  | .call request next, f => .call request fun answer => (next answer).bind f

instance : Monad (Calls ρ ω) where
  pure := .ret
  bind := bind

/-- `try` with one `except` clause. -/
def catching : Calls ρ ω α → (String → Calls ρ ω α) → Calls ρ ω α
  | .ret value, _ => .ret value
  | .raise error, handler => handler error
  | .call request next, handler => .call request fun answer => (next answer).catching handler

def lift : Except String α → Calls ρ ω α
  | .ok value => .ret value
  | .error error => .raise error

/-- What the program ends with, and the answers it left. -/
def run (silence : ω) : Calls ρ ω α → List ω → Except String α × List ω
  | .ret value, answers => (.ok value, answers)
  | .raise error, answers => (.error error, answers)
  | .call _ next, answers => (next (answers.headD silence)).run silence answers.tail

@[simp] theorem pure_eq (value : α) : (pure value : Calls ρ ω α) = .ret value := rfl

@[simp] theorem ret_bind (value : α) (f : α → Calls ρ ω β) : Calls.ret value >>= f = f value := rfl

@[simp] theorem raise_bind (error : String) (f : α → Calls ρ ω β) :
    Calls.raise error >>= f = .raise error := rfl

@[simp] theorem call_bind (request : ρ) (next : ω → Calls ρ ω α) (f : α → Calls ρ ω β) :
    Calls.call request next >>= f = .call request fun answer => next answer >>= f := rfl

theorem run_bind (silence : ω) (p : Calls ρ ω α) (f : α → Calls ρ ω β) (answers : List ω) :
    (p >>= f).run silence answers =
      match p.run silence answers with
      | (.ok value, rest) => (f value).run silence rest
      | (.error error, rest) => (.error error, rest) := by
  induction p generalizing answers with
  | ret value => rfl
  | raise error => rfl
  | call request next ih => exact ih (answers.headD silence) answers.tail

theorem run_catching (silence : ω) (p : Calls ρ ω α) (handler : String → Calls ρ ω α)
    (answers : List ω) :
    (p.catching handler).run silence answers =
      match p.run silence answers with
      | (.ok value, rest) => (.ok value, rest)
      | (.error error, rest) => (handler error).run silence rest := by
  induction p generalizing answers with
  | ret value => rfl
  | raise error => rfl
  | call request next ih => exact ih (answers.headD silence) answers.tail

@[simp] theorem run_lift (silence : ω) (x : Except String α) (answers : List ω) :
    (lift x : Calls ρ ω α).run silence answers = (x, answers) := by
  cases x <;> rfl

-- ------------------------------------------------------------
-- Monitors
-- ------------------------------------------------------------

/-- A state that follows the requests of a program and their answers: which
requests it allows, and which answers they may get. -/
structure Monitor (γ ρ ω : Type) where
  next : γ → ρ → ω → γ
  allowed : γ → ρ → Prop
  admits : γ → ρ → ω → Prop

variable {γ : Type} {m : Monitor γ ρ ω}

/-- Whatever answers a program is given, the monitor allows its requests, and
`post` holds of what it ends with; it never raises. -/
def Meets (m : Monitor γ ρ ω) (post : γ → α → Prop) : γ → Calls ρ ω α → Prop
  | g, .ret value => post g value
  | _, .raise _ => False
  | g, .call request next =>
    m.allowed g request ∧
      ∀ answer, m.admits g request answer → Meets m post (m.next g request answer) (next answer)

@[simp] theorem meets_ret {post : γ → α → Prop} {g : γ} {value : α} :
    Meets m post g (.ret value) ↔ post g value := Iff.rfl

@[simp] theorem meets_call {post : γ → α → Prop} {g : γ} {request : ρ} {next : ω → Calls ρ ω α} :
    Meets m post g (.call request next) ↔
      m.allowed g request ∧ ∀ answer, m.admits g request answer →
        Meets m post (m.next g request answer) (next answer) := Iff.rfl

theorem meets_bind {post : γ → β → Prop} {g : γ} {p : Calls ρ ω α} {f : α → Calls ρ ω β} :
    Meets m post g (p >>= f) ↔ Meets m (fun g value => Meets m post g (f value)) g p := by
  induction p generalizing g with
  | ret value => exact Iff.rfl
  | raise error => exact Iff.rfl
  | call request next ih =>
    refine and_congr Iff.rfl (forall_congr' fun answer => imp_congr Iff.rfl ?_)
    exact ih answer

theorem Meets.imp {post post' : γ → α → Prop} {g : γ} {p : Calls ρ ω α} (h : Meets m post g p)
    (himp : ∀ g value, post g value → post' g value) : Meets m post' g p := by
  induction p generalizing g with
  | ret value => exact himp g value h
  | raise error => exact h
  | call request next ih => exact ⟨h.1, fun answer ha => ih answer (h.2 answer ha)⟩

-- ------------------------------------------------------------
-- Clients
-- ------------------------------------------------------------

/-- The program against a client that answers each request with the whole
history before it: what it ends with, and the history. -/
def play (client : List (ρ × ω) → ρ → ω) :
    List (ρ × ω) → Calls ρ ω α → Except String α × List (ρ × ω)
  | log, .ret value => (.ok value, log)
  | log, .raise error => (.error error, log)
  | log, .call request next =>
    let answer := client log request
    play client (log ++ [(request, answer)]) (next answer)

def history (fits : ρ → ω → Prop) : Monitor (List (ρ × ω)) ρ ω where
  next log request answer := log ++ [(request, answer)]
  allowed _ _ := True
  admits _ request answer := fits request answer

theorem Meets.play {fits : ρ → ω → Prop} {post : List (ρ × ω) → α → Prop} {log : List (ρ × ω)}
    {p : Calls ρ ω α} {client : List (ρ × ω) → ρ → ω} (h : Meets (history fits) post log p)
    (hclient : ∀ log request, fits request (client log request)) :
    ∃ value, (play client log p).1 = .ok value ∧ post (play client log p).2 value := by
  induction p generalizing log with
  | ret value => exact ⟨value, rfl, h⟩
  | raise error => exact h.elim
  | call request next ih => exact ih _ (h.2 _ (hclient log request))

def asking (allowed : ρ → Prop) : Monitor Unit ρ ω where
  next _ _ _ := ()
  allowed _ request := allowed request
  admits _ _ _ := True

theorem Meets.asked {allowed : ρ → Prop} {post : Unit → α → Prop} {p : Calls ρ ω α}
    (h : Meets (asking allowed) post () p) (client : List (ρ × ω) → ρ → ω) (log : List (ρ × ω)) :
    ∀ entry ∈ (Calls.play client log p).2, entry ∈ log ∨ allowed entry.1 := by
  induction p generalizing log with
  | ret value => exact fun entry hentry => .inl hentry
  | raise error => exact h.elim
  | call request next ih =>
    intro entry hentry
    rcases ih _ (h.2 _ trivial) _ entry hentry with hold | hallowed
    · rcases List.mem_append.mp hold with hold | hnew
      · exact .inl hold
      · rw [List.mem_singleton.mp hnew]
        exact .inr h.1
    · exact .inr hallowed

end Calls

end StopBot.Lib
