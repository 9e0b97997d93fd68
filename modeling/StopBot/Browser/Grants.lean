import StopBot.Browser.Agent
import StopBot.Lib.Runs

/-!
# Every money call has its grant

Workers issue capabilities for the tasks they hold, calls arrive at
browser-agent from anyone and as often as anyone likes, the API consumes what
is presented to it, and answers are lost. Beside the tables the state keeps what
was issued, what was consumed and what was sent. The signature is not relied on:
a call is let out by the row it consumes.

What is sent is the request of `ExecuteGraphCall` itself. The batch of plain
readings with which `assertNumericTargetsOwned` looks up the owner of a target,
and the handlers of uploads, have no place in `sent`.
-/

namespace StopBot.Browser

open Lib Tasks Worker
open StopBot.Graph

-- ------------------------------------------------------------
-- The system
-- ------------------------------------------------------------

structure Grant where
  capability : Capability
  operation : Operation

/-- A consumed grant: who presented what, and the row of the task at that moment. -/
structure Consumption where
  grant : Nat
  call : Option Nat
  presented : Capability
  task : TaskRow
  clk : Clock

structure Sent where
  call : Nat
  request : ExecuteRequest
  session : Option LiveSession
  money : Bool
  grant : Option Nat

structure Grants where
  queue : Queue
  grants : Table Grant
  /-- By the digest of the nonce, with the number of the grant. -/
  uses : String → Option (Nat × CapabilityUse)
  calls : Nat → Call
  consumptions : List Consumption
  sent : List Sent

def Grants.init : Grants where
  queue := Table.empty
  grants := Table.empty
  uses := fun _ => none
  calls := fun _ => {}
  consumptions := []
  sent := []

def Grants.setCall (s : Grants) (n : Nat) (call : Call) : Grants :=
  { s with calls := fun i => if i = n then call else s.calls i }

def Grants.setUse (s : Grants) (key : String) (entry : Nat × CapabilityUse) : Grants :=
  { s with uses := fun k => if k = key then some entry else s.uses k }

variable (host : AgentHost) (accountOf : String → Option String)

/-- The worker's transaction; `stored` when it commits. -/
def Grants.issue (s : Grants) (clk : Clock) (ask : OperationAsk) (stored : Bool) : Grants :=
  match prepareOperationAuthorization host.toCapabilityHost accountOf clk ask
      (s.queue.rows ask.authority.taskId) with
  | .ok c =>
    let key := host.sha.hexdigest c.nonce
    if stored = true ∧ (s.uses key).isNone then
      { s.setUse key (s.grants.next, pendingUse host.toCapabilityHost c) with
        grants := s.grants.insert ⟨c, ask.operation⟩ }
    else s
  | .error _ => s

/-- `consume_pending_browser_capability`, for a call of the agent or anyone else. -/
def Grants.consume (s : Grants) (clk : Clock) (call : Option Nat) (c : Capability) :
    Option (Nat × Grants) :=
  let key := host.sha.hexdigest c.nonce
  match s.queue.rows c.taskId, s.uses key with
  | some task, some (grant, use) =>
    (consumePending host.toCapabilityHost clk c (some task) (some use)).map fun use' =>
      (grant, { s.setUse key (grant, use') with
        consumptions := ⟨grant, call, c, task, clk⟩ :: s.consumptions })
  | _, _ => none

/-- What becomes of a consume request: it is carried out and answered, it fails
before its commit, or its answer is lost after it. -/
inductive Outcome
  | answered
  | failed
  | lost
  deriving DecidableEq, Repr

def Grants.carryOut (s : Grants) (clk : Clock) (n : Nat) (outcome : Outcome) : Grants :=
  let call := s.calls n
  let taken := { call with posted := none }
  let replied (reply : ConsumeReply) : Call :=
    if outcome = .lost then taken else { taken with reply := some reply }
  match call.posted, outcome with
  | none, _ => s
  | some _, .failed => s.setCall n (replied .unavailable)
  | some none, _ => s.setCall n (replied .unavailable)
  | some (some c), _ =>
    match s.consume host clk (some n) c with
    | some (grant, s') => s'.setCall n (replied (.granted grant))
    | none => s.setCall n (replied .denied)

/-- The page is given the request, when the call still may send. -/
def Grants.dispatch (s : Grants) (n : Nat) (epochKept : Bool) : Grants :=
  let call := s.calls n
  let s' := s.setCall n (call.dispatch epochKept)
  match call.request with
  | some request =>
    if call.sends epochKept then
      { s' with
        sent := ⟨n, request, call.session, call.money, call.grant⟩ :: s.sent }
    else s'
  | none => s'

inductive CallOp
  | arrive (req : ExecuteRequest) (found : Option LiveSession) (expired : Bool)
  | lock
  | prove (epochKept : Bool)
  | fail (message : String)
  | carryOut (outcome : Outcome)
  | authority (timeout : Bool)
  | dispatch (epochKept : Bool)
  | finish (sessionGone : Bool)
  | abort (reason : AbortReason)

inductive GrantsOp
  | queue (op : QueueOp)
  | issue (ask : OperationAsk) (stored : Bool)
  | cleanup
  | consume (c : Capability)
  | call (n : Nat) (op : CallOp)

def Call.step (clk : Clock) (op : CallOp) (call : Call) : Call :=
  match op with
  | .arrive req found expired => call.arrive host clk req found expired
  | .lock => call.lock clk
  | .prove epochKept => call.prove host epochKept
  | .fail message => call.fail message
  | .authority timeout => call.authority timeout
  | .finish sessionGone => call.finish sessionGone
  | .abort reason => call.fire clk reason
  | .dispatch epochKept => call.dispatch epochKept
  | .carryOut _ => call

def Grants.step (s : Grants) (e : Clock × GrantsOp) : Grants :=
  match e.2 with
  | .queue op => { s with queue := Tasks.step s.queue (e.1, op) }
  | .issue ask stored => s.issue host accountOf e.1 ask stored
  | .cleanup => { s with uses := fun key => (s.uses key).filter fun entry => !expired e.1 entry.2 }
  | .consume c => ((s.consume host e.1 none c).map Prod.snd).getD s
  | .call n (.carryOut outcome) => s.carryOut host e.1 n outcome
  | .call n (.dispatch epochKept) => s.dispatch n epochKept
  | .call n op => s.setCall n ((s.calls n).step host e.1 op)

-- ------------------------------------------------------------
-- The ledger
-- ------------------------------------------------------------

/-- What the row under a nonce compares, of the capability that is presented. -/
def Capability.Stored (c c' : Capability) : Prop :=
  host.sha.hexdigest c.nonce = host.sha.hexdigest c'.nonce ∧
    pendingUse host.toCapabilityHost c = pendingUse host.toCapabilityHost c'

/-- The presented capability is the issued one, and its task stood behind it. -/
structure Consumption.Spends (d : Consumption) (g : Grant) : Prop where
  stored : d.presented.Stored host g.capability
  authorized : authorized d.clk g.capability.fence d.task = true
  live : d.clk.wall < seconds g.capability.expiresAtEpoch
  binds : Binds host.toCapabilityHost accountOf d.task g.capability g.operation

structure Grants.Ledger (s : Grants) : Prop where
  use : ∀ key i u, s.uses key = some (i, u) → ∃ g, s.grants.rows i = some g ∧
    key = host.sha.hexdigest g.capability.nonce ∧
    { u with consumedAt := none } = pendingUse host.toCapabilityHost g.capability ∧
    (u.consumedAt = none → ∀ d ∈ s.consumptions, d.grant ≠ i)
  spent : ∀ d ∈ s.consumptions, ∃ g, s.grants.rows d.grant = some g ∧ d.Spends host accountOf g
  once : (s.consumptions.map (·.grant)).Nodup
  task : ∀ i g, s.grants.rows i = some g → ∃ row, s.queue.rows g.capability.taskId = some row ∧
    Binds host.toCapabilityHost accountOf row g.capability g.operation

variable {host accountOf}
variable {s s' : Grants} {clk : Clock} {call : Option Nat} {c : Capability} {i n : Nat}

theorem consumePending_spec {task : TaskRow} {use use' : CapabilityUse}
    (h : consumePending host.toCapabilityHost clk c (some task) (some use) = some use') :
    authorized clk c.fence task = true ∧
      { use with consumedAt := none } = pendingUse host.toCapabilityHost c ∧ use.consumedAt = none ∧
      clk.wall < use.expiresAt ∧ use' = { use with consumedAt := some clk.wall } := by
  unfold consumePending at h
  split at h
  · dsimp only [consumeUse] at h
    split at h
    · rename_i hall
      exact ⟨hall.1, hall.2.1, hall.2.2.1, hall.2.2.2, (Option.some.inj h).symm⟩
    · cases h
  · cases h

theorem Grants.consume_spec (h : s.consume host clk call c = some (i, s')) :
    ∃ task use, s.queue.rows c.taskId = some task ∧ s.uses
      (host.sha.hexdigest c.nonce) = some (i, use) ∧
      authorized clk c.fence task = true ∧
      { use with consumedAt := none } = pendingUse host.toCapabilityHost c ∧ use.consumedAt = none ∧
      clk.wall < use.expiresAt ∧
      s' = { s.setUse (host.sha.hexdigest c.nonce)
        (i, { use with consumedAt := some clk.wall }) with
        consumptions := ⟨i, call, c, task, clk⟩ :: s.consumptions } := by
  simp only [Grants.consume] at h
  split at h
  · rename_i task grant use htask huse
    obtain ⟨use', huse', heq⟩ := Option.map_eq_some_iff.mp h
    obtain ⟨hauthorized, hstored, hpending, hlive, rfl⟩ := consumePending_spec huse'
    cases heq
    exact ⟨task, use, htask, huse, hauthorized, hstored, hpending, hlive, rfl⟩
  · cases h

theorem Grants.issue_cases (ask : OperationAsk) (stored : Bool) :
    s.issue host accountOf clk ask stored = s ∨ ∃ c row, s.queue.rows c.taskId = some row ∧
      Binds host.toCapabilityHost accountOf row c ask.operation ∧ s.uses
        (host.sha.hexdigest c.nonce) = none ∧
      s.issue host accountOf clk ask stored =
        { s.setUse (host.sha.hexdigest c.nonce)
          (s.grants.next, pendingUse host.toCapabilityHost c) with
          grants := s.grants.insert ⟨c, ask.operation⟩ } := by
  simp only [Grants.issue]
  split
  · rename_i c hc
    split
    · rename_i hstored
      obtain ⟨row, hrow, htask, -, -, hbinds⟩ := prepareOperationAuthorization_ok hc
      exact .inr ⟨c, row, htask ▸ hrow, hbinds, by simpa using hstored.2, rfl⟩
    · exact .inl rfl
  · exact .inl rfl

/-- Everything a task is asked for is on columns its row keeps. -/
theorem Binds.rowStep {row row' : TaskRow} {operation : Operation}
    (h : Binds host.toCapabilityHost accountOf row c operation) (hstep : RowStep clk row row') :
    Binds host.toCapabilityHost accountOf row' c operation := by
  obtain ⟨htype, -, hpayload⟩ := hstep.identity
  have hscan : row.taskType ≠ .observerScan := by
    rcases h.mutation with hmutation | hcampaign
    · simp [hmutation]
    · simp [hcampaign]
  refine ⟨htype ▸ h.mutation, ?_, h.rpc, h.graph, hpayload hscan ▸ h.status⟩
  simpa [boundAdAccountId, htype, hpayload hscan] using h.cabinet

theorem Capability.Stored.fields {c' : Capability} (h : c.Stored host c') :
    c.browserContractVersion = c'.browserContractVersion ∧ c.rpc = c'.rpc ∧ c.caller = c'.caller ∧
      c.taskId = c'.taskId ∧ c.leaseOwner = c'.leaseOwner ∧ c.leaseToken = c'.leaseToken ∧
      c.sessionId = c'.sessionId ∧ c.visionProfileId = c'.visionProfileId ∧
        c.adAccountId = c'.adAccountId ∧
      c.expiresAtEpoch = c'.expiresAtEpoch ∧
        host.sha.hexdigest c.operation = host.sha.hexdigest c'.operation := by
  have hrow := h.2
  simp only [pendingUse, CapabilityUse.mk.injEq, seconds, and_true] at hrow
  obtain ⟨-, hoperation, hversion, hcaller, hrpc, htask, howner, htoken, hsession, hprofile,
      haccount, hexpires⟩ := hrow
  exact ⟨hversion, hrpc, hcaller, htask, howner, htoken, hsession, hprofile, haccount, by omega,
    hoperation⟩

theorem Capability.Stored.fence {c' : Capability} (h : c.Stored host c') : c.fence = c'.fence := by
  obtain ⟨-, -, -, -, howner, htoken, -⟩ := h.fields
  simp [Capability.fence, howner, htoken]

theorem Grants.Ledger.congr (h : s.Ledger host accountOf) (hqueue : s'.queue = s.queue)
    (hgrants : s'.grants = s.grants) (huses : s'.uses = s.uses)
    (hcons : s'.consumptions = s.consumptions) :
    s'.Ledger host accountOf := by
  refine ⟨?_, ?_, ?_, ?_⟩
  · rw [hgrants, huses, hcons]
    exact h.use
  · rw [hgrants, hcons]
    exact h.spent
  · rw [hcons]
    exact h.once
  · rw [hgrants, hqueue]
    exact h.task

theorem Grants.Ledger.consume (h : s.Ledger host accountOf)
    (hc : s.consume host clk call c = some (i, s')) :
    s'.Ledger host accountOf := by
  obtain ⟨task, use, htask, huse, hauthorized, hstored, hpending, hlive, rfl⟩ :=
    Grants.consume_spec hc
  obtain ⟨g, hg, hkey, hrow, hfree⟩ := h.use _ _ _ huse
  have hissued : c.Stored host g.capability := ⟨hkey, hstored.symm.trans hrow⟩
  refine ⟨?_, ?_, ?_, h.task⟩
  · rintro key j u hu
    simp only [Grants.setUse] at hu
    split at hu
    · rename_i hkey'
      cases hu
      exact ⟨g, hg, hkey'.trans hkey, hrow, fun hnone => by cases hnone⟩
    · rename_i hne
      obtain ⟨g', hg', hkey', hrow', hfree'⟩ := h.use key j u hu
      refine ⟨g', hg', hkey', hrow', ?_⟩
      rintro hnone d (_ | ⟨_, hd⟩)
      · -- the grants of two keys are different
        rintro rfl
        obtain rfl : g = g' := Option.some.inj (hg.symm.trans hg')
        exact hne (hkey'.trans hkey.symm)
      · exact hfree' hnone d hd
  · rintro d (_ | ⟨_, hd⟩)
    · obtain ⟨row, hrow', hbinds⟩ := h.task i g hg
      obtain ⟨-, -, -, htaskId, -⟩ := hissued.fields
      obtain rfl : task = row := Option.some.inj ((htaskId ▸ htask).symm.trans hrow')
      have hexpires : use.expiresAt = seconds g.capability.expiresAtEpoch :=
        congrArg (·.expiresAt) hrow
      exact ⟨g, hg, hissued, hissued.fence ▸ hauthorized, hexpires ▸ hlive, hbinds⟩
    · exact h.spent d hd
  · rw [List.map_cons, List.nodup_cons]
    refine ⟨?_, h.once⟩
    rintro hmem
    obtain ⟨d, hd, hgrant⟩ := List.mem_map.mp hmem
    exact hfree hpending d hd hgrant

theorem Grants.Ledger.issue (h : s.Ledger host accountOf) (ask : OperationAsk) (stored : Bool) :
    (s.issue host accountOf clk ask stored).Ledger host accountOf := by
  obtain heq | ⟨c, row, hrow, hbinds, hnew, heq⟩ :=
    @Grants.issue_cases host accountOf s clk ask stored
  · rw [heq]
    exact h
  have hfresh : ∀ {j g}, s.grants.rows j = some g → j ≠ s.grants.next := by
    rintro j g hj rfl
    rw [s.grants.unused _ (Nat.le_refl _)] at hj
    cases hj
  have hkeep : ∀ {j g}, s.grants.rows j = some g →
      (s.grants.insert ⟨c, ask.operation⟩).rows j = some g := by
    intro j g hj
    rw [Table.insert_rows, if_neg (hfresh hj), hj]
  rw [heq]
  refine ⟨?_, ?_, h.once, ?_⟩
  · rintro key j u hu
    simp only [Grants.setUse] at hu
    split at hu
    · rename_i hkey
      cases hu
      refine ⟨⟨c, ask.operation⟩, by simp [Table.insert_rows], hkey, rfl, ?_⟩
      rintro - d hd
      obtain ⟨g, hg, -⟩ := h.spent d hd
      exact hfresh hg
    · obtain ⟨g, hg, hrest⟩ := h.use key j u hu
      exact ⟨g, hkeep hg, hrest⟩
  · rintro d hd
    obtain ⟨g, hg, hspends⟩ := h.spent d hd
    exact ⟨g, hkeep hg, hspends⟩
  · rintro j g hj
    rw [Table.insert_rows] at hj
    split at hj
    · cases hj
      exact ⟨row, hrow, hbinds⟩
    · exact h.task j g hj

variable {outcome : Outcome}

theorem Grants.carryOut_cases :
    s.carryOut host clk n outcome = s ∨
    (∃ reply, (s.calls n).posted.isSome = true ∧
      (∀ i, reply = some (.granted i) → (s.calls n).reply = some (.granted i)) ∧
      s.carryOut host clk n outcome = s.setCall n { s.calls n with posted := none, reply }) ∨
    ∃ c i s' reply, (s.calls n).posted = some (some c) ∧
      s.consume host clk (some n) c = some (i, s') ∧
      (reply = some (.granted i) ∨ reply = (s.calls n).reply) ∧
      s.carryOut host clk n outcome = s'.setCall n { s.calls n with posted := none, reply } := by
  simp only [Grants.carryOut]
  split
  · exact .inl rfl
  · rename_i hposted
    exact .inr (.inl ⟨some .unavailable, by simp [hposted], by simp, rfl⟩)
  · rename_i hposted _
    split
    · exact .inr (.inl ⟨(s.calls n).reply, by simp [hposted], fun _ => id, rfl⟩)
    · exact .inr (.inl ⟨some .unavailable, by simp [hposted], by simp, rfl⟩)
  · rename_i c hposted _
    split
    · rename_i i s' hconsume
      split
      · exact .inr (.inr ⟨c, i, s', (s.calls n).reply, hposted, hconsume, .inr rfl, rfl⟩)
      · exact .inr (.inr ⟨c, i, s', some (.granted i), hposted, hconsume, .inl rfl, rfl⟩)
    · split
      · exact .inr (.inl ⟨(s.calls n).reply, by simp [hposted], fun _ => id, rfl⟩)
      · exact .inr (.inl ⟨some .denied, by simp [hposted], by simp, rfl⟩)

theorem Grants.dispatch_frame (epochKept : Bool) :
    (s.dispatch n epochKept).queue = s.queue ∧ (s.dispatch n epochKept).grants = s.grants ∧
      (s.dispatch n epochKept).uses = s.uses ∧
      (s.dispatch n epochKept).consumptions = s.consumptions := by
  simp only [Grants.dispatch]
  split
  · split <;> exact ⟨rfl, rfl, rfl, rfl⟩
  · exact ⟨rfl, rfl, rfl, rfl⟩

theorem Grants.Ledger.step (h : s.Ledger host accountOf) (e : Clock × GrantsOp) :
    (s.step host accountOf e).Ledger host accountOf := by
  obtain ⟨clk, op⟩ := e
  cases op with
  | queue op =>
    refine ⟨h.use, h.spent, h.once, ?_⟩
    rintro i g hg
    obtain ⟨row, hrow, hbinds⟩ := h.task i g hg
    obtain ⟨row', hrow', hstep⟩ := step_stored (clk, op) hrow
    exact ⟨row', hrow', hbinds.rowStep hstep⟩
  | issue ask stored => exact h.issue ask stored
  | cleanup =>
    refine ⟨?_, h.spent, h.once, h.task⟩
    rintro key i u hu
    exact h.use key i u (Option.eq_some_of_filter_eq_some hu)
  | consume c =>
    cases hconsume : s.consume host clk none c with
    | none => simpa [Grants.step, hconsume] using h
    | some result => simpa [Grants.step, hconsume] using h.consume hconsume
  | call n op =>
    cases op with
    | carryOut outcome =>
      simp only [Grants.step]
      obtain heq | ⟨reply, -, -, heq⟩ | ⟨c, i, s', reply, -, hconsume, -, heq⟩ :=
        @Grants.carryOut_cases host s clk n outcome
      · rw [heq]
        exact h
      · rw [heq]
        exact h.congr rfl rfl rfl rfl
      · rw [heq]
        exact (h.consume hconsume).congr rfl rfl rfl rfl
    | dispatch epochKept =>
      obtain ⟨hqueue, hgrants, huses, hcons⟩ := @Grants.dispatch_frame s n epochKept
      exact h.congr hqueue hgrants huses hcons
    | _ => exact h.congr rfl rfl rfl rfl

-- ------------------------------------------------------------
-- Calls
-- ------------------------------------------------------------

def Call.Presents (host : AgentHost) (call : Call) (c : Capability) : Prop :=
  ∃ req session, call.request = some req ∧ call.session = some session ∧
    consumeRequest host req (moneyBinding host req session) = some c

/-- A call past its grant has a consumption of its own; one that needs none is a
reading; and it is answered before its end only when it is aborted. -/
structure Call.Ok (host : AgentHost) (cs : List Consumption) (n : Nat) (call : Call) : Prop where
  fresh : call.phase = .idle → call = {}
  posts : call.phase = .posted → call.money = true
  posted : ∀ c, call.posted = some (some c) → call.Presents host c
  replied : ∀ i, call.reply = some (.granted i) →
    ∃ d ∈ cs, d.grant = i ∧ d.call = some n ∧ call.Presents host d.presented
  grant : ∀ i, call.grant = some i →
    call.money = true ∧ ∃ d ∈ cs, d.grant = i ∧ d.call = some n ∧ call.Presents host d.presented
  granted : call.phase = .granted → call.consumed = true ∧ ∃ i, call.grant = some i
  plain : ∀ req, call.request = some req → call.money = false →
    isMoneyControlGraphCall req.params = false
  answered : call.answer.isSome = true → call.abort.isSome = true ∨ call.phase = .over

structure Call.Moves (host : AgentHost) (call call' : Call) : Prop where
  request : call'.request = call.request
  session : call'.session = call.session
  money : call'.money = call.money
  reply : call'.reply = call.reply
  idle : call'.phase = .idle → call' = call
  posts : call'.phase = .posted → call.phase = .posted ∨ call.money = true
  posted : call'.posted = call.posted ∨ ∀ c, call'.posted = some (some c) → call.Presents host c
  grant : call'.grant = call.grant ∨
    call.phase = .posted ∧ ∃ i, call.reply = some (.granted i) ∧ call'.grant = some i
  granted : call'.phase = .granted →
    (call.phase = .granted ∧ call'.consumed = call.consumed ∧ call'.grant = call.grant) ∨
      call'.consumed = true ∧ ∃ i, call'.grant = some i
  answered : call'.answer = call.answer ∧ (call.abort.isSome = true → call'.abort.isSome = true) ∧
    (call.phase = .over → call'.phase = .over) ∨ call'.abort.isSome = true ∨ call'.phase = .over

variable {k k' : Call} {cs : List Consumption}

theorem Call.Moves.refl (k : Call) : k.Moves host k :=
  ⟨rfl, rfl, rfl, rfl, fun _ => rfl, .inl, .inl rfl, .inl rfl, fun h => .inl ⟨h, rfl, rfl⟩,
    .inl ⟨rfl, id, id⟩⟩

theorem Call.Moves.ends (k : Call) (answer : Option Answer) :
    k.Moves host { k with phase := .over, answer } :=
  ⟨rfl, rfl, rfl, rfl, by simp, by simp, .inl rfl, .inl rfl, by simp, .inr (.inr rfl)⟩

theorem Call.Moves.advances {phase : CallPhase} (hphase : k.phase = phase) (hopen : phase ≠ .over) :
    k.Moves host { k with phase := .located } :=
  ⟨rfl, rfl, rfl, rfl, by simp, by simp, .inl rfl, .inl rfl, by simp,
    .inl ⟨rfl, id, fun h => absurd (hphase.symm.trans h) hopen⟩⟩

theorem Call.Moves.throw (k : Call) (message : String) : k.Moves host (k.throw message) := by
  simp only [Call.throw, Call.respond]
  split <;> exact .ends k _

theorem Call.lock_moves : k.Moves host (k.lock clk) := by
  unfold Call.lock
  split
  · rename_i req hphase hreq
    split
    · exact .ends k _
    split
    · exact .advances hphase (by simp)
    split
    · unfold Call.bindExpiry
      split
      · exact ⟨rfl, rfl, rfl, rfl, by simp [Call.respond], by simp [Call.respond],
          .inl rfl, .inl rfl,
          by simp [Call.respond], .inr (.inl rfl)⟩
      · exact .advances hphase (by simp)
    · exact .throw k _
  · exact .refl k

theorem Call.prove_moves (epochKept : Bool) : k.Moves host (k.prove host epochKept) := by
  unfold Call.prove
  split
  · rename_i req session hphase hreq hsession
    split
    · exact .refl k
    rename_i hmoney
    split
    · exact .ends k _
    split
    · refine ⟨rfl, rfl, rfl, rfl, by simp, fun _ => .inr (by simpa using hmoney), .inr ?_,
        .inl rfl, by simp,
        .inl ⟨rfl, id, by simp [hphase]⟩⟩
      rintro c hc
      exact ⟨req, session, hreq, hsession, Option.some.inj hc⟩
    · exact .throw k _
  · exact .refl k

theorem Call.fail_moves (message : String) : k.Moves host (k.fail message) := by
  unfold Call.fail
  split
  · exact .throw k _
  · exact .throw k _
  · exact .refl k

theorem Call.authority_moves (timeout : Bool) : k.Moves host (k.authority timeout) := by
  unfold Call.authority
  split
  · rename_i hphase
    split
    · exact .ends k _
    split
    · exact .throw k _
    split
    · rename_i grant hreply
      exact ⟨rfl, rfl, rfl, rfl, by simp, by simp, .inl rfl, .inr ⟨hphase, grant, hreply, rfl⟩,
        fun _ => .inr ⟨rfl, grant, rfl⟩, .inl ⟨rfl, id, by simp [hphase]⟩⟩
    · exact .throw k _
    · exact .throw k _
    · exact .refl k
  · exact .refl k

theorem Call.dispatch_moves (epochKept : Bool) : k.Moves host (k.dispatch epochKept) := by
  unfold Call.dispatch
  split
  · rename_i hready
    have hphase : k.phase ≠ .over := by
      rintro hover
      simp [Call.ready, hover] at hready
    split
    · exact .ends k _
    split
    · exact ⟨rfl, rfl, rfl, rfl, by simp, by simp, .inl rfl, .inl rfl, by simp,
        .inl ⟨rfl, id, fun h => absurd h hphase⟩⟩
    · exact .throw k _
  · exact .refl k

theorem Call.finish_moves (sessionGone : Bool) : k.Moves host (k.finish sessionGone) := by
  unfold Call.finish
  split
  · split
    · exact .ends k _
    split
    · exact .throw k _
    · exact .ends k _
  · exact .refl k

theorem Call.fire_moves (reason : AbortReason) : k.Moves host (k.fire clk reason) := by
  unfold Call.fire
  extract_lets due
  split
  · rename_i hdue
    simp only [Bool.and_eq_true, bne_iff_ne, ne_eq] at hdue
    exact ⟨rfl, rfl, rfl, rfl, fun h => absurd h hdue.1.2, fun h => .inl h, .inl rfl, .inl rfl,
      fun h => .inl ⟨h, rfl, rfl⟩, .inr (.inl rfl)⟩
  · exact .refl k

theorem Call.Ok.moves (h : k.Ok host cs n) (hm : k.Moves host k') : k'.Ok host cs n := by
  have hpresents : ∀ c, k.Presents host c → k'.Presents host c := by
    rintro c ⟨req, session, hreq, hsession, hc⟩
    exact ⟨req, session, hm.request.trans hreq, hm.session.trans hsession, hc⟩
  refine ⟨?_, ?_, ?_, ?_, ?_, ?_, ?_, ?_⟩
  · rintro hidle
    have heq := hm.idle hidle
    rw [heq] at hidle ⊢
    exact h.fresh hidle
  · rintro hposted
    rw [hm.money]
    exact (hm.posts hposted).elim h.posts id
  · rintro c hc
    rcases hm.posted with hsame | hnew
    · exact hpresents c (h.posted c (hsame ▸ hc))
    · exact hpresents c (hnew c hc)
  · rintro i hi
    obtain ⟨d, hd, hgrant, hcall, hpresented⟩ := h.replied i (hm.reply ▸ hi)
    exact ⟨d, hd, hgrant, hcall, hpresents _ hpresented⟩
  · rintro i hi
    rw [hm.money]
    have hspends : k.money = true ∧ ∃ d ∈ cs, d.grant = i ∧ d.call = some n ∧
        k.Presents host d.presented := by
      rcases hm.grant with hsame | ⟨hposted, j, hreply, hj⟩
      · exact h.grant i (hsame ▸ hi)
      · obtain rfl : i = j := Option.some.inj (hi.symm.trans hj)
        exact ⟨h.posts hposted, h.replied i hreply⟩
    obtain ⟨hmoney, d, hd, hgrant, hcall, hpresented⟩ := hspends
    exact ⟨hmoney, d, hd, hgrant, hcall, hpresents _ hpresented⟩
  · rintro hgranted
    rcases hm.granted hgranted with ⟨hwas, hconsumed, hgrant⟩ | hnew
    · rw [hconsumed, hgrant]
      exact h.granted hwas
    · exact hnew
  · rintro req hreq hplain
    exact h.plain req (hm.request ▸ hreq) (hm.money ▸ hplain)
  · rintro hanswer
    rcases hm.answered with ⟨hsame, habort, hover⟩ | hnew
    · rw [hsame] at hanswer
      exact (h.answered hanswer).imp habort hover
    · exact hnew

theorem Call.Ok.mono (h : k.Ok host cs n) {cs' : List Consumption} (hsub : cs ⊆ cs') :
    k.Ok host cs' n :=
  { h with
    replied := fun i hi => (h.replied i hi).imp fun _ hd => ⟨hsub hd.1, hd.2⟩
    grant := fun i hi => ⟨(h.grant i hi).1, (h.grant i hi).2.imp fun _ hd => ⟨hsub hd.1, hd.2⟩⟩ }

theorem checkArrival_ok {req : ExecuteRequest} {found session : Option LiveSession} {money : Bool}
    (h : checkArrival host clk req found = .ok (money, session)) (hplain : money = false) :
    isMoneyControlGraphCall req.params = false := by
  simp only [checkArrival] at h
  split at h
  · cases h
  split at h
  · cases h
  split at h
  · rename_i hmoney
    simp only [Bool.or_eq_false_iff] at hmoney
    exact hmoney.1
  iterate 3 (split at h; · cases h)
  cases h
  cases hplain

theorem Call.Ok.arrive (h : k.Ok host cs n) (req : ExecuteRequest) (found : Option LiveSession)
    (late : Bool) :
    (k.arrive host clk req found late).Ok host cs n := by
  unfold Call.arrive
  split
  · exact h
  rename_i hidle
  obtain rfl := h.fresh (by simpa using hidle)
  split
  · exact ⟨by simp [Call.respond], by simp [Call.respond], by simp [Call.respond], by
      simp [Call.respond],
      by simp [Call.respond], by simp [Call.respond], by simp [Call.respond], fun _ => .inr rfl⟩
  split
  · exact h.moves (.throw _ _)
  · rename_i money session hcheck
    refine ⟨by simp, by simp, by simp, by simp, by simp, by simp, ?_, by simp⟩
    rintro req' hreq hplain
    cases hreq
    exact checkArrival_ok hcheck hplain

structure Call.Spoken (call : Call) : Prop where
  phase : call.phase = .dispatched ∨ call.phase = .over
  consumed : call.money = true → call.consumed = true
  answer : ∀ a, call.answer = some a → a.status.provesUnsent = false

theorem Call.Spoken.respond (h : k.Spoken) {a : Answer} (ha : a.status.provesUnsent = false) :
    (k.respond a).Spoken := by
  refine ⟨h.phase, h.consumed, ?_⟩
  rintro b hb
  simp only [Call.respond] at hb
  cases hanswer : k.answer with
  | none =>
    rw [hanswer] at hb
    obtain rfl := Option.some.inj hb
    exact ha
  | some c => exact h.answer b (by simpa [hanswer] using hb)

theorem Call.Spoken.over (h : k.Spoken) : ({ k with phase := .over } : Call).Spoken :=
  ⟨.inr rfl, h.consumed, h.answer⟩

theorem Call.Spoken.abort (h : k.Spoken) (reason : AbortReason) :
    ({ k with abort := some reason } : Call).Spoken :=
  ⟨h.phase, h.consumed, h.answer⟩

/-- An abort after the consumption leaves the outcome open. -/
theorem Call.Spoken.fire (h : k.Spoken) (reason : AbortReason) : (k.fire clk reason).Spoken := by
  cases reason with
  | capabilityExpiryMissing => simpa [Call.fire] using h
  | capabilityExpired =>
    unfold Call.fire
    extract_lets due
    split
    · rename_i hdue
      have hmoney : k.money = true := by
        simp only [Bool.and_eq_true, due] at hdue
        exact hdue.1.1.1.1.1
      have hanswer : (grpcAbortError .capabilityExpired k.consumed).status.provesUnsent =
          false := by
        rw [h.consumed hmoney]
        rfl
      exact (h.abort _).respond hanswer
    · exact h
  | grpcCancelled | grpcClosed | grpcDeadlineExceeded =>
    unfold Call.fire
    extract_lets due
    split
    · refine (h.abort _).respond ?_
      rfl
    · exact h

theorem Call.Spoken.finish (h : k.Spoken) (sessionGone : Bool) : (k.finish sessionGone).Spoken := by
  have hplain : ∀ c ∈ ((k.session.map (·.id)).getD "").toList, isHexDigit c = true ∨ c = '-' := by
    cases k.session with
    | none => simp
    | some session => exact session.plain
  have hlost := lostSession_status hplain
  rw [← grpcErrorForOperationFailure_status] at hlost
  unfold Call.finish
  split
  · split
    · exact h.over
    split
    · unfold Call.throw
      split
      · exact h.over
      · exact h.over.respond hlost
    · exact h.over.respond rfl
  · exact h

theorem Call.Spoken.dispatch (h : k.Spoken) (epochKept : Bool) : (k.dispatch epochKept).Spoken := by
  rcases h.phase with hp | hp <;> simpa [Call.dispatch, Call.ready, hp] using h

/-- Nothing an ended call is given changes what it proves. -/
theorem Call.Spoken.step (h : k.Spoken) (op : CallOp) : (k.step host clk op).Spoken := by
  have hphase := h.phase
  cases op with
  | arrive req found late =>
    simp only [Call.step, Call.arrive]
    rw [if_pos (by rcases hphase with hp | hp <;> simp [hp])]
    exact h
  | lock =>
    rcases hphase with hp | hp <;> simpa [Call.step, Call.lock, hp] using h
  | prove epochKept =>
    rcases hphase with hp | hp <;> simpa [Call.step, Call.prove, hp] using h
  | fail message =>
    rcases hphase with hp | hp <;> simpa [Call.step, Call.fail, hp] using h
  | authority timeout =>
    rcases hphase with hp | hp <;> simpa [Call.step, Call.authority, hp] using h
  | dispatch epochKept => exact h.dispatch epochKept
  | carryOut outcome => exact h
  | finish sessionGone => exact h.finish sessionGone
  | abort reason => exact h.fire reason

theorem Call.Ok.step (h : k.Ok host cs n) (op : CallOp) : (k.step host clk op).Ok host cs n := by
  cases op with
  | arrive req found late => exact h.arrive req found late
  | lock => exact h.moves k.lock_moves
  | prove epochKept => exact h.moves (k.prove_moves epochKept)
  | fail message => exact h.moves (k.fail_moves message)
  | authority timeout => exact h.moves (k.authority_moves timeout)
  | dispatch epochKept => exact h.moves (k.dispatch_moves epochKept)
  | carryOut outcome => exact h
  | finish sessionGone => exact h.moves (k.finish_moves sessionGone)
  | abort reason => exact h.moves (k.fire_moves reason)

-- ------------------------------------------------------------
-- What is sent
-- ------------------------------------------------------------

/-- A request that was sent is a reading, or a consumption stands behind it. -/
def Sent.Backed (host : AgentHost) (cs : List Consumption) (x : Sent) : Prop :=
  (x.money = false → x.grant = none ∧ isMoneyControlGraphCall x.request.params = false) ∧
    (x.money = true → ∃ d ∈ cs, ∃ session, x.grant = some d.grant ∧ d.call = some x.call ∧
      x.session = some session ∧
      consumeRequest host x.request (moneyBinding host x.request session) = some d.presented)

theorem Sent.Backed.mono {x : Sent} (h : x.Backed host cs) {cs' : List Consumption}
    (hsub : cs ⊆ cs') :
    x.Backed host cs' :=
  ⟨h.1, fun hmoney => (h.2 hmoney).imp fun _ hd => ⟨hsub hd.1, hd.2⟩⟩

variable (host accountOf) in
structure Grants.Inv (s : Grants) : Prop where
  ledger : s.Ledger host accountOf
  calls : ∀ n, (s.calls n).Ok host s.consumptions n
  backed : ∀ x ∈ s.sent, x.Backed host s.consumptions
  spoken : ∀ x ∈ s.sent, (s.calls x.call).Spoken
  once : (s.sent.map (·.call)).Nodup

theorem Grants.Inv.keep (h : s.Inv host accountOf) (hledger : s'.Ledger host accountOf)
    (hcons : s.consumptions ⊆ s'.consumptions) (hsent : s'.sent = s.sent)
    (hcalls : ∀ m, (s'.calls m).Ok host s'.consumptions m)
    (hspoken : ∀ m, (s.calls m).Spoken → (s'.calls m).Spoken) : s'.Inv host accountOf := by
  refine ⟨hledger, hcalls, ?_, ?_, ?_⟩
  · rintro x hx
    exact (h.backed x (hsent ▸ hx)).mono hcons
  · rintro x hx
    exact hspoken _ (h.spoken x (hsent ▸ hx))
  · rw [hsent]
    exact h.once

theorem Call.ready_cases (h : k.ready = true) :
    k.phase = .granted ∨ k.phase = .located ∧ k.money = false := by
  simpa [Call.ready] using h

theorem Call.Ok.sends (h : k.Ok host cs n) {epochKept : Bool} (hsends : k.sends epochKept = true) :
    ¬ k.Spoken ∧ (k.dispatch epochKept).Spoken := by
  simp only [Call.sends, Bool.and_eq_true, Option.isNone_iff_eq_none] at hsends
  obtain ⟨⟨hready, habort⟩, hkept⟩ := hsends
  have hover : k.phase ≠ .dispatched ∧ k.phase ≠ .over := by
    rcases Call.ready_cases hready with hp | ⟨hp, -⟩ <;> simp [hp]
  refine ⟨fun hspoken => hspoken.phase.elim hover.1 hover.2, ?_⟩
  rw [Call.dispatch, if_pos hready, if_neg (by simp [habort]), if_pos hkept]
  refine ⟨.inl rfl, ?_, ?_⟩
  · rintro hmoney
    rcases Call.ready_cases hready with hp | ⟨-, hplain⟩
    · exact (h.granted hp).1
    · exact absurd hmoney (by simp [hplain])
  · rintro a ha
    rcases h.answered (Option.isSome_of_eq_some ha) with haborted | hended
    · simp [habort] at haborted
    · exact absurd hended hover.2

theorem Grants.Inv.dispatch (h : s.Inv host accountOf) (epochKept : Bool) :
    (s.dispatch n epochKept).Inv host accountOf := by
  have hcalls : ∀ m, ((s.setCall n ((s.calls n).dispatch epochKept)).calls m).Ok host
      s.consumptions m := by
    intro m
    simp only [Grants.setCall]
    split
    · rename_i hm
      exact hm ▸ (h.calls n).moves ((s.calls n).dispatch_moves epochKept)
    · exact h.calls m
  have hspoken : ∀ m, (s.calls m).Spoken →
      ((s.setCall n ((s.calls n).dispatch epochKept)).calls m).Spoken := by
    intro m hm
    simp only [Grants.setCall]
    split
    · rename_i heq
      exact (heq ▸ hm : (s.calls n).Spoken).dispatch epochKept
    · exact hm
  have hkept : (s.setCall n ((s.calls n).dispatch epochKept)).Inv host accountOf :=
    h.keep (h.ledger.congr rfl rfl rfl rfl) (List.Subset.refl _) rfl hcalls hspoken
  simp only [Grants.dispatch]
  split
  case h_2 => exact hkept
  rename_i req hreq
  split
  case isFalse => exact hkept
  rename_i hsends
  obtain ⟨hsilent, hnow⟩ := (h.calls n).sends hsends
  refine ⟨hkept.ledger.congr rfl rfl rfl rfl, hcalls, ?_, ?_, ?_⟩
  · rintro x (_ | ⟨_, hx⟩)
    · refine ⟨?_, ?_⟩
      · rintro hmoney
        dsimp only at hmoney ⊢
        refine ⟨?_, (h.calls n).plain req hreq hmoney⟩
        rw [← Option.not_isSome_iff_eq_none, Option.isSome_iff_exists]
        rintro ⟨i, hi⟩
        simpa [hmoney] using ((h.calls n).grant i hi).1
      · rintro hmoney
        dsimp only at hmoney ⊢
        simp only [Call.sends, Bool.and_eq_true] at hsends
        rcases Call.ready_cases hsends.1.1 with hp | ⟨-, hplain⟩
        · obtain ⟨-, i, hi⟩ := (h.calls n).granted hp
          obtain ⟨-, d, hd, hgrant, hcall, req', session, hreq', hsession, hpresented⟩ :=
            (h.calls n).grant i hi
          obtain rfl : req = req' := Option.some.inj (hreq.symm.trans hreq')
          exact ⟨d, hd, session, hgrant ▸ hi, hcall, hsession, hpresented⟩
        · exact absurd hmoney (by simp [hplain])
    · exact h.backed x hx
  · rintro x (_ | ⟨_, hx⟩)
    · simpa [Grants.setCall] using hnow
    · exact hspoken _ (h.spoken x hx)
  · rw [List.map_cons, List.nodup_cons]
    refine ⟨?_, h.once⟩
    rintro hmem
    obtain ⟨x, hx, hcall⟩ := List.mem_map.mp hmem
    have hcall : x.call = n := hcall
    exact hsilent (hcall ▸ h.spoken x hx)

theorem Call.Ok.taken (h : k.Ok host cs n) {cs' : List Consumption} {reply : Option ConsumeReply}
    (hsub : cs ⊆ cs') (hposted : k.posted.isSome = true)
    (hreply : ∀ i, reply = some (.granted i) → ∃ d ∈ cs', d.grant = i ∧ d.call = some n ∧
      k.Presents host d.presented) :
    ({ k with posted := none, reply } : Call).Ok host cs' n := by
  have hwide := h.mono hsub
  refine ⟨?_, h.posts, by simp, hreply, hwide.grant, h.granted, h.plain, h.answered⟩
  rintro hidle
  rw [h.fresh hidle] at hposted
  cases hposted

theorem Call.Spoken.taken (h : k.Spoken) (reply : Option ConsumeReply) :
    ({ k with posted := none, reply } : Call).Spoken :=
  ⟨h.phase, h.consumed, h.answer⟩

theorem Grants.Inv.carryOut (h : s.Inv host accountOf) (outcome : Outcome) :
    (s.carryOut host clk n outcome).Inv host accountOf := by
  have hledger := h.ledger.step (clk, .call n (.carryOut outcome))
  simp only [Grants.step] at hledger
  obtain heq | ⟨reply, hposted, hreply, heq⟩ | ⟨c, i, s', reply, hposted, hconsume, hreply, heq⟩ :=
    @Grants.carryOut_cases host s clk n outcome
  · rw [heq]
    exact h
  · rw [heq] at hledger ⊢
    refine h.keep hledger (List.Subset.refl _) rfl ?_ ?_
    · intro m
      simp only [Grants.setCall]
      split
      · rename_i hm
        subst hm
        exact (h.calls m).taken (List.Subset.refl _) hposted fun i hi =>
          (h.calls m).replied i (hreply i hi)
      · exact h.calls m
    · intro m hspoken
      simp only [Grants.setCall]
      split
      · rename_i hm
        subst hm
        exact hspoken.taken reply
      · exact hspoken
  · rw [heq] at hledger ⊢
    obtain ⟨task, use, -, -, -, -, -, -, rfl⟩ := Grants.consume_spec hconsume
    have hsub : s.consumptions ⊆ ⟨i, some n, c, task, clk⟩ :: s.consumptions :=
      List.subset_cons_of_subset _ (List.Subset.refl _)
    refine h.keep hledger hsub rfl ?_ ?_
    · intro m
      simp only [Grants.setCall, Grants.setUse]
      split
      · rename_i hm
        subst hm
        refine (h.calls m).taken hsub (by simp [hposted]) ?_
        rintro j hj
        rcases hreply with hnew | hold
        · obtain ⟨⟩ : some (ConsumeReply.granted i) = some (.granted j) := hnew.symm.trans hj
          exact ⟨_, List.mem_cons_self, rfl, rfl, (h.calls m).posted c hposted⟩
        · obtain ⟨d, hd, hrest⟩ := (h.calls m).replied j (hold ▸ hj)
          exact ⟨d, hsub hd, hrest⟩
      · exact (h.calls m).mono hsub
    · intro m hspoken
      simp only [Grants.setCall, Grants.setUse]
      split
      · rename_i hm
        subst hm
        exact hspoken.taken reply
      · exact hspoken

theorem Grants.Inv.step (h : s.Inv host accountOf) (e : Clock × GrantsOp) :
    (s.step host accountOf e).Inv host accountOf := by
  have hledger := h.ledger.step e
  obtain ⟨clk, op⟩ := e
  have hsame : ∀ m, (s.calls m).Spoken → (s.calls m).Spoken := fun _ => id
  cases op with
  | queue op => exact h.keep hledger (List.Subset.refl _) rfl h.calls hsame
  | cleanup => exact h.keep hledger (List.Subset.refl _) rfl h.calls hsame
  | issue ask stored =>
    simp only [Grants.step] at hledger ⊢
    obtain heq | ⟨c, row, -, -, -, heq⟩ := @Grants.issue_cases host accountOf s clk ask stored
    · rw [heq]
      exact h
    · rw [heq] at hledger ⊢
      exact h.keep hledger (List.Subset.refl _) rfl h.calls hsame
  | consume c =>
    simp only [Grants.step] at hledger ⊢
    cases hconsume : s.consume host clk none c with
    | none => exact h
    | some result =>
      obtain ⟨i, s'⟩ := result
      rw [hconsume] at hledger
      obtain ⟨task, use, -, -, -, -, -, -, rfl⟩ := Grants.consume_spec hconsume
      have hsub : s.consumptions ⊆ ⟨i, none, c, task, clk⟩ :: s.consumptions :=
        List.subset_cons_of_subset _ (List.Subset.refl _)
      exact h.keep hledger hsub rfl (fun m => (h.calls m).mono hsub) hsame
  | call n op =>
    have hcall : (s.setCall n ((s.calls n).step host clk op)).Inv host accountOf := by
      refine h.keep (h.ledger.congr rfl rfl rfl rfl) (List.Subset.refl _) rfl ?_ ?_
      · intro m
        simp only [Grants.setCall]
        split
        · rename_i hm
          exact hm ▸ (h.calls n).step op
        · exact h.calls m
      · intro m hspoken
        simp only [Grants.setCall]
        split
        · rename_i hm
          subst hm
          exact hspoken.step op
        · exact hspoken
    cases op with
    | carryOut outcome => exact h.carryOut outcome
    | dispatch epochKept => exact h.dispatch epochKept
    | _ => exact hcall

theorem Grants.Inv.init : Grants.init.Inv host accountOf where
  ledger := by
    refine ⟨?_, ?_, List.nodup_nil, ?_⟩
    · rintro key i u ⟨⟩
    · rintro d ⟨⟩
    · rintro i g ⟨⟩
  calls := fun n =>
    ⟨fun _ => rfl, by simp [Grants.init], by simp [Grants.init], by simp [Grants.init], by
      simp [Grants.init],
      by simp [Grants.init], by simp [Grants.init], by simp [Grants.init]⟩
  backed := by
    rintro x ⟨⟩
  spoken := by
    rintro x ⟨⟩
  once := List.nodup_nil

theorem Grants.run_inv (es : List (Clock × GrantsOp)) :
    (run (Grants.step host accountOf) Grants.init es).Inv host accountOf :=
  run_preserves (fun _ e h => h.step e) Grants.Inv.init es

end StopBot.Browser
