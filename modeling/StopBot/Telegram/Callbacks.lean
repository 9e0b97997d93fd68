import StopBot.Telegram.Webhook

/-!
# What the stored webhook says about Telegram

A claim fixes what its generation wants (`Base`); a worker that holds the row
calls for the generation that is stored (`Held`). So a configured row names the
webhook Telegram has, a webhook is left behind by a rotation only, and what
Telegram delivers under the stored generation comes from the stored bot.
-/

namespace StopBot.Telegram.Webhook

open Lib
open Tasks (Clock)

-- ------------------------------------------------------------
-- Rows
-- ------------------------------------------------------------

structure Wanted (generation : Int) (operation : Option Operation)
    (desiredUrl : Option String) : Prop where
  bound : ∀ u, desiredUrl = some u → ∃ url, bindWebhookGeneration url generation = some u
  configure : operation = some .configure → desiredUrl ≠ none
  delete : operation = some .delete → desiredUrl = none

structure RowOk (r : ConfigRow) : Prop where
  wanted : Wanted r.generation r.operation r.desiredUrl
  idle : r.operation = none → r.state = .unconfigured
  empty : r.botTokenEncrypted = "" → r.state = .unconfigured
  leased : r.leaseToken ≠ none → r.state = .applying

structure Rewrite (row : Option ConfigRow) (r' : ConfigRow) : Prop where
  ok : RowOk r'
  newer : ∀ r, row = some r → r.generation < r'.generation ∨
    (r'.generation = r.generation ∧ r'.botTokenEncrypted = "")
  unleased : r'.leaseToken = none
  unconfigured : r'.state ≠ .configured

section
variable {row : Option ConfigRow} {r r' : ConfigRow} {now : Int} {target : Target}

theorem wanted_configure {generation : Int} {url text : String}
    (h : bindWebhookGeneration url generation = some text) : Wanted generation (some .configure)
    (some text) where
  bound := by
    rintro u hu
    obtain rfl := Option.some.inj hu
    exact ⟨url, h⟩
  configure := by simp
  delete := by simp

theorem wanted_delete (generation : Int) : Wanted generation (some .delete) none where
  bound := by simp
  configure := by simp
  delete := by simp

theorem RowOk.schedule {generation : Int} {operation : Operation}
    {desiredUrl secretDigest : Option String}
    (hwanted : Wanted generation (some operation) desiredUrl) (htoken : r.botTokenEncrypted ≠ "") :
    RowOk (r.schedule now generation operation desiredUrl secretDigest) where
  wanted := hwanted
  idle := by simp [ConfigRow.schedule]
  empty := fun h => absurd h htoken
  leased := by simp [ConfigRow.schedule]

theorem storeRotatedToken_rewrite {botTokenEncrypted fingerprint : String}
    (htoken : botTokenEncrypted ≠ "")
    (h : storeRotatedToken now botTokenEncrypted fingerprint target row = some r') :
    Rewrite row r' := by
  obtain ⟨url, hurl, rfl⟩ := Option.map_eq_some_iff.mp h
  have hok : RowOk (ConfigRow.schedule { row.getD {} with botTokenEncrypted } now _ _ _
      (some target.secretDigest)) := .schedule (wanted_configure hurl) htoken
  refine ⟨⟨hok.wanted, hok.idle, hok.empty, hok.leased⟩, ?_, rfl, ?_⟩
  · rintro r rfl
    exact .inl (Int.lt_add_one_of_le (Int.le_refl r.generation))
  · simp [ConfigRow.schedule]

theorem disableToken_rewrite (hrow : ∀ r, row = some r → RowOk r) :
    Rewrite row (disableToken now row) := by
  cases row with
  | none =>
    refine ⟨⟨⟨?_, ?_, ?_⟩, ?_, ?_, ?_⟩, ?_, ?_, ?_⟩ <;> simp [disableToken]
  | some r =>
    simp only [disableToken]
    split
    · rename_i hempty
      refine ⟨⟨⟨(hrow r rfl).wanted.bound, ?_, ?_⟩, ?_, ?_, ?_⟩, ?_, ?_, ?_⟩ <;> simp [hempty]
    · rename_i htoken
      have hok : RowOk (r.schedule now _ _ _ none) :=
        .schedule (wanted_delete (r.generation + 1)) htoken
      refine ⟨⟨hok.wanted, hok.idle, hok.empty, hok.leased⟩, ?_, rfl, ?_⟩
      · rintro _ ⟨⟩
        exact .inl (Int.lt_add_one_of_le (Int.le_refl r.generation))
      · simp [ConfigRow.schedule]

theorem ensureDesired_rewrite {force : Bool} (h : ensureDesired now target force r = some r') :
    Rewrite (some r) r' := by
  unfold ensureDesired at h
  split at h
  · rename_i hactive
    simp only [Bool.and_eq_true, bne_iff_ne, ne_eq] at hactive
    simp only [Option.bind_eq_bind, Option.bind_eq_some_iff] at h
    obtain ⟨expectedUrl, -, h⟩ := h
    split at h
    · obtain ⟨url, hurl, h⟩ := Option.bind_eq_some_iff.mp h
      obtain rfl := Option.some.inj h
      refine ⟨.schedule (wanted_configure hurl) hactive.2, ?_, rfl, ?_⟩
      · rintro _ ⟨⟩
        exact .inl (Int.lt_add_one_of_le (Int.le_refl r.generation))
      · simp [ConfigRow.schedule]
    · cases h
  · cases h

theorem bootstrapRow_rewrite {botTokenEncrypted fingerprint : String} {target : Option Target}
    (htoken : botTokenEncrypted ≠ "")
    (h : bootstrapRow now botTokenEncrypted fingerprint target = some r') :
    Rewrite none r' := by
  cases target with
  | none =>
    obtain rfl := Option.some.inj h
    refine ⟨⟨⟨?_, ?_, ?_⟩, ?_, ?_, ?_⟩, ?_, ?_, ?_⟩ <;> simp
  | some target =>
    obtain ⟨url, hurl, rfl⟩ := Option.map_eq_some_iff.mp h
    refine ⟨⟨wanted_configure hurl, ?_, ?_, ?_⟩, ?_, ?_, ?_⟩ <;> simp [htoken]

structure Returned (r r' : ConfigRow) : Prop where
  ok : RowOk r'
  generation : r'.generation = r.generation
  operation : r'.operation = r.operation
  desiredUrl : r'.desiredUrl = r.desiredUrl
  token : r'.botTokenEncrypted = r.botTokenEncrypted ∨ r'.botTokenEncrypted = ""
  applying : r.state = .applying
  unleased : r'.leaseToken = none

theorem succeed_returned {token : Nat} {c : Claim} {url : String} (hrow : RowOk r)
    (h : r.succeed token c now url = some r') :
    Returned r r' ∧ r.generation = c.generation ∧ r.leaseToken = some token ∧
      r'.appliedGeneration = some c.generation ∧
      r'.state = (if c.operation = .configure then .configured else .unconfigured) ∧
      r'.botTokenEncrypted = if c.operation = .delete then "" else r.botTokenEncrypted := by
  unfold ConfigRow.succeed at h
  split at h
  · rename_i hmatch
    obtain ⟨hgeneration, hstate, htoken⟩ := hmatch
    obtain rfl := Option.some.inj h
    refine ⟨⟨⟨hrow.wanted, ?_, ?_, by simp⟩, rfl, rfl, rfl, ?_, hstate, rfl⟩, hgeneration, htoken,
      rfl, rfl, rfl⟩
    · rintro hidle
      rw [hrow.idle hidle] at hstate
      cases hstate
    · rintro hempty
      cases hop : c.operation with
      | configure =>
        rw [hrow.empty (by simpa [hop] using hempty)] at hstate
        cases hstate
      | delete => simp
    · cases c.operation <;> simp
  · cases h

theorem fail_returned {token : Nat} {c : Claim} {f : Failure} (hrow : RowOk r)
    (h : r.fail token c now f = some r') :
    Returned r r' ∧ r'.state ≠ .configured ∧ r'.botTokenEncrypted = r.botTokenEncrypted := by
  unfold ConfigRow.fail at h
  split at h
  · rename_i hmatch
    obtain ⟨-, hop, hstate, -, -⟩ := hmatch
    obtain rfl := Option.some.inj h
    refine ⟨⟨⟨hrow.wanted, ?_, ?_, by simp⟩, rfl, rfl, rfl, .inl rfl, hstate, rfl⟩, ?_, rfl⟩
    · rintro hidle
      rw [hidle] at hop
      cases hop
    · rintro hempty
      rw [hrow.empty hempty] at hstate
      cases hstate
    · cases f.retryable <;> simp
  · cases h

theorem due_open (hrow : RowOk r) (h : r.due now = true) :
    r.botTokenEncrypted ≠ "" ∧ (∃ op, r.operation = some op) ∧ r.state ≠ .configured ∧
      r.state ≠ .unconfigured := by
  simp only [ConfigRow.due, Bool.and_eq_true, bne_iff_ne, Bool.or_eq_true, beq_iff_eq] at h
  obtain ⟨htoken, hdue⟩ := h
  have hstate : r.state ≠ .configured ∧ r.state ≠ .unconfigured := by
    obtain ⟨hstate | hstate, -⟩ | ⟨hstate, -⟩ := hdue <;> simp [hstate]
  refine ⟨htoken, ?_, hstate⟩
  cases hop : r.operation with
  | some op => exact ⟨op, rfl⟩
  | none => exact absurd (hrow.idle hop) hstate.2

end

-- ------------------------------------------------------------
-- Generations
-- ------------------------------------------------------------

def Agrees (r : ConfigRow) (c : Claim) : Prop :=
  c.botTokenEncrypted = r.botTokenEncrypted ∧ c.desiredUrl = r.desiredUrl ∧
    some c.operation = r.operation

structure Webhooks.Base (s : Webhooks) : Prop where
  row : ∀ r, s.row = some r → RowOk r
  wanted : ∀ t c, s.claims.rows t = some c → Wanted c.generation (some c.operation) c.desiredUrl
  claim : ∀ t c, s.claims.rows t = some c → ∃ r, s.row = some r ∧ c.generation ≤ r.generation ∧
    (c.generation = r.generation → r.botTokenEncrypted ≠ "" → Agrees r c)
  lease : ∀ r t, s.row = some r → r.leaseToken = some t →
    ∃ c, s.claims.rows t = some c ∧ c.generation = r.generation
  decreasing : s.published.Pairwise (· > ·)
  past : ∀ g ∈ s.published, ∃ r, s.row = some r ∧ g ≤ r.generation ∧
    (g = r.generation → r.state = .configured ∨ r.state = .unconfigured)

section
variable {host : Host} {s s' : Webhooks} {clk : Clock} {token : Nat} {c : Claim} {r r' : ConfigRow}

theorem Webhooks.Base.agrees (h : s.Base) {t : Nat} (hc : s.claims.rows t = some c)
    (hrow : s.row = some r)
    (hgeneration : c.generation = r.generation) (hne : r.botTokenEncrypted ≠ "") : Agrees r c := by
  obtain ⟨r0, hrow0, -, hagrees⟩ := h.claim t c hc
  obtain rfl : r = r0 := Option.some.inj (hrow.symm.trans hrow0)
  exact hagrees hgeneration hne

theorem Webhooks.Base.stored (h : s.Base) (t : Nat) (c : Claim) (hc : s.claims.rows t = some c) :
    s.row ≠ none := by
  obtain ⟨r, hrow, -⟩ := h.claim t c hc
  simp [hrow]

theorem Webhooks.Base.aside (h : s.Base) (hrow : s'.row = s.row) (hclaims : s'.claims = s.claims)
    (hpublished : s'.published = s.published) : s'.Base := by
  cases s'
  subst hrow hclaims hpublished
  exact ⟨h.row, h.wanted, h.claim, h.lease, h.decreasing, h.past⟩

theorem Webhooks.Base.rewrite (h : s.Base) (hr : Rewrite s.row r') {displaced : List String} :
    ({ s with row := some r', displaced } : Webhooks).Base where
  row := by
    rintro _ ⟨⟩
    exact hr.ok
  wanted := h.wanted
  claim := by
    rintro t c hc
    obtain ⟨r, hrow, hle, hagrees⟩ := h.claim t c hc
    refine ⟨r', rfl, ?_, fun heq hne => ?_⟩
    · obtain hlt | ⟨hsame, -⟩ := hr.newer r hrow
      · exact Int.le_of_lt (Int.lt_of_le_of_lt hle hlt)
      · exact hsame ▸ hle
    · obtain hlt | ⟨-, hempty⟩ := hr.newer r hrow
      · exact absurd heq (Int.ne_of_lt (Int.lt_of_le_of_lt hle hlt))
      · exact absurd hempty hne
  lease := by
    rintro _ t ⟨⟩ ht
    rw [hr.unleased] at ht
    cases ht
  decreasing := h.decreasing
  past := by
    rintro g hg
    obtain ⟨r, hrow, hle, hstate⟩ := h.past g hg
    refine ⟨r', rfl, ?_, fun heq => ?_⟩
    · obtain hlt | ⟨hsame, -⟩ := hr.newer r hrow
      · exact Int.le_of_lt (Int.lt_of_le_of_lt hle hlt)
      · exact hsame ▸ hle
    · obtain hlt | ⟨-, hempty⟩ := hr.newer r hrow
      · exact absurd heq (Int.ne_of_lt (Int.lt_of_le_of_lt hle hlt))
      · exact .inr (hr.ok.empty hempty)

theorem Webhooks.Base.give (h : s.Base) (hrow : s.row = some r) (hr : Returned r r') :
    ({ s with row := some r' } : Webhooks).Base where
  row := by
    rintro _ ⟨⟩
    exact hr.ok
  wanted := h.wanted
  claim := by
    rintro t c hc
    obtain ⟨r0, hrow0, hle, hagrees⟩ := h.claim t c hc
    obtain rfl : r = r0 := Option.some.inj (hrow.symm.trans hrow0)
    refine ⟨r', rfl, hr.generation ▸ hle, fun heq hne => ?_⟩
    obtain hsame | hempty := hr.token
    · obtain ⟨htoken, hurl, hop⟩ := hagrees (hr.generation ▸ heq) (hsame ▸ hne)
      exact ⟨htoken.trans hsame.symm, hurl.trans hr.desiredUrl.symm, hop.trans hr.operation.symm⟩
    · exact absurd hempty hne
  lease := by
    rintro _ t ⟨⟩ ht
    rw [hr.unleased] at ht
    cases ht
  decreasing := h.decreasing
  past := by
    rintro g hg
    obtain ⟨r0, hrow0, hle, hstate⟩ := h.past g hg
    obtain rfl : r = r0 := Option.some.inj (hrow.symm.trans hrow0)
    refine ⟨r', rfl, hr.generation ▸ hle, fun heq => ?_⟩
    have hclosed := hstate (hr.generation ▸ heq)
    simp [hr.applying] at hclosed

theorem Webhooks.Base.publish (h : s.Base) (hrow : s.row = some r) (hr : Returned r r')
    (hstate : r'.state = .configured ∨ r'.state = .unconfigured) :
    ({ s with row := some r', published := r.generation :: s.published } : Webhooks).Base := by
  have hgiven := h.give hrow hr
  refine ⟨hgiven.row, hgiven.wanted, hgiven.claim, hgiven.lease, ?_, ?_⟩
  · refine List.pairwise_cons.mpr ⟨fun g hg => ?_, h.decreasing⟩
    obtain ⟨r0, hrow0, hle, hclosed⟩ := h.past g hg
    obtain rfl : r = r0 := Option.some.inj (hrow.symm.trans hrow0)
    -- the stored generation is still being applied, so it is not among the published ones
    have hne : g ≠ r.generation := by
      rintro heq
      simpa [hr.applying] using hclosed heq
    exact Int.lt_iff_le_and_ne.mpr ⟨hle, hne⟩
  · rintro g hg
    obtain rfl | hold := List.mem_cons.mp hg
    · exact ⟨r', rfl, Int.le_of_eq hr.generation.symm, fun _ => hstate⟩
    · exact hgiven.past g hold

theorem Webhooks.Base.claimStep (h : s.Base) {leaseSeconds : Int} :
    (s.claimStep clk leaseSeconds).Base := by
  unfold Webhooks.claimStep
  split
  · rename_i r hrow
    split
    · rename_i hdue
      obtain ⟨htoken, ⟨op, hop⟩, hstate⟩ := due_open (h.row r hrow) hdue.2.2
      have hclaims : ∀ {t c}, (s.claims.insert
          (r.lease s.claims.next leaseSeconds clk.now).claim).rows t = some c →
          (c.generation = r.generation ∧ Agrees r c) ∨ s.claims.rows t = some c := by
        rintro t c hc
        rw [Table.insert_rows] at hc
        split at hc
        · obtain rfl := Option.some.inj hc
          exact .inl ⟨rfl, rfl, rfl, by simp [ConfigRow.claim, ConfigRow.lease, hop]⟩
        · exact .inr hc
      have hok := h.row r hrow
      refine ⟨?_, ?_, ?_, ?_, h.decreasing, ?_⟩
      · rintro _ ⟨⟩
        refine ⟨hok.wanted, ?_, fun hempty => absurd hempty htoken, fun _ => rfl⟩
        rintro hidle
        rw [show (r.lease s.claims.next leaseSeconds clk.now).operation = r.operation from rfl,
          hop] at hidle
        cases hidle
      · rintro t c hc
        obtain ⟨hgeneration, -, hurl, hop'⟩ | hold := hclaims hc
        · rw [hgeneration, hurl, hop']
          exact hok.wanted
        · exact h.wanted t c hold
      · rintro t c hc
        obtain ⟨hgeneration, hagrees⟩ | hold := hclaims hc
        · exact ⟨_, rfl, Int.le_of_eq hgeneration, fun _ _ => hagrees⟩
        · obtain ⟨r0, hrow0, hle, hagrees⟩ := h.claim t c hold
          obtain rfl : r = r0 := Option.some.inj (hrow.symm.trans hrow0)
          exact ⟨_, rfl, hle, hagrees⟩
      · rintro _ t ⟨⟩ ht
        obtain rfl : s.claims.next = t := Option.some.inj ht
        exact ⟨(r.lease s.claims.next leaseSeconds clk.now).claim,
          by simp [Webhooks.go, Table.insert_rows], rfl⟩
      · rintro g hg
        obtain ⟨r0, hrow0, hle, hclosed⟩ := h.past g hg
        obtain rfl : r = r0 := Option.some.inj (hrow.symm.trans hrow0)
        refine ⟨_, rfl, hle, fun heq => ?_⟩
        obtain hs | hs := hclosed heq
        · exact absurd hs hstate.1
        · exact absurd hs hstate.2
    · exact h
  · exact h

theorem Webhooks.Base.write (h : s.Base) {row : Option ConfigRow}
    (hr : ∀ r', row = some r' → Rewrite s.row r') :
    (s.write host row).Base := by
  unfold Webhooks.write
  split
  · exact h
  · split
    · exact h.rewrite (hr _ rfl)
    · exact h

theorem Webhooks.Base.workerStep (h : s.Base) {op : WebhookOp} :
    (s.workerStep host clk token c op).Base := by
  cases op with
  | prepare | hold | call | observe | late =>
    simp only [Webhooks.workerStep]
    (repeat' split) <;> exact h.aside rfl rfl rfl
  | crash | sessionLost => exact h.aside rfl rfl rfl
  | publish =>
    simp only [Webhooks.workerStep]
    split
    · split
      · split
        · split
          · rename_i r' hr'
            obtain ⟨r, hrow, hr'⟩ := Option.bind_eq_some_iff.mp hr'
            obtain ⟨hreturned, hgeneration, -, -, hstate, -⟩ := succeed_returned (h.row r hrow) hr'
            rw [← hgeneration]
            refine (h.publish hrow hreturned ?_).aside rfl rfl rfl
            rw [hstate]
            split <;> simp
          · exact h.aside rfl rfl rfl
        · exact h
      · exact h.aside rfl rfl rfl
    · exact h
  | fail =>
    simp only [Webhooks.workerStep]
    split
    · split
      · split
        · rename_i r' hr'
          obtain ⟨r, hrow, hr'⟩ := Option.bind_eq_some_iff.mp hr'
          exact (h.give hrow (fail_returned (h.row r hrow) hr').1).aside rfl rfl rfl
        · exact h.aside rfl rfl rfl
      · exact h
    · exact h
  | _ => exact h

theorem outside_cases (h : s.Base) {op : WebhookOp} (hop : Webhooks.callOf op = none) :
    (∃ row, Webhooks.step host s (clk, op) = s.write host row ∧ ∀ r', row = some r' →
      Rewrite s.row r') ∨
    (∃ leaseSeconds, Webhooks.step host s (clk, op) = s.claimStep clk leaseSeconds) ∨
    ∃ bot url, op = .foreign bot url := by
  have hstay : ∃ row, s = s.write host row ∧ ∀ r', row = some r' → Rewrite s.row r' :=
    ⟨none, rfl, by simp⟩
  cases op with
  | bootstrap botTokenEncrypted fingerprint frontendOrigin secretToken =>
    refine .inl ?_
    simp only [Webhooks.step, Webhooks.callOf]
    split
    · rename_i hnew
      exact ⟨_, rfl, fun r' hr' => hnew.1 ▸ bootstrapRow_rewrite hnew.2 hr'⟩
    · exact hstay
  | rotate botTokenEncrypted fingerprint frontendOrigin secretToken =>
    refine .inl ?_
    simp only [Webhooks.step, Webhooks.callOf]
    split
    · rename_i htoken
      refine ⟨_, rfl, fun r' hr' => ?_⟩
      obtain ⟨target, -, hr'⟩ := Option.bind_eq_some_iff.mp hr'
      exact storeRotatedToken_rewrite htoken hr'
    · exact hstay
  | disable =>
    refine .inl ?_
    simp only [Webhooks.step, Webhooks.callOf]
    refine ⟨_, rfl, ?_⟩
    rintro _ ⟨⟩
    exact disableToken_rewrite h.row
  | ensure frontendOrigin secretToken force =>
    refine .inl ?_
    simp only [Webhooks.step, Webhooks.callOf]
    refine ⟨_, rfl, fun r' hr' => ?_⟩
    obtain ⟨target, -, hr'⟩ := Option.bind_eq_some_iff.mp hr'
    obtain ⟨r, hrow, hr'⟩ := Option.bind_eq_some_iff.mp hr'
    exact hrow ▸ ensureDesired_rewrite hr'
  | claim leaseSeconds =>
    exact .inr (.inl ⟨leaseSeconds, by simp only [Webhooks.step, Webhooks.callOf]⟩)
  | foreign bot url => exact .inr (.inr ⟨bot, url, rfl⟩)
  | _ => cases hop

theorem step_worker {op : WebhookOp} (hop : Webhooks.callOf op = some token)
    (hc : s.claims.rows token = some c) :
    Webhooks.step host s (clk, op) = s.workerStep host clk token c op := by
  simp only [Webhooks.step, hop, hc]

theorem step_unclaimed {op : WebhookOp} (hop : Webhooks.callOf op = some token)
    (hc : s.claims.rows token = none) :
    Webhooks.step host s (clk, op) = s := by
  simp only [Webhooks.step, hop, hc]

theorem Webhooks.Base.step (h : s.Base) (e : Clock × WebhookOp) : (s.step host e).Base := by
  obtain ⟨clk, op⟩ := e
  cases hop : Webhooks.callOf op with
  | some token =>
    cases hc : s.claims.rows token with
    | some c =>
      rw [step_worker hop hc]
      exact h.workerStep
    | none =>
      rw [step_unclaimed hop hc]
      exact h
  | none =>
    obtain ⟨row, heq, hr⟩ | ⟨leaseSeconds, heq⟩ | ⟨bot, url, rfl⟩ := outside_cases h hop
    · exact heq ▸ h.write hr
    · exact heq ▸ h.claimStep
    · exact h.aside rfl rfl rfl

theorem Webhooks.base_init : Webhooks.init.Base := by
  constructor <;> simp [Webhooks.init, Table.empty]

structure Holds (row : Option ConfigRow) (c : Claim) (r : ConfigRow) : Prop where
  stored : row = some r
  generation : r.generation = c.generation
  applying : r.state = .applying
  token : r.botTokenEncrypted = c.botTokenEncrypted

structure Webhooks.Held (host : Host) (s : Webhooks) : Prop where
  lock : ∀ t ∈ s.locks, ∃ c r, s.claims.rows t = some c ∧ Holds s.row c r
  busy : ∀ t, s.phases t = .authorized ∨ s.phases t = .applied → t ∈ s.locks
  seen : ∀ t c r url b, s.claims.rows t = some c → s.row = some r → c.generation = r.generation →
    r.botTokenEncrypted ≠ "" → s.phases t = .observed url → url = c.desiredUrl.getD "" →
      host.bot c.botTokenEncrypted = some b → s.remote b = url
  configured : ∀ r, s.row = some r → r.state = .configured →
    r.appliedGeneration = some r.generation ∧ r.operation = some .configure ∧
      ∀ b, host.bot r.botTokenEncrypted = some b → r.desiredUrl = some (s.remote b)
  left : ∀ b, s.remote b ≠ "" → Webhooks.currentBot host s.row = some b ∨ b ∈ s.displaced

theorem Webhooks.held_init (host : Host) : Webhooks.init.Held host := by
  constructor <;> simp [Webhooks.init, Table.empty]

theorem Claim.url_eq (h : Wanted c.generation (some c.operation) c.desiredUrl) :
    c.url = c.desiredUrl.getD "" := by
  unfold Claim.url
  cases hop : c.operation with
  | configure => rfl
  | delete => simp [h.delete (by rw [hop])]

theorem Webhooks.Held.go (h : s.Held host) {locks : List Nat} {phase : Phase}
    (hlocks : ∀ t, t ∈ locks → t ≠ token → t ∈ s.locks)
    (hkeep : ∀ t, t ≠ token → t ∈ s.locks → t ∈ locks)
    (hlock : token ∈ locks → ∃ c r, s.claims.rows token = some c ∧ Holds s.row c r)
    (hbusy : phase = .authorized ∨ phase = .applied → token ∈ locks)
    (hseen : ∀ url, phase = .observed url → ∀ c r b, s.claims.rows token = some c → s.row = some r →
      c.generation = r.generation → host.bot c.botTokenEncrypted = some b → s.remote b = url) :
    ({ s with locks }.go token phase).Held host where
  lock := by
    rintro t ht
    by_cases heq : t = token
    · subst heq
      obtain ⟨c, r, hc, hr⟩ := hlock ht
      exact ⟨c, r, hc, hr⟩
    · obtain ⟨c, r, hc, hr⟩ := h.lock t (hlocks t ht heq)
      exact ⟨c, r, hc, hr⟩
  busy := by
    rintro t ht
    simp only [Webhooks.go] at ht
    split at ht
    · rename_i heq
      exact heq ▸ hbusy ht
    · rename_i hne
      exact hkeep t hne (h.busy t ht)
  seen := by
    rintro t c r url b hc hr hgeneration hne hphase hurl hbot
    simp only [Webhooks.go] at hphase
    split at hphase
    · rename_i heq
      subst heq
      exact hseen url hphase c r b hc hr hgeneration hbot
    · exact h.seen t c r url b hc hr hgeneration hne hphase hurl hbot
  configured := h.configured
  left := h.left

theorem Webhooks.Held.pass (h : s.Held host) {phase : Phase} (hphase : phase ≠ .authorized)
    (hphase' : phase ≠ .applied) (hunseen : ∀ url, phase ≠ .observed url) :
    (s.go token phase).Held host :=
  h.go (fun _ ht _ => ht) (fun _ _ ht => ht) (fun ht => h.lock token ht)
    (fun hp => hp.elim (fun hp => absurd hp hphase) fun hp => absurd hp hphase')
    (fun url hp => absurd hp (hunseen url))

theorem mem_unlock {t : Nat} (hne : t ≠ token) : t ∈ (s.unlock token).locks ↔ t ∈ s.locks := by
  simp [Webhooks.unlock, hne]

theorem not_mem_unlock : token ∉ (s.unlock token).locks := by
  simp [Webhooks.unlock]

theorem Webhooks.Held.release (h : s.Held host) {phase : Phase} (hphase : phase ≠ .authorized)
    (hphase' : phase ≠ .applied)
    (hseen : ∀ url, phase = .observed url → ∀ c r b, s.claims.rows token = some c → s.row = some r →
      c.generation = r.generation → host.bot c.botTokenEncrypted = some b → s.remote b = url) :
    ((s.unlock token).go token phase).Held host :=
  h.go (fun _ ht hne => (mem_unlock hne).mp ht) (fun _ hne ht => (mem_unlock hne).mpr ht)
    (fun ht => absurd ht not_mem_unlock)
    (fun hp => hp.elim (fun hp => absurd hp hphase) fun hp => absurd hp hphase') hseen

theorem Webhooks.Held.replace (h : s.Held host) (hfree : s.locks = []) {displaced : List String}
    (hseen : ∀ t c r, s.claims.rows t = some c → c.generation = r'.generation →
      r'.botTokenEncrypted ≠ "" →
      s.row = some r → c.generation = r.generation ∧ r.botTokenEncrypted ≠ "")
    (hclaimed : ∀ t c, s.claims.rows t = some c → s.row ≠ none)
    (hconfigured : r'.state = .configured → r'.appliedGeneration = some r'.generation ∧
      r'.operation = some .configure ∧ ∀ b, host.bot r'.botTokenEncrypted = some b →
        r'.desiredUrl = some (s.remote b))
    (hleft : ∀ b, s.remote b ≠ "" → Webhooks.currentBot host s.row = some b ∨ b ∈ s.displaced →
      host.bot r'.botTokenEncrypted = some b ∨ b ∈ displaced) :
    ({ s with row := some r', displaced } : Webhooks).Held host where
  lock := by
    rintro t ht
    simp [hfree] at ht
  busy := h.busy
  seen := by
    rintro t c _ url b hc ⟨⟩ hgeneration hne hphase hurl hbot
    cases hrow : s.row with
    | none => exact absurd hrow (hclaimed t c hc)
    | some r =>
      obtain ⟨hold, hne'⟩ := hseen t c r hc hgeneration hne hrow
      exact h.seen t c r url b hc hrow hold hne' hphase hurl hbot
  configured := by
    rintro _ ⟨⟩ hstate
    exact hconfigured hstate
  left := fun b hb => hleft b hb (h.left b hb)

theorem Webhooks.Held.rewrite (h : s.Held host) (hbase : s.Base) (hr : Rewrite s.row r') :
    (s.write host (some r')).Held host := by
  simp only [Webhooks.write]
  split
  · rename_i hfree
    refine h.replace hfree ?_ hbase.stored (fun hstate => absurd hstate hr.unconfigured) ?_
    · rintro t c r hc hgeneration hne hrow
      obtain ⟨r0, hrow0, hle, -⟩ := hbase.claim t c hc
      obtain rfl : r = r0 := Option.some.inj (hrow.symm.trans hrow0)
      obtain hlt | ⟨-, hempty⟩ := hr.newer r hrow
      · exact absurd hgeneration (Int.ne_of_lt (Int.lt_of_le_of_lt hle hlt))
      · exact absurd hempty hne
    · rintro b - hold
      by_cases hnew : host.bot r'.botTokenEncrypted = some b
      · exact .inl hnew
      · refine .inr (List.mem_filter.mpr ⟨?_, by simpa using hnew⟩)
        obtain hcurrent | hold := hold
        · exact List.mem_append_left _ (by simp [hcurrent])
        · exact List.mem_append_right _ hold
  · exact h

theorem Webhooks.Held.hold (h : s.Held host) (hc : s.claims.rows token = some c) {t : Nat} :
    (s.workerStep host clk token c (.hold t)).Held host := by
  simp only [Webhooks.workerStep]
  split
  · split
    · rename_i hauthorized
      obtain ⟨r, hrow, hr⟩ := (Option.any_eq_true _ _).mp hauthorized
      simp only [ConfigRow.authorizes, Bool.and_eq_true, beq_iff_eq] at hr
      obtain ⟨⟨⟨⟨⟨hgeneration, -⟩, happlying⟩, -⟩, -⟩, htoken⟩ := hr
      refine h.go ?_ (fun _ _ ht => List.mem_cons_of_mem _ ht) ?_
        (fun _ => List.mem_cons_self) (by simp)
      · rintro t ht hne
        exact (List.mem_cons.mp ht).resolve_left hne
      · rintro -
        exact ⟨c, r, hc, hrow, hgeneration, happlying, htoken⟩
    · exact h.pass (by simp) (by simp) (by simp)
  · exact h

/-- The call sets what the stored generation wants, for the bot of the stored credential. -/
theorem Webhooks.Held.carry (h : s.Held host) (hbase : s.Base) (hc : s.claims.rows token = some c)
    (hlock : token ∈ s.locks) {carriedOut : Bool} : (s.carry host c carriedOut).Held host := by
  obtain ⟨c0, r, hc0, hr⟩ := h.lock token hlock
  obtain rfl : c = c0 := Option.some.inj (hc.symm.trans hc0)
  refine ⟨h.lock, h.busy, ?_, ?_, ?_⟩
  · rintro t c' r' url b hc' hrow' hgeneration hne hphase hurl hbot
    obtain rfl : r = r' := Option.some.inj (hr.stored.symm.trans hrow')
    simp only [Webhooks.carry]
    split
    · obtain ⟨-, hsame, -⟩ := hbase.agrees hc hrow' hr.generation.symm hne
      obtain ⟨-, hsame', -⟩ := hbase.agrees hc' hrow' hgeneration hne
      rw [Claim.url_eq (hbase.wanted token c hc), hsame, hurl, hsame']
    · exact h.seen t c' r url b hc' hrow' hgeneration hne hphase hurl hbot
  · rintro r' hrow' hstate
    obtain rfl : r = r' := Option.some.inj (hr.stored.symm.trans hrow')
    simp [hr.applying] at hstate
  · rintro b hb
    simp only [Webhooks.carry] at hb
    split at hb
    · rename_i hbot
      refine .inl ?_
      simpa [Webhooks.carry, Webhooks.currentBot, hr.stored, hr.token] using hbot.2
    · exact h.left b hb

theorem Webhooks.Held.call (h : s.Held host) (hbase : s.Base)
    (hc : s.claims.rows token = some c) {t : Nat}
    {carriedOut : Bool} {error : Option Outbox.GatewayError} :
    (s.workerStep host clk token c (.call t carriedOut error)).Held host := by
  simp only [Webhooks.workerStep]
  split
  · rename_i hphase
    have hlock := h.busy token (.inl hphase)
    have hcarried : (s.carry host c carriedOut).Held host := h.carry hbase hc hlock
    split
    · exact hcarried.go (fun _ ht _ => ht) (fun _ _ ht => ht) (fun ht => hcarried.lock token ht)
        (fun _ => hlock) (by simp)
    · exact hcarried.release (by simp) (by simp) (by simp)
  · exact h

theorem Webhooks.Held.observe (h : s.Held host) (hc : s.claims.rows token = some c) {t : Nat}
    {error : Option Outbox.GatewayError} :
    (s.workerStep host clk token c (.observe t error)).Held host := by
  simp only [Webhooks.workerStep]
  split
  · split
    · split
      · refine h.release (by simp) (by simp) ?_
        rintro url hurl c' r b hc' - - hbot
        obtain rfl : c = c' := Option.some.inj (hc.symm.trans hc')
        obtain rfl := Phase.observed.inj hurl
        simp [hbot]
      · exact h.release (by simp) (by simp) (by simp)
    · exact h.release (by simp) (by simp) (by simp)
  · exact h

theorem Webhooks.Held.publish (h : s.Held host) (hbase : s.Base) (hc : s.claims.rows token = some c)
    {t : Nat} :
    (s.workerStep host clk token c (.publish t)).Held host := by
  simp only [Webhooks.workerStep]
  split
  · rename_i url hphase
    split
    · rename_i hurl
      split
      · rename_i hfree
        split
        · rename_i r' hr'
          obtain ⟨r, hrow, hr'⟩ := Option.bind_eq_some_iff.mp hr'
          obtain ⟨hreturned, hgeneration, -, happlied, hstate, htoken⟩ :=
            succeed_returned (hbase.row r hrow) hr'
          have hne : r.botTokenEncrypted ≠ "" := by
            rintro hempty
            have happlying := hreturned.applying
            simp [(hbase.row r hrow).empty hempty] at happlying
          have hagrees := hbase.agrees hc hrow hgeneration.symm hne
          refine Webhooks.Held.pass
            (s := { s with row := some r', published := c.generation :: s.published })
            ?_ (by simp) (by simp) (by simp)
          have hreplaced : ({ s with row := some r' } : Webhooks).Held host := by
            refine h.replace hfree ?_ hbase.stored ?_ ?_
            · rintro t c' r0 hc' hgeneration' - hrow0
              obtain rfl : r = r0 := Option.some.inj (hrow.symm.trans hrow0)
              exact ⟨hreturned.generation ▸ hgeneration', hne⟩
            · rintro hconfigured
              rw [hstate] at hconfigured
              split at hconfigured
              · rename_i hop
                obtain ⟨htoken', hurl', hop'⟩ := hagrees
                refine ⟨by rw [happlied, hreturned.generation, hgeneration], ?_, fun b hbot => ?_⟩
                · rw [hreturned.operation, ← hop', hop]
                · rw [htoken, if_neg (by simp [hop]), ← htoken'] at hbot
                  have hseen := h.seen token c r url b hc hrow hgeneration.symm hne hphase hurl hbot
                  obtain ⟨u, hu⟩ :=
                    Option.ne_none_iff_exists'.mp
                      ((hbase.wanted token c hc).configure (by rw [hop]))
                  rw [hreturned.desiredUrl, ← hurl', hseen, hurl, hu]
                  rfl
              · cases hconfigured
            · rintro b hb hold
              obtain hcurrent | hold := hold
              · simp only [Webhooks.currentBot, hrow, Option.bind_some] at hcurrent
                cases hop : c.operation with
                | configure => exact .inl (by simpa [htoken, hop] using hcurrent)
                | delete =>
                  have hbot : host.bot c.botTokenEncrypted = some b := by rw [hagrees.1, hcurrent]
                  have hseen := h.seen token c r url b hc hrow hgeneration.symm hne hphase hurl hbot
                  rw [(hbase.wanted token c hc).delete (by rw [hop])] at hurl
                  exact absurd (hseen.trans hurl) hb
              · exact .inr hold
          exact ⟨hreplaced.lock, hreplaced.busy, hreplaced.seen, hreplaced.configured,
            hreplaced.left⟩
        · exact h.pass (by simp) (by simp) (by simp)
      · exact h
    · exact h.pass (by simp) (by simp) (by simp)
  · exact h

theorem Webhooks.Held.fail (h : s.Held host) (hbase : s.Base) {t : Nat} :
    (s.workerStep host clk token c (.fail t)).Held host := by
  simp only [Webhooks.workerStep]
  split
  · split
    · rename_i hfree
      split
      · rename_i r' hr'
        obtain ⟨r, hrow, hr'⟩ := Option.bind_eq_some_iff.mp hr'
        obtain ⟨hreturned, hconfigured, htoken⟩ := fail_returned (hbase.row r hrow) hr'
        refine Webhooks.Held.pass (s := { s with row := some r' }) ?_ (by simp) (by simp) (by simp)
        refine h.replace hfree ?_ hbase.stored (fun hstate => absurd hstate hconfigured) ?_
        · rintro t c' r0 hc' hgeneration hne hrow0
          obtain rfl : r = r0 := Option.some.inj (hrow.symm.trans hrow0)
          exact ⟨hreturned.generation ▸ hgeneration, htoken ▸ hne⟩
        · rintro b - hold
          simpa [Webhooks.currentBot, hrow, htoken] using hold
      · exact h.pass (by simp) (by simp) (by simp)
    · exact h
  · exact h

theorem Webhooks.Held.claimStep (h : s.Held host) {leaseSeconds : Int} :
    (s.claimStep clk leaseSeconds).Held host := by
  unfold Webhooks.claimStep
  split
  · rename_i r hrow
    split
    · rename_i hdue
      have hold : ∀ {t c phase}, phase ≠ .claimed →
          ((s.claims.insert (r.lease s.claims.next leaseSeconds clk.now).claim).rows t = some c ∧
            (if t = s.claims.next then Phase.claimed else s.phases t) = phase) →
          s.claims.rows t = some c ∧ s.phases t = phase := by
        rintro t c phase hne ⟨hc, hphase⟩
        rw [Table.insert_rows] at hc
        split at hphase
        · exact absurd hphase.symm hne
        · rename_i ht
          exact ⟨by rwa [if_neg ht] at hc, hphase⟩
      refine ⟨?_, ?_, ?_, ?_, ?_⟩
      · rintro t ht
        simp [Webhooks.go, hdue.2.1] at ht
      · rintro t ht
        simp only [Webhooks.go] at ht
        split at ht
        · simp at ht
        · exact h.busy t ht
      · rintro t c _ url b hc ⟨⟩ hgeneration hne hphase hurl hbot
        obtain ⟨hc, hphase⟩ := hold (by simp) ⟨hc, hphase⟩
        exact h.seen t c r url b hc hrow hgeneration hne hphase hurl hbot
      · rintro _ ⟨⟩ hstate
        cases hstate
      · rintro b hb
        have hleft := h.left b hb
        rwa [hrow] at hleft
    · exact h
  · exact h

/-- The worker keeps its session and the lock of the row, no request lands late, and
nobody else sets webhooks. -/
def WebhookOp.Quiet : WebhookOp → Prop
  | .sessionLost _ | .late _ | .foreign _ _ => False
  | _ => True

theorem Webhooks.Held.workerStep (h : s.Held host) (hbase : s.Base)
    (hc : s.claims.rows token = some c)
    {op : WebhookOp} (hop : Webhooks.callOf op = some token) (hquiet : op.Quiet) :
    (s.workerStep host clk token c op).Held host := by
  cases op with
  | prepare t frontendOrigin secretToken =>
    simp only [Webhooks.workerStep]
    have hphase : ∀ {target}, prepare host target c ≠ .authorized ∧
        prepare host target c ≠ .applied ∧
        ∀ url, prepare host target c ≠ .observed url := by
      rintro target
      unfold StopBot.Telegram.Webhook.prepare
      (repeat' split) <;> simp
    split
    · exact h.pass hphase.1 hphase.2.1 hphase.2.2
    · exact h
  | hold t => exact h.hold hc
  | call t carriedOut error => exact h.call hbase hc
  | observe t error => exact h.observe hc
  | publish t => exact h.publish hbase hc
  | fail t => exact h.fail hbase
  | crash t => exact h.release (by simp) (by simp) (by simp)
  | sessionLost t | late t => exact absurd hquiet id
  | _ => cases hop

theorem Webhooks.Held.step (h : s.Held host) (hbase : s.Base) {e : Clock × WebhookOp}
    (hquiet : e.2.Quiet) :
    (s.step host e).Held host := by
  obtain ⟨clk, op⟩ := e
  cases hop : Webhooks.callOf op with
  | some token =>
    cases hc : s.claims.rows token with
    | some c =>
      rw [step_worker hop hc]
      exact h.workerStep hbase hc hop hquiet
    | none =>
      rw [step_unclaimed hop hc]
      exact h
  | none =>
    obtain ⟨row, heq, hr⟩ | ⟨leaseSeconds, heq⟩ | ⟨bot, url, rfl⟩ := outside_cases hbase hop
    · rw [heq]
      cases row with
      | none => exact h
      | some r' => exact h.rewrite hbase (hr r' rfl)
    · rw [heq]
      exact h.claimStep
    · exact absurd hquiet id

-- ------------------------------------------------------------
-- Callbacks
-- ------------------------------------------------------------

def Webhooks.Origin (host : Host) (s : Webhooks) : Prop :=
  ∀ b, s.remote b ≠ "" → ∃ t c, s.claims.rows t = some c ∧ host.bot c.botTokenEncrypted = some b ∧
    c.desiredUrl = some (s.remote b)

/-- Nobody but the workers of the configuration sets or deletes webhooks. -/
def WebhookOp.Ours : WebhookOp → Prop
  | .foreign _ _ => False
  | _ => True

theorem Webhooks.Origin.grow (h : s.Origin host) (hremote : s'.remote = s.remote)
    (hclaims : ∀ t c, s.claims.rows t = some c → s'.claims.rows t = some c) : s'.Origin host := by
  rintro b hb
  rw [hremote] at hb ⊢
  obtain ⟨t, c, hc, hrest⟩ := h b hb
  exact ⟨t, c, hclaims t c hc, hrest⟩

theorem Webhooks.Origin.carry (h : s.Origin host) (hbase : s.Base)
    (hc : s.claims.rows token = some c)
    {carriedOut : Bool} : (s.carry host c carriedOut).Origin host := by
  rintro b hb
  simp only [Webhooks.carry] at hb ⊢
  split at hb
  · rename_i hset
    rw [if_pos hset]
    refine ⟨token, c, hc, hset.2, ?_⟩
    rw [Claim.url_eq (hbase.wanted token c hc)] at hb ⊢
    cases hurl : c.desiredUrl with
    | none => simp [hurl] at hb
    | some url => rfl
  · rename_i hset
    rw [if_neg hset]
    exact h b hb

theorem Webhooks.Origin.workerStep (h : s.Origin host) (hbase : s.Base)
    (hc : s.claims.rows token = some c)
    {op : WebhookOp} : (s.workerStep host clk token c op).Origin host := by
  cases op with
  | call t carriedOut error =>
    simp only [Webhooks.workerStep]
    split
    · split <;> exact (h.carry hbase hc).grow rfl fun _ _ hc => hc
    · exact h
  | late t =>
    simp only [Webhooks.workerStep]
    split
    · exact h.carry hbase hc
    · exact h.carry hbase hc
    · exact h
  | prepare | hold | observe | publish | fail =>
    simp only [Webhooks.workerStep]
    (repeat' split) <;> exact h.grow rfl fun _ _ hc => hc
  | crash | sessionLost => exact h.grow rfl fun _ _ hc => hc
  | _ => exact h

theorem Webhooks.Origin.step (h : s.Origin host) (hbase : s.Base) {e : Clock × WebhookOp}
    (hours : e.2.Ours) :
    (s.step host e).Origin host := by
  obtain ⟨clk, op⟩ := e
  cases hop : Webhooks.callOf op with
  | some token =>
    cases hc : s.claims.rows token with
    | some c =>
      rw [step_worker hop hc]
      exact h.workerStep hbase hc
    | none =>
      rw [step_unclaimed hop hc]
      exact h
  | none =>
    obtain ⟨row, heq, -⟩ | ⟨leaseSeconds, heq⟩ | ⟨bot, url, rfl⟩ := outside_cases hbase hop
    · rw [heq]
      unfold Webhooks.write
      (repeat' split) <;> exact h.grow rfl fun _ _ hc => hc
    · rw [heq]
      unfold Webhooks.claimStep
      (repeat' split) <;> refine h.grow rfl fun t c hc => ?_
      · simp [Webhooks.go, Table.insert_rows, Nat.ne_of_lt (Table.lt_next_of_rows hc), hc]
      · exact hc
      · exact hc
    · exact absurd hours id

-- ------------------------------------------------------------
-- Runs
-- ------------------------------------------------------------

/-- As long as workers keep their sessions, no request lands late and nobody else sets
webhooks: the row that says configured names the webhook that Telegram has for the stored
bot, and a bot that has a webhook is the stored one or was replaced by a rotation. -/
theorem webhook_is_as_stored (host : Host) {ops : List (Clock × WebhookOp)}
    (hquiet : AllSteps (Webhooks.step host) (fun _ e => e.2.Quiet) Webhooks.init ops) :
    let s := run (Webhooks.step host) Webhooks.init ops
    (∀ r, s.row = some r → r.state = .configured →
      r.appliedGeneration = some r.generation ∧ r.operation = some .configure ∧
        ∀ b, host.bot r.botTokenEncrypted = some b → r.desiredUrl = some (s.remote b)) ∧
      ∀ b, s.remote b ≠ "" → Webhooks.currentBot host s.row = some b ∨ b ∈ s.displaced := by
  have hboth := run_invariant (I := fun s : Webhooks => s.Base ∧ s.Held host)
    (fun _ e hs hquiet => ⟨hs.1.step e, hs.2.step hs.1 hquiet⟩)
    ⟨Webhooks.base_init, Webhooks.held_init host⟩ hquiet
  exact ⟨hboth.2.configured, hboth.2.left⟩

/-- The webhook of a bot is configured; its token is replaced by another bot's, and the row is
disabled before the new webhook was set. -/
def replacedBot : List (Clock × WebhookOp) :=
  [(⟨0, 0, 0⟩, .rotate "a" "fa" "https://x" "s"),
    (⟨1, 1, 1⟩, .claim 60),
    (⟨2, 2, 2⟩, .prepare 0 "https://x" "s"),
    (⟨3, 3, 3⟩, .hold 0),
    (⟨4, 4, 4⟩, .call 0 true none),
    (⟨5, 5, 5⟩, .observe 0 none),
    (⟨6, 6, 6⟩, .publish 0),
    (⟨7, 7, 7⟩, .rotate "b" "fb" "https://x" "s"),
    (⟨8, 8, 8⟩, .disable)]

def plainHost : Host := { fernet := some, sha256 := id }

theorem webhook_is_as_stored_replaced :
    let s := run (Webhooks.step plainHost) Webhooks.init replacedBot
    Webhooks.currentBot plainHost s.row = some "b" ∧ "a" ∈ s.displaced := by
  have hquiet : AllSteps (Webhooks.step plainHost) (fun _ e => e.2.Quiet) Webhooks.init
      replacedBot := by
    simp [replacedBot, WebhookOp.Quiet]
  have hcurrent : Webhooks.currentBot plainHost
      (run (Webhooks.step plainHost) Webhooks.init replacedBot).row =
      some "b" := by decide +kernel
  refine ⟨hcurrent, ((webhook_is_as_stored plainHost hquiet).2 "a" (by decide +kernel)).resolve_left
    ?_⟩
  rw [hcurrent]
  decide

end

end StopBot.Telegram.Webhook
