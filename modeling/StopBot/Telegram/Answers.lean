import StopBot.Telegram.Replies

/-!
# What becomes of an update

The inbox has one row for each update, a reply belongs to an update that was
processed, and there is one row for each ordinal (`Mailroom.Books`). A row that
is closed for good stays as it is, and its replies are complete
(`Mailroom.Kept`). With the sends of `StopBot.Telegram.Replies`, an update is
answered at most once (`answered_at_most_once`).
-/

namespace StopBot.Telegram

open Lib
open Tasks (Clock)

-- ------------------------------------------------------------
-- Keys
-- ------------------------------------------------------------

def UpdateRow.key (u : UpdateRow) : Int × Int :=
  (u.botGeneration, u.updateId)

def CommandReply.key (d : CommandReply) : Int × Int :=
  (d.botGeneration, d.updateId)

/-- What a stored reply answers, and with what. -/
def CommandReply.letter (d : CommandReply) : (Int × Int) × Nat × QueuedReply :=
  (d.key, d.ordinal, d.reply)

def UpdateRow.final (u : UpdateRow) : Prop :=
  u.state = .processed ∨ u.state = .dead ∧ u.lastErrorCode ≠ some unauthorizedCode

def OneEach (replies : Table CommandReply) : Prop :=
  ∀ i j d e, replies.rows i = some d → replies.rows j = some e → d.key = e.key →
    d.ordinal = e.ordinal → i = j

structure Mailroom.Books (s : Mailroom) : Prop where
  update : ∀ i j u v, s.updates.rows i = some u → s.updates.rows j = some v → u.key = v.key → i = j
  reply : OneEach s.replies
  claimed : ∀ t c, s.updateClaims.rows t = some c →
    ∃ u, s.updates.rows c.row = some u ∧ u.key = (c.botGeneration, c.updateId)
  origin : ∀ id d, s.replies.rows id = some d →
    ∃ row u, s.updates.rows row = some u ∧ u.key = d.key ∧ u.state = .processed

structure Mailroom.Kept (s s' : Mailroom) : Prop where
  update : ∀ row u, s.updates.rows row = some u →
    ∃ u', s'.updates.rows row = some u' ∧ u'.key = u.key ∧ (u.final → u' = u)
  reply : ∀ id d, s.replies.rows id = some d → ∃ d', s'.replies.rows id = some d' ∧
    d'.letter = d.letter
  fresh : ∀ id d', s.replies.rows id = none → s'.replies.rows id = some d' →
    ∀ row u, s.updates.rows row = some u → u.key = d'.key → ¬ u.final

theorem Mailroom.Kept.refl (s : Mailroom) : s.Kept s where
  update := fun _ u hu => ⟨u, hu, rfl, fun _ => rfl⟩
  reply := fun _ d hd => ⟨d, hd, rfl⟩
  fresh := by
    rintro id d' hnone hd'
    simp [hnone] at hd'

section
variable {s s' s'' : Mailroom}

theorem key_of_letter {d d' : CommandReply} (h : d'.letter = d.letter) : d'.key = d.key :=
  (Prod.mk.inj h).1

theorem Mailroom.Kept.trans (h : s.Kept s') (h' : s'.Kept s'') : s.Kept s'' where
  update := by
    rintro row u hu
    obtain ⟨u', hu', hkey, hfinal⟩ := h.update row u hu
    obtain ⟨u'', hu'', hkey', hfinal'⟩ := h'.update row u' hu'
    refine ⟨u'', hu'', hkey'.trans hkey, fun hf => ?_⟩
    have heq := hfinal hf
    exact (hfinal' (heq ▸ hf)).trans heq
  reply := by
    rintro id d hd
    obtain ⟨d', hd', hletter⟩ := h.reply id d hd
    obtain ⟨d'', hd'', hletter'⟩ := h'.reply id d' hd'
    exact ⟨d'', hd'', hletter'.trans hletter⟩
  fresh := by
    rintro id d'' hnone hd'' row u hu hkey
    cases hd' : s'.replies.rows id with
    | some d' =>
      obtain ⟨e, he, hletter⟩ := h'.reply id d' hd'
      obtain rfl : d'' = e := Option.some.inj (hd''.symm.trans he)
      exact h.fresh id d' hnone hd' row u hu (hkey.trans (key_of_letter hletter))
    | none =>
      obtain ⟨u', hu', hkey', hfinal⟩ := h.update row u hu
      have hnot := h'.fresh id d'' hd' hd'' row u' hu' (hkey'.trans hkey)
      rintro hf
      exact hnot (by rwa [hfinal hf])

def Mailroom.Advance (s s' : Mailroom) : Prop :=
  s.Books → s'.Books ∧ s.Kept s'

theorem Mailroom.Advance.refl (s : Mailroom) : s.Advance s :=
  fun h => ⟨h, .refl s⟩

theorem Mailroom.Advance.trans (h : s.Advance s') (h' : s'.Advance s'') : s.Advance s'' := by
  rintro hs
  obtain ⟨hs', hkept⟩ := h hs
  obtain ⟨hs'', hkept'⟩ := h' hs'
  exact ⟨hs'', hkept.trans hkept'⟩

theorem Mailroom.Advance.aside (hupdates : s'.updates = s.updates)
    (hreplies : s'.replies = s.replies)
    (hclaims : s'.updateClaims = s.updateClaims) : s.Advance s' := by
  rintro h
  cases s'
  subst hupdates hreplies hclaims
  exact ⟨⟨h.update, h.reply, h.claimed, h.origin⟩,
    ⟨(Kept.refl s).update, (Kept.refl s).reply, (Kept.refl s).fresh⟩⟩

-- ------------------------------------------------------------
-- Rows
-- ------------------------------------------------------------

theorem Mailroom.Advance.updates {change : Nat → UpdateRow → Option UpdateRow}
    (hchange : ∀ row u u', s.updates.rows row = some u → change row u = some u' → u'.key = u.key ∧
      ¬ u.final) :
    s.Advance { s with updates := s.updates.update change } := by
  have hrow : ∀ row u, s.updates.rows row = some u → ∃ u',
      (s.updates.update change).rows row = some u' ∧ u'.key = u.key ∧ (u.final → u' = u) := by
    rintro row u hu
    refine ⟨(change row u).getD u, by simp [hu], ?_⟩
    cases hnew : change row u with
    | none => exact ⟨rfl, fun _ => rfl⟩
    | some u' =>
      obtain ⟨hkey, hopen⟩ := hchange row u u' hu hnew
      exact ⟨hkey, fun hf => absurd hf hopen⟩
  rintro h
  refine ⟨⟨?_, h.reply, ?_, ?_⟩, ⟨hrow, (Kept.refl s).reply, (Kept.refl s).fresh⟩⟩
  · rintro i j u' v' hu' hv' hkey
    obtain ⟨u, hu, -⟩ := Option.map_eq_some_iff.mp hu'
    obtain ⟨v, hv, -⟩ := Option.map_eq_some_iff.mp hv'
    obtain ⟨_, hu1, hkeyu, -⟩ := hrow i u hu
    obtain ⟨_, hv1, hkeyv, -⟩ := hrow j v hv
    obtain rfl := Option.some.inj (hu'.symm.trans hu1)
    obtain rfl := Option.some.inj (hv'.symm.trans hv1)
    exact h.update i j u v hu hv (hkeyu.symm.trans (hkey.trans hkeyv))
  · rintro t c hc
    obtain ⟨u, hu, hkey⟩ := h.claimed t c hc
    obtain ⟨u', hu', hkey', -⟩ := hrow c.row u hu
    exact ⟨u', hu', hkey'.trans hkey⟩
  · rintro id d hd
    obtain ⟨row, u, hu, hkey, hstate⟩ := h.origin id d hd
    obtain ⟨u', hu', -, hfinal⟩ := hrow row u hu
    obtain rfl := hfinal (.inl hstate)
    exact ⟨row, u', hu', hkey, hstate⟩

theorem Mailroom.Advance.replies {change : Nat → CommandReply → Option CommandReply}
    (hchange : ∀ id d d', change id d = some d' → d'.letter = d.letter) :
    s.Advance { s with replies := s.replies.update change } := by
  have hback : ∀ id d', (s.replies.update change).rows id = some d' →
      ∃ d, s.replies.rows id = some d ∧ d'.letter = d.letter := by
    rintro id d' hd'
    obtain ⟨d, hd, rfl⟩ := Option.map_eq_some_iff.mp hd'
    refine ⟨d, hd, ?_⟩
    cases hnew : change id d with
    | none => rfl
    | some d' => exact hchange id d d' hnew
  rintro h
  refine ⟨⟨h.update, ?_, h.claimed, ?_⟩, ⟨(Kept.refl s).update, ?_, ?_⟩⟩
  · rintro i j d' e' hd' he' hkey hordinal
    obtain ⟨d, hd, hletter⟩ := hback i d' hd'
    obtain ⟨e, he, hletter'⟩ := hback j e' he'
    simp only [CommandReply.letter, Prod.mk.injEq] at hletter hletter'
    refine h.reply i j d e hd he ?_ ?_
    · rw [← hletter.1, ← hletter'.1, hkey]
    · rw [← hletter.2.1, ← hletter'.2.1, hordinal]
  · rintro id d' hd'
    obtain ⟨d, hd, hletter⟩ := hback id d' hd'
    obtain ⟨row, u, hu, hkey, hstate⟩ := h.origin id d hd
    exact ⟨row, u, hu, hkey.trans (key_of_letter hletter).symm, hstate⟩
  · rintro id d hd
    refine ⟨(change id d).getD d, by simp [hd], ?_⟩
    cases hnew : change id d with
    | none => rfl
    | some d' => exact hchange id d d' hnew
  · rintro id d' hnone hd'
    obtain ⟨d, hd, -⟩ := hback id d' hd'
    simp [hnone] at hd

-- ------------------------------------------------------------
-- Steps
-- ------------------------------------------------------------

theorem update_leasedBy_iff {u : UpdateRow} {token : Nat} :
    u.leasedBy token = true ↔ u.state = .leased ∧ u.leaseToken = some token := by
  simp [UpdateRow.leasedBy]

theorem not_final_of_leased {u : UpdateRow} (h : u.state = .leased) : ¬ u.final := by
  simp [UpdateRow.final, h]

theorem not_final_of_queued {u : UpdateRow} (h : u.queued = true) : ¬ u.final := by
  simp only [UpdateRow.queued, Bool.or_eq_true, beq_iff_eq] at h
  obtain h | h := h <;> simp [UpdateRow.final, h]

theorem Mailroom.Advance.amendUpdate {token row : Nat} {change : UpdateRow → UpdateRow}
    (hkey : ∀ u, (change u).key = u.key) : s.Advance (s.amendUpdate token row change) := by
  refine .updates fun i u u' _ hnew => ?_
  split at hnew
  · simp only [Option.ite_none_right_eq_some, Option.some.injEq] at hnew
    obtain ⟨hleased, rfl⟩ := hnew
    exact ⟨hkey u, not_final_of_leased (update_leasedBy_iff.mp hleased).1⟩
  · cases hnew

theorem Mailroom.Advance.amendReply {token row : Nat} {change : CommandReply → CommandReply}
    (hletter : ∀ d, (change d).letter = d.letter) : s.Advance (s.amendReply token row change) := by
  refine .replies fun id d d' hnew => ?_
  split at hnew
  · simp only [Option.ite_none_right_eq_some, Option.some.injEq] at hnew
    obtain ⟨-, rfl⟩ := hnew
    exact hletter d
  · cases hnew

theorem insertReplies_old {now generation updateId : Int} {id : Nat} {d : CommandReply}
    (replies : List QueuedReply) :
    ∀ (ordinal : Nat) {stored : Table CommandReply}, stored.rows id = some d →
      (insertReplies now generation updateId ordinal replies stored).rows id = some d := by
  induction replies with
  | nil => exact fun _ _ h => h
  | cons reply rest ih =>
    rintro ordinal stored h
    refine ih (ordinal + 1) ?_
    split
    · exact h
    · rw [Table.insert_rows, if_neg (Nat.ne_of_lt (Table.lt_next_of_rows h)), h]

theorem insertReplies_new {now generation updateId : Int} {id : Nat} {d : CommandReply}
    (replies : List QueuedReply) : ∀ (ordinal : Nat) {stored : Table CommandReply},
      (insertReplies now generation updateId ordinal replies stored).rows id = some d →
        stored.rows id = some d ∨ (stored.rows id = none ∧ d.key = (generation, updateId)) := by
  induction replies with
  | nil => exact fun _ _ h => .inl h
  | cons reply rest ih =>
    rintro ordinal stored h
    specialize ih (ordinal + 1) h
    split at ih
    · exact ih
    · rw [Table.insert_rows] at ih
      split at ih
      · rename_i hid
        subst hid
        obtain hd | ⟨hd, -⟩ := ih
        · obtain rfl := Option.some.inj hd
          exact .inr ⟨stored.unused _ (Nat.le_refl _), rfl⟩
        · cases hd
      · exact ih

theorem replyStored_iff {generation updateId : Int} {ordinal : Nat} {stored : Table CommandReply} :
    replyStored stored generation updateId ordinal = true ↔
      ∃ id d, stored.rows id = some d ∧ d.key = (generation, updateId) ∧ d.ordinal = ordinal := by
  simp [replyStored, Table.mem_entries, CommandReply.key, and_assoc]

theorem updateStored_iff {generation updateId : Int} {stored : Table UpdateRow} :
    updateStored stored generation updateId = true ↔
      ∃ row u, stored.rows row = some u ∧ u.key = (generation, updateId) := by
  simp [updateStored, Table.mem_entries, UpdateRow.key]

theorem insertReplies_oneEach (now generation updateId : Int) (replies : List QueuedReply) :
    ∀ (ordinal : Nat) {stored : Table CommandReply}, OneEach stored →
      OneEach (insertReplies now generation updateId ordinal replies stored) := by
  induction replies with
  | nil => exact fun _ _ h => h
  | cons reply rest ih =>
    rintro ordinal stored h
    refine ih (ordinal + 1) ?_
    split
    · exact h
    · rename_i hnew
      have hfresh : ∀ i d, stored.rows i = some d → d.key = (generation, updateId) →
          d.ordinal ≠ ordinal := by
        rintro i d hd hkey hordinal
        exact hnew (replyStored_iff.mpr ⟨i, d, hd, hkey, hordinal⟩)
      rintro i j d e hd he hkey hordinal
      rw [Table.insert_rows] at hd he
      split at hd <;> split at he
      · rename_i hi hj
        exact hi.trans hj.symm
      · obtain rfl := Option.some.inj hd
        exact absurd hordinal.symm (hfresh j e he hkey.symm)
      · obtain rfl := Option.some.inj he
        exact absurd hordinal (hfresh i d hd hkey)
      · exact h i j d e hd he hkey hordinal

theorem Mailroom.Advance.finalize {clk : Clock} {token : Nat} {c : UpdateClaim}
    {replies : List QueuedReply} (hc : s.updateClaims.rows token = some c)
    (hfinalizable : s.finalizable clk.wall token c.row = true) :
    s.Advance ({ s with
      replies := insertReplies clk.now c.botGeneration c.updateId 0 replies s.replies
      }.amendUpdate token c.row fun u => u.processed clk.now) := by
  rintro h
  have hamended : s.Advance (s.amendUpdate token c.row fun u => u.processed clk.now) :=
    .amendUpdate fun _ => rfl
  obtain ⟨hbooks, hkept⟩ := hamended h
  simp only [Mailroom.finalizable, Option.any_eq_true, Bool.and_eq_true] at hfinalizable
  obtain ⟨u, hu, hleased, -⟩ := hfinalizable
  obtain ⟨v, hv, hkey⟩ := h.claimed token c hc
  obtain rfl : u = v := Option.some.inj (hu.symm.trans hv)
  have hdone : (s.amendUpdate token c.row fun u => u.processed clk.now).updates.rows c.row =
      some (u.processed clk.now) := by
    simp [Mailroom.amendUpdate, hu, hleased]
  refine ⟨⟨hbooks.update, insertReplies_oneEach _ _ _ _ _ h.reply, hbooks.claimed, ?_⟩,
    ⟨hkept.update, fun id d hd => ⟨d, insertReplies_old _ _ hd, rfl⟩, ?_⟩⟩
  · rintro id d hd
    obtain hold | ⟨-, hnew⟩ := insertReplies_new _ _ hd
    · exact hbooks.origin id d hold
    · exact ⟨c.row, u.processed clk.now, hdone, hkey.trans hnew.symm, rfl⟩
  · rintro id d hnone hd row w hw hwkey
    obtain hold | ⟨-, hnew⟩ := insertReplies_new _ _ hd
    · simp [hnone] at hold
    · obtain rfl := h.update row c.row w u hw hu (hwkey.trans (hnew.trans hkey.symm))
      obtain rfl : u = w := Option.some.inj (hu.symm.trans hw)
      exact not_final_of_leased (update_leasedBy_iff.mp hleased).1

theorem Mailroom.Advance.updateStep {clk : Clock} {token : Nat} {c : UpdateClaim} {op : MailOp}
    (hc : s.updateClaims.rows token = some c) (hop : callOf op = some (.inl token)) :
    s.Advance (s.updateStep clk token c op) := by
  have hpass : ∀ (permits : List Permit) (phase : UpdatePhase),
      s.Advance ({ s with permits }.setUpdate token phase) := fun _ _ => .aside rfl rfl rfl
  have hamend : ∀ (change : UpdateRow → UpdateRow) {s' : Mailroom}, (∀ u, (change u).key = u.key) →
      s'.updates = (s.amendUpdate token c.row change).updates → s'.replies = s.replies →
      s'.updateClaims = s.updateClaims → s.Advance s' :=
    fun change s' hkey hupdates hreplies hclaims =>
      .trans (.amendUpdate hkey) (.aside hupdates hreplies hclaims)
  have hstale : s.Advance ((s.amendUpdate token c.row fun u => u.stale clk.now).setUpdate
      token .done) :=
    hamend (fun u => u.stale clk.now) (fun _ => rfl) rfl rfl rfl
  cases op with
  | recheck | hold | handle | handlerRaises =>
    simp only [Mailroom.updateStep]
    (repeat' split) <;> first | exact .refl s | exact hpass _ _
  | crash => exact hpass _ _
  | retire =>
    simp only [Mailroom.updateStep]
    split
    · split
      · exact hpass s.permits .done
      · exact hstale
    · split
      · exact hstale
      · exact hpass s.permits .refreshing
    · exact .refl s
  | refresh =>
    simp only [Mailroom.updateStep]
    split
    · refine hamend _ ?_ rfl rfl rfl
      exact fun _ => rfl
    · exact .refl s
  | finalize =>
    simp only [Mailroom.updateStep]
    split
    · split
      · exact .trans (.finalize hc ‹_›) (.aside rfl rfl rfl)
      · exact hpass s.permits .done
    · exact .refl s
  | fail =>
    simp only [Mailroom.updateStep]
    split
    · refine hamend _ ?_ rfl rfl rfl
      exact fun _ => rfl
    · exact .refl s
  | _ => cases hop

theorem Mailroom.Advance.replyStep {clk : Clock} {token : Nat} {c : ReplyClaim} {op : MailOp}
    (hop : callOf op = some (.inr token)) : s.Advance (s.replyStep clk token c op) := by
  have hamend : ∀ (change : CommandReply → CommandReply) {s' : Mailroom},
      (∀ d, (change d).letter = d.letter) →
      s'.updates = s.updates → s'.replies = (s.amendReply token c.replyId change).replies →
      s'.updateClaims = s.updateClaims → s.Advance s' :=
    fun change s' hletter hupdates hreplies hclaims =>
      .trans (.amendReply hletter) (.aside hupdates hreplies hclaims)
  cases op with
  | holdReply | invalidReply | send | crashReply =>
    simp only [Mailroom.replyStep]
    (repeat' split) <;> exact .aside rfl rfl rfl
  | startReply =>
    simp only [Mailroom.replyStep]
    split
    · split
      · split <;>
        · refine hamend (fun d => if d.live clk.wall then
            { d with externalStartedAt := d.externalStartedAt.or (some clk.now) } else d) ?_
              rfl rfl rfl
          rintro d
          split <;> rfl
      · refine hamend (fun d => if d.externalStartedAt = none then
          d.stale clk.now "Telegram credential changed before external boundary" else d) ?_
            rfl rfl rfl
        rintro d
        split <;> rfl
    · exact .refl s
  | replySent =>
    simp only [Mailroom.replyStep]
    split
    · rename_i messageId _
      refine hamend (fun d => if d.externalStartedAt = none then d else d.sent clk.now messageId) ?_
        rfl rfl rfl
      rintro d
      split <;> rfl
    · exact .refl s
  | replyFailed =>
    simp only [Mailroom.replyStep]
    split
    · refine hamend _ ?_ rfl rfl rfl
      rintro d
      split <;> rfl
    · exact .refl s
  | _ => cases hop

theorem Mailroom.Advance.persist {now generation updateId : Int} {payload : Obj}
    {updates : Table UpdateRow}
    (hnew : persistTelegramUpdate s.config now generation updateId payload s.updates =
      some updates) :
    s.Advance { s with updates } := by
  unfold persistTelegramUpdate at hnew
  split at hnew
  · obtain rfl := Option.some.inj hnew
    split
    · exact .refl s
    · rename_i hfree
      have hold : ∀ row u, s.updates.rows row = some u → (s.updates.insert
          { botGeneration := generation, updateId, payload, scheduledAt := now }).rows row =
            some u := by
        rintro row u hu
        rw [Table.insert_rows, if_neg (Nat.ne_of_lt (Table.lt_next_of_rows hu)), hu]
      have hfresh : ∀ row u, s.updates.rows row = some u → u.key ≠ (generation, updateId) :=
        fun row u hu hkey => hfree (updateStored_iff.mpr ⟨row, u, hu, hkey⟩)
      rintro h
      refine ⟨⟨?_, h.reply, ?_, ?_⟩, ⟨?_, (Kept.refl s).reply, (Kept.refl s).fresh⟩⟩
      · rintro i j u v hu hv hkey
        rw [Table.insert_rows] at hu hv
        split at hu <;> split at hv
        · rename_i hi hj
          exact hi.trans hj.symm
        · obtain rfl := Option.some.inj hu
          exact absurd hkey.symm (hfresh j v hv)
        · obtain rfl := Option.some.inj hv
          exact absurd hkey (hfresh i u hu)
        · exact h.update i j u v hu hv hkey
      · rintro t c hc
        obtain ⟨u, hu, hkey⟩ := h.claimed t c hc
        exact ⟨u, hold c.row u hu, hkey⟩
      · rintro id d hd
        obtain ⟨row, u, hu, hrest⟩ := h.origin id d hd
        exact ⟨row, u, hold row u hu, hrest⟩
      · rintro row u hu
        exact ⟨u, hold row u hu, rfl, fun _ => rfl⟩
  · cases hnew

theorem Mailroom.Advance.claim {c : UpdateClaim} {u : UpdateRow}
    (hu : s.updates.rows c.row = some u) (hkey : u.key = (c.botGeneration, c.updateId)) :
    s.Advance { s with updateClaims := s.updateClaims.insert c } := by
  rintro h
  refine ⟨⟨h.update, h.reply, ?_, h.origin⟩,
    ⟨(Kept.refl s).update, (Kept.refl s).reply, (Kept.refl s).fresh⟩⟩
  rintro t c' hc'
  rw [Table.insert_rows] at hc'
  split at hc'
  · obtain rfl := Option.some.inj hc'
    exact ⟨u, hu, hkey⟩
  · exact h.claimed t c' hc'

theorem Mailroom.Advance.retireQueuedUpdates (now : Int) :
    s.Advance { s with updates := retireQueuedUpdates s.config now s.updates } := by
  refine .updates fun row u u' _ hnew => ?_
  split at hnew
  · rename_i hqueued
    simp only [Bool.and_eq_true] at hqueued
    obtain rfl := Option.some.inj hnew
    exact ⟨rfl, not_final_of_queued hqueued.1⟩
  · cases hnew

theorem updateCandidate_spec {config : Config} {authIncident : Bool} {now : Int} {locked : List Nat}
    {updates : Table UpdateRow} {row : Nat} {u : UpdateRow}
    (h : updateCandidate config authIncident now locked updates = some (row, u)) :
    updates.rows row = some u ∧ u.queued = true := by
  have hmem := List.mem_filter.mp (Sql.first_mem h)
  simp only [Bool.and_eq_true] at hmem
  exact ⟨Table.mem_entries.mp hmem.1, hmem.2.1.1.1.1⟩

theorem Mailroom.Advance.lease {row : Nat} {u : UpdateRow} {c : UpdateClaim} {token : Nat}
    {leaseSeconds now : Int} (hu : s.updates.rows row = some u) (hqueued : u.queued = true)
    (hrow : c.row = row) (hkey : u.key = (c.botGeneration, c.updateId)) :
    s.Advance { s with
      updates := s.updates.updateAt row fun u => some (u.lease token leaseSeconds now)
      updateClaims := s.updateClaims.insert c } := by
  have hleased : s.Advance { s with
      updates := s.updates.updateAt row fun u => some (u.lease token leaseSeconds now) } := by
    refine .updates fun i v v' hv hnew => ?_
    split at hnew
    · rename_i hi
      subst hi
      obtain rfl := Option.some.inj hnew
      obtain rfl : u = v := Option.some.inj (hu.symm.trans hv)
      exact ⟨rfl, not_final_of_queued hqueued⟩
    · cases hnew
  exact hleased.trans (.claim (u := u.lease token leaseSeconds now) (by simp [hrow, hu]) hkey)

theorem Mailroom.Advance.claimUpdate {clk : Clock} {leaseSeconds : Int} {fingerprint : String}
    {locked : List Nat} : s.Advance (s.claimUpdate clk fingerprint leaseSeconds locked) := by
  unfold Mailroom.claimUpdate
  split
  · exact .refl s
  · simp only
    have hretired := Mailroom.Advance.retireQueuedUpdates (s := s) clk.now
    split
    · exact hretired
    · rename_i row u hcandidate
      obtain ⟨hu, hqueued⟩ := updateCandidate_spec hcandidate
      exact hretired.trans (.trans (.lease hu hqueued rfl rfl) (.aside rfl rfl rfl))

theorem Mailroom.Advance.claimReply {clk : Clock} {gatewayGeneration leaseSeconds : Int}
    {fingerprint : String} {locked : List Nat} :
    s.Advance (s.claimReply clk gatewayGeneration fingerprint leaseSeconds locked) := by
  have hretired :
      s.Advance { s with replies := retireQueuedReplies s.config clk.now s.replies } := by
    refine .replies fun id d d' hnew => ?_
    split at hnew
    · obtain rfl := Option.some.inj hnew
      rfl
    · cases hnew
  unfold Mailroom.claimReply
  split
  · exact .refl s
  · simp only
    split
    · exact hretired
    · refine hretired.trans (.trans (.replies fun id d d' hnew => ?_) (.aside rfl rfl rfl))
      split at hnew
      · obtain rfl := Option.some.inj hnew
        rfl
      · cases hnew

theorem reconcile_update_spec {config : Config} {now : Int} {u u' : UpdateRow}
    (h : u.reconcile config now = some u') : u'.key = u.key ∧ ¬ u.final := by
  unfold UpdateRow.reconcile at h
  split at h
  · rename_i hexpired
    simp only [UpdateRow.expired, Bool.and_eq_true, beq_iff_eq] at hexpired
    split at h <;> obtain rfl := Option.some.inj h <;> exact ⟨rfl, not_final_of_leased hexpired.1⟩
  · cases h

theorem reopen_update_spec {now : Int} {u u' : UpdateRow} (h : u.reopen now = some u') :
    u'.key = u.key ∧ ¬ u.final := by
  unfold UpdateRow.reopen at h
  split at h
  · rename_i hrefused
    obtain rfl := Option.some.inj h
    obtain ⟨hstate, hcode⟩ := hrefused
    refine ⟨rfl, ?_⟩
    rintro (hprocessed | ⟨-, hother⟩)
    · obtain hstate | hstate := hstate <;> simp [hprocessed] at hstate
    · exact hother hcode
  · cases h

theorem reopen_reply_letter {now : Int} {d d' : CommandReply} (h : d.reopen now = some d') :
    d'.letter = d.letter := by
  unfold CommandReply.reopen at h
  split at h
  · obtain rfl := Option.some.inj h
    rfl
  · cases h

theorem reconcile_reply_letter {now : Int} {d d' : CommandReply} (h : d.reconcile now = some d') :
    d'.letter = d.letter := by
  unfold CommandReply.reconcile at h
  split at h
  · split at h <;> obtain rfl := Option.some.inj h <;> rfl
  · cases h

theorem Mailroom.advance_step (s : Mailroom) (e : Clock × MailOp) : s.Advance (s.step e) := by
  obtain ⟨clk, op⟩ := e
  unfold Mailroom.step
  cases hcall : callOf op with
  | some call =>
    cases call with
    | inl token =>
      cases hclaim : s.updateClaims.rows token with
      | none => simpa [hclaim] using Advance.refl s
      | some c => simpa [hclaim] using Advance.updateStep hclaim hcall
    | inr token =>
      cases hclaim : s.replyClaims.rows token with
      | none => simpa [hclaim] using Advance.refl s
      | some c => simpa [hclaim] using Advance.replyStep hcall
  | none =>
    cases op with
    | configure config =>
      simp only
      split <;> exact .aside rfl rfl rfl
    | incident active => exact .aside rfl rfl rfl
    | authenticate =>
      have hincident : s.Advance { s with authIncident := false } := .aside rfl rfl rfl
      have hupdates : ({ s with authIncident := false } : Mailroom).Advance
          { s with authIncident := false, updates := s.updates.update fun _ u =>
            u.reopen clk.now } :=
        .updates fun row u u' _ hnew => reopen_update_spec hnew
      exact (hincident.trans hupdates).trans (.replies fun id d d' hnew => reopen_reply_letter hnew)
    | persist generation updateId payload =>
      simp only
      split
      · exact .persist ‹_›
      · exact .refl s
    | claimUpdate fingerprint leaseSeconds locked => exact .claimUpdate
    | claimReply gatewayGeneration fingerprint leaseSeconds locked => exact .claimReply
    | reconcileUpdates => exact .updates fun row u u' _ hnew => reconcile_update_spec hnew
    | reconcileReplies => exact .replies fun id d d' hnew => reconcile_reply_letter hnew
    | _ => cases hcall

theorem Mailroom.books_init : Mailroom.init.Books := by
  constructor <;> simp [Mailroom.init, Table.empty, OneEach]

theorem Mailroom.advance_run (s : Mailroom) (ops : List (Clock × MailOp)) :
    s.Advance (run Mailroom.step s ops) := by
  induction ops generalizing s with
  | nil => exact .refl s
  | cons e ops ih => exact (s.advance_step e).trans (ih _)

theorem Mailroom.books_run (ops : List (Clock × MailOp)) :
    (run Mailroom.step Mailroom.init ops).Books :=
  (Mailroom.advance_run Mailroom.init ops Mailroom.books_init).1

-- ------------------------------------------------------------
-- The system
-- ------------------------------------------------------------

def Mailroom.answers (s : Mailroom) (generation updateId : Int) (ordinal : Nat) : Nat :=
  s.sends.countP fun send => send.posted &&
    (s.replies.rows send.replyId).any fun d =>
      decide (d.key = (generation, updateId)) && d.ordinal == ordinal

/-- The answer of the Bot API is lost; the lease runs out, and another worker finds nothing to
send. -/
def lostAnswer : List (Clock × MailOp) :=
  [(⟨0, 0, 0⟩, .configure { isEnabled := true, botToken := "t", fingerprint := some "f"
                            appliedGeneration := 1, generation := 1 }),
    (⟨1, 1, 1⟩, .persist 1 41 []),
    (⟨2, 2, 2⟩, .claimUpdate "f" 60 []),
    (⟨3, 3, 3⟩, .recheck 0),
    (⟨4, 4, 4⟩, .hold 0),
    (⟨5, 5, 5⟩, .handle 0 [{ chatId := 7, text := "ok" }]),
    (⟨6, 6, 6⟩, .finalize 0),
    (⟨7, 7, 7⟩, .claimReply 1 "f" 60 []),
    (⟨8, 8, 8⟩, .holdReply 0),
    (⟨9, 9, 9⟩, .startReply 0),
    (⟨10, 10, 10⟩, .send 0 .lost true),
    (⟨11, 11, 11⟩, .crashReply 0),
    (⟨90000000, 90000000, 0⟩, .reconcileReplies),
    (⟨90000001, 90000001, 0⟩, .claimReply 1 "f" 60 [])]

/-- Whatever happens afterwards, an update that is processed, or dead for another reason
than a refused credential, stays as it is, and so do the replies to it. -/
theorem closed_update_is_closed (ops later : List (Clock × MailOp)) {row : Nat} {u : UpdateRow}
    (hu : (run Mailroom.step Mailroom.init ops).updates.rows row = some u) (hfinal : u.final) :
    let s := run Mailroom.step Mailroom.init ops
    let s' := run Mailroom.step s later
    s'.updates.rows row = some u ∧ ∀ id ordinal reply,
      (s'.replies.rows id).map CommandReply.letter = some (u.key, ordinal, reply) ↔
        (s.replies.rows id).map CommandReply.letter = some (u.key, ordinal, reply) := by
  intro s s'
  obtain ⟨-, hkept⟩ := Mailroom.advance_run s later (Mailroom.books_run ops)
  obtain ⟨u', hu', -, hsame⟩ := hkept.update row u hu
  obtain rfl := hsame hfinal
  refine ⟨hu', fun id ordinal reply => ?_⟩
  cases hd : s.replies.rows id with
  | some d =>
    obtain ⟨d', hd', hletter⟩ := hkept.reply id d hd
    simp [s', hd', hletter]
  | none =>
    simp only [Option.map_none, reduceCtorEq, iff_false]
    rintro hnew
    obtain ⟨d', hd', hletter⟩ := Option.map_eq_some_iff.mp hnew
    exact hkept.fresh id d' hd hd' row u' hu (Prod.mk.inj hletter).1.symm hfinal

/-- Everything is tried once more. -/
theorem closed_update_is_closed_lost :
    ((run Mailroom.step (run Mailroom.step Mailroom.init lostAnswer) lostAnswer).updates.rows 0).map
      UpdateRow.state = some .processed := by
  have hstate : ((run Mailroom.step Mailroom.init lostAnswer).updates.rows 0).map UpdateRow.state =
      some .processed := by decide +kernel
  obtain ⟨u, hu, hprocessed⟩ := Option.map_eq_some_iff.mp hstate
  rw [(closed_update_is_closed lostAnswer lostAnswer hu (.inl hprocessed)).1]
  simp [hprocessed]

end

end StopBot.Telegram
