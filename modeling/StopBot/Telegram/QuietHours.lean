import StopBot.Lib.Zone
import StopBot.Telegram.Outbox

/-!
# Quiet hours

A delivery that falls into the quiet hours of its recipient is moved to their
end, which is rebuilt as a local time of the day they end on. Local times come
twice when clocks are set back and are skipped when they are set forward: an
end in a repeated period is taken the first time it comes, also when that has
already passed, and an end in a gap is moved past it.
-/

namespace StopBot.Telegram

open Lib

/-- The zones of a database; a name it does not have is UTC there. -/
def Zones.ofDatabase (zone : String → Zone) : Zones where
  utcOffset name t := (zone name).utcOffset t
  ofLocal name l := (zone name).resolve l

def EventSpec.BypassesQuiet (spec : EventSpec) : Prop :=
  spec.severity = .critical ∨ spec.eventType ∈ quietHoursBypassEvents

instance (spec : EventSpec) : Decidable spec.BypassesQuiet :=
  inferInstanceAs (Decidable (_ ∨ _))

def quietTime (start stop clock : Int) : Bool :=
  if stop < start then start ≤ clock || clock < stop else start ≤ clock && clock < stop

def quietEnd (start stop shown : Int) : Int :=
  (shown / dayMicros + if stop < start ∧ start ≤ shown % dayMicros then 1 else 0) * dayMicros + stop

namespace Recipient

def quietAt (r : Recipient) (shown : Int) : Bool :=
  match r.quietHoursStart, r.quietHoursEnd with
  | some start, some stop => quietTime start stop (shown % dayMicros)
  | _, _ => false

def quietEndAt (r : Recipient) (shown : Int) : Int :=
  match r.quietHoursStart, r.quietHoursEnd with
  | some start, some stop => quietEnd start stop shown
  | _, _ => shown

def Timed (r : Recipient) : Prop :=
  ∀ time, r.quietHoursStart = some time ∨ r.quietHoursEnd = some time → 0 ≤ time ∧ time < dayMicros

/-- The quiet hours end after this instant and outside themselves: their end is
not in a period that is being repeated, and if it is in a gap, the time past
the gap is not quiet. -/
def EndsCleanly (r : Recipient) (z : Zone) (t : Int) : Prop :=
  ¬ z.Repeating t (r.quietEndAt (z.shown t)) ∧
    r.quietAt (r.quietEndAt (z.shown t) + z.gap (r.quietEndAt (z.shown t))) = false

end Recipient

-- ------------------------------------------------------------
-- The end of the quiet hours
-- ------------------------------------------------------------

section
variable {start stop shown : Int}

theorem quietTime_self (start : Int) (clock : Int) : quietTime start start clock = false := by
  simp only [quietTime, lt_irrefl, if_false, Bool.and_eq_false_iff, decide_eq_false_iff_not]
  omega

theorem lt_quietEnd (hstop : 0 ≤ stop) (hquiet : quietTime start stop (shown % dayMicros) = true) :
    shown < quietEnd start stop shown := by
  have hday : 0 < dayMicros := by decide
  have hsplit := Int.emod_add_mul_ediv shown dayMicros
  have hclock := Int.emod_lt_of_pos shown hday
  have hcomm := Int.mul_comm (shown / dayMicros) dayMicros
  unfold quietEnd
  by_cases hwraps : stop < start
  · by_cases hbefore : start ≤ shown % dayMicros
    · rw [if_pos ⟨hwraps, hbefore⟩, Int.add_mul]
      omega
    · rw [if_neg fun h => hbefore h.2, Int.add_zero]
      simp only [quietTime, hwraps, if_true, hbefore, decide_false, Bool.false_or,
        decide_eq_true_eq] at hquiet
      omega
  · rw [if_neg fun h => hwraps h.1, Int.add_zero]
    simp only [quietTime, hwraps, if_false, Bool.and_eq_true, decide_eq_true_eq] at hquiet
    omega

end

theorem Recipient.lt_quietEndAt (r : Recipient) (hr : r.Timed) {shown : Int}
    (hquiet : r.quietAt shown = true) : shown < r.quietEndAt shown := by
  unfold quietAt at hquiet
  unfold quietEndAt
  cases hstart : r.quietHoursStart with
  | none => simp [hstart] at hquiet
  | some start =>
    cases hstop : r.quietHoursEnd with
    | none => simp [hstart, hstop] at hquiet
    | some stop =>
      simp only [hstart, hstop] at hquiet
      exact lt_quietEnd (hr stop (.inr hstop)).1 hquiet

theorem quietShift_eq (zones : Zones) (r : Recipient) (base : Int) :
    quietShift zones r base =
      if r.quietAt (base + zones.utcOffset r.timezone base) then
        zones.ofLocal r.timezone (r.quietEndAt (base + zones.utcOffset r.timezone base))
      else base := by
  unfold quietShift Recipient.quietAt Recipient.quietEndAt
  cases hstart : r.quietHoursStart with
  | none => simp
  | some start =>
    cases hstop : r.quietHoursEnd with
    | none => simp
    | some stop =>
      by_cases hsame : start = stop
      · subst hsame
        simp [quietTime_self]
      · simp [hsame, quietTime, quietEnd]

theorem quietShift_ofDatabase (zone : String → Zone) (r : Recipient) (base : Int) :
    quietShift (.ofDatabase zone) r base =
      if r.quietAt ((zone r.timezone).shown base) then
        (zone r.timezone).resolve (r.quietEndAt ((zone r.timezone).shown base))
      else base :=
  quietShift_eq (.ofDatabase zone) r base

theorem schedule_eq_some {zones : Zones} {spec : EventSpec} {r : Recipient} {p : Presence}
    {now at_ : Int} (h : recipientDeliverySchedule zones spec r p now = some at_) :
    at_ = if spec.BypassesQuiet then spec.scheduledAt.getD now
      else quietShift zones r (spec.scheduledAt.getD now) := by
  unfold recipientDeliverySchedule at h
  simp only at h
  split at h
  · cases h
  · rename_i threshold hthreshold
    by_cases hbypass : spec.BypassesQuiet
    · have hbypass' : spec.severity = .critical ∨ spec.eventType ∈ quietHoursBypassEvents := hbypass
      rw [if_pos hbypass]
      simp only [hbypass', if_true] at h
      split_ifs at h <;> exact (Option.some.inj h).symm
    · have hbypass' : ¬ (spec.severity = .critical ∨ spec.eventType ∈ quietHoursBypassEvents) :=
        hbypass
      rw [if_neg hbypass]
      simp only [hbypass', if_false] at h
      split_ifs at h <;> exact (Option.some.inj h).symm

/-- A delivery is not moved back, stays where it is outside the quiet hours and
leaves them otherwise, if and only if the quiet hours end cleanly. -/
theorem quiet_hours_delay_iff (zone : String → Zone) (spec : EventSpec) (r : Recipient)
    (p : Presence) (now base at_ : Int) (hr : r.Timed) (hbase : spec.scheduledAt.getD now = base)
    (h : recipientDeliverySchedule (.ofDatabase zone) spec r p now = some at_) :
    (base ≤ at_ ∧
      (spec.BypassesQuiet ∨ r.quietAt ((zone r.timezone).shown base) = false → at_ = base) ∧
      (¬ spec.BypassesQuiet → r.quietAt ((zone r.timezone).shown base) = true →
        r.quietAt ((zone r.timezone).shown at_) = false)) ↔
    (¬ spec.BypassesQuiet → r.quietAt ((zone r.timezone).shown base) = true →
      r.EndsCleanly (zone r.timezone) base) := by
  have hat := schedule_eq_some h
  rw [hbase, quietShift_ofDatabase] at hat
  by_cases hbypass : spec.BypassesQuiet
  · rw [if_pos hbypass] at hat
    simp [hbypass, hat]
  · rw [if_neg hbypass] at hat
    cases hquiet : r.quietAt ((zone r.timezone).shown base) with
    | false =>
      simp only [hquiet, Bool.false_eq_true, if_false] at hat
      simp [hat]
    | true =>
      simp only [hquiet, if_true] at hat
      have hend := r.lt_quietEndAt hr hquiet
      have hback := (zone r.timezone).resolve_lt hend
      simp only [hbypass, not_false_eq_true, forall_true_left, false_or, Bool.true_eq_false,
        false_implies, true_and, Recipient.EndsCleanly, hat, Zone.shown_resolve, ← hback, not_lt]

def hourMicros : Int := 3600 * 1000000

def berlinChanges : List Change :=
  [⟨1774746000 * 1000000, hourMicros, 2 * hourMicros⟩,
    ⟨1792890000 * 1000000, 2 * hourMicros, hourMicros⟩]

theorem berlinChanges_linked : Linked hourMicros berlinChanges := by
  refine ⟨rfl, fun d hd => ?_, rfl, fun d hd => ?_, trivial⟩
  · obtain rfl := Option.some.inj hd
    decide
  · cases hd

def berlin : Zone := ⟨hourMicros, berlinChanges, berlinChanges_linked⟩

def warningEvent : EventSpec := { eventType := "system_notice", severity := .warning }

def nightRecipient : Recipient :=
  { chatId := 7, timezone := "Europe/Berlin", quietHoursStart := some (22 * hourMicros)
    quietHoursEnd := some (5 * hourMicros / 2) }

def noPresence : Presence := ⟨false, false, false⟩

theorem nightRecipient_timed : nightRecipient.Timed := by
  rintro time (h | h) <;> obtain rfl := Option.some.inj h <;> decide

/-- On the evening of October 23 the delivery is moved to half past two. -/
theorem quiet_hours_delay_evening :
    1792789200 * 1000000 ≤ (1792801800 * 1000000 : Int) ∧
      nightRecipient.quietAt (berlin.shown (1792801800 * 1000000)) = false := by
  have hschedule : recipientDeliverySchedule (.ofDatabase fun _ => berlin) warningEvent
      nightRecipient
      noPresence (1792789200 * 1000000) = some (1792801800 * 1000000) := by decide +kernel
  have hclean : nightRecipient.EndsCleanly berlin (1792789200 * 1000000) := by
    refine ⟨?_, by decide⟩
    rintro ⟨c, hc, -, hlow, hhigh⟩
    simp only [berlin, berlinChanges, List.mem_cons, List.not_mem_nil, or_false] at hc
    rcases hc with rfl | rfl
    · exact absurd hhigh (by decide)
    · exact absurd hlow (by decide)
  have hresult := (quiet_hours_delay_iff (fun _ => berlin) warningEvent nightRecipient noPresence
    (1792789200 * 1000000) (1792789200 * 1000000) (1792801800 * 1000000) nightRecipient_timed rfl
    hschedule).mpr fun _ _ => hclean
  exact ⟨hresult.1, hresult.2.2 (by decide) (by decide)⟩

/-- At a quarter past two on October 25, the second time that night, the end of
the quiet hours is taken to be forty-five minutes ago. -/
theorem quiet_hours_backdate :
    ¬ ∀ (zone : String → Zone) (spec : EventSpec) (r : Recipient) (p : Presence)
      (now base at_ : Int),
      r.Timed → spec.scheduledAt.getD now = base →
      recipientDeliverySchedule (.ofDatabase zone) spec r p now = some at_ →
      base ≤ at_ ∧
        (spec.BypassesQuiet ∨ r.quietAt ((zone r.timezone).shown base) = false → at_ = base) ∧
        (¬ spec.BypassesQuiet → r.quietAt ((zone r.timezone).shown base) = true →
          r.quietAt ((zone r.timezone).shown at_) = false) := by
  intro h
  have hschedule : recipientDeliverySchedule (.ofDatabase fun _ => berlin) warningEvent
      nightRecipient
      noPresence (1792890900 * 1000000) = some (1792888200 * 1000000) := by decide +kernel
  have hresult := (h (fun _ => berlin) warningEvent nightRecipient noPresence (1792890900 * 1000000)
    (1792890900 * 1000000) (1792888200 * 1000000) nightRecipient_timed rfl hschedule).1
  exact absurd hresult (by decide)

end StopBot.Telegram
