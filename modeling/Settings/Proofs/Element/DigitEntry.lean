import Settings.Proofs.Editor.Clock
import Settings.Proofs.Element.Bounds

/-!
# Typing digits after every run

Whatever was done to a sequence that a host made, the digits of other fields can be typed into it from
the first column, and they set these fields. The one exception is a clock on the face of twelve hours
that shows ten: there the hours below ten are out of reach, since the zero that they start with is
taken as twelve.

* `fields_typed`: the digits of any fields within bounds.
* `day_time_typed`: a time on the face of twenty-four hours.
* `face_time_typed_iff`: a time on the face of twelve hours.
-/
namespace Settings.Element

open Numeral (padded)
open Sequence (Inside digitColumns smallLimit faceHour enteredHour faceText timeReports)

variable {s : Sequence} {keys : List Action}

/-- Typing the digits of fields within bounds into a positional sequence sets these fields. Each key
before the last one keeps what was typed, reports no edge, and leaves fields that the editor can compute
with; the last one reports the end. -/
theorem fields_typed (made : s.Made) (style : s.style = .positional) (nonneg : ∀ b ∈ s.limits, 0 ≤ b.low)
    (small : ∀ b ∈ s.limits, b.high < smallLimit) {target : List Int} (legal : Inside s.limits target)
    (enters : Action.Enters keys (digitColumns s.limits target)) (mode : HourMode)
    (ops : List Operation) :
    ∃ s', (run ops (ofKind (.sequence s))).result.kind = .sequence s' ∧
      s'.handleAll mode (.first :: keys) =
        ({ s' with value := target, cursor := s.totalWidth - 1 },
          (false, none) :: (List.replicate (s.totalWidth - 1) (true, none) ++ [(true, some .finish)])) ∧
      ∀ count < s.totalWidth, ∃ fields,
        s'.handleAll mode (.first :: keys.take count) =
          ({ s' with value := fields, cursor := count },
            (false, none) :: List.replicate count (true, none)) ∧
        Sequence.Editable { s' with value := fields, cursor := count } ∧
        Inside s.limits fields ∧
        (digitColumns s.limits fields).take count = (digitColumns s.limits target).take count := by
  obtain ⟨s', reached, moves⟩ := moves_run s ops
  have limits : s'.limits = s.limits := moves.follows.setup.limits
  have steady := made.steady.moves moves
  have inside := steady.sound.value
  have style' := Sequence.positional_of_manner moves.manner style
  have wide := made.sound.totalWidth_pos
  have fits : Sequence.Small s.limits := fun b member => by
    have ordered : b.low ≤ b.high := made.sound.bounded.ordered b member
    have low := nonneg b member
    have high := small b member
    omega
  rw [← Sequence.totalWidth_of_limits limits] at wide ⊢
  rw [← limits] at nonneg legal enters fits ⊢
  refine ⟨s', reached, Sequence.handleAll_entered mode style' nonneg inside legal wide enters,
    fun count within => ?_⟩
  obtain ⟨fields, typed, inside, agree⟩ :=
    Sequence.exists_handleAll_entered mode style' nonneg inside legal enters within
  have after := steady.moves (Sequence.moves_handleAll mode (.first :: keys.take count) s')
  rw [typed] at after
  exact ⟨fields, typed, after.editable fits, inside, agree⟩

/-- Moves into a date, turns it into a day in October, and goes to its end. -/
def datedOps : List Operation :=
  [.act .twelve .right, .edit (.setFields [31, 10, 1985]), .save, .act .twentyFour .last]

/-- The digits of a leap day, some as characters. -/
def leapDayKeys : List Action :=
  [.digit 2, .digit 9, .character '0', .character '2', .digit 2, .digit 0, .character '2', .digit 4]

/-- The leap day is typed over a day in October, although month and year are clamped on the way. -/
theorem fields_typed_leapDay :
    ∃ s', (run datedOps (ofKind (.sequence (.date 15 3 1985)))).result.kind = .sequence s' ∧
      s'.handleAll .twelve (.first :: leapDayKeys) =
        ({ s' with value := [29, 2, 2024], cursor := 7 },
          (false, none) :: (List.replicate 7 (true, none) ++ [(true, some .finish)])) ∧
      (s'.handleAll .twelve (.first :: leapDayKeys.take 5)).1.cursor = 5 := by
  have legal : Inside (Sequence.date 15 3 1985).limits [29, 2, 2024] :=
    .cons ⟨by decide, by decide⟩ (.cons ⟨by decide, by decide⟩ (.cons ⟨by decide, by decide⟩ .nil))
  have enters : Action.Enters leapDayKeys
      (digitColumns (Sequence.date 15 3 1985).limits [29, 2, 2024]) := by decide
  obtain ⟨s', reached, typed, partly⟩ :=
    fields_typed (.date 15 3 1985) rfl (by decide) (by decide) legal enters .twelve datedOps
  obtain ⟨fields, before, _⟩ := partly 5 (by decide)
  exact ⟨s', reached, typed, congrArg (·.1.cursor) before⟩

/-- Whatever is done to a clock, it is at a time of day. -/
theorem timed_run (made : s.Made) (isClock : s.isClock = true) (ops : List Operation) :
    ∃ s', (run ops (ofKind (.sequence s))).result.kind = .sequence s' ∧ s'.style = .clock ∧
      s'.limits = Sequence.clockLimits ∧ Sequence.IsTime (s'.field 0) (s'.field 1) ∧
      s'.timed (s'.field 0) (s'.field 1) s'.cursor = s' := by
  obtain ⟨s', reached, same, steady⟩ := steady_run made ops
  have isClock' : s'.isClock = true := same.clock.trans isClock
  exact ⟨s', reached, beq_iff_eq.mp isClock', steady.sound.clock isClock',
    steady.sound.timed_fields isClock'⟩

/-- Whatever the clock shows and wherever its cursor is, each digit of a time of day is taken. -/
theorem day_time_typed (made : s.Made) (isClock : s.isClock = true) {hour minute : Nat}
    (hours : hour ≤ 23) (minutes : minute ≤ 59)
    (enters : Action.Enters keys (padded 2 (hour : Int) ++ padded 2 (minute : Int)))
    (ops : List Operation) :
    ∃ s', (run ops (ofKind (.sequence s))).result.kind = .sequence s' ∧
      s'.handleAll .twentyFour (.first :: keys) =
        ({ s' with value := [(hour : Int), (minute : Int)], cursor := 3 }, timeReports) := by
  obtain ⟨s', reached, style, limits, time, whole⟩ := timed_run made isClock ops
  refine ⟨s', reached, ?_⟩
  obtain ⟨a, b, c, d, rfl, ha, hb, hc, hd⟩ := Sequence.exists_keys (by omega) (by omega) enters
  obtain ⟨_, leads⟩ := Sequence.leadsTo_twentyFour time.hour hours
  have typed := Sequence.handleAll_timed style limits time leads minutes ha hb hc hd s'.cursor
  rwa [whole] at typed

/-- A time in the morning is typed over one in the evening. -/
theorem day_time_typed_evening :
    ∃ s', (run [.act .twentyFour .last, .decrement] (ofKind (.sequence (.clock 19 50)))).result.kind =
        .sequence s' ∧
      s'.handleAll .twentyFour [.first, .digit 0, .character '7', .digit 0, .digit 5] =
        ({ s' with value := [7, 5], cursor := 3 }, timeReports) :=
  day_time_typed (.clock 19 50) rfl (by decide) (by decide) (by decide) _

/-- A time on the face of twelve hours is typed in the half of the day that the clock is in, unless the
clock shows ten and the hour is below ten; then something else is shown in the end. -/
theorem face_time_typed_iff (made : s.Made) (isClock : s.isClock = true) {hour minute : Nat}
    (hours : 1 ≤ hour ∧ hour ≤ 12) (minutes : minute ≤ 59)
    (enters : Action.Enters keys (padded 2 (hour : Int) ++ padded 2 (minute : Int)))
    (ops : List Operation) :
    ∃ s', (run ops (ofKind (.sequence s))).result.kind = .sequence s' ∧
      ((s'.handleAll .twelve (.first :: keys)).1.text .twelve =
          String.ofList (faceText (decide (12 ≤ s'.field 0)) hour minute) ↔
        ¬(faceHour (s'.field 0) = 10 ∧ hour < 10)) ∧
      (¬(faceHour (s'.field 0) = 10 ∧ hour < 10) →
        s'.handleAll .twelve (.first :: keys) =
          ({ s' with value := [enteredHour .twelve (s'.field 0) hour, (minute : Int)], cursor := 3 },
            timeReports)) := by
  obtain ⟨s', reached, style, limits, time, whole⟩ := timed_run made isClock ops
  refine ⟨s', reached, ?_⟩
  obtain ⟨a, b, c, d, rfl, ha, hb, hc, hd⟩ := Sequence.exists_keys (by omega) (by omega) enters
  have typed (free : ¬(faceHour (s'.field 0) = 10 ∧ hour < 10)) :
      s'.handleAll .twelve [.first, a, b, c, d] =
        (s'.timed (enteredHour .twelve (s'.field 0) hour) minute 3, timeReports) := by
    obtain ⟨_, leads⟩ := Sequence.leadsTo_twelve hours free
    have typed := Sequence.handleAll_timed style limits time leads minutes ha hb hc hd s'.cursor
    rwa [whole] at typed
  refine ⟨⟨fun shown bad => ?_, fun free => ?_⟩, typed⟩
  · -- The zero leads to twelve, and the hour that is shown in the end is not below ten.
    obtain ⟨ten, below⟩ := bad
    have zero : a.digit? = some 0 := by rw [ha, Nat.div_eq_of_lt below]
    have digits : ∀ key ∈ [b, c, d], ∃ digit, key.digit? = some digit :=
      List.forall_mem_cons.mpr ⟨⟨_, hb⟩, List.forall_mem_cons.mpr ⟨⟨_, hc⟩,
        List.forall_mem_singleton.mpr ⟨_, hd⟩⟩⟩
    have late := Sequence.late_of_zero_at_ten style limits time ten zero digits s'.cursor
    rw [whole] at late
    exact late.text_ne style below _ _ shown
  · have half : decide (12 ≤ enteredHour .twelve (s'.field 0) hour) = decide (12 ≤ s'.field 0) := by
      have kept := Sequence.lt_twelve_enteredHour (s'.field 0) (Int.natCast_nonneg hour)
      exact decide_eq_decide.mpr (by omega)
    have onFace : 1 ≤ (hour : Int) ∧ (hour : Int) ≤ 12 := by omega
    have face := Sequence.faceHour_enteredHour (s'.field 0) onFace
    rw [typed free, Sequence.text_timed style face, half]

/-- A quarter to four is typed at noon, which a step has led to. -/
theorem face_time_typed_afternoon :
    ∃ s', (run [.increment] (ofKind (.sequence (.clock 11 59)))).result.kind = .sequence s' ∧
      s'.handleAll .twelve [.first, .digit 0, .digit 3, .character '4', .digit 5] =
        ({ s' with value := [15, 45], cursor := 3 }, timeReports) ∧
      (s'.handleAll .twelve [.first, .digit 0, .digit 3, .character '4', .digit 5]).1.text .twelve =
        "03:45 PM" := by
  have enters : Action.Enters [.digit 0, .digit 3, .character '4', .digit 5]
      (padded 2 (3 : Nat) ++ padded 2 (45 : Nat)) := by decide
  obtain ⟨s', reached, shown, typed⟩ :=
    face_time_typed_iff (.clock 11 59) rfl (by decide) (by decide) enters [.increment]
  have content : (run [.increment] (ofKind (.sequence (.clock 11 59)))).result.kind.content? =
      some (.fields [12, 0]) := by decide +kernel
  rw [reached] at content
  have noon : s'.field 0 = 12 :=
    congrArg (·.getD 0 0) (Kind.Content.fields.inj (Option.some.inj content))
  rw [noon] at shown typed
  exact ⟨s', reached, typed (by decide), (shown.mpr (by decide)).trans (by decide)⟩

/-- At ten, the hour of three cannot be typed: the zero leads to twelve, at which a three is not taken,
and the zeros of the minute lead back to ten. -/
theorem zero_at_ten_spoils_hour :
    ¬ ∀ (s s' : Sequence) (ops : List Operation) (hour minute : Nat) (keys : List Action), s.Made →
      s.isClock = true → (run ops (ofKind (.sequence s))).result.kind = .sequence s' →
      1 ≤ hour → hour ≤ 12 → minute ≤ 59 →
      Action.Enters keys (padded 2 (hour : Int) ++ padded 2 (minute : Int)) →
      (s'.handleAll .twelve (.first :: keys)).1.text .twelve =
        String.ofList (faceText (decide (12 ≤ s'.field 0)) hour minute) := by
  intro typed
  have three := typed (.clock 10 0) _ [] 3 0 [.digit 0, .digit 3, .digit 0, .digit 0] (.clock 10 0)
    rfl rfl (by decide) (by decide) (by decide) (by decide)
  have ten : ((Sequence.clock 10 0).handleAll .twelve
      [.first, .digit 0, .digit 3, .digit 0, .digit 0]).1.text .twelve = "10:00 AM" := by decide
  exact absurd (ten.symm.trans three) (by decide)

end Settings.Element
