import Settings.Proofs.Editor.DigitEntry

/-!
# Typing a time of day

The four digits of a time are typed into a clock from its first column. What the first digit leads to
is corrected to an hour that a clock can show, and whether the clock takes the second digit depends on
that hour. On the face of twenty-four hours the first digit stays through the correction. On the face
of twelve hours it does, unless a zero is typed at ten: no hour is shown as zero, and it is taken as
twelve. From then on no hour below ten can be typed.

* `clockDigit_timed`: a digit that the clock takes.
* `handleAll_timed`: four digits, if those of the hour lead to an hour.
* `leadsTo_twentyFour`, `leadsTo_twelve`: when they do.
* `late_of_zero_at_ten`: what is shown after a zero at ten.
-/
namespace Settings.Sequence

open Numeral (padded)

variable {s : Sequence} {mode : HourMode} {hour minute : Int}

section Faces

/-- The hour that a clock shows. -/
def shownHour : HourMode → Int → Int
  | .twelve, hour => faceHour hour
  | .twentyFour, hour => hour

/-- An hour and a minute of a day. -/
structure IsTime (hour minute : Int) : Prop where
  hour : 0 ≤ hour ∧ hour ≤ 23
  minute : 0 ≤ minute ∧ minute ≤ 59

theorem shownHour_range (mode : HourMode) (range : 0 ≤ hour ∧ hour ≤ 23) :
    0 ≤ shownHour mode hour ∧ shownHour mode hour ≤ 23 := by
  cases mode with
  | twelve =>
    have face := faceHour_bounds hour
    simp only [shownHour]
    omega
  | twentyFour => exact range

/-- The shown hour means the hour itself. -/
theorem enteredHour_shownHour (mode : HourMode) (range : 0 ≤ hour ∧ hour ≤ 23) :
    enteredHour mode hour (shownHour mode hour) = hour := by
  cases mode with
  | twelve =>
    simp only [enteredHour, shownHour, faceHour]
    split <;> omega
  | twentyFour =>
    simp only [enteredHour, shownHour]
    omega

/-- Whatever is entered, a clock comes to an hour of the day. -/
theorem enteredHour_range (mode : HourMode) (hour : Int) {entered : Int} (nonneg : 0 ≤ entered) :
    0 ≤ enteredHour mode hour entered ∧ enteredHour mode hour entered ≤ 23 := by
  cases mode with
  | twelve =>
    simp only [enteredHour]
    split <;> omega
  | twentyFour =>
    simp only [enteredHour]
    omega

/-- Entering an hour of the face keeps the half of the day. -/
theorem lt_twelve_enteredHour (hour : Int) {entered : Int} (nonneg : 0 ≤ entered) :
    enteredHour .twelve hour entered < 12 ↔ hour < 12 := by
  simp only [enteredHour]
  split <;> omega

/-- An hour of the face is shown once it is entered. -/
theorem faceHour_enteredHour (hour : Int) {entered : Int} (face : 1 ≤ entered ∧ entered ≤ 12) :
    faceHour (enteredHour .twelve hour entered) = entered := by
  simp only [enteredHour, faceHour]
  split <;> split <;> omega

end Faces

section Digits

variable {column digit : Nat} {shown : Int}

theorem acceptsDigit_twelve :
    acceptsDigit .twelve column digit shown = true ↔
      (column = 0 → digit ≤ 1) ∧
      (column = 1 → (10 ≤ shown → digit ≤ 2) ∧ (shown < 10 → digit ≠ 0)) ∧
      (column = 2 → digit ≤ 5) := by
  simp only [acceptsDigit, Bool.and_eq_true, Bool.not_eq_true', Bool.or_eq_false_iff,
    Bool.and_eq_false_iff, beq_eq_false_iff_ne, decide_eq_false_iff_not]
  omega

theorem acceptsDigit_twentyFour :
    acceptsDigit .twentyFour column digit shown = true ↔
      (column = 0 → digit ≤ 2) ∧ (column = 1 → 20 ≤ shown → digit ≤ 3) ∧
      (column = 2 → digit ≤ 5) := by
  simp only [acceptsDigit, Bool.and_eq_true, Bool.not_eq_true', Bool.or_eq_false_iff,
    Bool.and_eq_false_iff, beq_eq_false_iff_ne, decide_eq_false_iff_not]
  omega

/-- The minutes are typed alike on both faces. -/
theorem acceptsDigit_minute (late : 2 ≤ column) :
    acceptsDigit mode column digit shown = true ↔ (column = 2 → digit ≤ 5) := by
  cases mode with
  | twelve =>
    rw [acceptsDigit_twelve]
    omega
  | twentyFour =>
    rw [acceptsDigit_twentyFour]
    omega

end Digits

section Time

/-- The time that a clock comes to when a digit replaces the one at a column. -/
def typedTime (mode : HourMode) (column digit : Nat) (hour minute : Int) : Int × Int :=
  let digits := (timeDigits (shownHour mode hour) minute).set column digit
  (enteredHour mode hour (digits.getD 0 0 * 10 + digits.getD 1 0),
    digits.getD 2 0 * 10 + digits.getD 3 0)

variable {digit : Nat}

theorem typedTime_hourTens :
    typedTime mode 0 digit hour minute =
      (enteredHour mode hour (digit * 10 + shownHour mode hour % 10), minute) :=
  congrArg _ (Int.ediv_mul_add_emod minute 10)

theorem typedTime_hourUnits :
    typedTime mode 1 digit hour minute =
      (enteredHour mode hour (shownHour mode hour / 10 * 10 + digit), minute) :=
  congrArg _ (Int.ediv_mul_add_emod minute 10)

/-- A digit of the minute leaves the hour. -/
theorem enteredHour_of_minute (range : 0 ≤ hour ∧ hour ≤ 23) :
    enteredHour mode hour (shownHour mode hour / 10 * 10 + shownHour mode hour % 10) = hour := by
  rw [Int.ediv_mul_add_emod, enteredHour_shownHour mode range]

theorem typedTime_minuteTens (range : 0 ≤ hour ∧ hour ≤ 23) :
    typedTime mode 2 digit hour minute = (hour, digit * 10 + minute % 10) :=
  congrArg (·, (digit : Int) * 10 + minute % 10) (enteredHour_of_minute range)

theorem typedTime_minuteUnits (range : 0 ≤ hour ∧ hour ≤ 23) :
    typedTime mode 3 digit hour minute = (hour, minute / 10 * 10 + digit) :=
  congrArg (·, minute / 10 * 10 + (digit : Int)) (enteredHour_of_minute range)

/-- A digit that is taken leads to a time of day. -/
theorem isTime_typedTime (time : IsTime hour minute) {column : Nat} (within : column < 4)
    (decimal : digit ≤ 9)
    (accepted : acceptsDigit mode column digit (shownHour mode hour) = true) :
    IsTime (typedTime mode column digit hour minute).1 (typedTime mode column digit hour minute).2 := by
  obtain ⟨range, minutes⟩ := time
  have shown := shownHour_range mode range
  match column with
  | 0 =>
    rw [typedTime_hourTens]
    exact ⟨enteredHour_range mode hour (by omega), minutes⟩
  | 1 =>
    rw [typedTime_hourUnits]
    exact ⟨enteredHour_range mode hour (by omega), minutes⟩
  | 2 =>
    have few := (acceptsDigit_minute (Nat.le_refl 2)).mp accepted rfl
    rw [typedTime_minuteTens range]
    exact ⟨range, by dsimp only; omega⟩
  | 3 =>
    rw [typedTime_minuteUnits range]
    exact ⟨range, by dsimp only; omega⟩

end Time

section Clocks

/-- A clock at a time, with the cursor on a column. -/
def timed (hour minute : Int) (column : Nat) (s : Sequence) : Sequence :=
  { s with value := [hour, minute], cursor := column }

/-- Every sound clock is at a time. -/
theorem Sound.timed_fields (sound : s.Sound) (isClock : s.isClock = true) :
    IsTime (s.field 0) (s.field 1) ∧ s.timed (s.field 0) (s.field 1) s.cursor = s := by
  obtain ⟨hours, minutes⟩ := sound.time isClock
  refine ⟨⟨hours, minutes⟩, ?_⟩
  rw [timed, ← sound.value_of_clock isClock]

theorem settle_timed (limits : s.limits = clockLimits) (time : IsTime hour minute) {column : Nat}
    (within : column ≤ 4) :
    (s.timed hour minute column).settle =
      ⟨s.timed hour minute (min column 3), true, if column = 4 then some .finish else none⟩ := by
  have wide : (s.timed hour minute column).totalWidth = 4 := by
    change columns (s.limits.map fun b => Numeral.width b.high) = 4
    rw [limits]
    decide
  have clamped : clampFields s.limits [hour, minute] = [hour, minute] := by
    rw [limits]
    exact clampFields_of_inside (inside_clockLimits time.hour time.minute)
  by_cases inside : column < 4
  · rw [settle_of_lt (Nat.lt_of_lt_of_eq inside wide.symm), if_neg (Nat.ne_of_lt inside),
      Nat.min_eq_left (Nat.le_of_lt_succ inside)]
    simp only [timed, clamped, Outcome.changedTo]
  · have last : column = 4 := by omega
    subst last
    rw [settle_of_le (Nat.le_of_eq wide), wide, if_pos rfl]
    simp only [timed, clamped]
    rfl

/-- A digit that the clock takes leads to another time, any other digit does nothing. -/
theorem clockDigit_eq (mode : HourMode) (digit : Nat) (s : Sequence) :
    s.clockDigit mode digit =
      if acceptsDigit mode s.cursor digit (shownHour mode (s.field 0)) = true then
        (s.timed (typedTime mode s.cursor digit (s.field 0) (s.field 1)).1
          (typedTime mode s.cursor digit (s.field 0) (s.field 1)).2 (s.cursor + 1)).settle
      else .quiet s := by
  cases mode <;> rfl

/-- A digit that the clock takes. -/
theorem clockDigit_timed (limits : s.limits = clockLimits) (time : IsTime hour minute) {column : Nat}
    (within : column < 4) {digit : Nat} (decimal : digit ≤ 9)
    (accepted : acceptsDigit mode column digit (shownHour mode hour) = true) :
    (s.timed hour minute column).clockDigit mode digit =
      ⟨s.timed (typedTime mode column digit hour minute).1 (typedTime mode column digit hour minute).2
        (min (column + 1) 3), true, if column + 1 = 4 then some .finish else none⟩ := by
  have replaced : (s.timed hour minute column).clockDigit mode digit =
      (s.timed (typedTime mode column digit hour minute).1 (typedTime mode column digit hour minute).2
        (column + 1)).settle :=
    (clockDigit_eq mode digit _).trans (if_pos accepted)
  rw [replaced, settle_timed limits (isTime_typedTime time within decimal accepted) within]

theorem handle_of_clock (style : s.style = .clock) (mode : HourMode) (a : Action) :
    s.handle mode a = s.handleClock mode a := by
  rw [handle, style]

theorem handle_first_timed (style : s.style = .clock) (mode : HourMode) (hour minute : Int)
    (column : Nat) :
    (s.timed hour minute column).handle mode .first = .quiet (s.timed hour minute 0) :=
  handle_of_clock (s := s.timed hour minute column) style mode .first

theorem handleClock_of_digit? {a : Action} {digit : Nat} (entered : a.digit? = some digit)
    (mode : HourMode) (s : Sequence) : s.handleClock mode a = s.clockDigit mode digit := by
  unfold handleClock
  cases a with
  | digit n =>
    dsimp only
    rw [entered]
  | character c =>
    dsimp only
    rw [entered]
  | _ => cases entered

/-- The key for a digit that the clock takes leads to a time of day. -/
theorem handle_timed (style : s.style = .clock) (limits : s.limits = clockLimits)
    (time : IsTime hour minute) {column : Nat} (within : column < 4) {a : Action} {digit : Nat}
    (entered : a.digit? = some digit)
    (accepted : acceptsDigit mode column digit (shownHour mode hour) = true) {nextHour nextMinute : Int}
    (comesTo : typedTime mode column digit hour minute = (nextHour, nextMinute)) :
    (s.timed hour minute column).handle mode a =
        ⟨s.timed nextHour nextMinute (min (column + 1) 3), true,
          if column + 1 = 4 then some .finish else none⟩ ∧
      IsTime nextHour nextMinute := by
  have decimal := Action.digit?_le_nine entered
  have next := isTime_typedTime time within decimal accepted
  rw [handle_of_clock (s := s.timed hour minute column) style, handleClock_of_digit? entered,
    clockDigit_timed limits time within decimal accepted, comesTo]
  rw [comesTo] at next
  exact ⟨rfl, next⟩

end Clocks

section Runs

/-- The clock takes two digits as those of an hour, and comes to one hour behind the first and to
another behind the second. -/
structure LeadsTo (mode : HourMode) (hour : Int) (tens units : Nat) (between result : Int) : Prop where
  takesTens : acceptsDigit mode 0 tens (shownHour mode hour) = true
  comesTo : enteredHour mode hour (tens * 10 + shownHour mode hour % 10) = between
  takesUnits : acceptsDigit mode 1 units (shownHour mode between) = true
  endsAt : enteredHour mode between (shownHour mode between / 10 * 10 + units) = result

/-- What the keys of a time of day report. -/
def timeReports : List (Bool × Option Edge) :=
  [(false, none), (true, none), (true, none), (true, none), (true, some .finish)]

variable {tens units : Nat} {between result : Int}

/-- The digits of an hour that the clock comes to and of any minute set the time. -/
theorem handleAll_timed (style : s.style = .clock) (limits : s.limits = clockLimits)
    (time : IsTime hour minute) (leads : LeadsTo mode hour tens units between result) {minutes : Nat}
    (few : minutes ≤ 59) {a b c d : Action} (ha : a.digit? = some tens) (hb : b.digit? = some units)
    (hc : c.digit? = some (minutes / 10)) (hd : d.digit? = some (minutes % 10)) (column : Nat) :
    (s.timed hour minute column).handleAll mode [.first, a, b, c, d] =
      (s.timed result minutes 3, timeReports) := by
  have start := handle_first_timed style mode hour minute column
  -- The hour: its first digit leads to another hour, at which the second is judged.
  obtain ⟨first, timeBetween⟩ : _ = Outcome.changedTo (s.timed between minute 1) ∧ _ :=
    handle_timed style limits time (by decide) ha leads.takesTens
      (typedTime_hourTens.trans (congrArg (·, minute) leads.comesTo))
  obtain ⟨second, timeResult⟩ : _ = Outcome.changedTo (s.timed result minute 2) ∧ _ :=
    handle_timed style limits timeBetween (by decide) hb leads.takesUnits
      (typedTime_hourUnits.trans (congrArg (·, minute) leads.endsAt))
  -- The minute, which is taken at any hour.
  have takesTens : acceptsDigit mode 2 (minutes / 10) (shownHour mode result) = true :=
    (acceptsDigit_minute (Nat.le_refl 2)).mpr fun _ => by omega
  have takesUnits : acceptsDigit mode 3 (minutes % 10) (shownHour mode result) = true :=
    (acceptsDigit_minute (Nat.le_succ 2)).mpr fun last => by cases last
  obtain ⟨third, timeLast⟩ : _ = Outcome.changedTo (s.timed result (_ + minute % 10) 3) ∧ _ :=
    handle_timed style limits timeResult (by decide) hc takesTens
      (typedTime_minuteTens timeResult.hour)
  have whole : ((minutes / 10 : Nat) * 10 + minute % 10) / 10 * 10 + ((minutes % 10 : Nat) : Int) =
      minutes := by
    omega
  obtain ⟨fourth, _⟩ : _ = Outcome.mk (s.timed result minutes 3) true (some .finish) ∧ _ :=
    handle_timed style limits timeLast (by decide) hd takesUnits
      ((typedTime_minuteUnits timeLast.hour).trans (congrArg (result, ·) whole))
  rw [handleAll_cons start, handleAll_cons first, handleAll_cons second, handleAll_cons third,
    handleAll_cons fourth]
  rfl

/-- The keys of an hour and a minute, digit by digit. -/
theorem exists_keys {keys : List Action} {h m : Nat} (hh : h < 100) (hm : m < 100)
    (enters : Action.Enters keys (padded 2 (h : Int) ++ padded 2 (m : Int))) :
    ∃ a b c d : Action, keys = [a, b, c, d] ∧ a.digit? = some (h / 10) ∧ b.digit? = some (h % 10) ∧
      c.digit? = some (m / 10) ∧ d.digit? = some (m % 10) := by
  have small : ∀ {n : Nat}, n < 100 → n / 10 < 10 := fun _ => by omega
  have unit : ∀ n : Nat, n % 10 < 10 := fun n => Nat.mod_lt n (by decide)
  rw [Numeral.padded_two hh, Numeral.padded_two hm] at enters
  obtain ⟨a, keys, rfl, ha, enters⟩ := List.map_eq_cons_iff.mp enters
  obtain ⟨b, keys, rfl, hb, enters⟩ := List.map_eq_cons_iff.mp enters
  obtain ⟨c, keys, rfl, hc, enters⟩ := List.map_eq_cons_iff.mp enters
  obtain ⟨d, keys, rfl, hd, enters⟩ := List.map_eq_cons_iff.mp enters
  obtain rfl := List.map_eq_nil_iff.mp enters
  exact ⟨a, b, c, d, rfl, ha.trans (Action.digit?_digitChar (small hh)),
    hb.trans (Action.digit?_digitChar (unit h)), hc.trans (Action.digit?_digitChar (small hm)),
    hd.trans (Action.digit?_digitChar (unit m))⟩

end Runs

section Leading

variable {target : Nat}

theorem leadsTo_twentyFour (range : 0 ≤ hour ∧ hour ≤ 23) (legal : target ≤ 23) :
    ∃ between, LeadsTo .twentyFour hour (target / 10) (target % 10) between target := by
  obtain ⟨nonneg, within⟩ := range
  refine ⟨_, ?_, rfl, ?_, ?_⟩
  · rw [acceptsDigit_twentyFour]
    omega
  · rw [acceptsDigit_twentyFour]
    simp only [shownHour, enteredHour]
    omega
  · simp only [shownHour, enteredHour]
    omega

/-- Only the half of the day counts for what an entered hour means. -/
theorem enteredHour_twelve_congr {other : Int} (half : other < 12 ↔ hour < 12) (entered : Int) :
    enteredHour .twelve other entered = enteredHour .twelve hour entered := by
  have late : 11 < other ↔ 11 < hour := by omega
  simp only [enteredHour, late]

/-- An hour above twelve is taken as ten. -/
theorem enteredHour_min {entered : Int} (late : 12 < entered) :
    enteredHour .twelve hour entered = enteredHour .twelve hour 10 := by
  have other : entered ≠ 12 := by omega
  simp only [enteredHour, if_neg other, if_pos late]
  rfl

/-- The first digit leads to an hour that starts with it, unless it is a zero at ten. -/
theorem exists_hour_of_tens {tens : Nat} (legal : tens ≤ 1) (free : ¬(faceHour hour = 10 ∧ tens = 0)) :
    ∃ between : Int, enteredHour .twelve hour (tens * 10 + faceHour hour % 10) =
      enteredHour .twelve hour between ∧ (1 ≤ between ∧ between ≤ 12) ∧ between / 10 = tens := by
  have face := faceHour_bounds hour
  by_cases late : 12 < (tens : Int) * 10 + faceHour hour % 10
  · exact ⟨10, enteredHour_min late, by omega, by omega⟩
  · exact ⟨_, rfl, by omega, by omega⟩

theorem leadsTo_twelve (legal : 1 ≤ target ∧ target ≤ 12) (free : ¬(faceHour hour = 10 ∧ target < 10)) :
    ∃ between, LeadsTo .twelve hour (target / 10) (target % 10) between
      (enteredHour .twelve hour target) := by
  have few : target / 10 ≤ 1 := by omega
  obtain ⟨between, same, range, tens⟩ := exists_hour_of_tens few fun ten => free ⟨ten.1, by omega⟩
  refine ⟨_, ?_, same, ?_, ?_⟩
  · rw [acceptsDigit_twelve]
    omega
  · rw [acceptsDigit_twelve, shownHour, faceHour_enteredHour hour range]
    omega
  · have whole : ((target / 10 : Nat) : Int) * 10 + (target % 10 : Nat) = target := by omega
    rw [shownHour, faceHour_enteredHour hour range, tens, whole]
    exact enteredHour_twelve_congr (lt_twelve_enteredHour hour (by omega)) _

end Leading

section Late

/-- At an hour of two digits on the face of twelve hours, with the cursor behind the first column. -/
def Late (s s' : Sequence) : Prop :=
  ∃ hour minute column, s' = s.timed hour minute column ∧ IsTime hour minute ∧
    (1 ≤ column ∧ column < 4) ∧ 10 ≤ faceHour hour

variable {s' : Sequence}

/-- A digit behind the first column leads to another hour of two digits, if to any: what is entered
starts with a one. -/
theorem late_typedTime (late : 10 ≤ faceHour hour) (range : 0 ≤ hour ∧ hour ≤ 23) {column digit : Nat}
    (behind : 1 ≤ column ∧ column < 4)
    (accepted : acceptsDigit .twelve column digit (faceHour hour) = true) :
    10 ≤ faceHour (typedTime .twelve column digit hour minute).1 := by
  match column with
  | 1 =>
    have face := faceHour_bounds hour
    have few := (acceptsDigit_twelve.mp accepted).2.1 rfl
    rw [typedTime_hourUnits, shownHour, faceHour_enteredHour hour (by omega)]
    omega
  | 2 =>
    rw [typedTime_minuteTens range]
    exact late
  | 3 =>
    rw [typedTime_minuteUnits range]
    exact late

theorem late_handle (style : s.style = .clock) (limits : s.limits = clockLimits) {a : Action}
    {digit : Nat} (entered : a.digit? = some digit) (late : Late s s') :
    Late s (s'.handle .twelve a).state := by
  obtain ⟨hour, minute, column, rfl, time, behind, face⟩ := late
  by_cases accepted : acceptsDigit .twelve column digit (faceHour hour) = true
  · obtain ⟨moved, next⟩ := handle_timed style limits time behind.2 entered accepted rfl
    rw [moved]
    exact ⟨_, _, _, rfl, next, by omega, late_typedTime face time.hour behind accepted⟩
  · have refused : (s.timed hour minute column).clockDigit .twelve digit =
        .quiet (s.timed hour minute column) := if_neg accepted
    rw [handle_of_clock (s := s.timed hour minute column) style, handleClock_of_digit? entered, refused]
    exact ⟨_, _, _, rfl, time, behind, face⟩

theorem late_handleAll (style : s.style = .clock) (limits : s.limits = clockLimits)
    {keys : List Action} (digits : ∀ a ∈ keys, ∃ digit, a.digit? = some digit) (late : Late s s') :
    Late s (s'.handleAll .twelve keys).1 := by
  induction keys generalizing s' with
  | nil => exact late
  | cons a rest ih =>
    obtain ⟨⟨digit, entered⟩, others⟩ := List.forall_mem_cons.mp digits
    exact ih others (late_handle style limits entered late)

/-- A zero at ten is taken as twelve, and whatever is typed behind it, no hour below ten is shown. -/
theorem late_of_zero_at_ten (style : s.style = .clock) (limits : s.limits = clockLimits)
    (time : IsTime hour minute) (ten : faceHour hour = 10) {a : Action} (zero : a.digit? = some 0)
    {keys : List Action} (digits : ∀ a ∈ keys, ∃ digit, a.digit? = some digit) (column : Nat) :
    Late s ((s.timed hour minute column).handleAll .twelve (.first :: a :: keys)).1 := by
  have start := handle_first_timed style .twelve hour minute column
  have accepted : acceptsDigit .twelve 0 0 (shownHour .twelve hour) = true := by
    rw [acceptsDigit_twelve]
    omega
  obtain ⟨first, next⟩ :=
    handle_timed style limits time (Nat.zero_lt_succ 3) zero accepted typedTime_hourTens
  rw [handleAll_cons start, handleAll_cons first]
  refine late_handleAll style limits digits ⟨_, _, _, rfl, next, by decide, ?_⟩
  rw [shownHour, ten]
  simp only [enteredHour, faceHour]
  omega

end Late

section Text

/-- A time on the face of twelve hours. -/
def faceText (afternoon : Bool) (hour minute : Nat) : List Char :=
  padded 2 (hour : Int) ++ ':' :: (padded 2 (minute : Int) ++ [' ', if afternoon then 'P' else 'A', 'M'])

/-- The shown text tells the hour. -/
theorem hour_eq_of_faceText {morning afternoon : Bool} {h m hour minute : Nat} (small : h < 100)
    (small' : hour < 100) (same : faceText morning h m = faceText afternoon hour minute) : h = hour :=
  (Numeral.padded_append_inj (Nat.zero_lt_succ 1) small small' same).1

theorem text_timed (style : s.style = .clock) {h m : Nat} (face : faceHour hour = h) (column : Nat) :
    (s.timed hour m column).text .twelve = String.ofList (faceText (decide (12 ≤ hour)) h m) := by
  have half : (if hour < 12 then 'A' else 'P') = if decide (12 ≤ hour) = true then 'P' else 'A' := by
    by_cases early : hour < 12
    · rw [if_pos early, decide_eq_false (Int.not_le.mpr early)]
      rfl
    · rw [if_neg early, decide_eq_true (Int.not_lt.mp early)]
      rfl
  rw [text, view, show (s.timed hour m column).style = .clock from style, faceText, ← face, ← half]
  rfl

/-- What is late shows no hour below ten. -/
theorem Late.text_ne {s' : Sequence} (late : Late s s') (style : s.style = .clock) {hour : Nat}
    (below : hour < 10) (afternoon : Bool) (minute : Nat) :
    s'.text .twelve ≠ String.ofList (faceText afternoon hour minute) := by
  obtain ⟨h, m, column, rfl, time, _, face⟩ := late
  have bounds := faceHour_bounds h
  obtain ⟨shown, same⟩ := Int.eq_ofNat_of_zero_le (show 0 ≤ faceHour h by omega)
  obtain ⟨m, rfl⟩ := Int.eq_ofNat_of_zero_le time.minute.1
  rw [text_timed style same]
  intro texts
  have hours := hour_eq_of_faceText (by omega) (by omega) (String.ofList_injective texts)
  omega

end Text

end Settings.Sequence
