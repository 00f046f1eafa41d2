import Settings.Proofs.Editor.Clock

/-!
# Stepping clocks

A clock that is stepped counts minutes round the day. The count is any integer, of which the clock shows
what is left over behind whole days: one step on is one more, one step back is one less.

* `atMinute_minutes`: every sound clock is at its own count.
* `nextMinute_atMinute`, `previousMinute_atMinute`: one step.
* `minutes_atMinute`: the count that a clock shows.
-/
namespace Settings.Sequence

variable {s : Sequence}

def minutesPerDay : Int := 24 * minutesPerHour

/-- The minutes of the day that have gone by. -/
def minutes (s : Sequence) : Int := minutesPerHour * s.field 0 + s.field 1

/-- The hour and the minute at a count of minutes, round the day. -/
def timeOfDay (count : Int) : List Int :=
  [count % minutesPerDay / minutesPerHour, count % minutesPerDay % minutesPerHour]

/-- A clock at a count of minutes, its cursor left where it is. -/
def atMinute (count : Int) (s : Sequence) : Sequence := { s with value := timeOfDay count }

@[simp] theorem field_zero_atMinute (count : Int) (s : Sequence) :
    (s.atMinute count).field 0 = count % minutesPerDay / minutesPerHour := rfl

@[simp] theorem field_one_atMinute (count : Int) (s : Sequence) :
    (s.atMinute count).field 1 = count % minutesPerDay % minutesPerHour := rfl

@[simp] theorem isClock_atMinute (count : Int) (s : Sequence) :
    (s.atMinute count).isClock = s.isClock := rfl

/-- A clock shows what is left of the count behind whole days. -/
theorem minutes_atMinute (count : Int) (s : Sequence) :
    (s.atMinute count).minutes = count % minutesPerDay := by
  simp only [minutes, field_zero_atMinute, field_one_atMinute]
  exact Int.mul_ediv_add_emod _ _

/-- Every sound clock is at its own count. -/
theorem Sound.atMinute_minutes (sound : s.Sound) (isClock : s.isClock = true) :
    s.atMinute s.minutes = s := by
  obtain ⟨hour, minute⟩ := sound.time isClock
  have fields : timeOfDay s.minutes = s.value := by
    rw [sound.value_of_clock isClock]
    simp only [timeOfDay, minutes, minutesPerDay, minutesPerHour, List.cons.injEq, and_true]
    constructor <;> omega
  rw [atMinute, fields]

/-- One minute later, the minute that is full carries to the hour, and the last hour to the next day. -/
theorem nextMinute_atMinute (count : Int) (s : Sequence) :
    (s.atMinute count).nextMinute = s.atMinute (count + 1) := by
  by_cases full : count % minutesPerDay % minutesPerHour = 59
  · have carried : [if count % minutesPerDay / minutesPerHour < 23
        then count % minutesPerDay / minutesPerHour + 1 else 0, 0] = timeOfDay (count + 1) := by
      simp only [timeOfDay, minutesPerDay, minutesPerHour, List.cons.injEq, and_true] at full ⊢
      omega
    exact (if_pos full).trans (congrArg (fun fields => { s with value := fields }) carried)
  · have stayed : [count % minutesPerDay / minutesPerHour, count % minutesPerDay % minutesPerHour + 1] =
        timeOfDay (count + 1) := by
      simp only [timeOfDay, minutesPerDay, minutesPerHour, List.cons.injEq, and_true] at full ⊢
      omega
    exact (if_neg full).trans (congrArg (fun fields => { s with value := fields }) stayed)

/-- One minute earlier, an empty minute borrows from the hour, and the first hour from the day before. -/
theorem previousMinute_atMinute (count : Int) (s : Sequence) :
    (s.atMinute count).previousMinute = s.atMinute (count - 1) := by
  by_cases empty : count % minutesPerDay % minutesPerHour = 0
  · have borrowed : [if 0 < count % minutesPerDay / minutesPerHour
        then count % minutesPerDay / minutesPerHour - 1 else 23, 59] = timeOfDay (count - 1) := by
      simp only [timeOfDay, minutesPerDay, minutesPerHour, List.cons.injEq, and_true] at empty ⊢
      omega
    exact (if_pos empty).trans (congrArg (fun fields => { s with value := fields }) borrowed)
  · have stayed : [count % minutesPerDay / minutesPerHour, count % minutesPerDay % minutesPerHour - 1] =
        timeOfDay (count - 1) := by
      simp only [timeOfDay, minutesPerDay, minutesPerHour, List.cons.injEq, and_true] at empty ⊢
      omega
    exact (if_neg empty).trans (congrArg (fun fields => { s with value := fields }) stayed)

theorem increment_atMinute (isClock : s.isClock = true) (count : Int) :
    (s.atMinute count).increment = (s.atMinute (count + 1), true) := by
  rw [increment, isClock_atMinute, if_pos isClock, nextMinute_atMinute]

theorem decrement_atMinute (isClock : s.isClock = true) (count : Int) :
    (s.atMinute count).decrement = (s.atMinute (count - 1), true) := by
  rw [decrement, isClock_atMinute, if_pos isClock, previousMinute_atMinute]

end Settings.Sequence
