import Settings.Proofs.Editor.Stepping
import Settings.Proofs.Element.Bounds

/-!
# Clocks that are stepped, after every run

Whatever was done to a clock that a host made, steps on and back in any order lead to the time that is as
many minutes later as there are more steps on than back, round the day. Where the cursor stands and which
face the clock was edited on does not matter.

* `kind_perform_of_step`: one step.
* `kind_run_steps`: a run of steps.
* `clock_counts`: the time behind a run of steps.
-/
namespace Settings.Element

open Sequence (timeOfDay minutesPerDay)

/-- One minute later, by the element or by a direct edit of its value. -/
def Operation.stepsOn : Operation → Bool
  | .increment | .edit .increment => true
  | _ => false

/-- One minute earlier. -/
def Operation.stepsBack : Operation → Bool
  | .decrement | .edit .decrement => true
  | _ => false

/-- How many more steps there are on than back. -/
def netSteps (steps : List Operation) : Int :=
  (steps.countP Operation.stepsOn : Nat) - (steps.countP Operation.stepsBack : Nat)

variable {s : Sequence} {e : Element} {count : Int} {steps : List Operation}

theorem netSteps_cons (op : Operation) (steps : List Operation) :
    netSteps (op :: steps) = netSteps [op] + netSteps steps := by
  simp only [netSteps, List.countP_cons, List.countP_nil]
  omega

/-- What steps a clock leads to what it makes of it. -/
theorem kind_step_of_moved {f : Kind → Kind × Bool} {k : Kind} (moved : f e.kind = (k, true)) :
    (e.step f).1.result.kind = k := by
  rw [step, moved]
  rfl

/-- A step counts one minute on or back. -/
theorem kind_perform_of_step (isClock : s.isClock = true)
    (shown : e.kind = .sequence (s.atMinute count)) {op : Operation}
    (step : op.stepsOn = true ∨ op.stepsBack = true) :
    (e.perform op).1.result.kind = .sequence (s.atMinute (count + netSteps [op])) := by
  have later := Sequence.increment_atMinute isClock count
  have earlier := Sequence.decrement_atMinute isClock count
  cases op with
  | increment =>
    refine kind_step_of_moved ?_
    rw [shown, Kind.increment, later]
    rfl
  | decrement =>
    refine kind_step_of_moved ?_
    rw [shown, Kind.decrement, earlier]
    rfl
  | edit change =>
    cases change with
    | increment =>
      have done : e.kind.apply .increment = .ok (.sequence (s.atMinute (count + 1)), some true) := by
        rw [shown, Kind.apply, later]
      rw [perform_edit done]
      rfl
    | decrement =>
      have done : e.kind.apply .decrement = .ok (.sequence (s.atMinute (count - 1)), some true) := by
        rw [shown, Kind.apply, earlier]
      rw [perform_edit done]
      rfl
    | _ => simp [Operation.stepsOn, Operation.stepsBack] at step
  | _ => simp [Operation.stepsOn, Operation.stepsBack] at step

/-- So a run of steps counts as many more minutes as it has more steps on than back. -/
theorem kind_run_steps (isClock : s.isClock = true)
    (only : ∀ op ∈ steps, op.stepsOn = true ∨ op.stepsBack = true)
    (shown : e.kind = .sequence (s.atMinute count)) :
    (run steps e).result.kind = .sequence (s.atMinute (count + netSteps steps)) := by
  induction steps generalizing e count with
  | nil => exact shown.trans (by simp [netSteps])
  | cons op rest ih =>
    obtain ⟨first, others⟩ := List.forall_mem_cons.mp only
    have stepped := ih others (kind_perform_of_step isClock shown first)
    rw [Int.add_assoc, ← netSteps_cons] at stepped
    exact stepped

/-- Behind any other run, too. -/
theorem exists_stepped (made : s.Made) (isClock : s.isClock = true) (ops : List Operation)
    (only : ∀ op ∈ steps, op.stepsOn = true ∨ op.stepsBack = true) :
    ∃ s', (run ops (ofKind (.sequence s))).result.kind = .sequence s' ∧
      (run (ops ++ steps) (ofKind (.sequence s))).result.kind =
        .sequence (s'.atMinute (s'.minutes + netSteps steps)) := by
  obtain ⟨s', reached, same, steady⟩ := steady_run made ops
  have isClock' : s'.isClock = true := same.clock.trans isClock
  have counted : (run ops (ofKind (.sequence s))).result.kind = .sequence (s'.atMinute s'.minutes) := by
    rw [steady.sound.atMinute_minutes isClock']
    exact reached
  refine ⟨s', reached, ?_⟩
  rw [run_append]
  exact kind_run_steps isClock' only counted

/-- A clock counts the minutes of a day: behind any run, steps lead to the time that is as many minutes
later as there are more steps on than back. Any other clock that shows the same time comes to the same
time by any steps with the same difference, whatever its cursor and the faces that it was edited on. -/
theorem clock_counts (made : s.Made) (isClock : s.isClock = true) (ops : List Operation)
    (only : ∀ op ∈ steps, op.stepsOn = true ∨ op.stepsBack = true) :
    ∃ s' s'', (run ops (ofKind (.sequence s))).result.kind = .sequence s' ∧
      (run (ops ++ steps) (ofKind (.sequence s))).result.kind = .sequence s'' ∧
      s'' = { s' with value := timeOfDay (60 * s'.field 0 + s'.field 1 + netSteps steps) } ∧
      s''.minutes = (60 * s'.field 0 + s'.field 1 + netSteps steps) % 1440 ∧
      ∀ (t t' : Sequence) (ops' steps' : List Operation), t.Made → t.isClock = true →
        (∀ op ∈ steps', op.stepsOn = true ∨ op.stepsBack = true) →
        (run ops' (ofKind (.sequence t))).result.kind = .sequence t' → t'.value = s'.value →
        netSteps steps' = netSteps steps →
        ∃ t'', (run (ops' ++ steps') (ofKind (.sequence t))).result.kind = .sequence t'' ∧
          t''.value = s''.value := by
  obtain ⟨s', reached, stepped⟩ := exists_stepped made isClock ops only
  refine ⟨s', _, reached, stepped, rfl, Sequence.minutes_atMinute _ s', ?_⟩
  intro t t' ops' steps' made' isClock' only' reached' sameTime sameNet
  obtain ⟨t₁, shown, stepped'⟩ := exists_stepped made' isClock' ops' only'
  cases Kind.sequence.inj (reached'.symm.trans shown)
  have sameMinutes : t'.minutes = s'.minutes := by
    simp only [Sequence.minutes, Sequence.field, sameTime]
  refine ⟨_, stepped', ?_⟩
  rw [sameMinutes, sameNet]
  rfl

/-- Steps over midnight and back, by the element and by direct edits. -/
def midnightSteps : List Operation :=
  [.increment, .edit .increment, .decrement, .increment, .edit .increment, .edit .decrement]

/-- A clock that a typed digit set to two minutes before midnight ends at midnight after four steps on and
two back, and so does another one, on which nothing was typed, after two steps on. -/
theorem clock_counts_midnight :
    ∃ s' s'' t'', (run [.act .twelve .last, .act .twelve (.digit 8)]
        (ofKind (.sequence (.clock 23 51)))).result.kind = .sequence s' ∧
      (run ([.act .twelve .last, .act .twelve (.digit 8)] ++ midnightSteps)
        (ofKind (.sequence (.clock 23 51)))).result.kind = .sequence s'' ∧
      s'.value = [23, 58] ∧ s''.value = [0, 0] ∧ s''.cursor = 3 ∧ s''.minutes = 0 ∧
      (run ([] ++ [.increment, .increment]) (ofKind (.sequence (.clock 23 58)))).result.kind =
        .sequence t'' ∧
      t''.value = [0, 0] := by
  have only : ∀ op ∈ midnightSteps, op.stepsOn = true ∨ op.stepsBack = true := by decide
  obtain ⟨s', s'', reached, stepped, ends, _, others⟩ :=
    clock_counts (.clock 23 51) rfl [.act .twelve .last, .act .twelve (.digit 8)] only
  have there : s' = { Sequence.clock 23 51 with value := [23, 58], cursor := 3 } :=
    Kind.sequence.inj (reached.symm.trans rfl)
  subst there
  obtain ⟨t'', alike, sameTime⟩ :=
    others (.clock 23 58) _ [] [.increment, .increment] (.clock 23 58) rfl (by decide) rfl rfl rfl
  subst ends
  exact ⟨_, _, t'', reached, stepped, rfl, by decide, rfl, by decide, alike, sameTime.trans (by decide)⟩

end Settings.Element
