import Settings.Proofs.Editor.Cursor

/-!
# Numbers with a fraction

A whole number and a fraction are one count of steps. The fraction is never negative: it leads upwards
from the whole number, also from one below zero. A count is cut towards zero, though. Below zero that
gives the next whole number and a negative fraction, which is clamped to none.

* `tdiv_tmod_of_nonneg`, `tdiv_tmod_of_whole`, `tdiv_tmod_of_neg`: how a count is cut.
* `cut`, `setStepCount_count`: the fields that the count of a whole number and a fraction is cut into.
* `cut_eq_iff`, `stepCount_cut_iff`: when these are the ones that were counted, and have their count.
-/
namespace Settings.Sequence

variable {s : Sequence} {whole : Bounds} {top a b steps : Int}

section Cutting

theorem tdiv_tmod_of_nonneg (part : 0 ≤ b ∧ b < steps) (nonneg : 0 ≤ a) :
    (a * steps + b).tdiv steps = a ∧ (a * steps + b).tmod steps = b := by
  have positive : 0 < steps := by omega
  have front : 0 ≤ a * steps := Int.mul_nonneg nonneg (Int.le_of_lt positive)
  refine (Int.tdiv_tmod_unique (by omega) (by omega)).mpr ⟨?_, part.1, by omega⟩
  rw [Int.mul_comm, Int.add_comm]

theorem tdiv_tmod_of_whole (positive : 0 < steps) (a : Int) :
    (a * steps + 0).tdiv steps = a ∧ (a * steps + 0).tmod steps = 0 := by
  rw [Int.add_zero]
  exact ⟨Int.mul_tdiv_cancel a (by omega), Int.mul_tmod_left a steps⟩

/-- Below zero the count is cut at the next whole number. -/
theorem tdiv_tmod_of_neg (part : 0 < b ∧ b < steps) (negative : a < 0) :
    (a * steps + b).tdiv steps = a + 1 ∧ (a * steps + b).tmod steps = b - steps := by
  have positive : 0 < steps := by omega
  have next : (a + 1) * steps ≤ 0 := Int.mul_nonpos_of_nonpos_of_nonneg (by omega) (by omega)
  have split : steps * (a + 1) = a * steps + steps := by
    rw [Int.mul_comm, Int.add_mul, Int.one_mul]
  rw [Int.mul_comm] at next
  refine (Int.tdiv_tmod_unique' (by omega) (by omega)).mpr ⟨by omega, by omega, by omega⟩

end Cutting

section Counting

/-- A fraction of less than a whole does not carry the count over zero. -/
theorem count_nonneg_iff (part : 0 ≤ b ∧ b < steps) : 0 ≤ a * steps + b ↔ 0 ≤ a := by
  constructor
  · intro counted
    by_contra below
    have next : (a + 1) * steps ≤ 0 := Int.mul_nonpos_of_nonpos_of_nonneg (by omega) (by omega)
    rw [Int.add_mul, Int.one_mul] at next
    omega
  · intro nonneg
    have front : 0 ≤ a * steps := Int.mul_nonneg nonneg (by omega)
    omega

/-- The count is that of a whole number if there is no fraction. -/
theorem dvd_count_iff (part : 0 ≤ b ∧ b < steps) : steps ∣ a * steps + b ↔ b = 0 := by
  rw [Int.dvd_add_right (Int.dvd_mul_left a steps)]
  constructor
  · intro divides
    by_contra fraction
    have whole := Int.le_of_dvd (by omega) divides
    omega
  · rintro rfl
    exact Int.dvd_zero steps

end Counting

section Fields

theorem steps_of_limits (limits : s.limits = [whole, ⟨0, top⟩]) :
    s.steps? = some (top + 1) ∧ s.steps = top + 1 := by
  simp [steps, steps?, limits]

theorem stepCount_of_limits (limits : s.limits = [whole, ⟨0, top⟩]) (fields : List Int) :
    stepCount { s with value := fields } = fields.getD 0 0 * (top + 1) + fields.getD 1 0 :=
  congrArg (fields.getD 0 0 * · + fields.getD 1 0) (steps_of_limits limits).2

/-- What is left of a whole number and a fraction when their count is cut towards zero and clamped. -/
def cut (whole : Bounds) (a b : Int) : List Int :=
  if 0 ≤ a ∨ b = 0 then [a, b] else [whole.clamp (a + 1), 0]

/-- The count of a whole number and a fraction is cut into both, unless there is a fraction below zero. -/
theorem setStepCount_count (limits : s.limits = [whole, ⟨0, top⟩]) (contains : whole.Contains a)
    (part : 0 ≤ b ∧ b ≤ top) :
    s.setStepCount (a * (top + 1) + b) =
      .ok { s with value := cut whole a b } := by
  have fraction : Bounds.Contains ⟨0, top⟩ b := part
  have within : 0 ≤ b ∧ b < top + 1 := by omega
  have some' : ¬top + 1 = 0 := by omega
  rw [setStepCount, (steps_of_limits limits).1]
  dsimp only
  rw [if_neg some', setFields, limits]
  by_cases kept : 0 ≤ a ∨ b = 0
  · have parts : (a * (top + 1) + b).tdiv (top + 1) = a ∧ (a * (top + 1) + b).tmod (top + 1) = b := by
      rcases kept with nonneg | rfl
      · exact tdiv_tmod_of_nonneg within nonneg
      · exact tdiv_tmod_of_whole (by omega) a
    rw [parts.1, parts.2, cut, if_pos kept, fit, fit, fit, Bounds.clamp_of_contains contains,
      Bounds.clamp_of_contains fraction]
  · -- The remainder is negative, so the fraction is lost.
    have parts : (a * (top + 1) + b).tdiv (top + 1) = a + 1 ∧
        (a * (top + 1) + b).tmod (top + 1) = b - (top + 1) :=
      tdiv_tmod_of_neg (by omega) (by omega)
    have lost : Bounds.clamp ⟨0, top⟩ (b - (top + 1)) = 0 := by
      simp only [Bounds.clamp]
      omega
    rw [parts.1, parts.2, cut, if_neg kept, fit, fit, fit, lost]

/-- Fields within such bounds are a whole number and a fraction. -/
theorem exists_of_inside {fields : List Int} (inside : Inside [whole, ⟨0, top⟩] fields) :
    ∃ a b, fields = [a, b] ∧ whole.Contains a ∧ 0 ≤ b ∧ b ≤ top := by
  cases inside with
  | cons first rest =>
    cases rest with
    | cons second nothing =>
      cases nothing
      exact ⟨_, _, rfl, first, second⟩

/-- The fields come back if the number is not below zero or has no fraction. -/
theorem cut_eq_iff (whole : Bounds) (a b : Int) : cut whole a b = [a, b] ↔ 0 ≤ a ∨ b = 0 := by
  rw [cut]
  constructor
  · intro same
    by_contra lost
    rw [if_neg lost] at same
    simp only [List.cons.injEq, and_true] at same
    exact lost (.inr same.2.symm)
  · exact fun kept => if_pos kept

/-- A count comes back if it is not below zero or has no fraction. -/
theorem stepCount_cut_iff (limits : s.limits = [whole, ⟨0, top⟩]) (part : 0 ≤ b ∧ b ≤ top) :
    stepCount { s with value := cut whole a b } = a * (top + 1) + b ↔
      0 ≤ a * (top + 1) + b ∨ top + 1 ∣ a * (top + 1) + b := by
  have within : 0 ≤ b ∧ b < top + 1 := by omega
  rw [stepCount_of_limits limits, count_nonneg_iff within, dvd_count_iff within, cut]
  by_cases kept : 0 ≤ a ∨ b = 0
  · simp [kept]
  · -- What is left is a count without a fraction.
    have other : whole.clamp (a + 1) * (top + 1) ≠ a * (top + 1) + b := by
      intro same
      have divides := (dvd_count_iff within).mp (same ▸ Int.dvd_mul_left _ (top + 1))
      exact kept (.inr divides)
    simp [kept, other]

end Fields

end Settings.Sequence
