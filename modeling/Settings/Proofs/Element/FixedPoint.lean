import Settings.Proofs.Editor.FixedPoint
import Settings.Proofs.Element.Bounds

/-!
# Numbers with a fraction, after every run

Whatever was done to a whole number and a fraction that a host made, setting them from their own count of
steps leaves them alone, and a count that is set can be read again, as long as there is no fraction below
zero. With one, the whole number goes up to the next one and the fraction is gone.

* `recounted_iff`: when the fields come back from their count, and a count from the fields.
* `fraction_below_zero_lost`: a count that does not come back.
-/
namespace Settings.Element

open Sequence (Inside)

variable {s : Sequence} {whole : Bounds} {top : Int}

/-- A number with a fraction in steps from zero up to `top` comes back from its count exactly if it is not
below zero or has no fraction, and a count comes back exactly if it is not below zero or that of a whole
number. Otherwise the next whole number is left, or the greatest one. -/
theorem recounted_iff (made : s.Made) (limits : s.limits = [whole, ⟨0, top⟩]) (ops : List Operation) :
    ∃ s', (run ops (ofKind (.sequence s))).result.kind = .sequence s' ∧
      (∃ s'', s'.setStepCount s'.stepCount = .ok s'' ∧
        (s''.value = s'.value ↔ 0 ≤ s'.field 0 ∨ s'.field 1 = 0) ∧
        (¬(0 ≤ s'.field 0 ∨ s'.field 1 = 0) → s''.value = [whole.clamp (s'.field 0 + 1), 0])) ∧
      ∀ count fields, Inside s.limits fields →
        Sequence.stepCount { s' with value := fields } = count →
        ∃ s'', s'.setStepCount count = .ok s'' ∧
          (s''.stepCount = count ↔ 0 ≤ count ∨ top + 1 ∣ count) := by
  obtain ⟨s', reached, same, steady⟩ := steady_run made ops
  have limits' : s'.limits = [whole, ⟨0, top⟩] := same.limits.trans limits
  have counted (fields : List Int) : Sequence.stepCount { s' with value := fields } =
      fields.getD 0 0 * (top + 1) + fields.getD 1 0 := Sequence.stepCount_of_limits limits' fields
  refine ⟨s', reached, ?_, fun count fields inside holds => ?_⟩
  · have inside := steady.sound.value
    rw [limits'] at inside
    obtain ⟨a, b, value, contains, part⟩ := Sequence.exists_of_inside inside
    have first : s'.field 0 = a := by simp [Sequence.field, value]
    have second : s'.field 1 = b := by simp [Sequence.field, value]
    have own : s'.stepCount = a * (top + 1) + b := by
      have counts : s'.stepCount = _ := counted s'.value
      rw [counts, value]
      rfl
    rw [own, first, second, value]
    exact ⟨_, Sequence.setStepCount_count limits' contains part, Sequence.cut_eq_iff whole a b,
      fun lost => if_neg lost⟩
  · rw [limits] at inside
    obtain ⟨a, b, rfl, contains, part⟩ := Sequence.exists_of_inside inside
    rw [counted] at holds
    subst holds
    exact ⟨_, Sequence.setStepCount_count limits' contains part,
      Sequence.stepCount_cut_iff limits' part⟩

/-- A number that was set to one and a half comes back from its count, and a count of two and three
quarters can be read again. Minus two and three tenths upwards comes back as minus one. -/
theorem recounted_oneAndHalf :
    ∃ s' s'' t' t'', (run [.edit (.setStepCount 150)]
        (ofKind (.sequence (.ofLimits '.' [⟨-5, 5⟩, ⟨0, 99⟩] [-2, 30])))).result.kind =
        .sequence s' ∧
      s'.value = [1, 50] ∧ s'.setStepCount s'.stepCount = .ok s'' ∧ s''.value = [1, 50] ∧
      (∃ u, s'.setStepCount 275 = .ok u ∧ u.stepCount = 275) ∧
      (run [] (ofKind (.sequence (.ofLimits '.' [⟨-5, 5⟩, ⟨0, 99⟩] [-2, 30])))).result.kind =
        .sequence t' ∧
      t'.value = [-2, 30] ∧ t'.setStepCount t'.stepCount = .ok t'' ∧ t''.value = [-1, 0] := by
  have made : (Sequence.ofLimits '.' [⟨-5, 5⟩, ⟨0, 99⟩] [-2, 30]).Made :=
    .fixedPoint [-2, 30] ⟨-5, 5⟩ ⟨0, 99⟩ _ rfl (by decide)
  obtain ⟨s', reached, ⟨s'', back, same, _⟩, counts⟩ :=
    recounted_iff made rfl [.edit (.setStepCount 150)]
  obtain ⟨t', start, ⟨t'', down, _, lost⟩, _⟩ := recounted_iff made rfl []
  have there : s' = { Sequence.ofLimits '.' [⟨-5, 5⟩, ⟨0, 99⟩] [-2, 30] with value := [1, 50] } :=
    Kind.sequence.inj (reached.symm.trans rfl)
  have here : t' = Sequence.ofLimits '.' [⟨-5, 5⟩, ⟨0, 99⟩] [-2, 30] :=
    Kind.sequence.inj (start.symm.trans rfl)
  subst there here
  have inside : Inside [⟨-5, 5⟩, ⟨0, 99⟩] [2, 75] := .cons (by decide) (.cons (by decide) .nil)
  obtain ⟨u, set, read⟩ := counts 275 [2, 75] inside rfl
  exact ⟨_, s'', _, t'', reached, rfl, back, same.mpr (by decide), ⟨u, set, read.mpr (by decide)⟩,
    start, rfl, down, (lost (by decide)).trans rfl⟩

/-- The count of minus two and three tenths upwards, a hundred and seventy hundredths below zero, does not
lead back to it. -/
theorem fraction_below_zero_lost :
    ¬ ∀ (s s' s'' : Sequence) (whole : Bounds) (top : Int) (ops : List Operation), s.Made →
      s.limits = [whole, ⟨0, top⟩] → 0 ≤ top →
      (run ops (ofKind (.sequence s))).result.kind = .sequence s' →
      s'.setStepCount s'.stepCount = .ok s'' → s''.value = s'.value := by
  intro comesBack
  have made : (Sequence.ofLimits '.' [⟨-5, 5⟩, ⟨0, 99⟩] [-2, 30]).Made :=
    .fixedPoint [-2, 30] ⟨-5, 5⟩ ⟨0, 99⟩ _ rfl (by decide)
  have same := comesBack _ _ _ ⟨-5, 5⟩ 99 [] made rfl (by decide) rfl rfl
  exact absurd same (by decide)

end Settings.Element
