import Settings.Proofs.Editor.Cursor
import Settings.Proofs.Element.Closed
import Settings.Proofs.Element.Kind

/-!
# Bounds along every run

No operation leads a sequence or a slider out of its bounds, or the cursor of a sequence off its
digits and fields. Direct edits that are made for other kinds change nothing, so no operation has to be
left out.

* `Kind.Edited.sequence`, `Kind.Edited.slider`: what becomes of a sequence or a slider while the focus does
  not change.
* `Kind.closed_sequence`, `Kind.closed_slider`: what edits of sequences or sliders keep.
* `bounded_run`: the fields, the cursor and the value after any run.
-/
namespace Settings

namespace Kind

/-- Whatever becomes of a sequence while the focus does not change is an edit of it. -/
theorem Edited.sequence {edits : ValueEdit → Prop} {values : Value → Prop} {s : Sequence} {k : Kind}
    (edited : (Kind.sequence s).Edited edits values k) :
    ∃ s', k = .sequence s' ∧ s.Moves s' ∧ s'.frame = s.frame := by
  cases edited with
  | same => exact ⟨s, rfl, .refl s, rfl⟩
  | handle mode a => exact ⟨_, rfl, s.moves_handle mode a, s.frame_handle mode a⟩
  | edit _ done =>
    cases applied_of_apply done with
    | aside => exact ⟨s, rfl, .refl s, rfl⟩
    | setFields fields => exact ⟨_, rfl, s.moves_setFields fields, rfl⟩
    | setStepCount counted =>
      obtain ⟨fields, rfl⟩ := Sequence.exists_setFields_of_setStepCount counted
      exact ⟨_, rfl, s.moves_setFields fields, rfl⟩
    | increment => exact ⟨_, rfl, s.moves_increment, s.retimed_increment.frame⟩
    | decrement => exact ⟨_, rfl, s.moves_decrement, s.retimed_decrement.frame⟩
  | decode read =>
    cases read
    exact ⟨_, rfl, s.moves_decode _, rfl⟩
  | assign _ taken =>
    obtain ⟨s', inner, rfl⟩ := eq_ok_of_map_eq_ok taken
    obtain ⟨fields, rfl⟩ := Sequence.exists_setFields_of_assign inner
    exact ⟨_, rfl, s.moves_setFields fields, rfl⟩
  | reset => exact ⟨_, rfl, s.moves_reset, rfl⟩
  | prepareSave => exact ⟨s, rfl, .refl s, rfl⟩
  | increment => exact ⟨_, rfl, s.moves_increment, s.retimed_increment.frame⟩
  | decrement => exact ⟨_, rfl, s.moves_decrement, s.retimed_decrement.frame⟩

/-- What every edit of sequences keeps cannot be left. -/
theorem closed_sequence {P : Sequence → Prop}
    (kept : ∀ {s s' : Sequence}, s.Moves s' → P s → P s') :
    Closed (fun _ => True) (fun _ => True) fun k => ∃ s, k = .sequence s ∧ P s := by
  apply Closed.of_edited
  · rintro k k' ⟨s, rfl, holds⟩ edited
    obtain ⟨s', same, moves, _⟩ := edited.sequence
    exact ⟨s', same, kept moves holds⟩
  · rintro k ⟨s, rfl, holds⟩
    exact ⟨_, rfl, kept s.moves_select holds⟩
  · rintro k ⟨s, rfl, holds⟩
    exact ⟨_, rfl, kept s.moves_deselect holds⟩

/-- Whatever becomes of a slider while the focus does not change leaves it in its bounds. -/
theorem Edited.slider {edits : ValueEdit → Prop} {values : Value → Prop} {s : Slider} {k : Kind}
    (edited : (Kind.slider s).Edited edits values k) : ∃ s', k = .slider s' ∧ s.Follows s' := by
  cases edited with
  | handle mode a => exact ⟨_, rfl, s.follows_handle a⟩
  | edit _ done =>
    cases applied_of_apply done with
    | aside => exact ⟨s, rfl, .refl s⟩
    | moveSlider n => exact ⟨_, rfl, s.follows_setValue n⟩
  | decode read =>
    obtain ⟨s', inner, rfl⟩ := eq_ok_of_map_eq_ok read
    exact ⟨s', rfl, Slider.follows_decode inner⟩
  | assign _ taken =>
    obtain ⟨s', inner, rfl⟩ := eq_ok_of_map_eq_ok taken
    exact ⟨s', rfl, Slider.follows_assign inner⟩
  | reset => exact ⟨_, rfl, s.follows_reset⟩
  | _ => exact ⟨s, rfl, .refl s⟩

/-- What every edit of sliders keeps cannot be left. -/
theorem closed_slider {P : Slider → Prop} (kept : ∀ {s s' : Slider}, s.Follows s' → P s → P s') :
    Closed (fun _ => True) (fun _ => True) fun k => ∃ s, k = .slider s ∧ P s := by
  apply Closed.of_unfocused fun _ => ⟨rfl, rfl⟩
  intro s k holds edited
  obtain ⟨s', same, follows⟩ := edited.slider
  exact ⟨s', same, kept follows holds⟩

end Kind

namespace Element

/-- Whatever is done to a sequence is an edit of it. -/
theorem moves_run (s : Sequence) (ops : List Operation) :
    ∃ s', (run ops (ofKind (.sequence s))).result.kind = .sequence s' ∧ s.Moves s' := by
  have closed := Kind.closed_sequence (P := s.Moves) fun moves held => held.trans moves
  exact closed.run (fun op _ => op.within_true) ⟨s, rfl, .refl s⟩

/-- Whatever is done to a sequence that a host made, its fields stay within its bounds and its cursor
on a digit, a field or a column of a clock. -/
theorem steady_run {s : Sequence} (made : s.Made) (ops : List Operation) :
    ∃ s', (run ops (ofKind (.sequence s))).result.kind = .sequence s' ∧ s.SameSetup s' ∧ s'.Steady := by
  obtain ⟨s', reached, moves⟩ := moves_run s ops
  exact ⟨s', reached, moves.follows.setup, made.steady.moves moves⟩

/-- Whatever is done to a slider that a host made, its value stays within its bounds. -/
theorem contains_run {s : Slider} (sound : s.Sound) (ops : List Operation) :
    ∃ s', (run ops (ofKind (.slider s))).result.kind = .slider s' ∧ s'.bounds = s.bounds ∧ s'.Sound := by
  have closed := Kind.closed_slider (P := fun s' => s'.bounds = s.bounds ∧ s'.Sound) fun follows held =>
    ⟨follows.bounds.trans held.1, held.2.follows follows⟩
  exact closed.run (fun op _ => op.within_true) ⟨s, rfl, rfl, sound⟩

/-- Whatever is done to a sequence or a slider that a host made, the fields or the value stay within the
bounds that it was made with. The cursor of a sequence fits, and its editor finds what it looks up; a
slider keeps its bounds. -/
theorem bounded_run (ops : List Operation) :
    (∀ s : Sequence, (Kind.sequence s).Made → Sequence.Small s.limits →
      ∃ s', (run ops (ofKind (.sequence s))).result.kind = .sequence s' ∧ s'.limits = s.limits ∧
        Sequence.Inside s.limits s'.value ∧ s'.CursorFits ∧ s'.Editable) ∧
    ∀ s : Slider, (Kind.slider s).Made →
      ∃ s', (run ops (ofKind (.slider s))).result.kind = .slider s' ∧ s'.bounds = s.bounds ∧
        s.bounds.Contains s'.value := by
  constructor
  · rintro s ⟨⟩ small
    next made =>
    obtain ⟨s', reached, same, steady⟩ := steady_run made ops
    have inside := steady.sound.value
    have editable := steady.editable (same.limits ▸ small)
    exact ⟨s', reached, same.limits, same.limits ▸ inside, steady.cursor, editable⟩
  · intro s made
    obtain ⟨s', reached, bounds, sound⟩ := contains_run made.sound ops
    exact ⟨s', reached, bounds, bounds ▸ sound.value⟩

/-- Types an octet and the first digit of the next one, moves on, saves, sets a number and goes to the
end. -/
def typedOps : List Operation :=
  [.act .twelve (.digit 2), .act .twelve (.character '5'), .act .twentyFour (.digit 5),
    .act .twelve (.digit 2), .act .twelve .right, .save, .edit (.setNumber 40), .act .twelve .last]

theorem bounded_run_typedOps :
    (∃ s', (run typedOps (ofKind (.sequence (.ip [10, 0, 0, 1] true)))).result.kind = .sequence s' ∧
      s'.value = [255, 2, 0, 1] ∧ s'.CursorFits ∧ s'.Editable) ∧
    ∃ s', (run typedOps (ofKind (.slider ⟨5, 5, 3, ⟨0, 9⟩⟩))).result.kind = .slider s' ∧
      s'.value = 9 ∧ Bounds.Contains ⟨0, 9⟩ s'.value := by
  obtain ⟨sequences, sliders⟩ := bounded_run typedOps
  constructor
  · have made : (Kind.sequence (.ip [10, 0, 0, 1] true)).Made := .sequence _ (.ip _ _)
    obtain ⟨s', reached, _, _, cursor, editable⟩ := sequences _ made (by decide)
    have content : (run typedOps (ofKind (.sequence (.ip [10, 0, 0, 1] true)))).result.kind.content? =
        some (.fields [255, 2, 0, 1]) := by decide +kernel
    rw [reached] at content
    exact ⟨s', reached, Kind.Content.fields.inj (Option.some.inj content), cursor, editable⟩
  · have made : (Kind.slider ⟨5, 5, 3, ⟨0, 9⟩⟩).Made := .slider 5 3 ⟨0, 9⟩ _ rfl (by decide)
    obtain ⟨s', reached, _, inside⟩ := sliders _ made
    have content : (run typedOps (ofKind (.slider ⟨5, 5, 3, ⟨0, 9⟩⟩))).result.kind.content? =
        some (.number 9) := by decide +kernel
    rw [reached] at content
    exact ⟨s', reached, Kind.Content.number.inj (Option.some.inj content), inside⟩

end Element

end Settings
