import Settings.Proofs.Element.Bounds
import Settings.Proofs.Element.Choices
import Settings.Proofs.Element.Rereading
import Settings.Proofs.Element.StringForm

/-!
# Values of the host are taken back

What an element hands to the host as its value, the host can hand back: the element takes it, and it
hands out the same value afterwards and shows the same. Kinds hand out different shapes of values, and
what they take they clamp, sort and look up, so each kind has to be on a value that this leaves alone.

* `closed_presentable`: selections stay on what they offer, and scalars have one field.
* `Kind.assign_toValue`: the value of a kind is taken by every kind with the same setup.
* `assignValue_toValue`: whatever was done to an element, it takes its own value.
-/
namespace Settings

namespace Kind

variable {k k' : Kind}

/-- A selection is on a value that it offers, and a scalar has one field. -/
def Presentable : Kind → Prop
  | .selection s => s.Offered
  | .sequence s => s.Single
  | _ => True

theorem Made.presentable (made : k.Made) : k.Presentable := by
  cases made with
  | selection s made => exact made.offered
  | sequence s made => exact made.single
  | _ => trivial

theorem Edited.presentable {edits : ValueEdit → Prop} {values : Value → Prop} (holds : k.Presentable)
    (edited : k.Edited edits values k') : k'.Presentable := by
  cases k with
  | selection s =>
    obtain ⟨s', rfl, turns⟩ := edited.selection
    exact Selection.Offered.turns holds turns
  | sequence s =>
    obtain ⟨s', rfl, moves, frame⟩ := edited.sequence
    exact Sequence.Single.follows holds moves.follows (Sequence.looks_of_frame frame).2.2
  -- The others are presentable whatever they hold, so they only have to stay of their kind.
  | switch s =>
    cases edited with
    | edit _ done =>
      cases applied_of_apply done
      all_goals trivial
    | decode read => cases read; trivial
    | assign _ taken =>
      obtain ⟨_, _, rfl⟩ := eq_ok_of_map_eq_ok taken
      trivial
    | _ => trivial
  | _ =>
    cases edited with
    | edit _ done =>
      cases applied_of_apply done
      all_goals trivial
    | decode read =>
      obtain ⟨_, _, rfl⟩ := eq_ok_of_map_eq_ok read
      trivial
    | assign _ taken =>
      obtain ⟨_, _, rfl⟩ := eq_ok_of_map_eq_ok taken
      trivial
    | _ => trivial

/-- Nothing that is done to a kind takes a selection off what it offers or gives a scalar more
fields. -/
theorem closed_presentable : Closed (fun _ => True) (fun _ => True) Presentable := by
  apply Closed.of_edited
  · exact fun holds edited => edited.presentable holds
  · intro k holds
    cases k <;> exact holds
  · intro k holds
    cases k <;> exact holds

/-- The choices of a selection differ in their string forms, and a number field has a numeral. -/
def Unambiguous : Kind → Prop
  | .selection s => (s.choices.map Choice.key).Nodup
  | .textField t => t.isNumber = true → t.number?.isSome = true
  | _ => True

instance : DecidablePred Unambiguous
  | .selection s => inferInstanceAs (Decidable (s.choices.map Choice.key).Nodup)
  | .textField t => inferInstanceAs (Decidable (t.isNumber = true → t.number?.isSome = true))
  | .switch _ | .sequence _ | .multiChoice _ | .slider _ | .timestamp _ | .optionTable _ =>
    .isTrue trivial

/-- The value is taken by every kind with the same setup that hands it out in the same way. -/
theorem assign_toValue {fresh : Kind} (sound : k.Sound) (presentable : k.Presentable)
    (unambiguous : k.Unambiguous) (same : fresh.setup = k.setup) (scalar : fresh.isScalar = k.isScalar) :
    ∃ k', fresh.assign k.toValue = .ok k' ∧ k'.toValue = k.toValue ∧ k'.encode = k.encode := by
  cases sameSetup_of_setup same with
  | switch t s default => exact ⟨.switch { t with value := s.value }, rfl, rfl, rfl⟩
  | selection t s choices default =>
    have value : (t.setValue s.value).value = s.value :=
      Selection.setValue_value presentable unambiguous choices default
    exact ⟨.selection (t.setValue s.value), rfl, value, congrArg Value.stringForm value⟩
  | sequence t s separator limits default =>
    obtain ⟨s', taken, value, kept, handed⟩ : ∃ s', t.assign s.toValue = .ok s' ∧ s'.value = s.value ∧
        s'.separator = t.separator ∧ s'.scalar = t.scalar :=
      Sequence.assign_toValue sound presentable limits scalar
    refine ⟨.sequence s', by rw [assign, toValue, taken]; rfl, ?_,
      (sameValue_sequence (kept.trans separator) value).encode⟩
    have scalars : s'.scalar = s.scalar := handed.trans scalar
    simp only [toValue, Sequence.toValue, Sequence.field, scalars, value]
  | multiChoice t s default =>
    obtain ⟨m, taken, value⟩ : ∃ m, t.assign (.ofStrings s.value) = .ok m ∧ m.value = s.value :=
      MultiChoice.assign_value sound
    exact ⟨.multiChoice m, by rw [assign, toValue, taken]; rfl, congrArg Value.ofStrings value,
      (sameValue_multiChoice value).encode⟩
  | slider t s bounds default =>
    obtain ⟨s', taken, value⟩ := Slider.assign_value sound bounds
    exact ⟨.slider s', by rw [assign, toValue, taken]; rfl, congrArg Value.int value,
      (sameValue_slider value).encode⟩
  | textField t s kept =>
    obtain ⟨t', taken, value, shown⟩ := TextField.assign_toValue unambiguous kept
    exact ⟨.textField t', by rw [assign, toValue, taken]; rfl, value, shown⟩
  | timestamp t s default =>
    obtain ⟨t', taken, value⟩ : ∃ t', t.assign (.int s.value) = .ok t' ∧ t'.value = s.value :=
      Timestamp.assign_value sound
    exact ⟨.timestamp t', by rw [assign, toValue, taken]; rfl, congrArg Value.int value,
      (sameValue_timestamp value).encode⟩
  | optionTable t s default =>
    refine ⟨.optionTable { t with value := s.value }, ?_, rfl, rfl⟩
    rw [assign, toValue, OptionTable.assign_toValue]
    rfl

end Kind

namespace Element

variable {e other : Element}

/-- The value of an element is taken by every element with the same setup that hands it out in the same
way. -/
theorem exists_assignValue (sound : e.kind.Sound) (presentable : e.kind.Presentable)
    (unambiguous : e.kind.Unambiguous) (setup : other.kind.setup = e.kind.setup)
    (scalar : other.kind.isScalar = e.kind.isScalar) :
    ∃ r, other.assignValue e.toValue = .ok r ∧ r.result.toValue = e.toValue ∧
      r.result.valueString = e.valueString := by
  obtain ⟨k, taken, value, shown⟩ := Kind.assign_toValue sound presentable unambiguous setup scalar
  refine ⟨changed { other with kind := k }, ?_, value, shown⟩
  rw [assignValue, toValue, taken]
  rfl

/-- Whatever was done to an element that a host made, it takes the value that it hands to the host, and
then it hands out the same value and has the same string form. Every other element with the same setup
comes to this value and this string form as well. -/
theorem assignValue_toValue {kind : Kind} (made : kind.Made) {ops : List Operation}
    (fits : ∀ op ∈ ops, op.Fits) (same : e = (run ops (ofKind kind)).result)
    (unambiguous : e.kind.Unambiguous) :
    (∃ r, e.assignValue e.toValue = .ok r ∧ r.result.toValue = e.toValue ∧
      r.result.valueString = e.valueString) ∧
    ∀ other : Element, other.kind.setup = e.kind.setup → other.kind.isScalar = e.kind.isScalar →
      ∃ r, other.assignValue e.toValue = .ok r ∧ r.result.toValue = e.toValue ∧
        r.result.valueString = e.valueString := by
  subst same
  have sound : (run ops (ofKind kind)).result.kind.Sound :=
    closed_sound.run (fun op member => (fits op member).within) made.sound
  have presentable : (run ops (ofKind kind)).result.kind.Presentable :=
    Kind.closed_presentable.run (fun op _ => op.within_true) made.presentable
  exact ⟨exists_assignValue sound presentable unambiguous rfl rfl,
    fun _ setup scalar => exists_assignValue sound presentable unambiguous setup scalar⟩

/-- Speeds of a fan, one of them with a duration. -/
def speeds : List Choice := [⟨.text "off", none⟩, ⟨.int 1, some "slow"⟩, ⟨.list [.int 2, .int 30], none⟩]

/-- Two speeds, both with a duration. -/
def timedSpeeds : List Choice := [⟨.list [.int 1, .int 60], none⟩, ⟨.list [.int 2, .int 30], some "fast"⟩]

/-- Goes to the last speed, replaces the choices, saves and goes back to what was saved. -/
def speedsOps : List Operation :=
  [.act .twelve .last, .edit (.setChoices timedSpeeds none), .save, .cancel]

/-- The value is taken back, and by a selection that was made with the later choices as well. -/
theorem assignValue_toValue_speeds :
    ∃ e, e = (run speedsOps (ofKind (.selection (.ofChoices speeds none)))).result ∧
      (∃ r, e.assignValue (.list [.int 2, .int 30]) = .ok r ∧
        r.result.toValue = .list [.int 2, .int 30] ∧ r.result.valueString = "[2,30]") ∧
      ∃ r, (ofKind (.selection (.ofChoices timedSpeeds none))).assignValue (.list [.int 2, .int 30]) =
          .ok r ∧
        r.result.toValue = .list [.int 2, .int 30] ∧ r.result.valueString = "[2,30]" := by
  have made : (Kind.selection (.ofChoices speeds none)).Made := .selection _ (.ofChoices _ none)
  have fits : ∀ op ∈ speedsOps, op.Fits := by
    simp [speedsOps, Operation.Fits, ValueEdit.Fits]
  obtain ⟨e, reached⟩ : ∃ e, e = (run speedsOps (ofKind (.selection (.ofChoices speeds none)))).result :=
    ⟨_, rfl⟩
  have distinct : e.kind.Unambiguous := by rw [reached]; decide +kernel
  have value : e.toValue = .list [.int 2, .int 30] := by rw [reached]; decide +kernel
  have shown : e.valueString = "[2,30]" := by rw [reached]; decide +kernel
  obtain ⟨own, others⟩ := assignValue_toValue made fits reached distinct
  have other := others (ofKind (.selection (.ofChoices timedSpeeds none)))
    (by rw [reached]; decide +kernel) (by rw [reached]; decide +kernel)
  rw [value, shown] at own other
  exact ⟨e, reached, own, other⟩

end Element

end Settings
