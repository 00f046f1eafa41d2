import Settings.Proofs.Element.Evolution

/-!
# What texts and persisted forms come to

What an element takes from a text, or goes back to, is decided by its setup: the working value that it
has at the time does not count. So elements with the same setup and the same saved form have the same
value once they are loaded, and of several texts that are assigned the last readable one counts.

* `Kind.decode_of_setup`, `Kind.reset_of_setup`: kinds with the same setup come to the same value.
* `sameValue_load`: elements with the same setup and the same saved form do when they are loaded.
* `value_assigned`: the last readable text counts.
-/
namespace Settings

namespace Kind

variable {k k' x : Kind}

/-- Whether the host is handed the one field of a sequence as a number. -/
def isScalar : Kind → Bool
  | .sequence s => s.scalar
  | _ => false

theorem isScalar_decode {text : String} (read : k.decode text = .ok k') :
    k'.isScalar = k.isScalar := by
  cases sameSetup_of_setup (evolves_decode read).setup with
  | sequence t s separator limits default =>
    cases read
    rfl
  | _ => rfl

/-- Kinds with the same setup take the same value from a text, or neither can read it. -/
theorem decode_of_setup (same : k'.setup = k.setup) {text : String} (read : k.decode text = .ok x) :
    ∃ x', k'.decode text = .ok x' ∧ SameValue x x' ∧
      (k'.isScalar = k.isScalar → x'.toValue = x.toValue) := by
  cases sameSetup_of_setup same with
  | switch t s default =>
    cases read
    exact ⟨_, rfl, sameValue_switch rfl, fun _ => rfl⟩
  | selection t s choices default =>
    cases read
    have value := Selection.value_decode choices default text
    exact ⟨_, rfl, ⟨congrArg Value.stringForm value, rfl⟩, fun _ => value⟩
  | sequence t s separator limits default =>
    cases read
    have value := Sequence.value_decode separator limits default text
    refine ⟨_, rfl, sameValue_sequence separator value, fun scalar => ?_⟩
    have handed : (t.decode text).scalar = (s.decode text).scalar := scalar
    simp only [toValue, Sequence.toValue, Sequence.field, value, handed]
  | multiChoice t s default =>
    obtain ⟨s', inner, rfl⟩ := eq_ok_of_map_eq_ok read
    obtain ⟨t', taken, value⟩ := MultiChoice.exists_decode inner t
    exact ⟨.multiChoice t', by rw [decode, taken]; rfl, sameValue_multiChoice value,
      fun _ => congrArg Value.ofStrings value⟩
  | slider t s bounds default =>
    obtain ⟨s', inner, rfl⟩ := eq_ok_of_map_eq_ok read
    obtain ⟨t', taken, value⟩ := Slider.exists_decode bounds inner
    exact ⟨.slider t', by rw [decode, taken]; rfl, sameValue_slider value,
      fun _ => congrArg Value.int value⟩
  | textField t s kept =>
    obtain ⟨s', inner, rfl⟩ := eq_ok_of_map_eq_ok read
    obtain ⟨t', taken, setup, chars⟩ := TextField.exists_decode kept inner
    exact ⟨.textField t', by rw [decode, taken]; rfl,
      sameValue_textField (TextField.encode_congr setup chars) (TextField.isNumber_of_setup setup),
      fun _ => TextField.toValue_congr setup chars⟩
  | timestamp t s default =>
    obtain ⟨s', inner, rfl⟩ := eq_ok_of_map_eq_ok read
    obtain ⟨t', taken, value⟩ := Timestamp.exists_decode inner t
    exact ⟨.timestamp t', by rw [decode, taken]; rfl, sameValue_timestamp value,
      fun _ => congrArg Value.int value⟩
  | optionTable t s default =>
    obtain ⟨s', inner, rfl⟩ := eq_ok_of_map_eq_ok read
    obtain ⟨t', taken, value⟩ := OptionTable.exists_decode inner t
    refine ⟨.optionTable t', by rw [decode, taken]; rfl, sameValue_optionTable value, fun _ => ?_⟩
    rw [toValue, toValue, OptionTable.toValue, OptionTable.toValue, value]

/-- Kinds with the same setup have the same default. -/
theorem reset_of_setup (same : k'.setup = k.setup) : SameValue k.reset k'.reset := by
  cases sameSetup_of_setup same with
  | switch t s default => exact sameValue_switch default
  | selection t s choices default => exact ⟨congrArg Value.stringForm default, rfl⟩
  | sequence t s separator limits default => exact sameValue_sequence separator default
  | multiChoice t s default => exact sameValue_multiChoice default
  | slider t s bounds default => exact sameValue_slider default
  | textField t s kept =>
    have setup : t.reset.setup = s.reset.setup := by simp [TextField.reset, kept]
    have chars : t.reset.chars = s.reset.chars := by
      rw [TextField.reset, TextField.reset, TextField.default_of_setup kept]
      exact TextField.chars_setText_congr kept s.default
    exact sameValue_textField (TextField.encode_congr setup chars) (TextField.isNumber_of_setup setup)
  | timestamp t s default => exact sameValue_timestamp default
  | optionTable t s default => exact sameValue_optionTable default

end Kind

namespace Element

variable {e e' : Element}

/-- Elements with the same setup and the same saved form have the same value when they are loaded. -/
theorem sameValue_load (setup : e'.kind.setup = e.kind.setup) (saved : e'.saved = e.saved) :
    e.load.result.kind.SameValue e'.load.result.kind := by
  change e.loadedKind.SameValue e'.loadedKind
  unfold loadedKind
  rw [saved]
  cases e.saved with
  | none => exact Kind.reset_of_setup setup
  | some text =>
    dsimp only
    cases read : e.kind.decode text with
    | ok k =>
      obtain ⟨k', read', same, _⟩ := Kind.decode_of_setup setup read
      rw [read']
      exact same
    | error err =>
      cases read' : e'.kind.decode text with
      | ok k' =>
        obtain ⟨k, readable, _⟩ := Kind.decode_of_setup setup.symm read'
        rw [read] at readable
        cases readable
      | error err' => exact Kind.reset_of_setup setup

/-- The text can be read. -/
def Readable (e : Element) (text : String) : Prop := ∃ k, e.kind.decode text = .ok k

theorem readable_of_setup (setup : e'.kind.setup = e.kind.setup) {text : String} :
    e'.Readable text ↔ e.Readable text := by
  constructor
  · rintro ⟨k', read⟩
    obtain ⟨k, read', _⟩ := Kind.decode_of_setup setup.symm read
    exact ⟨k, read'⟩
  · rintro ⟨k, read⟩
    obtain ⟨k', read', _⟩ := Kind.decode_of_setup setup read
    exact ⟨k', read'⟩

/-- An element to which texts were assigned, one after the other. -/
def assigned (texts : List String) (e : Element) : Element := (run (texts.map .assignText) e).result

theorem assigned_cons (text : String) (rest : List String) (e : Element) :
    e.assigned (text :: rest) = ((e.perform (.assignText text)).1.result).assigned rest := rfl

theorem assigned_append (texts others : List String) (e : Element) :
    e.assigned (texts ++ others) = (e.assigned texts).assigned others := by
  induction texts generalizing e with
  | nil => rfl
  | cons text rest ih => exact ih _

theorem setup_assigned (texts : List String) (e : Element) :
    (e.assigned texts).kind.setup = e.kind.setup := by
  induction texts generalizing e with
  | nil => rfl
  | cons text rest ih => exact (ih _).trans (e.evolves_assignText text).setup

/-- Nothing changes as long as no text can be read. -/
theorem assigned_of_unreadable {texts : List String} (unreadable : ∀ text ∈ texts, ¬ e.Readable text) :
    e.assigned texts = e := by
  induction texts with
  | nil => rfl
  | cons text rest ih =>
    obtain ⟨first, others⟩ := List.forall_mem_cons.mp unreadable
    have kept : (e.perform (.assignText text)).1.result = e := by
      cases read : e.kind.decode text with
      | ok k => exact absurd ⟨k, read⟩ first
      | error err => rw [perform, assignText, read]; rfl
    rw [assigned_cons, kept, ih others]

theorem isScalar_assigned (texts : List String) (e : Element) :
    (e.assigned texts).kind.isScalar = e.kind.isScalar := by
  induction texts generalizing e with
  | nil => rfl
  | cons text rest ih =>
    refine (ih _).trans ?_
    cases read : e.kind.decode text with
    | ok k =>
      rw [perform, assignText, read]
      exact Kind.isScalar_decode read
    | error err =>
      rw [perform, assignText, read]
      rfl

/-- Of the texts that are assigned, the last one that can be read counts: the element has the string
form and the value that it stands for. -/
theorem value_assigned {before after : List String} {text : String} {k : Kind}
    (read : e.kind.decode text = .ok k) (last : ∀ later ∈ after, ¬ e.Readable later) :
    (e.assigned (before ++ text :: after)).valueString = k.encode ∧
      (e.assigned (before ++ text :: after)).toValue = k.toValue := by
  have setup := e.setup_assigned before
  obtain ⟨k', read', same, value⟩ := Kind.decode_of_setup setup read
  have taken : (((e.assigned before).perform (.assignText text)).1.result).kind = k' := by
    rw [perform, assignText, read']
    rfl
  have setup' := ((e.assigned before).evolves_assignText text).setup.trans setup
  rw [assigned_append, assigned_cons, assigned_of_unreadable fun later member =>
    (not_congr (readable_of_setup setup')).mpr (last later member), valueString, toValue, taken]
  exact ⟨same.encode, value (e.isScalar_assigned before)⟩

end Element

end Settings
