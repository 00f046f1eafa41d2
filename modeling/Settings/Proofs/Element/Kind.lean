import Settings.Element.ValueEdit
import Settings.Proofs.Editor.MultiChoice
import Settings.Proofs.Editor.OptionTable
import Settings.Proofs.Editor.Scalar
import Settings.Proofs.Editor.Selection
import Settings.Proofs.Editor.Sequence
import Settings.Proofs.Editor.TextField

/-!
# What all kinds have in common

Every kind keeps the setup that it was made with through all edits, and stays sound. From the string
form of a sound kind, any other kind with the same setup takes the same value, and two kinds with the
same setup have the same default.

* `Evolves`: what edits do.
* `Applied`: what direct edits do.
* `decode_encode`: the string form is read back.
* `encode_reset`: what is on its default is restored by going back to the default.
-/
namespace Settings

theorem eq_ok_of_map_eq_ok {ε α β : Type} {f : α → β} {r : Except ε α} {y : β}
    (mapped : r.map f = .ok y) : ∃ x, r = .ok x ∧ f x = y := by
  cases r with
  | error err => cases mapped
  | ok x =>
    cases mapped
    exact ⟨x, rfl, rfl⟩

namespace Kind

/-- What the maker of an element decides about its string forms. -/
inductive Setup where
  | switch (default : Bool)
  | selection (choices : List Choice) (default : Value)
  | sequence (separator : Char) (limits : List Bounds) (default : List Int)
  | multiChoice (default : List String)
  | slider (bounds : Bounds) (default : Int)
  | textField (isNumber : Bool) (default : String)
  | timestamp (default : Int)
  | optionTable (default : Options)
  deriving DecidableEq

def setup : Kind → Setup
  | .switch s => .switch s.default
  | .selection s => .selection s.choices s.default
  | .sequence s => .sequence s.separator s.limits s.default
  | .multiChoice m => .multiChoice m.default
  | .slider s => .slider s.bounds s.default
  | .textField t => .textField t.isNumber t.default
  | .timestamp t => .timestamp t.default
  | .optionTable t => .optionTable t.default

/-- What holds of every kind that hosts make, and after any edits. -/
def Sound : Kind → Prop
  | .switch _ => True
  | .selection s => s.Sound
  | .sequence s => s.Sound
  | .multiChoice m => m.Sound
  | .slider s => s.Sound
  | .textField t => t.Sound
  | .timestamp t => t.Sound
  | .optionTable t => t.Sound

/-- An edit that keeps the setup and whatever was sound. -/
structure Evolves (k k' : Kind) : Prop where
  setup : k'.setup = k.setup
  sound : k.Sound → k'.Sound

theorem Evolves.refl (k : Kind) : Evolves k k := ⟨rfl, id⟩

theorem Evolves.trans {k k' k'' : Kind} (first : Evolves k k') (second : Evolves k' k'') :
    Evolves k k'' :=
  ⟨second.setup.trans first.setup, fun sound => second.sound (first.sound sound)⟩

section Kinds

theorem evolves_switch {s s' : Switch} (default : s'.default = s.default) :
    Evolves (.switch s) (.switch s') :=
  ⟨congrArg Setup.switch default, fun _ => trivial⟩

theorem evolves_selection {s s' : Selection} (follows : s.Follows s') :
    Evolves (.selection s) (.selection s') := by
  refine ⟨?_, follows.sound⟩
  rw [setup, setup, follows.choices, follows.default]

theorem evolves_sequence {s s' : Sequence} (follows : s.Follows s') :
    Evolves (.sequence s) (.sequence s') := by
  refine ⟨?_, fun sound => Sequence.Sound.follows sound follows⟩
  rw [setup, setup, follows.setup.separator, follows.setup.limits, follows.setup.default]

theorem evolves_multiChoice {m m' : MultiChoice} (follows : m.Follows m') :
    Evolves (.multiChoice m) (.multiChoice m') :=
  ⟨congrArg Setup.multiChoice follows.default, fun sound => MultiChoice.Sound.follows sound follows⟩

theorem evolves_slider {s s' : Slider} (follows : s.Follows s') :
    Evolves (.slider s) (.slider s') := by
  refine ⟨?_, fun sound => Slider.Sound.follows sound follows⟩
  rw [setup, setup, follows.bounds, follows.default]

theorem evolves_textField {t t' : TextField} (same : t'.setup = t.setup) :
    Evolves (.textField t) (.textField t') := by
  refine ⟨?_, fun sound => TextField.Sound.of_setup sound same⟩
  rw [setup, setup, TextField.isNumber_of_setup same, TextField.default_of_setup same]

theorem evolves_timestamp {t t' : Timestamp} (follows : t.Follows t') :
    Evolves (.timestamp t) (.timestamp t') :=
  ⟨congrArg Setup.timestamp follows.default, fun sound => Timestamp.Sound.follows sound follows⟩

theorem evolves_optionTable {t t' : OptionTable} (follows : t.Follows t') :
    Evolves (.optionTable t) (.optionTable t') :=
  ⟨congrArg Setup.optionTable follows.default, fun sound => OptionTable.Sound.follows sound follows⟩

end Kinds

section Edits

theorem evolves_handle (mode : HourMode) (a : Action) (k : Kind) :
    Evolves k (k.handle mode a).state := by
  cases k with
  | switch s => exact evolves_switch (s.default_handle a)
  | selection s => exact evolves_selection (s.follows_handle a)
  | sequence s => exact evolves_sequence (s.follows_handle mode a)
  | multiChoice m => exact evolves_multiChoice (m.follows_handle a)
  | slider s => exact evolves_slider (s.follows_handle a)
  | textField t => exact evolves_textField (t.setup_handle a)
  | timestamp t => exact evolves_timestamp (t.follows_handle a)
  | optionTable t => exact .refl _

theorem evolves_decode {text : String} {k k' : Kind} (read : k.decode text = .ok k') :
    Evolves k k' := by
  cases k with
  | switch s =>
    cases read
    exact evolves_switch (by rw [Switch.decode])
  | selection s =>
    cases read
    exact evolves_selection (s.follows_decode text)
  | sequence s =>
    cases read
    exact evolves_sequence (s.follows_decode text)
  | multiChoice m =>
    obtain ⟨m', inner, rfl⟩ := eq_ok_of_map_eq_ok read
    exact evolves_multiChoice (MultiChoice.follows_decode inner)
  | slider s =>
    obtain ⟨s', inner, rfl⟩ := eq_ok_of_map_eq_ok read
    exact evolves_slider (Slider.follows_decode inner)
  | textField t =>
    obtain ⟨t', inner, rfl⟩ := eq_ok_of_map_eq_ok read
    exact evolves_textField (t.setup_decode inner)
  | timestamp t =>
    obtain ⟨t', inner, rfl⟩ := eq_ok_of_map_eq_ok read
    exact evolves_timestamp (Timestamp.follows_decode inner)
  | optionTable t =>
    obtain ⟨t', inner, rfl⟩ := eq_ok_of_map_eq_ok read
    exact evolves_optionTable (OptionTable.follows_decode inner)

theorem evolves_assign {v : Value} (canonical : v.Canonical) {k k' : Kind}
    (taken : k.assign v = .ok k') : Evolves k k' := by
  cases k with
  | switch s =>
    obtain ⟨s', inner, rfl⟩ := eq_ok_of_map_eq_ok taken
    exact evolves_switch (Switch.default_assign inner)
  | selection s =>
    cases taken
    exact evolves_selection (s.follows_setValue v)
  | sequence s =>
    obtain ⟨s', inner, rfl⟩ := eq_ok_of_map_eq_ok taken
    exact evolves_sequence (Sequence.follows_assign inner)
  | multiChoice m =>
    obtain ⟨m', inner, rfl⟩ := eq_ok_of_map_eq_ok taken
    exact evolves_multiChoice (MultiChoice.follows_assign inner)
  | slider s =>
    obtain ⟨s', inner, rfl⟩ := eq_ok_of_map_eq_ok taken
    exact evolves_slider (Slider.follows_assign inner)
  | textField t =>
    obtain ⟨t', inner, rfl⟩ := eq_ok_of_map_eq_ok taken
    exact evolves_textField (t.setup_assign inner)
  | timestamp t =>
    obtain ⟨t', inner, rfl⟩ := eq_ok_of_map_eq_ok taken
    exact evolves_timestamp (Timestamp.follows_assign inner)
  | optionTable t =>
    obtain ⟨t', inner, rfl⟩ := eq_ok_of_map_eq_ok taken
    exact evolves_optionTable (OptionTable.follows_assign canonical inner)

theorem evolves_reset (k : Kind) : Evolves k k.reset := by
  cases k with
  | switch s => exact evolves_switch rfl
  | selection s => exact evolves_selection s.follows_reset
  | sequence s => exact evolves_sequence s.follows_reset
  | multiChoice m => exact evolves_multiChoice m.follows_reset
  | slider s => exact evolves_slider s.follows_reset
  | textField t => exact evolves_textField (t.setup_setText t.default)
  | timestamp t => exact evolves_timestamp t.follows_reset
  | optionTable t => exact evolves_optionTable t.follows_reset

theorem evolves_select (k : Kind) : Evolves k k.select := by
  cases k with
  | sequence s => exact evolves_sequence ⟨⟨rfl, rfl, rfl, rfl⟩, Sequence.Sound.value⟩
  | textField t => exact evolves_textField rfl
  | _ => exact .refl _

theorem evolves_deselect (k : Kind) : Evolves k k.deselect := by
  cases k with
  | sequence s => exact evolves_sequence ⟨⟨rfl, rfl, rfl, rfl⟩, Sequence.Sound.value⟩
  | textField t => exact evolves_textField rfl
  | _ => exact .refl _

theorem evolves_prepareSave (k : Kind) : Evolves k k.prepareSave := by
  cases k with
  | optionTable t => exact evolves_optionTable t.follows_prune
  | _ => exact .refl _

theorem evolves_increment (k : Kind) : Evolves k k.increment.1 := by
  cases k with
  | sequence s => exact evolves_sequence s.follows_increment
  | _ => exact .refl _

theorem evolves_decrement (k : Kind) : Evolves k k.decrement.1 := by
  cases k with
  | sequence s => exact evolves_sequence s.follows_decrement
  | _ => exact .refl _

end Edits

end Kind

/-- The choices stay and numbers have 64 bits. -/
def ValueEdit.KeepsSetup : ValueEdit → Prop
  | .setChoices _ _ => False
  | .setNumber n => Numeral.InRange n
  | _ => True

namespace Kind

/-- What a direct edit makes of a kind. One that is made for another kind leaves it alone. -/
inductive Applied : ValueEdit → Kind → Kind → Prop where
  | aside (change : ValueEdit) (k : Kind) : Applied change k k
  | selectValue (v : Value) (s : Selection) :
    Applied (.selectValue v) (.selection s) (.selection (s.setValue v))
  | selectNext (s : Selection) : Applied .selectNext (.selection s) (.selection s.selectNext)
  | setChoices (choices : List Choice) (default : Option Value) (s : Selection) :
    Applied (.setChoices choices default) (.selection s) (.selection (s.setChoices choices default).1)
  | setText (text : String) (t : TextField) :
    Applied (.setText text) (.textField t) (.textField (t.setText text))
  | moveSlider (n : Int) (s : Slider) : Applied (.setNumber n) (.slider s) (.slider (s.setValue n))
  | moveTimestamp (n : Int) (t : Timestamp) :
    Applied (.setNumber n) (.timestamp t) (.timestamp (t.setValue n))
  | setFields (fields : List Int) (s : Sequence) :
    Applied (.setFields fields) (.sequence s) (.sequence (s.setFields fields))
  | setStepCount {n : Int} {s s' : Sequence} (counted : s.setStepCount n = .ok s') :
    Applied (.setStepCount n) (.sequence s) (.sequence s')
  | increment (s : Sequence) : Applied .increment (.sequence s) (.sequence s.increment.1)
  | decrement (s : Sequence) : Applied .decrement (.sequence s) (.sequence s.decrement.1)
  | toggle (item : String) (m : MultiChoice) :
    Applied (.toggle item) (.multiChoice m) (.multiChoice (m.toggle item))
  | setOption (name key value : String) (t : OptionTable) :
    Applied (.setOption name key value) (.optionTable t) (.optionTable (t.set name key value))
  | removeOption (name key : String) (t : OptionTable) :
    Applied (.removeOption name key) (.optionTable t) (.optionTable (t.remove name key).1)

theorem applied_of_apply {change : ValueEdit} {k k' : Kind} {answer : Option Bool}
    (done : k.apply change = .ok (k', answer)) : Applied change k k' := by
  cases k with
  | switch s =>
    cases change with
    | _ =>
      cases done
      exact .aside _ _
  | selection s =>
    cases change with
    | selectValue v =>
      cases done
      exact .selectValue v s
    | selectNext =>
      cases done
      exact .selectNext s
    | setChoices choices default =>
      cases done
      exact .setChoices choices default s
    | _ =>
      cases done
      exact .aside _ _
  | sequence s =>
    cases change with
    | setFields fields =>
      cases done
      exact .setFields fields s
    | setStepCount n =>
      obtain ⟨s', counted, same⟩ := eq_ok_of_map_eq_ok done
      cases same
      exact .setStepCount counted
    | increment =>
      cases done
      exact .increment s
    | decrement =>
      cases done
      exact .decrement s
    | _ =>
      cases done
      exact .aside _ _
  | multiChoice m =>
    cases change with
    | toggle item =>
      cases done
      exact .toggle item m
    | _ =>
      cases done
      exact .aside _ _
  | slider s =>
    cases change with
    | setNumber n =>
      cases done
      exact .moveSlider n s
    | _ =>
      cases done
      exact .aside _ _
  | textField t =>
    cases change with
    | setText text =>
      cases done
      exact .setText text t
    | _ =>
      cases done
      exact .aside _ _
  | timestamp t =>
    cases change with
    | setNumber n =>
      cases done
      exact .moveTimestamp n t
    | _ =>
      cases done
      exact .aside _ _
  | optionTable t =>
    cases change with
    | setOption name key value =>
      cases done
      exact .setOption name key value t
    | removeOption name key =>
      cases done
      exact .removeOption name key t
    | _ =>
      cases done
      exact .aside _ _

/-- Direct edits that keep the setup keep what is sound, too. -/
theorem evolves_apply {change : ValueEdit} (keeps : change.KeepsSetup) {k k' : Kind}
    {answer : Option Bool} (done : k.apply change = .ok (k', answer)) : Evolves k k' := by
  cases applied_of_apply done with
  | aside change k => exact .refl k
  | selectValue v s => exact evolves_selection (s.follows_setValue v)
  | selectNext s => exact evolves_selection s.follows_selectNext
  | setChoices choices default s => exact absurd keeps id
  | setText text t => exact evolves_textField (t.setup_setText text)
  | moveSlider n s => exact evolves_slider (s.follows_setValue n)
  | moveTimestamp n t => exact evolves_timestamp (t.follows_setValue keeps)
  | setFields fields s => exact evolves_sequence (s.follows_setFields fields)
  | setStepCount counted => exact evolves_sequence (Sequence.follows_setStepCount counted)
  | increment s => exact evolves_sequence s.follows_increment
  | decrement s => exact evolves_sequence s.follows_decrement
  | toggle item m => exact evolves_multiChoice (m.follows_toggle item)
  | setOption name key value t => exact evolves_optionTable (t.follows_set name key value)
  | removeOption name key t => exact evolves_optionTable (t.follows_remove name key)

section Codec

variable {k fresh : Kind}

/-- Kinds with the same setup, kind by kind. -/
inductive SameSetup : Kind → Kind → Prop where
  | switch (t s : Switch) (default : t.default = s.default) : SameSetup (.switch t) (.switch s)
  | selection (t s : Selection) (choices : t.choices = s.choices) (default : t.default = s.default) :
    SameSetup (.selection t) (.selection s)
  | sequence (t s : Sequence) (separator : t.separator = s.separator) (limits : t.limits = s.limits)
    (default : t.default = s.default) : SameSetup (.sequence t) (.sequence s)
  | multiChoice (t s : MultiChoice) (default : t.default = s.default) :
    SameSetup (.multiChoice t) (.multiChoice s)
  | slider (t s : Slider) (bounds : t.bounds = s.bounds) (default : t.default = s.default) :
    SameSetup (.slider t) (.slider s)
  | textField (t s : TextField) (same : t.setup = s.setup) : SameSetup (.textField t) (.textField s)
  | timestamp (t s : Timestamp) (default : t.default = s.default) :
    SameSetup (.timestamp t) (.timestamp s)
  | optionTable (t s : OptionTable) (default : t.default = s.default) :
    SameSetup (.optionTable t) (.optionTable s)

theorem sameSetup_of_setup (same : fresh.setup = k.setup) : SameSetup fresh k := by
  cases fresh with
  | switch t =>
    cases k with
    | switch s => exact .switch t s (Setup.switch.inj same)
    | _ => cases same
  | selection t =>
    cases k with
    | selection s =>
      obtain ⟨choices, default⟩ := Setup.selection.inj same
      exact .selection t s choices default
    | _ => cases same
  | sequence t =>
    cases k with
    | sequence s =>
      obtain ⟨separator, limits, default⟩ := Setup.sequence.inj same
      exact .sequence t s separator limits default
    | _ => cases same
  | multiChoice t =>
    cases k with
    | multiChoice s => exact .multiChoice t s (Setup.multiChoice.inj same)
    | _ => cases same
  | slider t =>
    cases k with
    | slider s =>
      obtain ⟨bounds, default⟩ := Setup.slider.inj same
      exact .slider t s bounds default
    | _ => cases same
  | textField t =>
    cases k with
    | textField s =>
      obtain ⟨isNumber, default⟩ := Setup.textField.inj same
      exact .textField t s (Prod.ext isNumber default)
    | _ => cases same
  | timestamp t =>
    cases k with
    | timestamp s => exact .timestamp t s (Setup.timestamp.inj same)
    | _ => cases same
  | optionTable t =>
    cases k with
    | optionTable s => exact .optionTable t s (Setup.optionTable.inj same)
    | _ => cases same

/-- The separator of a sequence cannot be mistaken for part of a numeral. -/
def Separable : Kind → Prop
  | .sequence s => Sequence.Separates s.separator
  | _ => True

/-- The separator of a sequence cannot be mistaken for part of the numeral of a field. -/
def Divided : Kind → Prop
  | .sequence s => Sequence.Divides s.separator s.limits
  | _ => True

theorem Separable.divided (separable : k.Separable) : k.Divided := by
  cases k with
  | sequence s => exact Sequence.Separates.divides separable s.limits
  | _ => trivial

/-- A working value with its type. -/
inductive Content where
  | state (on : Bool)
  | fields (fields : List Int)
  | items (items : List String)
  | number (n : Int)
  | text (s : String)
  | options (options : Options)
  deriving DecidableEq

/-- The working value as long as the string form tells it; a selection may have several choices with
one string form, and numbers are kept as they were typed. -/
def content? : Kind → Option Content
  | .switch s => some (.state s.value)
  | .selection _ => none
  | .sequence s => some (.fields s.value)
  | .multiChoice m => some (.items m.value)
  | .slider s => some (.number s.value)
  | .textField t => if t.isNumber then none else some (.text t.text)
  | .timestamp t => some (.number t.value)
  | .optionTable t => some (.options t.value)

/-- Kinds that show the same. -/
structure SameValue (k k' : Kind) : Prop where
  encode : k'.encode = k.encode
  content : k'.content? = k.content?

theorem sameValue_switch {s s' : Switch} (value : s'.value = s.value) :
    SameValue (.switch s) (.switch s') := by
  constructor
  · simp [encode, Switch.encode, value]
  · simp [content?, value]

theorem sameValue_sequence {s s' : Sequence} (separator : s'.separator = s.separator)
    (value : s'.value = s.value) : SameValue (.sequence s) (.sequence s') := by
  constructor
  · simp [encode, Sequence.encode, Sequence.plainChars, separator, value]
  · simp [content?, value]

theorem sameValue_multiChoice {m m' : MultiChoice} (value : m'.value = m.value) :
    SameValue (.multiChoice m) (.multiChoice m') := by
  constructor
  · simp [encode, MultiChoice.encode, value]
  · simp [content?, value]

theorem sameValue_slider {s s' : Slider} (value : s'.value = s.value) :
    SameValue (.slider s) (.slider s') := by
  constructor
  · simp [encode, Slider.encode, value]
  · simp [content?, value]

/-- A text that is no number is what it shows. -/
theorem sameValue_textField {t t' : TextField} (shown : t'.encode = t.encode)
    (kept : t'.isNumber = t.isNumber) : SameValue (.textField t) (.textField t') := by
  refine ⟨shown, ?_⟩
  rw [content?, content?, kept]
  cases isNumber : t.isNumber with
  | true => rfl
  | false =>
    rw [TextField.encode, TextField.encode, kept, isNumber] at shown
    exact congrArg (fun s => some (Content.text s)) shown

theorem sameValue_timestamp {t t' : Timestamp} (value : t'.value = t.value) :
    SameValue (.timestamp t) (.timestamp t') := by
  constructor
  · simp [encode, Timestamp.encode, value]
  · simp [content?, value]

theorem sameValue_optionTable {t t' : OptionTable} (value : t'.value = t.value) :
    SameValue (.optionTable t) (.optionTable t') := by
  constructor
  · simp [encode, OptionTable.encode, value]
  · simp [content?, value]

/-- From the string form, every kind with the same setup takes the same value. -/
theorem decode_encode (sound : k.Sound) (divided : k.Divided) (same : fresh.setup = k.setup) :
    ∃ k', fresh.decode k.encode = .ok k' ∧ SameValue k k' := by
  cases sameSetup_of_setup same with
  | switch t s default => exact ⟨_, rfl, sameValue_switch (Switch.decode_encode t s)⟩
  | selection t s choices default =>
    exact ⟨_, rfl, Selection.decode_encode sound choices default, rfl⟩
  | sequence t s separator limits default =>
    have value := Sequence.decode_encode sound divided separator limits default
    exact ⟨_, rfl, sameValue_sequence separator value⟩
  | multiChoice t s default =>
    obtain ⟨m, read, value⟩ : ∃ m, t.decode s.encode = .ok m ∧ m.value = s.value :=
      MultiChoice.decode_encode sound
    exact ⟨.multiChoice m, by rw [decode, encode, read]; rfl, sameValue_multiChoice value⟩
  | slider t s bounds default =>
    obtain ⟨s', read, value⟩ := Slider.decode_encode sound bounds
    exact ⟨.slider s', by rw [decode, encode, read]; rfl, sameValue_slider value⟩
  | textField t s kept =>
    obtain ⟨t', read, shown, isNumber⟩ := TextField.decode_encode sound kept
    exact ⟨.textField t', by rw [decode, encode, read]; rfl, sameValue_textField shown isNumber⟩
  | timestamp t s default =>
    obtain ⟨t', read, value⟩ : ∃ t', t.decode s.encode = .ok t' ∧ t'.value = s.value :=
      Timestamp.decode_encode sound
    exact ⟨.timestamp t', by rw [decode, encode, read]; rfl, sameValue_timestamp value⟩
  | optionTable t s default =>
    obtain ⟨t', read, value⟩ : ∃ t', t.decode s.encode = .ok t' ∧ t'.value = s.value :=
      OptionTable.decode_encode sound
    exact ⟨.optionTable t', by rw [decode, encode, read]; rfl, sameValue_optionTable value⟩

/-- Going back to the default restores what is on its default. -/
theorem encode_reset (sound : k.Sound) (same : fresh.setup = k.setup)
    (isDefault : k.isDefault = true) :
    fresh.reset.encode = k.encode := by
  cases sameSetup_of_setup same with
  | switch t s default => exact Switch.encode_reset default isDefault
  | selection t s choices default => exact Selection.encode_reset default isDefault
  | sequence t s separator limits default =>
    exact Sequence.encode_reset separator default isDefault
  | multiChoice t s default => exact MultiChoice.encode_reset default isDefault
  | slider t s bounds default => exact Slider.encode_reset default isDefault
  | textField t s kept => exact TextField.encode_reset sound kept isDefault
  | timestamp t s default => exact Timestamp.encode_reset default isDefault
  | optionTable t s default => exact OptionTable.encode_reset default isDefault

end Codec

/-- The kinds that hosts make. -/
inductive Made : Kind → Prop where
  | switch (s : Switch) (made : s.Made) : Made (.switch s)
  | selection (s : Selection) (made : s.Made) : Made (.selection s)
  | sequence (s : Sequence) (made : s.Made) : Made (.sequence s)
  | multiChoice (choices default : List String) : Made (.multiChoice (.make choices default))
  | slider (default increment : Int) (bounds : Bounds) (s : Slider)
      (made : Slider.make default increment bounds = .ok s)
      (inRange : Numeral.InRange bounds.low ∧ Numeral.InRange bounds.high) : Made (.slider s)
  | textField (t : TextField) (made : t.Made) : Made (.textField t)
  | timestamp (default : Int) (pattern : String) (increment : Int) (inRange : Numeral.InRange default) :
    Made (.timestamp (.make default pattern increment))
  | dailyTimestamp (default : Int) (pattern : String) (inRange : Numeral.InRange default) :
    Made (.timestamp (.daily default pattern))
  | optionTable (default : Options) (ordered : OptionTable.Ordered default) :
    Made (.optionTable (.make default))

/-- What hosts make is sound. -/
theorem Made.sound {k : Kind} (made : k.Made) : k.Sound := by
  cases made with
  | switch s made => trivial
  | selection s made => exact made.sound
  | sequence s made => exact made.sound
  | multiChoice choices default => exact MultiChoice.sound_make choices default
  | slider default increment bounds s made inRange => exact Slider.sound_make made inRange
  | textField t made => exact made.sound
  | timestamp default pattern increment inRange => exact Timestamp.sound_make inRange pattern increment
  | dailyTimestamp default pattern inRange => exact Timestamp.sound_make inRange pattern Timestamp.day
  | optionTable default ordered => exact OptionTable.sound_make ordered

/-- What hosts make is on its default. -/
theorem Made.isDefault {k : Kind} (made : k.Made) : k.isDefault = true := by
  cases made with
  | switch s made => exact made.isDefault
  | selection s made => exact made.isDefault
  | sequence s made => exact made.isDefault
  | slider default increment bounds s made inRange =>
    unfold Slider.make at made
    split at made
    · cases made
      exact beq_self_eq_true _
    · cases made
  | textField t made => exact made.isDefault
  | _ => exact beq_self_eq_true _

end Kind

end Settings
