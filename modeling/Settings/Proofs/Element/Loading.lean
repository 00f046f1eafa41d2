import Settings.Proofs.Element.Saving

/-!
# What was just loaded

An element has changed if its string form is another text than its persisted form. Loading reads more
texts than elements write: words in any case, numbers outside of the bounds, superfluous zeros, maps in
any order, and the default for what cannot be read. Of all these only the texts that stand for a value
in its string form are found unchanged once they are loaded.

* `Kind.Canonical`: the string forms of the values of a kind, said for each kind.
* `Kind.canonical_iff_decode`: these texts are read, and written again as they are.
* `Element.isChanged_loaded_iff`: when an element is found unchanged right after it was loaded.
-/
namespace Settings

/-- The value that a text puts a selection on has this text as its string form exactly if it is the
string form of a choice or of the default. -/
theorem Selection.encode_decode_eq_iff {s : Selection} {text : String} :
    (s.decode text).encode = text ↔
      (∃ c ∈ s.choices, text = c.key) ∨ text = s.default.stringForm := by
  rw [decode, setByKey, encode]
  dsimp only
  cases found : findChoice? s.choices text with
  | none =>
    have absent : ¬∃ c ∈ s.choices, text = c.key := by
      rintro ⟨c, member, same⟩
      exact List.find?_eq_none.mp found c member (beq_iff_eq.mpr same.symm)
    simp [absent, eq_comm]
  | some c =>
    have key : c.value.stringForm = text := key_of_findChoice? found
    exact iff_of_true key (.inl ⟨c, List.mem_of_find?_eq_some found, key.symm⟩)

namespace Kind

/-- The text is the string form of a value that the kind can have. The separator of a sequence may be
mistaken for part of a numeral, so the text has to be read as the fields that it is the string form
of. -/
def Canonical (text : String) : Kind → Prop
  | .switch _ => ∃ on, text = Switch.stateName on
  | .selection s => (∃ c ∈ s.choices, text = c.key) ∨ text = s.default.stringForm
  | .sequence s => ∃ fields, Sequence.Inside s.limits fields ∧
      text = String.ofList (Sequence.joinFields s.separator fields) ∧ (s.decode text).value = fields
  | .multiChoice _ => ∃ items, Ascending items ∧ text = Blob.encode (.ofStrings items)
  | .slider s => ∃ n, s.bounds.Contains n ∧ text = Numeral.text n
  | .textField t => t.isNumber = true → ∃ n, Numeral.InRange n ∧ text = Numeral.text n
  | .timestamp _ => ∃ n, Numeral.InRange n ∧ text = Numeral.text n
  | .optionTable _ => ∃ options, OptionTable.Ordered options ∧
      text = Blob.encode (OptionTable.toTerm options)

variable {k : Kind} {text : String}

/-- A canonical text is the string form of a sound kind with the same setup. -/
theorem exists_of_canonical (sound : k.Sound) (canonical : k.Canonical text) :
    ∃ k' : Kind, k'.setup = k.setup ∧ k'.Sound ∧ k'.encode = text := by
  cases k with
  | switch s =>
    obtain ⟨on, rfl⟩ := canonical
    exact ⟨.switch { s with value := on }, rfl, trivial, rfl⟩
  | selection s =>
    exact ⟨.selection (s.decode text), rfl, s.sound_setByKey text,
      Selection.encode_decode_eq_iff.mpr canonical⟩
  | sequence s =>
    obtain ⟨fields, inside, rfl, _⟩ := canonical
    exact ⟨.sequence { s with value := fields }, rfl, { sound with value := inside }, rfl⟩
  | multiChoice m =>
    obtain ⟨items, ascending, rfl⟩ := canonical
    exact ⟨.multiChoice { m with value := items }, rfl, ⟨ascending, sound.default⟩, rfl⟩
  | slider s =>
    obtain ⟨n, inside, rfl⟩ := canonical
    exact ⟨.slider { s with value := n }, rfl, { sound with value := inside }, rfl⟩
  | textField t =>
    have evolves : (Kind.textField t).Evolves (.textField (t.setText text)) :=
      evolves_textField (t.setup_setText text)
    refine ⟨_, evolves.setup, evolves.sound sound, ?_⟩
    cases isNumber : t.isNumber with
    | true =>
      obtain ⟨n, inRange, rfl⟩ := canonical isNumber
      exact TextField.encode_setText_numeral isNumber inRange
    | false => exact TextField.encode_setText_text isNumber text
  | timestamp t =>
    obtain ⟨n, inRange, rfl⟩ := canonical
    exact ⟨.timestamp (t.setValue n), rfl, ⟨inRange, sound.default⟩, rfl⟩
  | optionTable t =>
    obtain ⟨options, ordered, rfl⟩ := canonical
    exact ⟨.optionTable { t with value := options }, rfl, ⟨ordered, sound.default⟩, rfl⟩

/-- The string form of a sound kind is canonical for all kinds with the same setup, if separators are no
part of numerals. -/
theorem canonical_encode {k' : Kind} (divided : k.Divided) (same : k'.setup = k.setup)
    (sound' : k'.Sound) : k.Canonical k'.encode := by
  cases sameSetup_of_setup same with
  | switch t s default => exact ⟨t.value, rfl⟩
  | selection t s choices default =>
    exact Selection.encode_decode_eq_iff.mp (Selection.decode_encode sound' choices.symm default.symm)
  | sequence t s separator limits default =>
    have divides : Sequence.Divides t.separator t.limits := by
      rw [separator, limits]
      exact divided
    refine ⟨t.value, limits ▸ sound'.value, ?_,
      Sequence.decode_encode sound' divides separator.symm limits.symm default.symm⟩
    rw [← separator]
    rfl
  | multiChoice t m default => exact ⟨t.value, sound'.value, rfl⟩
  | slider t s bounds default => exact ⟨t.value, bounds ▸ sound'.value, rfl⟩
  | textField t s kept =>
    intro isNumber
    exact sound'.encode_eq_numeral ((TextField.isNumber_of_setup kept).trans isNumber)
  | timestamp t s default => exact ⟨t.value, sound'.value, rfl⟩
  | optionTable t s default => exact ⟨t.value, sound'.value, rfl⟩

/-- The canonical texts are read as values that are written in the same way. -/
theorem canonical_iff_decode (sound : k.Sound) :
    k.Canonical text ↔ ∃ k', k.decode text = .ok k' ∧ k'.encode = text := by
  have whole (divided : k.Divided) :
      k.Canonical text ↔ ∃ k', k.decode text = .ok k' ∧ k'.encode = text := by
    constructor
    · intro canonical
      obtain ⟨k', same, sound', rfl⟩ := exists_of_canonical sound canonical
      obtain ⟨k'', read, kept⟩ := decode_encode sound' (divided_of_setup same divided) same.symm
      exact ⟨k'', read, kept.encode⟩
    · rintro ⟨k', read, rfl⟩
      have evolves := evolves_decode read
      exact canonical_encode divided evolves.setup (evolves.sound sound)
  cases k with
  | sequence s =>
    -- Every text is read as some fields, whatever the separator is.
    constructor
    · rintro ⟨fields, inside, written, read⟩
      refine ⟨_, rfl, ?_⟩
      rw [encode, Sequence.encode, Sequence.plainChars, read]
      exact written.symm
    · rintro ⟨k', read, same⟩
      cases read
      exact ⟨_, (s.follows_decode text).value sound, same.symm, rfl⟩
  | _ => exact whole trivial

/-- Going back to the default leads to the default. -/
theorem isDefault_reset (sound : k.Sound) : k.reset.isDefault = true := by
  cases k with
  | textField t =>
    have default := TextField.default_of_setup (t.setup_setText t.default)
    exact beq_iff_eq.mpr ((TextField.encode_reset_eq_default sound).trans default.symm)
  | _ => exact beq_self_eq_true _

/-- A text that cannot be read is not the string form of the default. -/
theorem encode_reset_ne_of_unreadable (sound : k.Sound) {err : Error}
    (unreadable : k.decode text = .error err) : k.reset.encode ≠ text := by
  have divided : k.Divided := by
    cases k with
    | sequence s => cases unreadable
    | _ => trivial
  rintro rfl
  have evolves := evolves_reset k
  obtain ⟨k', read, _⟩ := decode_encode (evolves.sound sound)
    (divided_of_setup evolves.setup divided) evolves.setup.symm
  cases unreadable.symm.trans read

end Kind

namespace Element

variable {e : Element}

/-- A loaded element has changed exactly if something is persisted that is not canonical. -/
theorem isChanged_load (sound : e.kind.Sound) :
    e.load.result.isChanged = false ↔ ∀ text ∈ e.saved, e.kind.Canonical text := by
  have compared : e.load.result.isChanged = false ↔
      e.loadedKind.encode = e.saved.getD e.loadedKind.encodeDefault := bne_eq_false_iff_eq
  rw [compared, loadedKind]
  cases saved : e.saved with
  | none =>
    refine iff_of_true ?_ (fun _ none => nomatch none)
    exact Kind.encode_eq_encodeDefault (Kind.isDefault_reset sound)
  | some text =>
    simp only [Option.getD_some, Option.mem_some_iff, forall_eq']
    rw [Kind.canonical_iff_decode sound]
    cases read : e.kind.decode text with
    | ok k => simp
    | error err => simp [Kind.encode_reset_ne_of_unreadable sound read]

/-- Whatever was done to an element that a host made, and whatever is persisted for it: right after it
was loaded, and right after it was cancelled, it is unchanged exactly if nothing is persisted or what is
persisted is the string form of a value that it can have. -/
theorem isChanged_loaded_iff {kind : Kind} (made : kind.Made) {ops : List Operation}
    (fits : ∀ op ∈ ops, op.Fits) {e : Element} (reached : (run ops (ofKind kind)).result = e)
    (saved : Option String) :
    ((e.setSaved saved).load.result.isChanged = false ↔ ∀ text ∈ saved, e.kind.Canonical text) ∧
    ((e.setSaved saved).cancel.result.isChanged = false ↔ ∀ text ∈ saved, e.kind.Canonical text) := by
  have sound : e.kind.Sound := by
    rw [← reached]
    exact closed_sound.run (fun op member => (fits op member).within) made.sound
  have loaded := isChanged_load (e := e.setSaved saved) sound
  exact ⟨loaded, loaded⟩

/-- A slider from zero to nine. -/
def volume : Kind := .slider ⟨5, 5, 3, ⟨0, 9⟩⟩

/-- Moves up, saves and moves back. -/
def volumeOps : List Operation := [.act .twelve .right, .save, .act .twelve .left]

/-- Seven with a superfluous zero is loaded as seven, but it is not how seven is written. -/
theorem isChanged_loaded_volume :
    ∃ e, (run volumeOps (ofKind volume)).result = e ∧
      (e.setSaved (some "7")).load.result.isChanged = false ∧
      (e.setSaved (some "07")).cancel.result.valueString = "7" ∧
      (e.setSaved (some "07")).cancel.result.isChanged = true ∧ ¬ e.kind.Canonical "07" := by
  have made : volume.Made := .slider 5 3 ⟨0, 9⟩ _ rfl (by decide)
  have fits : ∀ op ∈ volumeOps, op.Fits := by
    simp [volumeOps, Operation.Fits]
  have seven := (isChanged_loaded_iff made fits rfl (some "7")).1
  have padded := (isChanged_loaded_iff made fits rfl (some "07")).2
  have changed : ((run volumeOps (ofKind volume)).result.setSaved (some "07")).cancel.result.isChanged =
      true := by decide +kernel
  refine ⟨_, rfl, seven.mpr ?_, by decide +kernel, changed, fun canonical => ?_⟩
  · rintro _ ⟨⟩
    exact ⟨7, by decide, by decide⟩
  · have unchanged := padded.mpr (by rintro _ ⟨⟩; exact canonical)
    exact absurd (unchanged.symm.trans changed) (by decide)

/-- A word that switches on is loaded as on, which is written with another word. -/
theorem loaded_synonym_is_changed :
    ¬ ∀ (kind : Kind) (ops : List Operation) (saved : Option String), kind.Made →
      (∀ op ∈ ops, op.Fits) →
      ((run ops (ofKind kind)).result.setSaved saved).load.result.isChanged = false := by
  intro unchanged
  have yes := unchanged (.switch (.yesNo false)) [] (some "yes") (.switch _ (.yesNo false))
    fun _ member => nomatch member
  have changed : ((ofKind (.switch (.yesNo false))).setSaved (some "yes")).load.result.isChanged =
      true := by decide +kernel
  exact absurd (changed.symm.trans yes) (by decide)

end Element

end Settings
