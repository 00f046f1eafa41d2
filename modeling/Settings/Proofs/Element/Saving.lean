import Settings.Proofs.Element.StringForm

/-!
# Saving commits and cancelling reverts

After an element was saved, its persisted form stands for its working value: the form is the string
form of the value, or there is none and the value is the default. Edits leave the persisted form alone,
so that loading it brings the value back.

* `isChanged_save`, `save_save`: what saving leaves behind.
* `saved_run`: what edits leave alone.
* `saved_and_reverted`: saving, editing and cancelling an element that hosts made.
-/
namespace Settings

namespace Kind

/-- What is on its default shows the default. -/
theorem encode_eq_encodeDefault {k : Kind} (isDefault : k.isDefault = true) :
    k.encode = k.encodeDefault := by
  cases k with
  | switch s => exact congrArg Switch.stateName (eq_of_beq isDefault)
  | selection s => exact eq_of_beq isDefault
  | sequence s =>
    exact congrArg (fun fields => String.ofList (Sequence.joinFields s.separator fields))
      (eq_of_beq isDefault)
  | multiChoice m => exact congrArg MultiChoice.encodeItems (eq_of_beq isDefault)
  | slider s => exact congrArg Numeral.text (eq_of_beq isDefault)
  | textField t => exact eq_of_beq isDefault
  | timestamp t => exact congrArg Numeral.text (eq_of_beq isDefault)
  | optionTable t =>
    exact congrArg (fun options => Blob.encode (OptionTable.toTerm options)) (eq_of_beq isDefault)

/-- What was tidied up is tidy. -/
theorem prepareSave_prepareSave (k : Kind) : k.prepareSave.prepareSave = k.prepareSave := by
  cases k with
  | optionTable t => simp [prepareSave, OptionTable.prune]
  | _ => rfl

theorem needsPreparing_prepareSave (k : Kind) : k.prepareSave.needsPreparing = false := by
  cases k with
  | optionTable t => simp [prepareSave, needsPreparing, OptionTable.prune]
  | _ => rfl

end Kind

namespace Element

variable {e : Element}

section Saving

/-- The persisted form after saving: none for a default, unless defaults are persisted as well. -/
theorem saved_save_eq_ite (mayBeSaved : e.neverSaved = false) :
    e.save.result.saved =
      if e.save.result.isDefault && !e.save.result.savesDefault then none
      else some e.save.result.valueString := by
  have same : e.save.result.neverSaved = e.neverSaved := rfl
  rw [saved_save, formToSave, same, mayBeSaved, Bool.false_or]

theorem isChanged_save (mayBeSaved : e.neverSaved = false) : e.save.result.isChanged = false := by
  rw [isChanged, saved_save_eq_ite mayBeSaved]
  cases isDefault : e.save.result.isDefault && !e.save.result.savesDefault with
  | true =>
    rw [Bool.and_eq_true] at isDefault
    have same : e.save.result.valueString = e.save.result.kind.encodeDefault :=
      Kind.encode_eq_encodeDefault isDefault.1
    simp [same]
  | false => simp

/-- An element is saved already if it is tidy and its persisted form is the one to save. -/
theorem save_eq_self (tidy : e.kind.prepareSave = e.kind) (quiet : e.kind.needsPreparing = false)
    (form : e.saved = e.formToSave) : e.save = ⟨e, e.closingNotices⟩ := by
  rw [save, tidy, quiet]
  -- What is tidy stays as it is, so only the persisted form is written.
  change Reported.mk { e with saved := e.formToSave } _ = _
  rw [← form]
  rfl

/-- Saving once more changes nothing. -/
theorem save_save (e : Element) :
    e.save.result.save = ⟨e.save.result, e.save.result.closingNotices⟩ :=
  save_eq_self e.kind.prepareSave_prepareSave e.kind.needsPreparing_prepareSave e.saved_save

end Saving

section Editing

/-- The persisted form is neither computed anew nor replaced. -/
def Operation.KeepsSaved : Operation → Prop
  | .save | .setSaved _ => False
  | _ => True

theorem saved_attempt (e : Element) (assigned : Except Error Kind) :
    (e.attempt (assigned.map fun kind => changed { e with kind := kind })).1.result.saved = e.saved := by
  obtain ⟨k, same⟩ := e.exists_kind_attempt assigned
  rw [same]

theorem saved_perform {op : Operation} (keeps : op.KeepsSaved) (e : Element) :
    (e.perform op).1.result.saved = e.saved := by
  have kindOnly := fun acts => @exists_kind_perform op acts e
  cases op with
  | act | edit | assignText | assignValue | increment | decrement | load | cancel | changed
  | changedFinal =>
    obtain ⟨k, same⟩ := kindOnly trivial
    rw [same]
  | save | setSaved => exact absurd keeps id
  | deselect =>
    rw [perform, deselect]
    dsimp only
    split <;> rfl
  | _ => rfl

theorem saved_run {ops : List Operation} (keep : ∀ op ∈ ops, op.KeepsSaved) (e : Element) :
    (run ops e).result.saved = e.saved := by
  induction ops generalizing e with
  | nil => rfl
  | cons op rest ih =>
    obtain ⟨first, others⟩ := List.forall_mem_cons.mp keep
    exact (ih others (e.perform op).1.result).trans (saved_perform first e)

/-- Whatever is edited after saving, loading brings back the value that was saved. -/
theorem valueString_load_run (restorable : e.kind.Restorable) (mayBeSaved : e.neverSaved = false)
    {ops : List Operation} (edits : ∀ op ∈ ops, op.KeepsSetup ∧ op.KeepsSaved) :
    (run ops e.save.result).result.load.result.valueString = e.save.result.valueString := by
  have saved := (evolves_save e).restorable restorable
  have setup := (evolves_run (fun op member => (edits op member).1) e.save.result).setup
  have kept := saved_run (fun op member => (edits op member).2) e.save.result
  exact valueString_load saved.sound saved.divided e.saved_save mayBeSaved setup kept

end Editing

/-- Saving an element that is persisted at all, whatever was done to it before: it has not changed
then, its persisted form is its string form or none for a default, and saving it once more changes
nothing. Whatever is edited afterwards, loading or cancelling brings its string form back. -/
theorem saved_and_reverted {kind : Kind} (made : kind.Made) (divided : kind.Divided)
    {before : List Operation} (fits : ∀ op ∈ before, op.Fits) {e : Element}
    (reached : (run before (ofKind kind)).result = e) (mayBeSaved : e.neverSaved = false) :
    e.save.result.isChanged = false ∧
    e.save.result.saved =
      (if e.save.result.isDefault && !e.save.result.savesDefault then none
      else some e.save.result.valueString) ∧
    e.save.result.save = ⟨e.save.result, e.save.result.closingNotices⟩ ∧
    ∀ after : List Operation, (∀ op ∈ after, op.KeepsSetup ∧ op.KeepsSaved) →
      (run after e.save.result).result.load.result.valueString = e.save.result.valueString ∧
      (run after e.save.result).result.cancel.result.valueString = e.save.result.valueString := by
  have start : (ofKind kind).kind.Restorable := ⟨made.sound, divided⟩
  have restorable : e.kind.Restorable := reached ▸ restorable_run start fits
  refine ⟨isChanged_save mayBeSaved, saved_save_eq_ite mayBeSaved, save_save e, fun after edits => ?_⟩
  have back := valueString_load_run restorable mayBeSaved edits
  exact ⟨back, back⟩

/-- A table with one option. -/
def radio : Kind := .optionTable (.make [("audio", [("volume", "3")])])

/-- Leaves a name without options behind. -/
def radioBefore : List Operation :=
  [.edit (.setOption "video" "mode" "wide"), .edit (.removeOption "video" "mode")]

def radioAfter : List Operation :=
  [.edit (.setOption "audio" "volume" "9"), .assignText "v1[]", .setSavesDefault true, .load,
    .edit (.removeOption "audio" "volume")]

theorem saved_and_reverted_radio :
    ∃ e, (run radioBefore (ofKind radio)).result = e ∧ e.isDefault = false ∧
      e.save.result.isChanged = false ∧ e.save.result.saved = none ∧
      e.save.result.save.result = e.save.result ∧
      (run radioAfter e.save.result).result.valueString ≠ e.save.result.valueString ∧
      (run radioAfter e.save.result).result.cancel.result.valueString =
        "v1\x7b5:audio\x7b6:volume1:3\x7d\x7d" := by
  have made : radio.Made := .optionTable _ ⟨by decide, by decide⟩
  have fits : ∀ op ∈ radioBefore, op.Fits := by
    simp [radioBefore, Operation.Fits, ValueEdit.Fits]
  have edits : ∀ op ∈ radioAfter, op.KeepsSetup ∧ op.KeepsSaved := by
    simp [radioAfter, Operation.KeepsSetup, Operation.KeepsSaved, ValueEdit.KeepsSetup]
  obtain ⟨unchanged, form, again, back⟩ := saved_and_reverted made trivial fits rfl rfl
  have shown : (run radioBefore (ofKind radio)).result.save.result.valueString =
      "v1\x7b5:audio\x7b6:volume1:3\x7d\x7d" := by decide +kernel
  refine ⟨_, rfl, by decide +kernel, unchanged, ?_, ?_, by decide +kernel, ?_⟩
  · rw [form]
    decide +kernel
  · rw [again]
  · exact (back radioAfter edits).2.trans shown

end Element

end Settings
