import Settings.Proofs.Element.Closed
import Settings.Proofs.Element.Kind
import Settings.Proofs.Stored.Line

/-!
# Elements through edits, saving and loading

No operation on an element but the replacement of its choices changes its setup. What an element has
saved puts any other element with the same setup on the same value.

* `evolves_perform`: operations keep the setup and what is sound.
* `valueString_load`: a saved value is loaded by an element with the same setup.
-/
namespace Settings.Element

variable {e fresh : Element}

/-- Choices are not replaced, and values of the host are what they claim to be. -/
def Operation.KeepsSetup : Operation → Prop
  | .edit change => change.KeepsSetup
  | .assignValue v => v.Canonical
  | _ => True

theorem Operation.KeepsSetup.within {op : Operation} (keeps : op.KeepsSetup) :
    op.Within ValueEdit.KeepsSetup Value.Canonical := by
  cases op <;> exact keeps

/-- What follows from one kind for all that it evolves to cannot be left. -/
theorem closed_of_evolves {P : Kind → Prop} (kept : ∀ {k k' : Kind}, k.Evolves k' → P k → P k') :
    Kind.Closed ValueEdit.KeepsSetup Value.Canonical P where
  handle holds mode a := kept (Kind.evolves_handle mode a _) holds
  edit holds keeps done := kept (Kind.evolves_apply keeps done) holds
  decode holds read := kept (Kind.evolves_decode read) holds
  assign holds canonical taken := kept (Kind.evolves_assign canonical taken) holds
  reset := kept (Kind.evolves_reset _)
  select := kept (Kind.evolves_select _)
  deselect := kept (Kind.evolves_deselect _)
  prepareSave := kept (Kind.evolves_prepareSave _)
  increment := kept (Kind.evolves_increment _)
  decrement := kept (Kind.evolves_decrement _)

theorem closed_evolves (k : Kind) : Kind.Closed ValueEdit.KeepsSetup Value.Canonical k.Evolves :=
  closed_of_evolves fun step evolves => evolves.trans step

/-- Operations keep the setup and what is sound. -/
theorem evolves_perform {op : Operation} (keeps : op.KeepsSetup) (e : Element) :
    e.kind.Evolves (e.perform op).1.result.kind :=
  (closed_evolves e.kind).perform keeps.within (.refl _)

theorem evolves_run {ops : List Operation} (keep : ∀ op ∈ ops, op.KeepsSetup) (e : Element) :
    e.kind.Evolves (run ops e).result.kind :=
  (closed_evolves e.kind).run (fun op member => (keep op member).within) (.refl _)

theorem evolves_load (e : Element) : e.kind.Evolves e.load.result.kind :=
  (closed_evolves e.kind).loaded (.refl _)

theorem evolves_save (e : Element) : e.kind.Evolves e.save.result.kind := e.kind.evolves_prepareSave

theorem evolves_assignText (text : String) (e : Element) :
    e.kind.Evolves (e.perform (.assignText text)).1.result.kind :=
  Kind.Closed.attempt (.refl _) fun _ read => Kind.evolves_decode read

/-- The string form fits into one line of a settings text and can be told into its parts. -/
structure Portable (e : Element) : Prop where
  legible : Text.Legible e.valueString
  separable : e.kind.Separable

/-- Every switch is portable. -/
theorem portable_of_switch {default : Bool} (setup : e.kind.setup = .switch default) :
    e.Portable := by
  cases shape : e.kind with
  | switch s =>
    have legible : ∀ b, Text.Legible (Switch.stateName b) := by decide
    exact ⟨by rw [valueString, shape]; exact legible s.value, by rw [shape]; trivial⟩
  | _ => rw [shape] at setup; cases setup

theorem saved_save (e : Element) : e.save.result.saved = e.save.result.formToSave := rfl

/-- What an element has saved puts every other element with the same setup on its value. -/
theorem valueString_load (sound : e.kind.Sound) (divided : e.kind.Divided)
    (saved : e.saved = e.formToSave) (mayBeSaved : e.neverSaved = false)
    (setup : fresh.kind.setup = e.kind.setup) (handed : fresh.saved = e.saved) :
    fresh.load.result.valueString = e.valueString := by
  change fresh.loadedKind.encode = e.kind.encode
  unfold loadedKind
  rw [handed, saved, formToSave, mayBeSaved, Bool.false_or]
  cases isDefault : e.isDefault && !e.savesDefault with
  | true =>
    rw [Bool.and_eq_true] at isDefault
    exact Kind.encode_reset sound setup isDefault.1
  | false =>
    obtain ⟨k, read, same⟩ := Kind.decode_encode sound divided setup
    rw [valueString]
    simp [read, same.encode]

end Settings.Element
