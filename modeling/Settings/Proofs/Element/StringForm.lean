import Settings.Proofs.Element.Evolution

/-!
# String forms are read back

Whatever is done to an element, it can be put on its own string form: the text that it shows is read,
and the element shows the same afterwards.

* `restorable_run`: what operations lead to can be restored.
* `assignText_valueString`: an element takes its own string form.
-/
namespace Settings

/-- Numbers have 64 bits. Choices may be replaced by any others. -/
def ValueEdit.Fits : ValueEdit → Prop
  | .setNumber n => Numeral.InRange n
  | _ => True

/-- Only new choices change a setup. -/
theorem ValueEdit.Fits.keepsSetup_or {change : ValueEdit} (fits : change.Fits) :
    change.KeepsSetup ∨ ∃ choices default, change = .setChoices choices default := by
  cases change with
  | setChoices choices default => exact .inr ⟨choices, default, rfl⟩
  | setNumber n => exact .inl fits
  | _ => exact .inl trivial

namespace Kind

variable {k k' : Kind}

/-- The string form can be read back. -/
structure Restorable (k : Kind) : Prop where
  sound : k.Sound
  divided : k.Divided

theorem divided_of_setup (same : k'.setup = k.setup) (divided : k.Divided) : k'.Divided := by
  cases sameSetup_of_setup same with
  | sequence t s separator limits default =>
    change Sequence.Divides t.separator t.limits
    rw [separator, limits]
    exact divided
  | _ => trivial

theorem Evolves.restorable (evolves : Evolves k k') (restorable : k.Restorable) : k'.Restorable :=
  ⟨evolves.sound restorable.sound, divided_of_setup evolves.setup restorable.divided⟩

end Kind

namespace Element

variable {e : Element}

/-- Numbers have 64 bits, and values of the host are what they claim to be. -/
def Operation.Fits : Operation → Prop
  | .edit change => change.Fits
  | .assignValue v => v.Canonical
  | _ => True

theorem Operation.Fits.within {op : Operation} (fits : op.Fits) :
    op.Within ValueEdit.Fits Value.Canonical := by
  cases op <;> exact fits

/-- What follows from one kind for all that it evolves to, and for a selection with new choices, cannot
be left. -/
theorem closed_of_evolves_of_setChoices {P : Kind → Prop}
    (kept : ∀ {k k' : Kind}, k.Evolves k' → P k → P k')
    (renewed : ∀ s choices default, P (.selection s) →
      P (.selection (Selection.setChoices choices default s).1)) :
    Kind.Closed ValueEdit.Fits Value.Canonical P :=
  { closed_of_evolves kept with
    edit := by
      intro k k' change answer holds fits done
      rcases fits.keepsSetup_or with keeps | ⟨choices, default, rfl⟩
      · exact kept (Kind.evolves_apply keeps done) holds
      · cases Kind.applied_of_apply done with
        | aside => exact holds
        | setChoices choices default s => exact renewed s choices default holds }

/-- Operations lead from sound kinds to sound ones, new choices included. -/
theorem closed_sound : Kind.Closed ValueEdit.Fits Value.Canonical Kind.Sound :=
  closed_of_evolves_of_setChoices Kind.Evolves.sound fun s choices default _ =>
    s.sound_setChoices choices default

/-- So they do from restorable kinds to restorable ones. -/
theorem closed_restorable : Kind.Closed ValueEdit.Fits Value.Canonical Kind.Restorable :=
  closed_of_evolves_of_setChoices Kind.Evolves.restorable fun s choices default _ =>
    ⟨s.sound_setChoices choices default, trivial⟩

/-- What operations lead to can be restored. -/
theorem restorable_run (restorable : e.kind.Restorable) {ops : List Operation}
    (fits : ∀ op ∈ ops, op.Fits) : (run ops e).result.kind.Restorable :=
  closed_restorable.run (fun op member => (fits op member).within) restorable

/-- An element that can be restored takes its own string form. -/
theorem exists_assignText (restorable : e.kind.Restorable) :
    ∃ r, e.assignText e.valueString = .ok r ∧ r.result.valueString = e.valueString ∧
      r.result.kind.content? = e.kind.content? := by
  obtain ⟨k, read, same⟩ := Kind.decode_encode restorable.sound restorable.divided rfl
  have assigned : e.assignText e.valueString = .ok (changed { e with kind := k }) := by
    rw [assignText, valueString, read]
    rfl
  exact ⟨_, assigned, same.encode, same.content⟩

/-- Whatever was done to an element that a host made, it takes its own string form, and then it has
the same string form and the same working value. -/
theorem assignText_valueString {kind : Kind} (made : kind.Made) (divided : kind.Divided)
    {ops : List Operation} (fits : ∀ op ∈ ops, op.Fits) :
    ∃ r, (run ops (ofKind kind)).result.assignText (run ops (ofKind kind)).result.valueString = .ok r ∧
      r.result.valueString = (run ops (ofKind kind)).result.valueString ∧
      r.result.kind.content? = (run ops (ofKind kind)).result.kind.content? := by
  have start : (ofKind kind).kind.Restorable := ⟨made.sound, divided⟩
  exact exists_assignText (restorable_run start fits)

/-- Two numbers up to 99 with a minus sign between them. -/
def dashed : Sequence := .ofLimits '-' [⟨0, 99⟩, ⟨0, 99⟩] [3, 4]

/-- Replaces the fields, types over the first digit, saves and goes back to what was saved. -/
def dashedOps : List Operation :=
  [.assignValue (.list [.int 200, .int (-1)]), .act .twelve (.digit 5), .save, .cancel]

theorem assignText_valueString_dashed :
    ∃ r, (run dashedOps (ofKind (.sequence dashed))).result.assignText "59-0" = .ok r ∧
      r.result.valueString = "59-0" ∧ r.result.kind.content? = some (.fields [59, 0]) := by
  have made : (Kind.sequence dashed).Made :=
    .sequence _ (.make '-' [⟨0, 99⟩, ⟨0, 99⟩] [3, 4] dashed (by decide) (by decide))
  have divided : (Kind.sequence dashed).Divided := ⟨by decide, fun _ => by decide⟩
  have fits : ∀ op ∈ dashedOps, op.Fits := by
    simp [dashedOps, Operation.Fits, Value.Canonical, Value.CanonicalItems]
  have shown : (run dashedOps (ofKind (.sequence dashed))).result.valueString = "59-0" := by
    decide +kernel
  have content : (run dashedOps (ofKind (.sequence dashed))).result.kind.content? =
      some (.fields [59, 0]) := by decide +kernel
  obtain ⟨r, assigned, same, kept⟩ := assignText_valueString made divided fits
  rw [shown] at assigned same
  exact ⟨r, assigned, same, kept.trans content⟩

end Element

end Settings
