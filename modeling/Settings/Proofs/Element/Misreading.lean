import Settings.Element.Basic
import Settings.Proofs.Editor.OptionTable

/-!
# Texts that a kind cannot read

Which texts are refused is said here by what the texts look like: numerals by their sign and digits,
blobs by the grammar of written terms. Three kinds refuse no text at all.

* `Kind.exists_error_decode_iff`: the texts that a kind refuses.
-/
namespace Settings

namespace Kind

/-- The texts that a kind refuses. -/
def Misreads (text : String) : Kind → Prop
  | .switch _ | .selection _ | .sequence _ => False
  | .multiChoice _ => ¬ ∃ items, Blob.Holds text (.ofStrings items)
  | .slider _ | .timestamp _ => ¬ Numeral.IsNumeral (Text.trimChars text.toList)
  | .textField t => t.isNumber = true ∧ ¬ Numeral.IsNumeral (Text.trimChars text.toList)
  | .optionTable _ => ¬ ∃ options, Blob.Holds text (OptionTable.toTerm options)

variable {α β : Type} {text : String}

/-- A kind whose string form is a numeral refuses all other texts. -/
theorem exists_error_of_read? (refusal : Error) (put : Int → α) {cs : List Char} {r : Except Error α}
    (reads : r = match Numeral.read? cs with
      | some n => .ok (put n)
      | none => .error refusal) : (∃ err, r = .error err) ↔ ¬ Numeral.IsNumeral cs := by
  rw [← Numeral.read?_eq_none_iff, reads]
  cases Numeral.read? cs <;> simp

/-- A kind whose string form is a blob of a certain sort refuses all other texts. -/
theorem exists_error_of_blob {take? : Term → Option β} {write : β → Term}
    (takes : ∀ t x, take? t = some x ↔ t = write x) (refusal : Error) (put : β → α)
    {r : Except Error α}
    (reads : r = Blob.decode text >>= fun t => (take? t).elim (.error refusal) fun x => .ok (put x)) :
    (∃ err, r = .error err) ↔ ¬ ∃ x, Blob.Holds text (write x) := by
  have held : ∀ t, Blob.Holds text t → Blob.decode text = .ok t := fun _ => Blob.decode_eq_ok_iff_holds.mpr
  rw [reads]
  cases read : Blob.decode text with
  | error err =>
    refine ⟨fun _ ⟨x, holds⟩ => ?_, fun _ => ⟨err, rfl⟩⟩
    cases read.symm.trans (held _ holds)
  | ok t =>
    change (∃ err, (take? t).elim _ _ = _) ↔ _
    cases found : take? t with
    | none =>
      refine ⟨fun _ ⟨x, holds⟩ => ?_, fun _ => ⟨refusal, rfl⟩⟩
      cases read.symm.trans (held _ holds)
      cases found.symm.trans ((takes _ x).mpr rfl)
    | some x =>
      refine ⟨nofun, fun misread => absurd ⟨x, ?_⟩ misread⟩
      rw [← (takes t x).mp found]
      exact Blob.decode_eq_ok_iff_holds.mp read

/-- A kind fails to read exactly the texts that it is said to refuse. -/
theorem exists_error_decode_iff {k : Kind} : (∃ err, k.decode text = .error err) ↔ k.Misreads text := by
  have map {γ : Type} {make : γ → Kind} (r : Except Error γ) :
      (∃ err, r.map make = .error err) ↔ ∃ err, r = .error err := by
    cases r <;> simp [Except.map]
  cases k with
  | switch s => simp [decode, Misreads]
  | selection s => simp [decode, Misreads]
  | sequence s => simp [decode, Misreads]
  | multiChoice m =>
    refine (map _).trans (exists_error_of_blob (fun _ _ => Term.strings?_eq_some_iff)
      (.undecodable text .stringList) m.setItems ?_)
    rw [MultiChoice.decode]
    cases Blob.decode text with
    | error err => rfl
    | ok t =>
      change _ = t.strings?.elim _ _
      cases found : t.strings? <;> simp only [found, Option.elim]
  | slider s => exact (map _).trans (exists_error_of_read? (.undecodable text .integer) s.setValue rfl)
  | timestamp t => exact (map _).trans (exists_error_of_read? (.undecodable text .timestamp) t.setValue rfl)
  | optionTable t =>
    refine (map _).trans (exists_error_of_blob (fun _ _ => OptionTable.ofTerm?_eq_some_iff)
      (.undecodable text .stringMaps) (fun options => { t with value := options }) ?_)
    rw [OptionTable.decode]
    cases Blob.decode text with
    | error err => rfl
    | ok term =>
      change _ = (OptionTable.ofTerm? term).elim _ _
      cases found : OptionTable.ofTerm? term <;> simp only [found, Option.elim]
  | textField t =>
    refine (map _).trans ?_
    rw [Misreads, TextField.decode]
    cases t.isNumber with
    | true =>
      rw [if_pos rfl, eq_self, true_and]
      exact exists_error_of_read? (.undecodable text .integer) (fun n => t.setText (Numeral.text n)) rfl
    | false => simp

end Kind

end Settings
