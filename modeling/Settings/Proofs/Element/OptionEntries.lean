import Mathlib.Data.List.Induction
import Settings.Proofs.Editor.OptionEntries
import Settings.Proofs.Element.Closed

/-!
# Entries of option tables, after every run

Options are set, removed, saved and read again from the own string form of their table, in any order. Of all
that was said of an option the last counts, and what the table was made with if nothing was said: saving
drops the names without options, which changes no entry, and reading the own string form changes nothing.

* `records_step`: what one step does to the entries.
* `records_stepped`: what a run of steps does to them.
* `entries_recorded`: the entries behind a run, and what removing and saving do then.
-/
namespace Settings.Element

open OptionTable (Ordered)

/-- What is done to the entries of an option table. -/
inductive TableStep where
  | change (name key value : String)
  | remove (name key : String)
  | save
  /-- The table is read again from its own string form. -/
  | reread
  deriving DecidableEq, Repr

namespace TableStep

def operation (e : Element) : TableStep → Operation
  | .change name key value => .edit (.setOption name key value)
  | .remove name key => .edit (.removeOption name key)
  | .save => .save
  | .reread => .assignText e.valueString

/-- What a step says of an option: its text, or that there is none; `none` if it says nothing. -/
def says? (name key : String) : TableStep → Option (Option String)
  | .change name' key' value => if name = name' ∧ key = key' then some (some value) else none
  | .remove name' key' => if name = name' ∧ key = key' then some none else none
  | .save | .reread => none

def after (step : TableStep) (e : Element) : Element := (e.perform (step.operation e)).1.result

end TableStep

/-- The element behind a run of steps. -/
def stepped (steps : List TableStep) (e : Element) : Element :=
  steps.foldl (fun e step => step.after e) e

/-- What was last said of an option; what it was before all steps if nothing was said. -/
def lastSaid (name key : String) (before : Option String) (steps : List TableStep) : Option String :=
  (steps.reverse.findSome? (TableStep.says? name key)).getD before

/-- The table of an element is in order and has given entries. -/
structure Records (entries : String → String → Option String) (t : OptionTable) (e : Element) : Prop where
  kind : e.kind = .optionTable t
  sound : t.Sound
  get? : ∀ name key, t.get? name key = entries name key

variable {entries : String → String → Option String} {t : OptionTable} {e : Element}

section Steps

theorem kind_setOption (shown : e.kind = .optionTable t) (name key value : String) :
    (e.perform (.edit (.setOption name key value))).1.result.kind =
      .optionTable (t.set name key value) := by
  have done : e.kind.apply (.setOption name key value) =
      .ok (.optionTable (t.set name key value), none) := by
    rw [shown, Kind.apply]
  rw [perform_edit done]
  rfl

theorem perform_removeOption (shown : e.kind = .optionTable t) (name key : String) :
    (e.perform (.edit (.removeOption name key))).1.result.kind = .optionTable (t.remove name key).1 ∧
      (e.perform (.edit (.removeOption name key))).2 = .flag (t.get? name key).isSome := by
  have done : e.kind.apply (.removeOption name key) =
      .ok (.optionTable (t.remove name key).1, some (t.remove name key).2) := by
    rw [shown, Kind.apply]
  rw [← OptionTable.remove_snd, perform_edit done]
  exact ⟨rfl, rfl⟩

theorem kind_save (shown : e.kind = .optionTable t) : e.save.result.kind = .optionTable t.prune := by
  have prepared : e.save.result.kind = e.kind.prepareSave := rfl
  rw [prepared, shown, Kind.prepareSave]

/-- A table is read again without a failure, and nothing changes. -/
theorem assignText_valueString_self (shown : e.kind = .optionTable t) (sound : t.Sound) :
    e.assignText e.valueString = .ok e.changed := by
  have same : e.kind.decode e.valueString = .ok e.kind := by
    rw [valueString, shown, Kind.encode, Kind.decode, OptionTable.decode_encode_self sound]
    rfl
  rw [assignText, same]
  rfl

/-- A step says of some entries what they are, and leaves the others as they were. -/
theorem records_step (records : Records entries t e) (step : TableStep) :
    ∃ t', Records (fun name key => (step.says? name key).getD (entries name key)) t' (step.after e) := by
  obtain ⟨shown, sound, same⟩ := records
  cases step with
  | change name key value =>
    refine ⟨_, kind_setOption shown name key value, sound.follows (t.follows_set name key value), ?_⟩
    intro other key'
    rw [OptionTable.get?_set, same, TableStep.says?]
    split <;> rfl
  | remove name key =>
    refine ⟨_, (perform_removeOption shown name key).1, sound.follows (t.follows_remove name key), ?_⟩
    intro other key'
    rw [OptionTable.get?_remove sound.value, same, TableStep.says?]
    split <;> rfl
  | save =>
    refine ⟨_, kind_save shown, sound.follows t.follows_prune, fun name key => ?_⟩
    rw [OptionTable.get?_prune sound.value, same]
    rfl
  | reread =>
    have still : (TableStep.reread.after e).kind = .optionTable t := by
      rw [TableStep.after, TableStep.operation, perform, assignText_valueString_self shown sound]
      exact shown
    exact ⟨t, still, sound, same⟩

theorem stepped_concat (steps : List TableStep) (step : TableStep) (e : Element) :
    stepped (steps ++ [step]) e = step.after (stepped steps e) :=
  List.foldl_append

theorem lastSaid_concat (name key : String) (before : Option String) (steps : List TableStep)
    (step : TableStep) : lastSaid name key before (steps ++ [step]) =
      (step.says? name key).getD (lastSaid name key before steps) := by
  rw [lastSaid, List.reverse_concat, List.findSome?_cons]
  cases step.says? name key <;> rfl

/-- Behind a run of steps every entry is what was last said of it. -/
theorem records_stepped (records : Records entries t e) (steps : List TableStep) :
    ∃ t', Records (fun name key => lastSaid name key (entries name key) steps) t' (stepped steps e) := by
  -- The run is taken apart at its end, since the last step that says something counts.
  induction steps using List.reverseRecOn with
  | nil => exact ⟨t, records⟩
  | append_singleton steps step ih =>
    obtain ⟨t', before⟩ := ih
    obtain ⟨t'', recorded⟩ := records_step before step
    refine ⟨t'', ?_⟩
    simp only [stepped_concat, lastSaid_concat]
    exact recorded

end Steps

/-- An option table is a map from names and keys to texts: whatever run of changes, removals, savings and
readings of its own string form it went through, an option has the text that it was last given if it was
not removed since, the text that the table was made with if nothing was said of it, and else none. A removal
then tells whether there was an option; saving leaves no name without options and no entry added, lost or
changed; and the own string form is read without a failure and changes nothing. -/
theorem entries_recorded {default : Options} (ordered : Ordered default)
    (start : e.kind = .optionTable (.make default)) (steps : List TableStep) :
    ∃ t, (stepped steps e).kind = .optionTable t ∧
      (∀ name key, t.get? name key =
        lastSaid name key ((OptionTable.make default).get? name key) steps) ∧
      (∀ name key, ((stepped steps e).perform (.edit (.removeOption name key))).2 =
        .flag (t.get? name key).isSome) ∧
      (∃ t', (stepped steps e).save.result.kind = .optionTable t' ∧ (∀ p ∈ t'.value, p.2 ≠ []) ∧
        (∀ name options, Keyed.get? name t'.value = some options ↔
          Keyed.get? name t.value = some options ∧ options ≠ []) ∧
        ∀ name key, t'.get? name key = t.get? name key) ∧
      (stepped steps e).assignText (stepped steps e).valueString = .ok (stepped steps e).changed := by
  have made : Records (fun name key => (OptionTable.make default).get? name key) (.make default) e :=
    ⟨start, OptionTable.sound_make ordered, fun _ _ => rfl⟩
  obtain ⟨t, shown, sound, same⟩ := records_stepped made steps
  refine ⟨t, shown, same, fun name key => (perform_removeOption shown name key).2, ?_,
    assignText_valueString_self shown sound⟩
  refine ⟨t.prune, kind_save shown, fun p => OptionTable.ne_nil_of_mem_prune, ?_,
    OptionTable.get?_prune sound.value⟩
  intro name options
  rw [OptionTable.get?_names_prune sound.value, Option.filter_eq_some_iff]
  simp

/-- A table with a folder that has an order and one that has nothing. -/
def folders : Options := [("films", [("order", "date")]), ("music", [])]

/-- Takes the order back after it was changed, sets one of another folder and removes what is not there. -/
def folderSteps : List TableStep :=
  [.change "films" "order" "name", .reread, .remove "films" "order", .save, .change "radio" "order" "a,b",
    .reread, .remove "radio" "sort", .save, .reread]

/-- The order of the first folder is gone, also for a second removal, and the other one is there. -/
theorem entries_recorded_folders :
    ∃ t, (stepped folderSteps (ofKind (.optionTable (.make folders)))).kind = .optionTable t ∧
      t.get? "films" "order" = none ∧ t.get? "radio" "order" = some "a,b" ∧
      ((stepped folderSteps (ofKind (.optionTable (.make folders)))).perform
        (.edit (.removeOption "films" "order"))).2 = .flag false ∧
      ((stepped folderSteps (ofKind (.optionTable (.make folders)))).perform
        (.edit (.removeOption "radio" "order"))).2 = .flag true ∧
      ∃ t', (stepped folderSteps (ofKind (.optionTable (.make folders)))).save.result.kind =
          .optionTable t' ∧ (∀ p ∈ t'.value, p.2 ≠ []) ∧ t'.get? "radio" "order" = some "a,b" := by
  have ordered : Ordered folders := ⟨by decide, by decide⟩
  obtain ⟨t, shown, entries, removed, ⟨t', saved, tidy, _, kept⟩, _⟩ :=
    entries_recorded ordered (e := ofKind (.optionTable (.make folders))) rfl folderSteps
  have films : t.get? "films" "order" = none := by
    rw [entries]
    decide
  have radio : t.get? "radio" "order" = some "a,b" := by
    rw [entries]
    decide
  refine ⟨t, shown, films, radio, ?_, ?_, t', saved, tidy, ?_⟩
  · rw [removed, films]
    rfl
  · rw [removed, radio]
    rfl
  · rw [kept, radio]

end Settings.Element
