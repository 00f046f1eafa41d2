import Settings.Proofs.Element.Closed
import Settings.Proofs.Element.Kind

/-!
# Defaults are left out

Saving tidies a value up before it compares it with the default, but a default is never tidied up. Only
option tables have anything to tidy up, so everything else on its default persists nothing. A table
whose default has a name without options loses that name, differs from its default then, and is
persisted.

* `isDefault_prepareSave_iff`: what is on its default and still is when it was tidied up.
* `tidyDefault_run`: no operation replaces the default of a table.
* `saved_save_of_isDefault`: what an element on its default persists.
-/
namespace Settings

/-- No name is without options. -/
def OptionTable.Tidy (options : Options) : Prop := ∀ p ∈ options, p.2 ≠ []

instance (options : Options) : Decidable (OptionTable.Tidy options) :=
  inferInstanceAs (Decidable (∀ p ∈ options, p.2 ≠ []))

theorem OptionTable.prune_eq_self_iff {t : OptionTable} : t.prune = t ↔ Tidy t.value := by
  have kept : t.prune = t ↔ t.value.filter (fun p => !p.2.isEmpty) = t.value := by
    constructor
    · exact congrArg OptionTable.value
    · intro same
      rw [prune, same]
  rw [kept, List.filter_eq_self]
  simp [Tidy]

namespace Kind

/-- The default of an option table; only tables have a default that tidying up can change. -/
def tableDefault? : Kind → Option Options
  | .optionTable t => some t.default
  | _ => none

/-- Tidying up does not change the default. -/
def TidyDefault (k : Kind) : Prop := ∀ options ∈ k.tableDefault?, OptionTable.Tidy options

instance (k : Kind) : Decidable k.TidyDefault :=
  inferInstanceAs (Decidable (∀ options ∈ k.tableDefault?, OptionTable.Tidy options))

theorem tidyDefault_optionTable (t : OptionTable) :
    (Kind.optionTable t).TidyDefault ↔ OptionTable.Tidy t.default := by
  simp [TidyDefault, tableDefault?]

/-- What is on its default stays there when it is tidied up, unless the default is untidy itself. -/
theorem isDefault_prepareSave_iff {k : Kind} (isDefault : k.isDefault = true) :
    k.prepareSave.isDefault = true ↔ k.TidyDefault := by
  cases k with
  | optionTable t =>
    have same : t.value = t.default := eq_of_beq isDefault
    have compared : (Kind.optionTable t).prepareSave.isDefault = true ↔ t.prune = t := by
      rw [prepareSave, Kind.isDefault, OptionTable.isDefault, beq_iff_eq]
      constructor
      · intro pruned
        exact congrArg (fun value => ({ t with value := value } : OptionTable)) (pruned.trans same.symm)
      · intro pruned
        rw [pruned]
        exact same
    rw [compared, OptionTable.prune_eq_self_iff, same, tidyDefault_optionTable]
  | _ => exact iff_of_true isDefault (fun _ none => nomatch none)

theorem tableDefault?_of_setup {k k' : Kind} (same : k'.setup = k.setup) :
    k'.tableDefault? = k.tableDefault? := by
  cases sameSetup_of_setup same with
  | optionTable t s default => exact congrArg some default
  | _ => rfl

/-- Direct edits do not replace the default of a table, not even those that change a setup. -/
theorem tableDefault?_apply {change : ValueEdit} {k k' : Kind} {answer : Option Bool}
    (done : k.apply change = .ok (k', answer)) : k'.tableDefault? = k.tableDefault? := by
  cases applied_of_apply done with
  | removeOption name key t => exact congrArg some (t.follows_remove name key).default
  | _ => rfl

theorem tableDefault?_assign {v : Value} {k k' : Kind} (taken : k.assign v = .ok k') :
    k'.tableDefault? = k.tableDefault? := by
  cases k with
  | optionTable t =>
    obtain ⟨t', inner, rfl⟩ := eq_ok_of_map_eq_ok taken
    exact congrArg some (OptionTable.default_assign inner)
  | selection s =>
    cases taken
    rfl
  | _ =>
    obtain ⟨_, _, rfl⟩ := eq_ok_of_map_eq_ok taken
    rfl

/-- Nothing that is done to a kind replaces the default of a table. -/
theorem closed_tableDefault (default : Option Options) :
    Closed (fun _ => True) (fun _ => True) fun k => k.tableDefault? = default where
  handle same mode a := (tableDefault?_of_setup (evolves_handle mode a _).setup).trans same
  edit same _ done := (tableDefault?_apply done).trans same
  decode same read := (tableDefault?_of_setup (evolves_decode read).setup).trans same
  assign same _ taken := (tableDefault?_assign taken).trans same
  reset same := (tableDefault?_of_setup (evolves_reset _).setup).trans same
  select same := (tableDefault?_of_setup (evolves_select _).setup).trans same
  deselect same := (tableDefault?_of_setup (evolves_deselect _).setup).trans same
  prepareSave same := (tableDefault?_of_setup (evolves_prepareSave _).setup).trans same
  increment same := (tableDefault?_of_setup (evolves_increment _).setup).trans same
  decrement same := (tableDefault?_of_setup (evolves_decrement _).setup).trans same

end Kind

namespace Element

variable {e : Element}

/-- No operation makes a default tidy or untidy. -/
theorem tidyDefault_run (kind : Kind) (ops : List Operation) :
    (run ops (ofKind kind)).result.kind.TidyDefault ↔ kind.TidyDefault := by
  have closed := Kind.closed_tableDefault kind.tableDefault?
  have same : (run ops (ofKind kind)).result.kind.tableDefault? = kind.tableDefault? :=
    closed.run (fun op _ => op.within_true) rfl
  rw [Kind.TidyDefault, Kind.TidyDefault, same]

/-- An element on its default persists nothing, unless its default is untidy. -/
theorem saved_save_of_isDefault (isDefault : e.isDefault = true) (unforced : e.savesDefault = false) :
    e.save.result.saved =
      if e.neverSaved = true ∨ e.kind.TidyDefault then none else some e.save.result.valueString := by
  have prepared : e.save.result.isDefault = decide e.kind.TidyDefault := by
    rw [Bool.eq_iff_iff, decide_eq_true_iff]
    exact Kind.isDefault_prepareSave_iff isDefault
  have form : e.save.result.saved =
      if e.neverSaved || (e.save.result.isDefault && !e.savesDefault) then none
      else some e.save.result.valueString := rfl
  rw [form, prepared, unforced]
  simp

end Element

end Settings
