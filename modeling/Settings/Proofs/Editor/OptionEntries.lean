import Settings.Proofs.Editor.OptionTable

/-!
# Entries of option tables

A table is read by a name and a key. Every edit is determined by what it does to the entries: setting an
option puts one in, removing it takes one out and tells whether it was there, and dropping the names
without options changes no entry at all.

* `get?_set`, `get?_remove`, `get?_prune`: the entries behind each edit.
* `get?_names_prune`: the names that are left.
* `decode_encode_self`: a table reads its own string form.
-/
namespace Settings.OptionTable

variable {t : OptionTable} {name other key key' value : String}

/-- A name without a map has no options. -/
theorem get?_eq_getD (name key : String) (t : OptionTable) :
    t.get? name key = Keyed.get? key ((Keyed.get? name t.value).getD []) := by
  rw [get?]
  cases Keyed.get? name t.value <;> rfl

theorem get?_set (name key value : String) (t : OptionTable) :
    (t.set name key value).get? other key' =
      if other = name ∧ key' = key then some value else t.get? other key' := by
  rw [get?, set, Keyed.get?_insert]
  by_cases here : other = name
  · rw [if_pos here, Option.bind_some, Keyed.get?_insert, get?_eq_getD, here]
    simp
  · rw [if_neg here, if_neg fun both => here both.1, get?]

/-- The answer tells whether there was an option. -/
theorem remove_snd (name key : String) (t : OptionTable) :
    (t.remove name key).2 = (t.get? name key).isSome := by
  rw [remove, get?]
  cases Keyed.get? name t.value <;> rfl

theorem get?_remove (ordered : Ordered t.value) (name key : String) :
    (t.remove name key).1.get? other key' =
      if other = name ∧ key' = key then none else t.get? other key' := by
  rw [remove]
  cases found : Keyed.get? name t.value with
  | none =>
    by_cases both : other = name ∧ key' = key
    · rw [if_pos both, both.1, get?, found]
      rfl
    · rw [if_neg both]
  | some options =>
    rw [get?, Keyed.get?_insert]
    by_cases here : other = name
    · rw [if_pos here, Option.bind_some, Keyed.get?_erase (ordered.get? found).distinct, get?, here, found]
      simp
    · rw [if_neg here, if_neg fun both => here both.1, get?]

/-- The names that have options are left, with the same options. -/
theorem get?_names_prune (ordered : Ordered t.value) (name : String) :
    Keyed.get? name t.prune.value = (Keyed.get? name t.value).filter fun options => !options.isEmpty :=
  Keyed.get?_filter ordered.names.distinct (fun options => !options.isEmpty) name

theorem get?_prune (ordered : Ordered t.value) (name key : String) :
    t.prune.get? name key = t.get? name key := by
  rw [get?, get?, get?_names_prune ordered]
  cases Keyed.get? name t.value with
  | none => rfl
  | some options => cases options <;> rfl

theorem ne_nil_of_mem_prune {p : String × List (String × String)} (member : p ∈ t.prune.value) :
    p.2 ≠ [] := by
  have kept := (List.mem_filter.mp member).2
  simpa using kept

/-- Reading the own string form changes nothing. -/
theorem decode_encode_self (sound : t.Sound) : t.decode t.encode = .ok t := by
  obtain ⟨t', read, value⟩ : ∃ t', t.decode t.encode = .ok t' ∧ t'.value = t.value := decode_encode sound
  have default : t'.default = t.default := (follows_decode read).default
  cases t
  cases t'
  cases value
  cases default
  exact read

end Settings.OptionTable
