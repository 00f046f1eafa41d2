import Mathlib.Data.List.Sort
import Mathlib.Algebra.Ring.Parity
import Settings.Proofs.Editor.MultiChoice

/-!
# Toggling

A set of texts is told by its members: it is kept in order, so two sets with the same members are the same
list and have the same string form. A text that is toggled goes in or out and leaves the others alone, so
of many toggles only their number counts, for each text.

* `contains_toggle`, `contains_toggleAll`: the members behind one toggle and behind many.
* `encode_eq_iff`: sets with one string form.
* `Turns`: all that may become of a set.
-/
namespace Settings

/-- Ascending texts are told by their members. -/
theorem Ascending.eq_of_mem_iff {xs ys : List String} (left : Ascending xs) (right : Ascending ys)
    (same : ∀ x, x ∈ xs ↔ x ∈ ys) : xs = ys :=
  List.Pairwise.eq_of_mem_iff left right same

namespace MultiChoice

variable {m m' : MultiChoice}

section Members

theorem contains_eq_true_iff {item : String} : m.contains item = true ↔ item ∈ m.value :=
  List.contains_iff_mem

theorem value_eq_of_contains (left : Ascending m.value) (right : Ascending m'.value)
    (same : ∀ item, m.contains item = m'.contains item) : m.value = m'.value := by
  apply left.eq_of_mem_iff right
  intro item
  rw [← contains_eq_true_iff, ← contains_eq_true_iff, same]

/-- A toggle takes a text in or out and leaves the others alone. -/
theorem contains_toggle (sound : m.Sound) (item other : String) :
    (m.toggle item).contains other = (m.contains other ^^ (item == other)) := by
  have distinct : m.value.Nodup := sound.value.imp String.ne_of_lt
  by_cases inside : m.contains item = true
  · have shorter : (m.toggle item).value = m.value.erase item := by
      simp [toggle, inside]
    rw [Bool.eq_iff_iff, contains_eq_true_iff, shorter, distinct.mem_erase_iff, ← contains_eq_true_iff]
    by_cases same : item = other
    · simp [← same, inside]
    · have apart : (item == other) = false := by simpa using same
      simp [apart, Ne.symm same]
  · have longer : (m.toggle item).value = sortTexts (m.value ++ [item]) := by
      simp [toggle, inside]
    rw [Bool.eq_iff_iff, contains_eq_true_iff, longer, sortTexts, List.mem_mergeSort, List.mem_append,
      List.mem_singleton, ← contains_eq_true_iff]
    by_cases same : item = other
    · simp [← same, inside]
    · have apart : (item == other) = false := by simpa using same
      simp [apart, Ne.symm same]

theorem encode_eq_of_value (same : m.value = m'.value) : m.encode = m'.encode := by
  rw [encode, encode, same]

/-- Sets have one string form exactly if they have the same members. -/
theorem encode_eq_iff (left : m.Sound) (right : m'.Sound) :
    m.encode = m'.encode ↔ ∀ item, m.contains item = m'.contains item := by
  constructor
  · intro same item
    obtain ⟨first, read, value⟩ : ∃ first, m.decode m.encode = .ok first ∧ first.value = m.value :=
      decode_encode left
    obtain ⟨second, read', value'⟩ : ∃ second, m.decode m'.encode = .ok second ∧
        second.value = m'.value := decode_encode right
    rw [same, read', Except.ok.injEq] at read
    rw [contains, contains, ← value, ← value', read]
  · intro same
    exact encode_eq_of_value (value_eq_of_contains left.value right.value same)

end Members

section Toggles

/-- Toggles texts one after the other. -/
def toggleAll (items : List String) (m : MultiChoice) : MultiChoice :=
  items.foldl (fun m item => m.toggle item) m

theorem toggleAll_cons (item : String) (items : List String) (m : MultiChoice) :
    m.toggleAll (item :: items) = (m.toggle item).toggleAll items := rfl

theorem sound_toggleAll (sound : m.Sound) (items : List String) : (m.toggleAll items).Sound := by
  induction items generalizing m with
  | nil => exact sound
  | cons item rest ih => exact ih (sound.follows (follows_toggle item m))

/-- A text is a member behind some toggles if it was one and the number of its toggles is even, or if it
was none and the number is odd. -/
theorem contains_toggleAll (sound : m.Sound) (items : List String) (item : String) :
    (m.toggleAll items).contains item = (m.contains item ^^ decide (Odd (items.count item))) := by
  induction items generalizing m with
  | nil => simp [toggleAll]
  | cons first rest ih =>
    rw [toggleAll_cons, ih (sound.follows (follows_toggle first m)), contains_toggle sound,
      Bool.xor_assoc, List.count_cons]
    -- What is left is whether one more toggle turns the parity round.
    congr 1
    by_cases same : first = item
    · by_cases odd : Odd (rest.count item) <;> simp [same, odd, Nat.odd_add_one]
    · simp [beq_eq_false_iff_ne.mpr same]

/-- Toggles change nothing but the set. -/
theorem toggleAll_eq (items : List String) (m : MultiChoice) :
    m.toggleAll items = { m with value := (m.toggleAll items).value } := by
  induction items generalizing m with
  | nil => rfl
  | cons item rest ih =>
    rw [toggleAll_cons, ih]
    rfl

/-- Only the parity of the toggles of each text counts. -/
theorem toggleAll_congr (sound : m.Sound) {items others : List String}
    (same : ∀ item, Odd (items.count item) ↔ Odd (others.count item)) :
    m.toggleAll items = m.toggleAll others := by
  have members (item : String) : (m.toggleAll items).contains item = (m.toggleAll others).contains item := by
    rw [contains_toggleAll sound, contains_toggleAll sound, decide_eq_decide.mpr (same item)]
  rw [toggleAll_eq items, toggleAll_eq others,
    value_eq_of_contains (sound_toggleAll sound items).value (sound_toggleAll sound others).value members]

end Toggles

section Turns

/-- The cursor is at a choice, if there is one. -/
def CursorFits (m : MultiChoice) : Prop := m.choices ≠ [] → m.cursor < m.choices.length

/-- All that may become of a set: the choices and the default stay, the set stays in order, and the cursor
at a choice. -/
structure Turns (m m' : MultiChoice) : Prop where
  follows : Follows m m'
  choices : m'.choices = m.choices
  cursor : m.CursorFits → m'.CursorFits

/-- The cursor stays. -/
theorem Follows.turns (follows : Follows m m') (choices : m'.choices = m.choices)
    (cursor : m'.cursor = m.cursor) : Turns m m' := by
  refine ⟨follows, choices, fun fits => ?_⟩
  rw [CursorFits, choices, cursor]
  exact fits

theorem Turns.refl (m : MultiChoice) : Turns m m := (Follows.refl m).turns rfl rfl

theorem turns_setItems (items : List String) (m : MultiChoice) : Turns m (m.setItems items) :=
  (follows_setItems items m).turns rfl rfl

theorem turns_toggle (item : String) (m : MultiChoice) : Turns m (m.toggle item) :=
  (follows_toggle item m).turns rfl rfl

theorem turns_reset (m : MultiChoice) : Turns m m.reset := (follows_reset m).turns rfl rfl

theorem turns_decode {text : String} (read : m.decode text = .ok m') : Turns m m' := by
  obtain ⟨items, _, rfl⟩ := decode_eq_ok_iff.mp read
  exact turns_setItems items m

theorem turns_assign {v : Value} (taken : m.assign v = .ok m') : Turns m m' := by
  obtain ⟨items, rfl⟩ := exists_setItems_of_assign taken
  exact turns_setItems items m

/-- The cursor goes to another choice. -/
theorem turns_cursor {i : Nat} (inside : m.cursor < m.choices.length → i < m.choices.length) :
    Turns m { m with cursor := i } :=
  ⟨⟨rfl, Sound.value⟩, rfl, fun fits some => inside (fits some)⟩

theorem turns_handle (a : Action) (m : MultiChoice) : Turns m (m.handle a).state := by
  have toggled : Turns m m.toggleMarked.state := by
    unfold toggleMarked
    split
    · exact turns_toggle _ m
    · exact .refl m
  unfold handle
  dsimp only
  split
  · exact .refl m
  · next some =>
    cases a with
    | toggle | select | delete | backspace | digit => exact toggled
    | left | right =>
      apply turns_cursor
      intro fits
      split <;> omega
    | first | last =>
      apply turns_cursor
      intro fits
      omega
    | _ => exact .refl m

theorem Sound.turns (sound : m.Sound) (turns : Turns m m') : m'.Sound := sound.follows turns.follows

end Turns

end MultiChoice

end Settings
