import Settings.Proofs.Editor.TextCursor

/-!
# Typing into texts

With the plain helper a digit key types its digit, nothing is ever open, and so the cursor is nowhere
but where the keys have put it. What is typed then stands between what was before the cursor and what
was behind it, and as many deletions backwards take it out again. Bringing the window back to the cursor
touches neither text nor cursor.

* `handleAll`: a run of actions.
* `input_handle`: the plain helper stays.
* `Between.handle_typing`, `Between.handle_backspace`: one key.
* `Between.handleAll_typing`, `Between.handleAll_backspace`: all keys.
-/
namespace Settings

namespace Action

/-- The character that an action types into a text. -/
def typed? : Action → Option Char
  | .digit key => some (keyDigit key)
  | .character c => some c
  | _ => none

/-- The actions type the characters of a text, by numeric keys or as they are. -/
def Types (actions : List Action) (chars : List Char) : Prop := actions.map typed? = chars.map some

instance (actions : List Action) (chars : List Char) : Decidable (Types actions chars) :=
  inferInstanceAs (Decidable (actions.map typed? = chars.map some))

end Action

namespace TextField

variable {t : TextField}

section Runs

/-- Actions one after the other. -/
def handleAll (actions : List Action) (t : TextField) : TextField :=
  actions.foldl (fun t a => (t.handle a).state) t

theorem handleAll_cons (a : Action) (rest : List Action) (t : TextField) :
    t.handleAll (a :: rest) = (t.handle a).state.handleAll rest := rfl

theorem handleAll_append (actions others : List Action) (t : TextField) :
    t.handleAll (actions ++ others) = (t.handleAll actions).handleAll others :=
  List.foldl_append

end Runs

theorem clearMarked_of_unmarked (unmarked : t.allMarked = false) : t.clearMarked = t := by
  rw [clearMarked, unmarked]
  rfl

/-- In a text whose size is not fixed nothing takes the place of what is deleted. -/
theorem deleteChar_of_lt (free : t.fixedSize = false) {pos : Nat} (inside : pos < t.chars.length) :
    t.deleteChar pos = { t with chars := t.chars.eraseIdx pos } := by
  cases t
  cases free
  exact if_neg (Nat.not_le.mpr inside)

section Helper

@[simp] theorem input_settle (t : TextField) : t.settle.input = t.input := by
  unfold settle
  split <;> rfl

@[simp] theorem input_deleteChar (pos : Nat) (t : TextField) :
    (t.deleteChar pos).input = t.input := by
  unfold deleteChar
  split <;> rfl

@[simp] theorem input_clearMarked (t : TextField) : t.clearMarked.input = t.input := by
  unfold clearMarked
  split <;> rfl

@[simp] theorem input_typeChar (c : Char) (t : TextField) : (t.typeChar c).input = t.input :=
  input_clearMarked t

@[simp] theorem input_backspace (t : TextField) : t.backspace.input = t.input := by
  unfold backspace
  split
  · exact input_clearMarked t
  · split
    · rfl
    · exact input_deleteChar _ t

@[simp] theorem input_delete (t : TextField) : t.delete.input = t.input := by
  unfold delete
  split
  · exact input_clearMarked t
  · dsimp only
    split <;> exact input_deleteChar _ t

/-- Nothing is open with the plain helper. -/
theorem commit_of_digits (plain : t.input = .digits) : t.commit = t := by
  cases t
  cases plain
  rfl

/-- With the plain helper a digit key is a character like any other. -/
theorem typeKey_of_digits (plain : t.input = .digits) (key : Nat) :
    t.typeKey key = t.typeChar (keyDigit key) := by
  cases t
  cases plain
  rfl

theorem input_act? (plain : t.input = .digits) {a : Action} {acted : TextField}
    (done : t.act? a = some acted) : acted.input = .digits := by
  have settled := commit_of_digits plain
  cases a with
  | left =>
    rw [act?, settled] at done
    cases done
    split <;> exact plain
  | right =>
    rw [act?, settled] at done
    cases done
    split <;> exact plain
  | digit key =>
    rw [act?, typeKey_of_digits plain] at done
    cases done
    rw [input_typeChar, plain]
  | select => cases done
  | _ =>
    rw [act?, settled] at done
    cases done
    simp [plain, deleteAll]

/-- Edit actions keep the plain helper. -/
theorem input_handle (plain : t.input = .digits) (a : Action) :
    (t.handle a).state.input = .digits := by
  unfold handle
  split
  · next c _ => exact (input_typeChar c t).trans plain
  · exact plain
  · split
    · next acted done => exact (input_settle acted).trans (input_act? plain done)
    · exact plain

theorem input_setText (text : String) (t : TextField) : (t.setText text).input = t.input := by
  rw [setText, input_settle]

theorem input_select (t : TextField) : t.select.input = t.input := rfl

theorem input_deselect (plain : t.input = .digits) : t.deselect.input = .digits :=
  (congrArg TextField.input (commit_of_digits plain)).trans plain

end Helper

section Between

variable {before after w : List Char} {c : Char} {a : Action} {actions : List Action}

/-- A text that is typed into, with the cursor between two parts of it. -/
structure Between (before after : List Char) (t : TextField) : Prop where
  isText : t.isNumber = false
  free : t.fixedSize = false
  plain : t.input = .digits
  inserts : t.overwrite = false
  unmarked : t.allMarked = false
  chars : t.chars = before ++ after
  cursor : t.cursor = before.length

namespace Between

/-- The window may move, the text and its cursor do not. -/
theorem settle (between : t.Between before after) : t.settle.Between before after := by
  have cursor : t.settleCursor.cursor = before.length := by
    simp only [settleCursor, between.free, between.chars, between.cursor, List.length_append]
    exact Nat.min_eq_left (Nat.le_add_right _ _)
  rw [settle_of_text between.isText]
  exact ⟨between.isText, between.free, between.plain, between.inserts, between.unmarked,
    between.chars, cursor⟩

/-- A character comes in at the cursor, which passes it. -/
theorem typeChar (between : t.Between before after) (c : Char) :
    (t.typeChar c).Between (before ++ [c]) after := by
  have inside : min t.cursor (before ++ after).length = before.length := by
    rw [between.cursor, List.length_append]
    exact Nat.min_eq_left (Nat.le_add_right _ _)
  have chars : (t.insertChar c false).chars = before ++ [c] ++ after := by
    simp only [insertChar, between.inserts, between.free, inside, between.chars, List.take_left,
      List.drop_left, Bool.or_false, Bool.false_and, Bool.false_eq_true, if_false]
    exact (List.append_assoc before [c] after).symm
  have cursor : t.cursor + 1 = (before ++ [c]).length := by
    rw [between.cursor, List.length_append, List.length_singleton]
  rw [TextField.typeChar, clearMarked_of_unmarked between.unmarked]
  exact ⟨between.isText, between.free, between.plain, between.inserts, between.unmarked, chars,
    cursor⟩

/-- The last character before the cursor goes. -/
theorem backspace (between : t.Between (before ++ [c]) after) :
    t.backspace.Between before after := by
  have size : (before ++ [c]).length = before.length + 1 := List.length_append
  have cursor : t.cursor - 1 = before.length := by
    rw [between.cursor, size, Nat.add_sub_cancel]
  have inside : before.length < t.chars.length := by
    rw [between.chars, List.length_append, size]
    omega
  have chars : t.chars.eraseIdx before.length = before ++ after := by
    rw [between.chars, List.append_assoc, List.eraseIdx_append_of_length_le (Nat.le_refl _),
      Nat.sub_self]
    rfl
  have proper : t.cursor ≠ 0 := by
    rw [between.cursor, size]
    exact Nat.succ_ne_zero _
  rw [TextField.backspace, between.unmarked, if_neg Bool.false_ne_true, if_neg proper, cursor,
    deleteChar_of_lt between.free inside]
  exact ⟨between.isText, between.free, between.plain, between.inserts, between.unmarked, chars,
    rfl⟩

theorem handle_typing (between : t.Between before after) (types : a.typed? = some c) :
    (t.handle a).state.Between (before ++ [c]) after := by
  have typed : t.act? a = some (t.typeChar c) := by
    cases a with
    | digit key =>
      cases types
      rw [act?, typeKey_of_digits between.plain]
    | character c' =>
      cases types
      rw [act?, commit_of_digits between.plain]
    | _ => cases types
  rw [handle_of_text between.isText, typed]
  exact (between.typeChar c).settle

theorem handle_backspace (between : t.Between (before ++ [c]) after) :
    (t.handle .backspace).state.Between before after := by
  rw [handle_of_text between.isText, act?, commit_of_digits between.plain]
  exact between.backspace.settle

/-- What is typed stands between the two parts, and the cursor behind it. -/
theorem handleAll_typing (between : t.Between before after) (types : Action.Types actions w) :
    (t.handleAll actions).Between (before ++ w) after := by
  induction actions generalizing t before w with
  | nil =>
    have none : w = [] := by simpa [Action.Types] using types
    rw [none, List.append_nil]
    exact between
  | cons a rest ih =>
    cases w with
    | nil => cases types
    | cons c others =>
      obtain ⟨first, types⟩ := List.cons.inj types
      have typed := ih (between.handle_typing first) types
      rwa [List.append_assoc] at typed

/-- Deletions backwards take out as many characters. -/
theorem handleAll_backspace (between : t.Between (before ++ w) after) :
    (t.handleAll (List.replicate w.length .backspace)).Between before after := by
  induction w generalizing before with
  | nil => rwa [List.append_nil] at between
  | cons c rest ih =>
    -- The first of the characters is the last that goes.
    have others : t.Between (before ++ [c] ++ rest) after := by
      rwa [List.append_assoc]
    rw [List.length_cons, List.replicate_succ', handleAll_append]
    exact (ih others).handle_backspace

end Between

/-- A text that is typed into has its cursor between the parts before and behind it. -/
theorem InView.between (inView : t.InView) (isText : t.isNumber = false) (free : t.fixedSize = false)
    (plain : t.input = .digits) (inserts : t.overwrite = false) (unmarked : t.allMarked = false) :
    t.Between (t.chars.take t.cursor) (t.chars.drop t.cursor) :=
  ⟨isText, free, plain, inserts, unmarked, (List.take_append_drop _ _).symm,
    (List.length_take_of_le inView.inside).symm⟩

end Between

end TextField

end Settings
