import Settings.Proofs.Editor.TextField

/-!
# Cursor, window and length of texts

An edit may leave the cursor anywhere; it is brought back into the text afterwards, and the window that
scrolls over the text is brought back to the cursor. What is typed into a text of fixed size takes the
place of something, or pushes the last character out, as long as the cursor stands on a character. It
does not when a character that was still open is passed on the way: over the end of the text a character
is typed without taking a place.

* `scroll_shows`: what scrolling achieves, wherever the window was.
* `scroll?_eq_some`, `backspace?_eq_some`: no difference of positions goes below zero.
* `InView.handle`: edit actions leave the cursor in the text and in the window.
* `Rigid.length_handle`: the length of a text of fixed size after an edit action.
-/
namespace Settings.TextField

variable {t t' : TextField}

section Scrolling

/-- A window of `width` columns from `offset` on shows the cursor, which stands right of its columns only
behind the text. It starts at the first column or is full of text. -/
structure Shows (width length cursor offset : Nat) : Prop where
  start : offset ≤ cursor
  stop : cursor ≤ offset + width
  behind : cursor = offset + width → cursor = length
  full : offset = 0 ∨ offset + width ≤ length

/-- Wherever the window was, it shows a cursor in the text after scrolling. -/
theorem scroll_shows {width length cursor : Nat} (wide : 0 < width) (inside : cursor ≤ length)
    (offset : Nat) : Shows width length cursor (scroll width length cursor offset) := by
  -- First the window follows the cursor, then it goes back as far as it is not full of text.
  have followed : ∃ near, scroll width length cursor offset =
      (if 0 < near ∧ length < near + width then length - width else near) ∧
      near ≤ cursor ∧ cursor ≤ near + width ∧ (cursor = near + width → cursor = length) := by
    unfold scroll
    dsimp only
    refine ⟨_, rfl, ?_⟩
    by_cases beyond : min cursor offset + width ≤ cursor
    · rw [if_pos beyond]
      split
      · omega
      · omega
    · rw [if_neg beyond]
      omega
  obtain ⟨near, scrolled, start, stop, behind⟩ := followed
  rw [scrolled]
  by_cases short : 0 < near ∧ length < near + width
  · rw [if_pos short]
    exact ⟨by omega, by omega, by omega, by omega⟩
  · rw [if_neg short]
    exact ⟨start, stop, behind, by omega⟩

theorem shows_start {width : Nat} (wide : 0 < width) (length : Nat) : Shows width length 0 0 :=
  ⟨Nat.le_refl 0, Nat.zero_le _, fun beyond => by omega, .inl rfl⟩

/-- A difference of positions, refused below zero. -/
def minus? (a b : Nat) : Option Nat := if b ≤ a then some (a - b) else none

theorem minus?_eq_some {a b : Nat} (below : b ≤ a) : minus? a b = some (a - b) := if_pos below

/-- Scrolling with checked differences. Only the last one may stop at zero: the window starts at the
first column if all of the text fits in. -/
def scroll? (width length cursor offset : Nat) : Option Nat := do
  let offset := min cursor offset
  let offset ←
    if offset + width ≤ cursor then
      if cursor = length then minus? cursor width else minus? (cursor + 1) width
    else some offset
  return if 0 < offset ∧ length < offset + width then length - width else offset

theorem scroll?_eq_some (width length cursor offset : Nat) :
    scroll? width length cursor offset = some (scroll width length cursor offset) := by
  unfold scroll? scroll
  dsimp only
  by_cases beyond : min cursor offset + width ≤ cursor
  · rw [if_pos beyond, if_pos beyond]
    by_cases last : cursor = length
    · rw [if_pos last, if_pos last, minus?_eq_some (by omega)]
      rfl
    · rw [if_neg last, if_neg last, minus?_eq_some (by omega)]
      rfl
  · rw [if_neg beyond, if_neg beyond]
    rfl

/-- The first column of the window after a deletion backwards. A window at the first column and that of
a text of fixed size stay. -/
def drawnBack? (t : TextField) : Option Nat :=
  if !t.fixedSize && 0 < t.offset then minus? t.offset 1 else some t.offset

theorem drawnBack?_eq_some (t : TextField) :
    t.drawnBack? = some (if t.fixedSize then t.offset else t.offset - 1) := by
  unfold drawnBack?
  cases t.fixedSize with
  | true => rfl
  | false =>
    by_cases first : t.offset = 0
    · simp [first]
    · have below : 1 ≤ t.offset := by omega
      simp [minus?_eq_some below, Nat.pos_of_ne_zero first]

/-- Deletion backwards with checked differences. -/
def backspace? (t : TextField) : Option TextField :=
  if t.allMarked then some t.clearMarked
  else if t.cursor = 0 then some t
  else do
    let before ← minus? t.cursor 1
    let offset ← t.drawnBack?
    return { t.deleteChar before with offset := offset, cursor := before }

theorem backspace?_eq_some (t : TextField) : t.backspace? = some t.backspace := by
  unfold backspace? backspace
  split
  · rfl
  · split
    · rfl
    · next inside =>
      rw [minus?_eq_some (by omega), drawnBack?_eq_some]
      rfl

end Scrolling

/-- What edit actions do to a text that is no number. -/
theorem handle_of_text (isText : t.isNumber = false) (a : Action) :
    (t.handle a).state = match t.act? a with
      | some acted => acted.settle
      | none => t := by
  rw [handle, isText]
  cases t.act? a <;> rfl

theorem settle_of_text (isText : t.isNumber = false) : t.settle = t.settleCursor := by
  rw [settle, isText]
  rfl

section View

/-- The cursor stands in the text or behind it, in a text of fixed size on a character, and the window
shows it. -/
structure InView (t : TextField) : Prop where
  inside : t.cursor ≤ t.chars.length
  onCharacter : t.fixedSize = true → t.chars ≠ [] → t.cursor < t.chars.length
  wide : ∀ width ∈ t.visibleWidth, 0 < width
  window : ∀ width ∈ t.visibleWidth, Shows width t.chars.length t.cursor t.offset

/-- Wherever cursor and window were, they are in place once the cursor is settled. -/
theorem inView_settle (isText : t.isNumber = false) (wide : ∀ width ∈ t.visibleWidth, 0 < width) :
    t.settle.InView := by
  rw [settle_of_text isText]
  have inside : t.settleCursor.cursor ≤ t.chars.length := by
    simp only [settleCursor]
    split <;> omega
  refine ⟨inside, ?_, wide, ?_⟩
  · intro fixed proper
    have filled : 0 < t.chars.length := List.length_pos_iff.mpr proper
    have kept : t.fixedSize = true := fixed
    simp only [settleCursor, kept, if_true]
    omega
  · intro width shown
    have scrolled : t.settleCursor.offset =
        scroll width t.chars.length t.settleCursor.cursor t.offset := by
      have kept : t.visibleWidth = some width := shown
      simp only [settleCursor, kept]
    rw [scrolled]
    exact scroll_shows (wide width shown) inside t.offset

theorem wide_of_frame (same : t'.frame = t.frame) (wide : ∀ width ∈ t.visibleWidth, 0 < width) :
    ∀ width ∈ t'.visibleWidth, 0 < width := by
  rw [visibleWidth_of_frame same]
  exact wide

namespace InView

/-- Edit actions leave the cursor in the text and in the window. -/
theorem handle (inView : t.InView) (isText : t.isNumber = false) (a : Action) :
    (t.handle a).state.InView := by
  rw [handle_of_text isText]
  cases done : t.act? a with
  | none => exact inView
  | some acted =>
    have same := frame_act? t done
    have isText' := (isNumber_of_frame same).trans isText
    exact inView_settle isText' (wide_of_frame same inView.wide)

theorem setText (inView : t.InView) (isText : t.isNumber = false) (text : String) :
    (t.setText text).InView :=
  inView_settle isText inView.wide

theorem select (inView : t.InView) : t.select.InView :=
  ⟨inView.inside, inView.onCharacter, inView.wide, inView.window⟩

/-- A text that loses focus is shown from its start. -/
theorem deselect (inView : t.InView) : t.deselect.InView := by
  refine ⟨Nat.zero_le _, fun _ proper => List.length_pos_iff.mpr proper, inView.wide, ?_⟩
  intro width shown
  exact shows_start (inView.wide width shown) t.chars.length

end InView

end View

section FixedSize

/-- A text of fixed size whose cursor stands on a character. -/
structure Rigid (t : TextField) : Prop where
  isText : t.isNumber = false
  fixed : t.fixedSize = true
  onCharacter : t.cursor < t.chars.length

/-- The character that was still open is the last one, so that a character that is typed over it comes
behind the end. -/
def overruns (a : Action) (t : TextField) : Bool :=
  match a with
  | .character _ =>
    t.overwrite && !t.allMarked && t.input.settle.1 && t.cursor + 1 == t.chars.length
  | _ => false

theorem rigid_settle (isText : t.isNumber = false) (fixed : t.fixedSize = true)
    (proper : 0 < t.chars.length) : t.settle.Rigid := by
  rw [settle_of_text isText]
  refine ⟨isText, fixed, ?_⟩
  simp only [settleCursor, fixed, if_true]
  omega

theorem chars_settle (isText : t.isNumber = false) : t.settle.chars = t.chars := by
  rw [settle_of_text isText]
  rfl

theorem length_deleteChar (fixed : t.fixedSize = true) (pos : Nat) :
    (t.deleteChar pos).chars.length = t.chars.length := by
  unfold deleteChar
  split
  · rfl
  · next inside =>
    have erased : (t.chars.eraseIdx pos).length = t.chars.length - 1 :=
      List.length_eraseIdx_of_lt (by omega)
    cases overwrite : t.overwrite with
    | true => simp [fixed]
    | false =>
      simp [fixed, erased]
      omega

theorem length_deleteAll (fixed : t.fixedSize = true) :
    t.deleteAll.chars.length = t.chars.length := by
  simp [deleteAll, fixed]

theorem length_clearMarked (fixed : t.fixedSize = true) :
    t.clearMarked.chars.length = t.chars.length := by
  unfold clearMarked
  split
  · exact length_deleteAll fixed
  · rfl

theorem length_backspace (fixed : t.fixedSize = true) :
    t.backspace.chars.length = t.chars.length := by
  unfold backspace
  split
  · exact length_clearMarked fixed
  · split
    · rfl
    · exact length_deleteChar fixed _

theorem length_delete (fixed : t.fixedSize = true) :
    t.delete.chars.length = t.chars.length := by
  unfold delete
  split
  · exact length_clearMarked fixed
  · dsimp only
    split
    · exact length_deleteChar fixed _
    · exact length_deleteChar fixed _

/-- Typing over a character or pushing the last one out keeps the length, but behind the end there is
nothing to type over. -/
theorem length_insertChar (fixed : t.fixedSize = true) (proper : 0 < t.chars.length) (c : Char)
    (replace : Bool) :
    (t.insertChar c replace).chars.length =
      t.chars.length + ((replace || t.overwrite) && decide (t.chars.length ≤ t.cursor)).toNat := by
  have filled : t.chars.isEmpty = false := by simpa [List.length_pos_iff] using proper
  unfold insertChar
  cases replacing : replace || t.overwrite with
  | true =>
    simp only [if_true, List.length_append, List.length_take, List.length_cons, List.length_drop,
      Bool.true_and]
    by_cases behind : t.chars.length ≤ t.cursor
    · simp only [behind, decide_true, Bool.toNat_true]
      omega
    · simp only [behind, decide_false, Bool.toNat_false]
      omega
  | false =>
    simp only [fixed, filled, Bool.false_eq_true, if_false, Bool.not_false, Bool.and_self, if_true,
      List.length_dropLast, List.length_append, List.length_take, List.length_cons,
      List.length_drop, Bool.false_and, Bool.toNat_false]
    omega

/-- While the cursor stands on a character, typing keeps the length. -/
theorem length_insertChar_of_lt (fixed : t.fixedSize = true) (inside : t.cursor < t.chars.length)
    (c : Char) (replace : Bool) : (t.insertChar c replace).chars.length = t.chars.length := by
  rw [length_insertChar fixed (Nat.zero_lt_of_lt inside)]
  simp [Nat.not_le.mpr inside]

@[simp] theorem overwrite_clearMarked : t.clearMarked.overwrite = t.overwrite := by
  unfold clearMarked
  split <;> rfl

/-- What is typed over a marked text starts at the first character. -/
theorem cursor_clearMarked : t.clearMarked.cursor = if t.allMarked then 0 else t.cursor := by
  unfold clearMarked
  split <;> rfl

theorem Rigid.clearMarked (rigid : t.Rigid) : t.clearMarked.Rigid := by
  have same := frame_clearMarked t
  refine ⟨?_, ?_, ?_⟩
  · exact (isNumber_of_frame same).trans rigid.isText
  · exact (fixedSize_of_frame same).trans rigid.fixed
  · have inside := rigid.onCharacter
    rw [length_clearMarked rigid.fixed, cursor_clearMarked]
    split <;> omega

/-- Behind the end of a text that is not marked, an overwriting cursor finds no character to take the
place of. -/
theorem length_typeChar (fixed : t.fixedSize = true) (proper : 0 < t.chars.length) (c : Char) :
    (t.typeChar c).chars.length = t.chars.length +
      (t.overwrite && !t.allMarked && decide (t.chars.length ≤ t.cursor)).toNat := by
  have cleared := length_clearMarked fixed
  have fixed' : t.clearMarked.fixedSize = true :=
    (fixedSize_of_frame (frame_clearMarked t)).trans fixed
  have typed : (t.typeChar c).chars.length = _ :=
    length_insertChar fixed' (cleared.symm ▸ proper) c false
  rw [typed, cleared, cursor_clearMarked, overwrite_clearMarked, Bool.false_or]
  cases t.allMarked with
  | true => simp [Nat.not_le.mpr proper]
  | false => simp

/-- While the cursor stands on a character, it does not matter whether what is typed there replaces it or
whether the text is marked. -/
theorem Rigid.length_insertChar (rigid : t.Rigid) (c : Char) (replace : Bool) :
    (t.clearMarked.insertChar c replace).chars.length = t.chars.length := by
  have cleared := rigid.clearMarked
  rw [length_insertChar_of_lt cleared.fixed cleared.onCharacter, length_clearMarked rigid.fixed]

/-- A digit key passes a character with a check against the end, so it keeps the length. -/
theorem length_typeKey (rigid : t.Rigid) (key : Nat) :
    (t.typeKey key).chars.length = t.chars.length := by
  let fed : TextField := { t with input := (t.input.tap key).2 }
  have passed : ∀ before : Bool, (if before then fed.advance.settle else fed).Rigid ∧
      (if before then fed.advance.settle else fed).chars = t.chars := by
    intro before
    cases before with
    | true =>
      have proper := Nat.zero_lt_of_lt rigid.onCharacter
      exact ⟨rigid_settle rigid.isText rigid.fixed proper, chars_settle rigid.isText⟩
    | false => exact ⟨⟨rigid.isText, rigid.fixed, rigid.onCharacter⟩, rfl⟩
  have typed (tap : Tap) := (passed tap.advanceBefore).1.length_insertChar tap.char tap.replace
  have length := typed (t.input.tap key).1
  rw [(passed _).2] at length
  unfold typeKey
  dsimp only
  split
  · exact length
  · exact length

/-- The cursor gets behind the end only if it passes the last character. -/
theorem Rigid.behind_commit (rigid : t.Rigid) : decide (t.chars.length ≤ t.commit.cursor) =
    (t.input.settle.1 && t.cursor + 1 == t.chars.length) := by
  have inside := rigid.onCharacter
  have cursor : t.commit.cursor = if t.input.settle.1 then t.cursor + 1 else t.cursor := rfl
  rw [cursor]
  cases t.input.settle.1 with
  | true =>
    rw [if_pos rfl, Bool.true_and, Bool.eq_iff_iff, decide_eq_true_iff, beq_iff_eq]
    omega
  | false =>
    rw [if_neg Bool.false_ne_true, Bool.false_and, decide_eq_false_iff_not]
    omega

/-- The length after an edit action: it grows if a typed character overruns the end, and only then. -/
theorem length_act? (rigid : t.Rigid) {a : Action} {acted : TextField} (done : t.act? a = some acted) :
    acted.chars.length = t.chars.length + (t.overruns a).toNat := by
  have fixed : t.commit.fixedSize = true := rigid.fixed
  cases a with
  | left =>
    cases done
    split <;> rfl
  | right =>
    cases done
    split <;> rfl
  | backspace =>
    cases done
    exact length_backspace fixed
  | delete =>
    cases done
    exact length_delete fixed
  | erase =>
    cases done
    exact length_deleteAll fixed
  | character c =>
    cases done
    have proper := Nat.zero_lt_of_lt rigid.onCharacter
    have typed := length_typeChar fixed proper c
    have length : (t.commit.typeChar c).chars.length = t.chars.length +
        (t.overwrite && !t.allMarked && decide (t.chars.length ≤ t.commit.cursor)).toNat := typed
    rw [length, rigid.behind_commit, overruns, Bool.and_assoc _ t.input.settle.1]
  | digit key =>
    cases done
    exact length_typeKey rigid key
  | select => cases done
  | _ =>
    cases done
    rfl

/-- An edit action leaves the cursor of a text of fixed size on a character. -/
theorem Rigid.handle (rigid : t.Rigid) (a : Action) : (t.handle a).state.Rigid := by
  rw [handle_of_text rigid.isText]
  cases done : t.act? a with
  | none => exact rigid
  | some acted =>
    have same := frame_act? t done
    have isText := (isNumber_of_frame same).trans rigid.isText
    have fixed := (fixedSize_of_frame same).trans rigid.fixed
    have inside := rigid.onCharacter
    have length := length_act? rigid done
    exact rigid_settle isText fixed (by omega)

/-- The length of a text of fixed size after an edit action. -/
theorem Rigid.length_handle (rigid : t.Rigid) (a : Action) :
    (t.handle a).state.chars.length = t.chars.length + (t.overruns a).toNat := by
  rw [handle_of_text rigid.isText]
  cases done : t.act? a with
  | none =>
    cases a <;> cases done
    rfl
  | some acted =>
    have same := frame_act? t done
    have isText := (isNumber_of_frame same).trans rigid.isText
    have kept : acted.settle.chars = acted.chars := chars_settle isText
    exact (congrArg List.length kept).trans (length_act? rigid done)

end FixedSize

section Made

/-- A text as hosts make it: its default, with the cursor and the window on the first column. -/
structure Fresh (t : TextField) : Prop where
  chars : t.chars = t.default.toList
  cursor : t.cursor = 0
  offset : t.offset = 0
  wide : ∀ width ∈ t.visibleWidth, 0 < width

theorem Made.fresh (made : t.Made) : t.Fresh := by
  have bare (text : String) : (TextField.make text).Fresh :=
    ⟨rfl, rfl, rfl, fun _ shown => nomatch shown⟩
  induction made with
  | make default => exact bare default
  | password default =>
    have plain := bare default
    exact ⟨plain.chars, plain.cursor, plain.offset, plain.wide⟩
  | number default inRange =>
    have plain := bare (Numeral.text default)
    exact ⟨plain.chars, plain.cursor, plain.offset, plain.wide⟩
  | withVisibleWidth width t made fresh =>
    refine ⟨fresh.chars, fresh.cursor, fresh.offset, ?_⟩
    intro wide shown
    have chosen : (if width = 0 then none else some width) = some wide := shown
    split at chosen
    · cases chosen
    · cases chosen
      omega
  | withFixedSize fixed t made fresh => exact ⟨fresh.chars, fresh.cursor, fresh.offset, fresh.wide⟩
  | withCensor censor t made fresh => exact ⟨fresh.chars, fresh.cursor, fresh.offset, fresh.wide⟩
  | withInput input t made fresh => exact ⟨fresh.chars, fresh.cursor, fresh.offset, fresh.wide⟩

theorem Fresh.inView (fresh : t.Fresh) : t.InView := by
  refine ⟨?_, fun _ proper => ?_, fresh.wide, fun width shown => ?_⟩
  · rw [fresh.cursor]
    exact Nat.zero_le _
  · rw [fresh.cursor]
    exact List.length_pos_iff.mpr proper
  · rw [fresh.cursor, fresh.offset]
    exact shows_start (fresh.wide width shown) _

theorem Fresh.rigid (fresh : t.Fresh) (isText : t.isNumber = false) (fixed : t.fixedSize = true)
    (proper : t.default ≠ "") : t.Rigid := by
  refine ⟨isText, fixed, ?_⟩
  rw [fresh.cursor, fresh.chars, List.length_pos_iff]
  exact mt String.toList_eq_nil_iff.mp proper

end Made

end Settings.TextField
