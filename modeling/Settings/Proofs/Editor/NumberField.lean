import Settings.Proofs.Editor.Typing

/-!
# Numbers that are typed digit by digit

Whatever is done to a number, its window stays where it is, on the first columns; only the cursor of a
text is followed by its window. Digits come in by typing alone, every other action takes characters
away, and without leading zeros digits are the numeral of the number that they stand for. So a number
that starts out as a numeral stays one, and keys at its end do arithmetic.

* `Anchored.handle`: cursor and window of every number.
* `Numeric.handle`: the digits of a number whose size is not fixed.
* `encode_of_numeral`: its string form.
* `Counting.handle`, `Counting.handleAll`: digits and deletions at the end of a number.
-/
namespace Settings

namespace Action

/-- The action types a digit, or deletes backwards. -/
def EditsNumber (a : Action) : Prop := a.digit?.isSome = true ∨ a = .backspace

instance (a : Action) : Decidable a.EditsNumber :=
  inferInstanceAs (Decidable (a.digit?.isSome = true ∨ a = .backspace))

/-- A digit comes behind the others; a deletion takes the last one away. -/
def accumulate (n : Nat) (a : Action) : Nat :=
  match a.digit? with
  | some d => 10 * n + d
  | none => n / 10

end Action

namespace TextField

variable {t : TextField} {a : Action} {acted : TextField} {n : Nat}

section Keys

theorem isDigit_of_numberKey? {c : Char} (key : numberKey? a = some (some c)) :
    c.isDigit = true := by
  cases a with
  | digit pressed =>
    have all : ∀ d ≤ 9, (Char.ofNat ('0'.toNat + d)).isDigit = true := by decide
    cases key
    exact all (min pressed 9) (Nat.min_le_right _ _)
  | character typed =>
    rw [numberKey?] at key
    split at key
    · next isDigit =>
      cases key
      exact isDigit
    · cases key
  | _ => cases key

theorem numberKey?_of_digit? {d : Nat} (digit : a.digit? = some d) :
    numberKey? a = some (some (Nat.digitChar d)) := by
  cases a with
  | digit key =>
    have all : ∀ d ≤ 9, keyDigit d = Nat.digitChar d := by decide
    rw [Action.digit?] at digit
    split at digit
    · next small => rw [numberKey?, ← Option.some.inj digit, all key small]
    · cases digit
  | character c =>
    rw [Action.digit?] at digit
    split at digit
    · next isDigit =>
      cases digit
      rw [numberKey?, if_pos isDigit, (Numeral.digitChar_of_isDigit isDigit).1]
    · cases digit
  | _ => cases digit

end Keys

theorem settle_of_number (isNumber : t.isNumber = true) : t.settle = t.settleNumber := if_pos isNumber

/-- What edit actions do to a number. -/
theorem handle_of_number (isNumber : t.isNumber = true) (a : Action) :
    (t.handle a).state = match numberKey? a with
      | some (some c) => (t.typeChar c).settle
      | some none => t
      | none => match t.act? a with
        | some acted => acted.settle
        | none => t := by
  rw [handle, isNumber, if_pos rfl]
  cases numberKey? a with
  | none => cases t.act? a <;> rfl
  | some key =>
    cases key with
    | none => rfl
    | some c =>
      have kept := (isNumber_of_frame (frame_typeChar t c)).trans isNumber
      exact (settle_of_number kept).symm

section Window

/-- A number that is shown from its first digit on, with the cursor on one of its digits or behind
them. -/
structure Anchored (t : TextField) : Prop where
  isNumber : t.isNumber = true
  offset : t.offset = 0
  inside : t.cursor ≤ t.chars.length
  proper : t.chars ≠ []

/-- The cursor keeps its distance from the end, or stands before the first digit. -/
theorem anchored_settle (isNumber : t.isNumber = true) (first : t.offset = 0) :
    t.settle.Anchored := by
  rw [settle_of_number isNumber]
  exact ⟨isNumber, first, Nat.sub_le _ _, stripZeros_ne_nil t.chars⟩

@[simp] theorem offset_deleteChar (pos : Nat) (t : TextField) :
    (t.deleteChar pos).offset = t.offset := by
  unfold deleteChar
  split <;> rfl

@[simp] theorem offset_clearMarked (t : TextField) : t.clearMarked.offset = t.offset := by
  unfold clearMarked
  split <;> rfl

theorem offset_typeChar (c : Char) (t : TextField) : (t.typeChar c).offset = t.offset :=
  offset_clearMarked t

theorem offset_backspace (first : t.offset = 0) : t.backspace.offset = 0 := by
  unfold backspace
  split
  · rw [offset_clearMarked, first]
  · split
    · exact first
    · dsimp only
      rw [first, ite_self]

theorem offset_delete (t : TextField) : t.delete.offset = t.offset := by
  unfold delete
  split
  · exact offset_clearMarked t
  · dsimp only
    split <;> exact offset_deleteChar _ t

/-- Apart from typing, no action moves a window that is on the first columns. -/
theorem offset_act? (first : t.offset = 0) (noKey : numberKey? a = none)
    (done : t.act? a = some acted) : acted.offset = 0 := by
  have first' : t.commit.offset = 0 := first
  cases a with
  | left =>
    cases done
    split <;> exact first
  | right =>
    cases done
    split <;> exact first
  | backspace =>
    cases done
    exact offset_backspace first'
  | delete =>
    cases done
    exact (offset_delete t.commit).trans first'
  | digit key => cases noKey
  | character c => cases noKey
  | select => cases done
  | _ =>
    cases done
    exact first

namespace Anchored

/-- Edit actions leave the window of a number on its first columns and the cursor in its digits. -/
theorem handle (anchored : t.Anchored) (a : Action) : (t.handle a).state.Anchored := by
  rw [handle_of_number anchored.isNumber]
  cases key : numberKey? a with
  | none =>
    cases done : t.act? a with
    | none => exact anchored
    | some acted =>
      have isNumber := (isNumber_of_frame (frame_act? t done)).trans anchored.isNumber
      exact anchored_settle isNumber (offset_act? anchored.offset key done)
  | some typed =>
    cases typed with
    | none => exact anchored
    | some c =>
      have isNumber := (isNumber_of_frame (frame_typeChar t c)).trans anchored.isNumber
      exact anchored_settle isNumber ((offset_typeChar c t).trans anchored.offset)

theorem setText (anchored : t.Anchored) (text : String) : (t.setText text).Anchored :=
  anchored_settle anchored.isNumber anchored.offset

theorem select (anchored : t.Anchored) : t.select.Anchored :=
  ⟨anchored.isNumber, anchored.offset, anchored.inside, anchored.proper⟩

theorem deselect (anchored : t.Anchored) : t.deselect.Anchored :=
  ⟨anchored.isNumber, rfl, Nat.zero_le _, anchored.proper⟩

end Anchored

/-- The default of a number has a digit. -/
theorem Made.anchored (made : t.Made) (isNumber : t.isNumber = true) : t.Anchored := by
  have fresh := made.fresh
  obtain ⟨n, _, numeral⟩ := made.sound isNumber
  refine ⟨isNumber, fresh.offset, ?_, ?_⟩
  · rw [fresh.cursor]
    exact Nat.zero_le _
  · rw [fresh.chars, numeral, Numeral.text, String.toList_ofList]
    exact Numeral.chars_ne_nil n

end Window

section Numeral

theorem chars_deleteAll (free : t.fixedSize = false) : t.deleteAll.chars = [] := by
  cases t
  cases free
  rfl

theorem clearMarked_subset (free : t.fixedSize = false) : t.clearMarked.chars ⊆ t.chars := by
  unfold clearMarked
  split
  · have none : { t.deleteAll with allMarked := false }.chars = [] := chars_deleteAll free
    rw [none]
    exact List.nil_subset _
  · exact List.Subset.refl _

theorem deleteChar_subset (free : t.fixedSize = false) (pos : Nat) :
    (t.deleteChar pos).chars ⊆ t.chars := by
  by_cases inside : pos < t.chars.length
  · rw [deleteChar_of_lt free inside]
    exact List.eraseIdx_subset
  · rw [deleteChar, if_pos (Nat.not_lt.mp inside)]
    exact List.Subset.refl _

theorem backspace_subset (free : t.fixedSize = false) : t.backspace.chars ⊆ t.chars := by
  unfold backspace
  split
  · exact clearMarked_subset free
  · split
    · exact List.Subset.refl _
    · exact deleteChar_subset free _

theorem delete_subset (free : t.fixedSize = false) : t.delete.chars ⊆ t.chars := by
  unfold delete
  split
  · exact clearMarked_subset free
  · dsimp only
    split <;> exact deleteChar_subset free _

/-- If the size is not fixed, every action but typing only takes characters away. -/
theorem act?_subset (free : t.fixedSize = false) (noKey : numberKey? a = none)
    (done : t.act? a = some acted) : acted.chars ⊆ t.chars := by
  have free' : t.commit.fixedSize = false := free
  cases a with
  | left =>
    cases done
    split <;> exact List.Subset.refl _
  | right =>
    cases done
    split <;> exact List.Subset.refl _
  | backspace =>
    cases done
    exact backspace_subset free'
  | delete =>
    cases done
    exact delete_subset free'
  | erase =>
    cases done
    rw [chars_deleteAll free']
    exact List.nil_subset _
  | digit key => cases noKey
  | character c => cases noKey
  | select => cases done
  | _ =>
    cases done
    exact List.Subset.refl _

theorem insertChar_subset (free : t.fixedSize = false) (c : Char) (replace : Bool) :
    (t.insertChar c replace).chars ⊆ c :: t.chars := by
  have parts (pos rest : Nat) : t.chars.take pos ++ c :: t.chars.drop rest ⊆ c :: t.chars :=
    List.append_subset.mpr ⟨List.subset_cons_of_subset c (List.take_subset pos t.chars),
      List.cons_subset_cons c (List.drop_subset rest t.chars)⟩
  simp only [insertChar, free, Bool.false_and, Bool.false_eq_true, if_false]
  split <;> exact parts _ _

/-- Typing adds no other character than the one that is typed. -/
theorem typeChar_subset (free : t.fixedSize = false) (c : Char) :
    (t.typeChar c).chars ⊆ c :: t.chars := by
  have cleared := (fixedSize_of_frame (frame_clearMarked t)).trans free
  exact List.Subset.trans (insertChar_subset cleared c false)
    (List.cons_subset_cons c (clearMarked_subset free))

/-- A number whose size is not fixed, with a numeral for text and the cursor in it or behind it. -/
structure Numeric (t : TextField) : Prop where
  isNumber : t.isNumber = true
  free : t.fixedSize = false
  numeral : ∃ n, t.chars = Numeral.digits n
  inside : t.cursor ≤ t.chars.length

theorem numeric_settle (isNumber : t.isNumber = true) (free : t.fixedSize = false)
    (isDigit : ∀ c ∈ t.chars, c.isDigit = true) : t.settle.Numeric := by
  rw [settle_of_number isNumber]
  exact ⟨isNumber, free, ⟨_, stripZeros_eq_digits isDigit⟩, Nat.sub_le _ _⟩

namespace Numeric

theorem isDigit (numeric : t.Numeric) : ∀ c ∈ t.chars, c.isDigit = true := by
  obtain ⟨n, shown⟩ := numeric.numeral
  intro c member
  rw [shown] at member
  exact Numeral.isDigit_of_mem_digits member

/-- Edit actions leave a numeral. -/
theorem handle (numeric : t.Numeric) (a : Action) : (t.handle a).state.Numeric := by
  rw [handle_of_number numeric.isNumber]
  cases key : numberKey? a with
  | none =>
    cases done : t.act? a with
    | none => exact numeric
    | some acted =>
      have same := frame_act? t done
      have isNumber := (isNumber_of_frame same).trans numeric.isNumber
      have free := (fixedSize_of_frame same).trans numeric.free
      exact numeric_settle isNumber free fun c member =>
        numeric.isDigit c (act?_subset numeric.free key done member)
  | some typed =>
    cases typed with
    | none => exact numeric
    | some c =>
      have same := frame_typeChar t c
      have isNumber := (isNumber_of_frame same).trans numeric.isNumber
      have free := (fixedSize_of_frame same).trans numeric.free
      refine numeric_settle isNumber free fun d member => ?_
      rcases List.mem_cons.mp (typeChar_subset numeric.free c member) with rfl | inside
      · exact isDigit_of_numberKey? key
      · exact numeric.isDigit d inside

theorem select (numeric : t.Numeric) : t.select.Numeric :=
  ⟨numeric.isNumber, numeric.free, numeric.numeral, numeric.inside⟩

theorem deselect (numeric : t.Numeric) : t.deselect.Numeric :=
  ⟨numeric.isNumber, numeric.free, numeric.numeral, Nat.zero_le _⟩

end Numeric

/-- The default of a number without a sign is a numeral. -/
theorem Made.numeric (made : t.Made) (isNumber : t.isNumber = true) (free : t.fixedSize = false)
    (unsigned : t.default = Numeral.text n) : t.Numeric := by
  refine ⟨isNumber, free, ⟨n, ?_⟩, ?_⟩
  · rw [made.fresh.chars, unsigned, Numeral.text_natCast, String.toList_ofList]
  · rw [made.fresh.cursor]
    exact Nat.zero_le _

/-- The string form of a number is its numeral, or its default if the numeral is too large. -/
theorem encode_of_numeral (isNumber : t.isNumber = true) (shown : t.chars = Numeral.digits n) :
    t.encode = if Numeral.InRange (n : Int) then t.text else t.default := by
  have text : t.text = Numeral.text (n : Int) := by
    rw [TextField.text, shown, Numeral.text_natCast]
  have read : t.number? = if Numeral.InRange (n : Int) then some (n : Int) else none := by
    rw [number?, shown, ← Numeral.chars_natCast, Numeral.trimChars_chars, Numeral.chars_natCast,
      Numeral.read?_digits]
  rw [encode, if_pos isNumber, read, text]
  split <;> rfl

end Numeral

section Counting

/-- Keys go on from a number: the digits that are left once a marked text is cleared stand for it, and
the cursor is behind them. -/
structure Counting (n : Nat) (t : TextField) : Prop where
  isNumber : t.isNumber = true
  free : t.fixedSize = false
  plain : t.input = .digits
  isDigit : ∀ c ∈ t.clearMarked.chars, c.isDigit = true
  value : Nat.ofDigitChars 10 t.clearMarked.chars 0 = n
  atEnd : t.clearMarked.cursor = t.clearMarked.chars.length

/-- The numeral of a number is shown, with the cursor behind it. -/
structure Showing (n : Nat) (t : TextField) : Prop where
  isNumber : t.isNumber = true
  free : t.fixedSize = false
  plain : t.input = .digits
  unmarked : t.allMarked = false
  chars : t.chars = Numeral.digits n
  cursor : t.cursor = t.chars.length

theorem chars_clearMarked_of_marked (free : t.fixedSize = false) (marked : t.allMarked = true) :
    t.clearMarked.chars = [] := by
  rw [clearMarked, if_pos marked]
  exact chars_deleteAll free

theorem allMarked_clearMarked (t : TextField) : t.clearMarked.allMarked = false := by
  cases marked : t.allMarked with
  | true => rw [clearMarked, if_pos marked]
  | false => rw [clearMarked_of_unmarked marked, marked]

theorem Showing.counting (showing : t.Showing n) : t.Counting n := by
  have whole := clearMarked_of_unmarked showing.unmarked
  refine ⟨showing.isNumber, showing.free, showing.plain, ?_, ?_, ?_⟩
  · intro c member
    rw [whole, showing.chars] at member
    exact Numeral.isDigit_of_mem_digits member
  · rw [whole, showing.chars]
    exact Numeral.ofDigitChars_digits n
  · rw [whole, showing.cursor]

/-- A number that gains focus is marked, so the first key starts from zero. -/
theorem Anchored.counting_select (anchored : t.Anchored) (free : t.fixedSize = false)
    (plain : t.input = .digits) : t.select.Counting 0 := by
  have marked : t.select.allMarked = true := by
    simpa [TextField.select] using anchored.proper
  have none := chars_clearMarked_of_marked (t := t.select) free marked
  refine ⟨anchored.isNumber, free, plain, ?_, ?_, ?_⟩
  · rw [none]
    exact fun _ member => nomatch member
  · rw [none]
    rfl
  · rw [none, cursor_clearMarked, if_pos marked]
    rfl

/-- At the end of its digits the cursor stays there. -/
theorem showing_settle (isNumber : t.isNumber = true) (free : t.fixedSize = false)
    (plain : t.input = .digits) (unmarked : t.allMarked = false)
    (isDigit : ∀ c ∈ t.chars, c.isDigit = true) (atEnd : t.cursor = t.chars.length) :
    t.settle.Showing (Nat.ofDigitChars 10 t.chars 0) := by
  rw [settle_of_number isNumber]
  refine ⟨isNumber, free, plain, unmarked, stripZeros_eq_digits isDigit, ?_⟩
  simp only [settleNumber, atEnd, Nat.sub_self, Nat.sub_zero]

theorem insertChar_at_end (free : t.fixedSize = false) (atEnd : t.cursor = t.chars.length)
    (c : Char) (replace : Bool) : (t.insertChar c replace).chars = t.chars ++ [c] := by
  simp only [insertChar, atEnd, free, Nat.min_self, List.take_length, List.drop_length,
    List.drop_eq_nil_of_le (Nat.le_succ _), Bool.false_and, Bool.false_eq_true, if_false, ite_self]

namespace Counting

/-- A digit comes behind the others. -/
theorem typeChar (counting : t.Counting n) {d : Nat} (decimal : d < 10) :
    (t.typeChar (Nat.digitChar d)).settle.Showing (10 * n + d) := by
  have same := frame_typeChar t (Nat.digitChar d)
  have cleared := (fixedSize_of_frame (frame_clearMarked t)).trans counting.free
  have chars : (t.typeChar (Nat.digitChar d)).chars = t.clearMarked.chars ++ [Nat.digitChar d] :=
    insertChar_at_end cleared counting.atEnd _ false
  have isDigit : ∀ c ∈ (t.typeChar (Nat.digitChar d)).chars, c.isDigit = true := by
    have all : ∀ d < 10, (Nat.digitChar d).isDigit = true := by decide
    intro c member
    rw [chars] at member
    rcases List.mem_append.mp member with inside | last
    · exact counting.isDigit c inside
    · rw [List.mem_singleton.mp last]
      exact all d decimal
  have atEnd : (t.typeChar (Nat.digitChar d)).cursor =
      (t.typeChar (Nat.digitChar d)).chars.length := by
    rw [chars, List.length_append, List.length_singleton, ← counting.atEnd]
    rfl
  have shown := showing_settle ((isNumber_of_frame same).trans counting.isNumber)
    ((fixedSize_of_frame same).trans counting.free) ((input_typeChar _ t).trans counting.plain)
    (allMarked_clearMarked t) isDigit atEnd
  rwa [chars, Numeral.ofDigitChars_concat decimal, counting.value] at shown

/-- Deleting backwards takes the last digit away. -/
theorem chars_backspace (counting : t.Counting n) :
    t.backspace.chars = t.clearMarked.chars.dropLast ∧
      t.backspace.cursor = t.backspace.chars.length ∧ t.backspace.allMarked = false := by
  cases marked : t.allMarked with
  | true =>
    have none := chars_clearMarked_of_marked counting.free marked
    have cleared : t.backspace = t.clearMarked := if_pos marked
    rw [cleared, counting.atEnd, none]
    exact ⟨rfl, rfl, allMarked_clearMarked t⟩
  | false =>
    have atEnd := counting.atEnd
    rw [clearMarked_of_unmarked marked] at atEnd ⊢
    by_cases start : t.cursor = 0
    · -- A cursor that is at both ends has no digit before it.
      have none : t.chars = [] := List.length_eq_zero_iff.mp (atEnd.symm.trans start)
      have same : t.backspace = t := by
        rw [backspace, marked, if_neg Bool.false_ne_true, if_pos start]
      rw [same, atEnd, none]
      exact ⟨rfl, rfl, marked⟩
    · have inside : t.cursor - 1 < t.chars.length := by omega
      have chars : t.chars.eraseIdx (t.cursor - 1) = t.chars.dropLast := by
        rw [atEnd, List.eraseIdx_length_sub_one]
      rw [backspace, marked, if_neg Bool.false_ne_true, if_neg start,
        deleteChar_of_lt counting.free inside, chars]
      refine ⟨rfl, ?_, marked⟩
      rw [List.length_dropLast, atEnd]

theorem backspace (counting : t.Counting n) : t.backspace.settle.Showing (n / 10) := by
  have same := frame_backspace t
  obtain ⟨chars, atEnd, unmarked⟩ := counting.chars_backspace
  have isDigit : ∀ c ∈ t.backspace.chars, c.isDigit = true := by
    intro c member
    rw [chars] at member
    exact counting.isDigit c (List.dropLast_subset _ member)
  have shown := showing_settle ((isNumber_of_frame same).trans counting.isNumber)
    ((fixedSize_of_frame same).trans counting.free) ((input_backspace t).trans counting.plain)
    unmarked isDigit atEnd
  rwa [chars, Numeral.ofDigitChars_dropLast counting.isDigit, counting.value] at shown

/-- One key: the numeral of the number that it makes of the one before. -/
theorem handle (counting : t.Counting n) (edits : a.EditsNumber) :
    (t.handle a).state.Showing (a.accumulate n) := by
  rw [handle_of_number counting.isNumber]
  cases digit : a.digit? with
  | some d =>
    have small : d < 10 := Nat.lt_succ_of_le (Action.digit?_le_nine digit)
    rw [numberKey?_of_digit? digit, Action.accumulate, digit]
    exact counting.typeChar small
  | none =>
    rcases edits with typed | rfl
    · rw [digit] at typed
      cases typed
    · have noKey : numberKey? .backspace = none := rfl
      have done : t.act? .backspace = some t.backspace := by
        rw [act?, commit_of_digits counting.plain]
      rw [noKey, done]
      exact counting.backspace

/-- The keys together: the numeral of the number that they make, one after the other. -/
theorem handleAll (counting : t.Counting n) {keys : List Action} (proper : keys ≠ [])
    (edit : ∀ a ∈ keys, a.EditsNumber) :
    (t.handleAll keys).Showing (keys.foldl Action.accumulate n) := by
  induction keys generalizing t n with
  | nil => exact absurd rfl proper
  | cons a rest ih =>
    obtain ⟨first, others⟩ := List.forall_mem_cons.mp edit
    -- The first key ends the marking, so the others go on from what it shows.
    have shown := counting.handle first
    rw [handleAll_cons, List.foldl_cons]
    cases rest with
    | nil => exact shown
    | cons b rest => exact ih shown.counting (List.cons_ne_nil b rest) others

end Counting

end Counting

end TextField

end Settings
