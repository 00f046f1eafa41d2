import Settings.Proofs.Editor.BlockEntry

/-!
# Edges of sequences

The cursor of a sequence is on a column or, in a block editor, on a field. In all three styles the moves
lead from place to place by one and report an edge exactly if there is no place to go to, and an entered
digit reports the end exactly if the cursor could not go on behind it.

* `place`, `lastPlace`: where the cursor is and how far it gets.
* `Goes`, `Steers`: what a move does, and all four moves.
* `Signals`: what digits do.
* `Steady.steers`, `Steady.signals`: every steady sequence.
-/
namespace Settings.Sequence

variable {s : Sequence} {mode : HourMode} {marked : Nat} {overwrite autoJump : Bool}

section Places

/-- The column that the cursor is on, or the field in a block editor. -/
def place (s : Sequence) : Nat := s.markedBlock?.getD s.cursor

/-- The last column, or the last field in a block editor. -/
def lastPlace (s : Sequence) : Nat :=
  match s.markedBlock? with
  | some _ => s.limits.length - 1
  | none => s.totalWidth - 1

theorem markedBlock?_of_block (style : s.style = .block marked overwrite autoJump) :
    s.markedBlock? = some marked := by
  rw [markedBlock?, style]

theorem place_of_block (style : s.style = .block marked overwrite autoJump) : s.place = marked := by
  rw [place, markedBlock?_of_block style, Option.getD_some]

theorem lastPlace_of_block (style : s.style = .block marked overwrite autoJump) :
    s.lastPlace = s.limits.length - 1 := by
  rw [lastPlace, markedBlock?_of_block style]

theorem place_of_columns (columns : s.markedBlock? = none) : s.place = s.cursor := by
  rw [place, columns, Option.getD_none]

theorem lastPlace_of_columns (columns : s.markedBlock? = none) : s.lastPlace = s.totalWidth - 1 := by
  rw [lastPlace, columns]

/-- Every other style has columns, and a steady cursor is on one of them. -/
theorem Steady.cursor_lt_totalWidth (steady : s.Steady) (columns : s.markedBlock? = none) :
    s.cursor < s.totalWidth := by
  cases style : s.style with
  | positional => exact steady.cursor.positional style
  | block marked overwrite autoJump =>
    rw [markedBlock?_of_block style] at columns
    cases columns
  | clock =>
    rw [totalWidth_of_clock steady.sound (beq_iff_eq.mpr style)]
    exact steady.cursor.clock style

theorem Steady.place_le_lastPlace (steady : s.Steady) : s.place ≤ s.lastPlace := by
  cases block : s.markedBlock? with
  | none =>
    have inside := steady.cursor_lt_totalWidth block
    rw [place_of_columns block, lastPlace_of_columns block]
    omega
  | some marked =>
    cases style : s.style with
    | block marked' overwrite autoJump =>
      have inside := steady.cursor.block style
      rw [place_of_block style, lastPlace_of_block style]
      omega
    | _ => simp [markedBlock?, style] at block

end Places

section Moves

/-- A move leads to a place, reports an edge or none, and leaves the fields alone. -/
structure Goes (s : Sequence) (outcome : Outcome Sequence) (place : Nat) (edge : Option Edge) : Prop where
  place : outcome.state.place = place
  edge : outcome.edge = edge
  fields : outcome.state.value = s.value
  changed : outcome.changed = false

/-- The four moves. -/
structure Steers (mode : HourMode) (s : Sequence) : Prop where
  first : s.Goes (s.handle mode .first) 0 none
  last : s.Goes (s.handle mode .last) s.lastPlace none
  left : ∀ before, s.place = before + 1 → s.Goes (s.handle mode .left) before none
  start : s.place = 0 → s.Goes (s.handle mode .left) 0 (some .start)
  right : s.place < s.lastPlace → s.Goes (s.handle mode .right) (s.place + 1) none
  finish : s.place = s.lastPlace → s.Goes (s.handle mode .right) s.lastPlace (some .finish)

theorem goes_cursor (columns : s.markedBlock? = none) (column : Nat) (edge : Option Edge) :
    s.Goes ⟨{ s with cursor := column }, false, edge⟩ column edge :=
  ⟨place_of_columns columns, rfl, rfl, rfl⟩

theorem goes_block (block : Nat) (edge : Option Edge) (autoJump : Bool) (s : Sequence) :
    s.Goes ⟨(s.setBlock block true autoJump).syncCursor, false, edge⟩ block edge :=
  ⟨rfl, rfl, rfl, rfl⟩

/-- The moves over columns, of which there is one behind the cursor or none. -/
theorem steers_of_columns (columns : s.markedBlock? = none)
    (first : s.handle mode .first = .quiet { s with cursor := 0 })
    (last : s.handle mode .last = .quiet { s with cursor := s.totalWidth - 1 })
    (left : s.handle mode .left =
      if s.cursor = 0 then .hit .start s else .quiet { s with cursor := s.cursor - 1 })
    (right : s.handle mode .right =
      if s.totalWidth - 1 ≤ s.cursor then .hit .finish { s with cursor := s.totalWidth - 1 }
      else .quiet { s with cursor := s.cursor + 1 }) : s.Steers mode := by
  have place := place_of_columns columns
  have lastPlace := lastPlace_of_columns columns
  constructor
  case first =>
    rw [first]
    exact goes_cursor columns 0 none
  case last =>
    rw [last, lastPlace]
    exact goes_cursor columns _ none
  case left =>
    intro before behind
    have other : s.cursor ≠ 0 := by omega
    have moved : s.cursor - 1 = before := by omega
    rw [left, if_neg other, moved]
    exact goes_cursor columns before none
  case start =>
    intro atStart
    have first : s.cursor = 0 := place.symm.trans atStart
    rw [left, if_pos first]
    exact ⟨atStart, rfl, rfl, rfl⟩
  case right =>
    intro before
    have other : ¬s.totalWidth - 1 ≤ s.cursor := by omega
    rw [right, if_neg other, place]
    exact goes_cursor columns _ none
  case finish =>
    intro atEnd
    have reached : s.totalWidth - 1 ≤ s.cursor := by omega
    rw [right, if_pos reached, lastPlace]
    exact goes_cursor columns _ (some .finish)

theorem steers_of_positional (style : s.style = .positional) (mode : HourMode) : s.Steers mode := by
  have moves (a : Action) : s.handle mode a = s.handlePositional a := handle_of_positional style a
  have columns : s.markedBlock? = none := by rw [markedBlock?, style]
  exact steers_of_columns columns (moves .first) (moves .last) (moves .left) (moves .right)

/-- A clock has four columns and stays where it is at the last of them. -/
theorem Steady.steers_of_clock (steady : s.Steady) (style : s.style = .clock) (mode : HourMode) :
    s.Steers mode := by
  have moves (a : Action) : s.handle mode a = s.handleClock mode a := handle_of_clock style mode a
  have columns : s.markedBlock? = none := by rw [markedBlock?, style]
  have inside := steady.cursor.clock style
  have four := totalWidth_of_clock steady.sound (beq_iff_eq.mpr style)
  refine steers_of_columns columns (moves .first) ?_ (moves .left) ?_
  · rw [four]
    exact moves .last
  · rw [four, moves .right, handleClock]
    by_cases last : 3 ≤ s.cursor
    · have stays : { s with cursor := 3 } = s := by
        have third : s.cursor = 3 := by omega
        rw [← third]
      rw [if_pos last, if_pos last, stays]
    · rw [if_neg last, if_neg last]

theorem Steady.steers_of_block (steady : s.Steady) (style : s.style = .block marked overwrite autoJump)
    (mode : HourMode) : s.Steers mode := by
  have moves (a : Action) : s.handle mode a = s.handleBlock marked overwrite autoJump a :=
    handle_of_block style mode a
  have place := place_of_block style
  have lastPlace := lastPlace_of_block style
  have inside := steady.cursor.block style
  constructor
  case first =>
    rw [moves]
    exact goes_block 0 none autoJump s
  case last =>
    rw [moves, lastPlace]
    exact goes_block _ none autoJump s
  case left =>
    intro before behind
    have other : marked ≠ 0 := by omega
    have moved : marked - 1 = before := by omega
    rw [moves, handleBlock, if_neg other, moved]
    exact goes_block before none autoJump s
  case start =>
    intro atStart
    have first : marked = 0 := place.symm.trans atStart
    rw [moves, handleBlock, if_pos first, first]
    exact goes_block 0 (some .start) autoJump s
  case right =>
    intro before
    have other : marked ≠ s.limits.length - 1 := by omega
    have moved : min (marked + 1) (s.limits.length - 1) = s.place + 1 := by omega
    rw [moves, handleBlock, if_neg other, moved]
    exact goes_block _ none autoJump s
  case finish =>
    intro atEnd
    have last : marked = s.limits.length - 1 := by omega
    have stays : min (marked + 1) (s.limits.length - 1) = s.lastPlace := by omega
    rw [moves, handleBlock, if_pos last, stays]
    exact goes_block _ (some .finish) autoJump s

theorem Steady.steers (steady : s.Steady) (mode : HourMode) : s.Steers mode := by
  cases style : s.style with
  | positional => exact steers_of_positional style mode
  | block marked overwrite autoJump => exact steady.steers_of_block style mode
  | clock => exact steady.steers_of_clock style mode

end Moves

section Digits

/-- Only a clock refuses digits, those that no time has at the column. -/
def Takes (mode : HourMode) (s : Sequence) (digit : Nat) : Prop :=
  s.style = .clock → acceptsDigit mode s.cursor digit (shownHour mode (s.field 0)) = true

/-- What the digits do. Over columns, one that is entered on the last column reports the end. In a block
editor one does that is entered into the last field, if the number that it leads to is as wide as the
field before it is clamped. A digit that is refused does nothing. -/
structure Signals (mode : HourMode) (s : Sequence) : Prop where
  column : ∀ a digit, a.digit? = some digit → s.markedBlock? = none → s.Takes mode digit →
    (s.handle mode a).changed = true ∧
    (s.handle mode a).edge = if s.place = s.lastPlace then some .finish else none
  block : ∀ a digit marked overwrite autoJump, a.digit? = some digit →
    s.style = .block marked overwrite autoJump →
    ∀ block n, s.digitTarget marked overwrite autoJump digit = (block, n) →
      (s.handle mode a).changed = true ∧
      (s.handle mode a).state.value = clampFields s.limits (s.value.set block n) ∧
      (s.handle mode a).edge =
        if block = s.lastPlace ∧ s.Fills block n then some .finish else none
  refused : ∀ a digit, a.digit? = some digit → ¬s.Takes mode digit → s.handle mode a = .quiet s

/-- Settling reports the end of a cursor that went on from the last column. -/
theorem settle_reports {entered : Sequence} (limits : entered.limits = s.limits)
    (cursor : entered.cursor = s.cursor + 1) (inside : s.cursor < s.totalWidth) :
    entered.settle.changed = true ∧
      entered.settle.edge = if s.cursor = s.totalWidth - 1 then some .finish else none := by
  have wide := totalWidth_of_limits limits
  by_cases last : s.cursor = s.totalWidth - 1
  · rw [settle_of_le (by omega), if_pos last]
    exact ⟨rfl, rfl⟩
  · rw [settle_of_lt (by omega), if_neg last]
    exact ⟨rfl, rfl⟩

theorem writeBlock_reports {block : Nat} (inside : block < s.limits.length) (n : Int) (autoJump : Bool) :
    (s.writeBlock block n autoJump).state.value = clampFields s.limits (s.value.set block n) ∧
      (s.writeBlock block n autoJump).edge =
        if block = s.limits.length - 1 ∧ s.Fills block n then some .finish else none := by
  constructor
  · unfold writeBlock
    dsimp only
    split
    · split <;> rfl
    · rfl
  · have last : block + 1 = s.limits.length ↔ block = s.limits.length - 1 := by omega
    have reported : (s.writeBlock block n autoJump).edge =
        if (decide (s.Fills block n) && (block + 1 == s.limits.length)) = true then some .finish
        else none := rfl
    rw [reported]
    simp only [Bool.and_eq_true, decide_eq_true_eq, beq_iff_eq, last, and_comm]

theorem Steady.signals (steady : s.Steady) (mode : HourMode) : s.Signals mode := by
  constructor
  case column =>
    intro a digit entered columns taken
    have inside := steady.cursor_lt_totalWidth columns
    rw [place_of_columns columns, lastPlace_of_columns columns]
    cases style : s.style with
    | positional =>
      rw [handle_of_positional style, handlePositional_of_digit? entered, enterDigit]
      exact settle_reports rfl rfl inside
    | block marked overwrite autoJump =>
      rw [markedBlock?_of_block style] at columns
      cases columns
    | clock =>
      rw [handle_of_clock style, handleClock_of_digit? entered, clockDigit_eq, if_pos (taken style)]
      exact settle_reports rfl rfl inside
  case block =>
    intro a digit marked overwrite autoJump entered style block n target
    have inside : (s.digitTarget marked overwrite autoJump digit).1 < s.limits.length :=
      digitTarget_lt (steady.cursor.block style)
    rw [target] at inside
    rw [handle_of_digitTarget style mode entered target, lastPlace_of_block style]
    exact ⟨rfl, writeBlock_reports inside n autoJump⟩
  case refused =>
    intro a digit entered refused
    obtain ⟨style, other⟩ := Classical.not_imp.mp refused
    rw [handle_of_clock style, handleClock_of_digit? entered, clockDigit_eq, if_neg other]

end Digits

end Settings.Sequence
