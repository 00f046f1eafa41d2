import Settings.Proofs.Editor.Sequence

/-!
# Cursors of sequences

Edits leave the cursor of a sequence on one of its digits, on one of its fields or on one of the four
digits of a clock. There the editors find the field that they change, and no number that they compute
from small fields leaves the range of 64 bits.

* `Moves`: what edits do, the cursor included.
* `moves_handle`: edit actions, in each style.
* `Steady.editable`: what the editors find under the cursor.
-/
namespace Settings.Sequence

variable {s s' : Sequence}

section Columns

theorem pos_of_mem_widths {w : Nat} (member : w ∈ s.widths) : 0 < w := by
  obtain ⟨b, _, rfl⟩ := List.mem_map.mp member
  exact Numeral.width_pos b.high

theorem length_widths (s : Sequence) : s.widths.length = s.limits.length := List.length_map _

theorem le_columns {widths : List Nat} {w : Nat} (member : w ∈ widths) : w ≤ columns widths := by
  induction widths with
  | nil => cases member
  | cons v rest ih =>
    change w ≤ v + columns rest
    rcases List.mem_cons.mp member with rfl | later
    · exact Nat.le_add_right _ _
    · exact Nat.le_trans (ih later) (Nat.le_add_left _ _)

/-- A sequence has a digit. -/
theorem Sound.totalWidth_pos (sound : s.Sound) : 0 < s.totalWidth := by
  obtain ⟨b, rest, shape⟩ := List.exists_cons_of_ne_nil sound.bounded.proper
  have member : Numeral.width b.high ∈ s.widths :=
    List.mem_map.mpr ⟨b, shape ▸ List.mem_cons_self, rfl⟩
  exact Nat.lt_of_lt_of_le (Numeral.width_pos b.high) (le_columns member)

/-- A column before the end lies in a field. -/
theorem locate_spec {widths : List Nat} {column : Nat} (inside : column < columns widths) :
    ∃ field inner, locate widths column = (field, inner) ∧ field < widths.length ∧
      inner < widths.getD field 0 ∧ columns (widths.take field) + inner = column := by
  induction widths generalizing column with
  | nil => cases inside
  | cons w rest ih =>
    change column < w + columns rest at inside
    by_cases here : column < w
    · exact ⟨0, column, by rw [locate, if_pos here], Nat.zero_lt_succ _, here, Nat.zero_add _⟩
    · -- The search goes on in the other fields, from the start of the next one.
      have later : column - w < columns rest := by omega
      obtain ⟨field, inner, found, exists', within, place⟩ := ih later
      refine ⟨field + 1, inner, by rw [locate, if_neg here, found], Nat.succ_lt_succ exists',
        within, ?_⟩
      change w + columns (rest.take field) + inner = column
      omega

/-- A clock has as many columns as its bounds have digits. -/
theorem totalWidth_of_clock (sound : s.Sound) (isClock : s.isClock = true) : s.totalWidth = 4 := by
  rw [totalWidth, widths, sound.clock isClock]
  decide

end Columns

/-- The cursor stands on a digit, on a field, or on a digit of a clock. -/
def CursorFits (s : Sequence) : Prop :=
  match s.style with
  | .positional => s.cursor < s.totalWidth
  | .block marked _ _ => marked < s.limits.length
  | .clock => s.cursor < 4

/-- The way of editing, apart from the place in a block editor that is edited next. -/
def manner (s : Sequence) : EditStyle :=
  match s.style with
  | .block _ _ autoJump => .block 0 true autoJump
  | style => style

theorem manner_of_style (same : s'.style = s.style) : s'.manner = s.manner := by
  rw [manner, manner, same]

theorem manner_block {marked : Nat} {overwrite autoJump : Bool}
    (style : s.style = .block marked overwrite autoJump) : s.manner = .block 0 true autoJump := by
  rw [manner, style]

theorem positional_of_manner (same : s'.manner = s.manner) (style : s.style = .positional) :
    s'.style = .positional := by
  unfold manner at same
  rw [style] at same
  split at same
  · cases same
  · exact same

/-- A sound sequence whose cursor fits. -/
structure Steady (s : Sequence) : Prop where
  sound : s.Sound
  cursor : s.CursorFits

/-- An edit that leaves the fields within bounds and the cursor where it can be, and that does not
change the way of editing. -/
structure Moves (s s' : Sequence) : Prop where
  follows : Follows s s'
  cursor : s.Steady → s'.CursorFits
  manner : s'.manner = s.manner

theorem Steady.moves (steady : s.Steady) (moves : Moves s s') : s'.Steady :=
  ⟨steady.sound.follows moves.follows, moves.cursor steady⟩

theorem Moves.refl (s : Sequence) : Moves s s := ⟨.refl s, Steady.cursor, rfl⟩

theorem Moves.trans {s s' s'' : Sequence} (first : Moves s s') (second : Moves s' s'') :
    Moves s s'' :=
  ⟨first.follows.trans second.follows, fun steady => second.cursor (steady.moves first),
    second.manner.trans first.manner⟩

section Fitting

theorem cursorFits_positional (style : s.style = .positional) (inside : s.cursor < s.totalWidth) :
    s.CursorFits := by
  rw [CursorFits, style]
  exact inside

theorem CursorFits.positional (fits : s.CursorFits) (style : s.style = .positional) :
    s.cursor < s.totalWidth := by
  rw [CursorFits, style] at fits
  exact fits

theorem cursorFits_block {marked : Nat} {overwrite autoJump : Bool}
    (style : s.style = .block marked overwrite autoJump) (inside : marked < s.limits.length) :
    s.CursorFits := by
  rw [CursorFits, style]
  exact inside

theorem CursorFits.block {marked : Nat} {overwrite autoJump : Bool} (fits : s.CursorFits)
    (style : s.style = .block marked overwrite autoJump) : marked < s.limits.length := by
  rw [CursorFits, style] at fits
  exact fits

theorem cursorFits_clock (style : s.style = .clock) (inside : s.cursor < 4) : s.CursorFits := by
  rw [CursorFits, style]
  exact inside

theorem CursorFits.clock (fits : s.CursorFits) (style : s.style = .clock) : s.cursor < 4 := by
  rw [CursorFits, style] at fits
  exact fits

theorem totalWidth_of_limits (limits : s'.limits = s.limits) : s'.totalWidth = s.totalWidth := by
  rw [totalWidth, totalWidth, widths, widths, limits]

/-- Edits of the fields alone leave the cursor where it is. -/
theorem Follows.moves (follows : Follows s s') (style : s'.style = s.style)
    (cursor : s'.cursor = s.cursor) : Moves s s' := by
  refine ⟨follows, fun steady => ?_, manner_of_style style⟩
  have fits := steady.cursor
  unfold CursorFits at fits ⊢
  rw [style, cursor, totalWidth_of_limits follows.setup.limits, follows.setup.limits]
  exact fits

end Fitting

section Edits

theorem moves_setFields (fields : List Int) (s : Sequence) : Moves s (s.setFields fields) :=
  (follows_setFields fields s).moves rfl rfl

theorem moves_decode (text : String) (s : Sequence) : Moves s (s.decode text) := moves_setFields _ s

theorem moves_reset (s : Sequence) : Moves s s.reset := s.follows_reset.moves rfl rfl

theorem moves_select (s : Sequence) : Moves s s.select :=
  Follows.moves ⟨⟨rfl, rfl, rfl, rfl⟩, Sound.value⟩ rfl rfl

theorem moves_deselect (s : Sequence) : Moves s s.deselect :=
  Follows.moves ⟨⟨rfl, rfl, rfl, rfl⟩, Sound.value⟩ rfl rfl

theorem Retimed.style (retimed : Retimed s s') : s'.style = s.style := by
  cases retimed <;> rfl

/-- Another time of day leaves the cursor where it is. -/
theorem Retimed.moves (retimed : Retimed s s') : Moves s s' := by
  have follows := retimed.follows
  cases retimed with
  | same => exact follows.moves rfl rfl
  | time isClock hour minute fits => exact follows.moves rfl rfl

theorem moves_increment (s : Sequence) : Moves s s.increment.1 := s.retimed_increment.moves

theorem moves_decrement (s : Sequence) : Moves s s.decrement.1 := s.retimed_decrement.moves

/-- Settling stops the cursor at the last column. -/
theorem cursor_settle_lt (wide : 0 < s.totalWidth) : s.settle.state.cursor < s.totalWidth := by
  unfold settle
  dsimp only
  split
  · next inside => exact inside
  · exact Nat.sub_lt wide Nat.zero_lt_one

theorem style_settle (s : Sequence) : s.settle.state.style = s.style := by
  unfold settle
  dsimp only
  split <;> rfl

theorem limits_settle (s : Sequence) : s.settle.state.limits = s.limits := by
  unfold settle
  dsimp only
  split <;> rfl

theorem style_handlePositional (a : Action) (s : Sequence) :
    (s.handlePositional a).state.style = s.style := by
  rcases s.handlePositional_cases a with ⟨column, moved, _⟩ | ⟨digit, entered⟩
  · rw [moved]
  · rw [entered, enterDigit, style_settle]

theorem moves_handlePositional (style : s.style = .positional) (a : Action) :
    Moves s (s.handlePositional a).state := by
  refine ⟨follows_handlePositional a s, fun steady => ?_,
    manner_of_style (s.style_handlePositional a)⟩
  rcases s.handlePositional_cases a with ⟨column, moved, within⟩ | ⟨digit, entered⟩
  · rw [moved]
    exact cursorFits_positional style (within (steady.cursor.positional style))
  · rw [entered, enterDigit]
    refine cursorFits_positional ((style_settle _).trans style) ?_
    rw [totalWidth_of_limits (limits_settle _)]
    exact cursor_settle_lt steady.sound.totalWidth_pos

theorem cursorFits_writeBlock {block : Nat} {n : Int} {autoJump : Bool}
    (inside : block < s.limits.length) : (s.writeBlock block n autoJump).state.CursorFits := by
  unfold writeBlock
  dsimp only
  split
  · split
    · exact cursorFits_block rfl inside
    · next notLast =>
      -- A full field that is not the last one passes the cursor on.
      have other : block + 1 ≠ s.limits.length := fun same => notLast (beq_iff_eq.mpr same)
      refine cursorFits_block rfl ?_
      change block + 1 < s.limits.length
      omega
  · exact cursorFits_block rfl inside

/-- A field that is written leaves the sequence edited in blocks as before. -/
theorem manner_writeBlock (block : Nat) (n : Int) (autoJump : Bool) (s : Sequence) :
    (s.writeBlock block n autoJump).state.manner = .block 0 true autoJump := by
  unfold writeBlock
  dsimp only
  split
  · split <;> rfl
  · rfl

theorem manner_handleBlock {marked : Nat} {overwrite autoJump : Bool}
    (style : s.style = .block marked overwrite autoJump) (a : Action) :
    (s.handleBlock marked overwrite autoJump a).state.manner = s.manner := by
  rw [manner_block style]
  rcases s.handleBlock_cases marked overwrite autoJump a with
    (same | synced) | ⟨block, moved, _⟩ | ⟨block, n, written, _⟩
  · rw [same, manner_block style]
  · rw [synced]
    exact manner_block style
  · rw [moved]
    rfl
  · rw [written, manner_writeBlock]

theorem moves_handleBlock {marked : Nat} {overwrite autoJump : Bool}
    (style : s.style = .block marked overwrite autoJump) (a : Action) :
    Moves s (s.handleBlock marked overwrite autoJump a).state := by
  have notClock : s.isClock = false := by rw [isClock, style]; rfl
  refine ⟨follows_handleBlock notClock marked overwrite autoJump a, fun steady => ?_,
    manner_handleBlock style a⟩
  have inside := steady.cursor.block style
  rcases s.handleBlock_cases marked overwrite autoJump a with
    (same | synced) | ⟨block, moved, within⟩ | ⟨block, n, written, within⟩
  · rw [same]
    exact steady.cursor
  · rw [synced]
    exact cursorFits_block style inside
  · rw [moved]
    exact cursorFits_block rfl (within inside)
  · rw [written]
    exact cursorFits_writeBlock (within inside)

theorem cursorFits_clockDigit (steady : s.Steady) (style : s.style = .clock) (mode : HourMode)
    (digit : Nat) : (s.clockDigit mode digit).state.CursorFits := by
  rcases s.clockDigit_cases mode digit with same | ⟨hour, minute, column, settled⟩
  · rw [same]
    exact steady.cursor
  · have four := totalWidth_of_clock steady.sound (beq_iff_eq.mpr style)
    rw [settled]
    refine cursorFits_clock ((style_settle _).trans style) ?_
    rw [← four]
    exact cursor_settle_lt (four ▸ Nat.zero_lt_succ 3)

theorem style_handleClock (isClock : s.isClock = true) (mode : HourMode) (a : Action) :
    (s.handleClock mode a).state.style = s.style := by
  rcases handleClock_cases isClock mode a with ⟨column, moved, _⟩ | retimed | ⟨digit, entered⟩
  · rw [moved]
  · exact retimed.style
  · rcases s.clockDigit_cases mode digit with same | ⟨hour, minute, column, settled⟩
    · rw [entered, same]
    · rw [entered, settled, style_settle]

theorem moves_handleClock (style : s.style = .clock) (mode : HourMode) (a : Action) :
    Moves s (s.handleClock mode a).state := by
  have isClock : s.isClock = true := beq_iff_eq.mpr style
  refine ⟨follows_handleClock isClock mode a, fun steady => ?_,
    manner_of_style (style_handleClock isClock mode a)⟩
  rcases handleClock_cases isClock mode a with ⟨column, moved, within⟩ | retimed | ⟨digit, entered⟩
  · rw [moved]
    exact cursorFits_clock style (within (steady.cursor.clock style))
  · exact retimed.moves.cursor steady
  · rw [entered]
    exact cursorFits_clockDigit steady style mode digit

/-- Edit actions leave the fields within bounds and the cursor where it can be, in every style. -/
theorem moves_handle (mode : HourMode) (a : Action) (s : Sequence) :
    Moves s (s.handle mode a).state := by
  unfold handle
  split
  · next style => exact moves_handlePositional style a
  · next style => exact moves_handleBlock style a
  · next style => exact moves_handleClock style mode a

end Edits

/-- What hosts make is steady. -/
theorem Made.steady (made : s.Made) : s.Steady := by
  refine ⟨made.sound, ?_⟩
  have fresh := made.fresh
  cases style : s.style with
  | positional => exact cursorFits_positional style (fresh.cursor ▸ made.sound.totalWidth_pos)
  | block marked overwrite autoJump =>
    have first : marked = 0 := by
      have start := fresh.marked
      rw [markedBlock?, style] at start
      exact start
    exact cursorFits_block style (first ▸ List.length_pos_iff.mpr made.sound.bounded.proper)
  | clock => exact cursorFits_clock style (fresh.cursor ▸ Nat.zero_lt_succ 3)

section Computing

/-- One more than the greatest magnitude of a small bound, which has seventeen digits. -/
def smallLimit : Nat := 100000000000000000

/-- Bounds that leave room for one more digit. -/
def Small (limits : List Bounds) : Prop :=
  ∀ b ∈ limits, b.low.natAbs < smallLimit ∧ b.high.natAbs < smallLimit

instance (limits : List Bounds) : Decidable (Small limits) :=
  inferInstanceAs (Decidable (∀ b ∈ limits, b.low.natAbs < smallLimit ∧ b.high.natAbs < smallLimit))

/-- What the editors look up is there, what they subtract is not larger than what they subtract it
from, and what they compute has 64 bits. -/
structure Editable (s : Sequence) : Prop where
  fields : s.value.length = s.limits.length
  defaults : s.default.length = s.limits.length
  proper : 0 < s.limits.length
  columns : 0 < s.totalWidth
  widths : ∀ w ∈ s.widths, 0 < w ∧ w ≤ 17
  /-- The column of the cursor lies in a field, and the field takes any digit there. -/
  positional : s.style = .positional → ∃ field column, locate s.widths s.cursor = (field, column) ∧
    field < s.limits.length ∧ column < s.widths.getD field 0 ∧
    Sequence.columns (s.widths.take field) + column = s.cursor ∧
    ∀ digit ≤ 9, Numeral.InRange
      (replaceDigit (s.widths.getD field 0) column digit (s.field field))
  /-- A digit goes to a field that exists, and the marked field can be extended by it. -/
  block : ∀ marked overwrite autoJump, s.style = .block marked overwrite autoJump →
    marked < s.limits.length ∧ ∀ digit ≤ 9,
      (s.digitTarget marked overwrite autoJump digit).1 < s.limits.length ∧
      Numeral.InRange (s.field marked * 10 + digit)
  /-- A clock has two fields, and each of its columns shows a digit on either face. -/
  clock : s.style = .clock → s.limits = clockLimits ∧ s.cursor < 4 ∧
    ∀ hour ∈ [s.field 0, faceHour (s.field 0)], ∀ digit ∈ timeDigits hour (s.field 1),
      0 ≤ digit ∧ digit ≤ 9
  /-- Steps that can be counted are never zero. -/
  steps : ∀ b, s.limits[1]? = some b → 0 ≤ b.high → ∀ n, ∃ s', s.setStepCount n = .ok s'

variable {limits : List Bounds} {fields : List Int}

theorem small_of_inside (small : Small limits) (inside : Inside limits fields) :
    ∀ v ∈ fields, v.natAbs < smallLimit := by
  induction inside with
  | nil => exact fun _ member => nomatch member
  | cons own _ ih =>
    obtain ⟨⟨low, high⟩, others⟩ := List.forall_mem_cons.mp small
    refine List.forall_mem_cons.mpr ⟨?_, ih others⟩
    unfold Bounds.Contains at own
    unfold smallLimit at low high ⊢
    omega

theorem Sound.field_small (sound : s.Sound) (small : Small s.limits) (i : Nat) :
    (s.field i).natAbs < smallLimit := by
  rw [field, List.getD_eq_getElem?_getD]
  cases found : s.value[i]? with
  | none => decide
  | some v => exact small_of_inside small sound.value v (List.mem_of_getElem? found)

theorem width_le_of_small (small : Small s.limits) {w : Nat} (member : w ∈ s.widths) : w ≤ 17 := by
  obtain ⟨b, inside, rfl⟩ := List.mem_map.mp member
  exact (Numeral.width_le_iff (Nat.zero_lt_succ 16)).mpr (small b inside).2

/-- A digit replaces another one, so the number gets at most nine places larger. -/
theorem inRange_replaceDigit {width column digit : Nat} {old : Int} (small : old.natAbs < smallLimit)
    (narrow : width ≤ 17) (within : column < width) (decimal : digit ≤ 9) :
    Numeral.InRange (replaceDigit width column digit old) := by
  have place : Nat.pow 10 (width - column - 1) ≤ Nat.pow 10 16 :=
    Nat.pow_le_pow_right (by decide) (by omega)
  have top : Nat.pow 10 16 = 10000000000000000 := by decide
  have added : digit * Nat.pow 10 (width - column - 1) ≤ 9 * Nat.pow 10 (width - column - 1) :=
    Nat.mul_le_mul_right _ decimal
  rw [top] at place
  unfold smallLimit at small
  unfold Numeral.InRange Numeral.minimum Numeral.maximum replaceDigit
  dsimp only
  -- Without its two products the goal is linear.
  generalize digit * Nat.pow 10 (width - column - 1) = more at added
  generalize old.natAbs / Nat.pow 10 (width - column - 1) % 10 * Nat.pow 10 (width - column - 1) = less
  omega

theorem digit_of_mem_timeDigits {hour minute : Int} (h : 0 ≤ hour ∧ hour ≤ 99)
    (m : 0 ≤ minute ∧ minute ≤ 99) : ∀ digit ∈ timeDigits hour minute, 0 ≤ digit ∧ digit ≤ 9 := by
  simp only [timeDigits, List.forall_mem_cons]
  refine ⟨by omega, by omega, by omega, by omega, fun _ member => nomatch member⟩

theorem faceHour_bounds (hour : Int) : 1 ≤ faceHour hour ∧ faceHour hour ≤ 12 := by
  unfold faceHour
  split <;> omega

theorem exists_setStepCount {b : Bounds} (second : s.limits[1]? = some b) (nonneg : 0 ≤ b.high)
    (n : Int) : ∃ s', s.setStepCount n = .ok s' := by
  have some' : ¬b.high + 1 = 0 := by omega
  rw [setStepCount, steps?, second]
  exact ⟨_, if_neg some'⟩

theorem Steady.exists_locate (steady : s.Steady) (small : Small s.limits)
    (style : s.style = .positional) :
    ∃ field column, locate s.widths s.cursor = (field, column) ∧ field < s.limits.length ∧
      column < s.widths.getD field 0 ∧ columns (s.widths.take field) + column = s.cursor ∧
      ∀ digit ≤ 9, Numeral.InRange
        (replaceDigit (s.widths.getD field 0) column digit (s.field field)) := by
  obtain ⟨field, column, found, inside, within, place⟩ :=
    locate_spec (steady.cursor.positional style)
  have narrow : s.widths.getD field 0 ≤ 17 := by
    rw [List.getD_eq_getElem?_getD, List.getElem?_eq_getElem inside, Option.getD_some]
    exact width_le_of_small small (List.getElem_mem inside)
  exact ⟨field, column, found, s.length_widths ▸ inside, within, place, fun _ decimal =>
    inRange_replaceDigit (steady.sound.field_small small field) narrow within decimal⟩

theorem inRange_extended (sound : s.Sound) (small : Small s.limits) (marked : Nat) {digit : Nat}
    (decimal : digit ≤ 9) : Numeral.InRange (s.field marked * 10 + digit) := by
  have bounded := sound.field_small small marked
  unfold smallLimit at bounded
  unfold Numeral.InRange Numeral.minimum Numeral.maximum
  omega

theorem Sound.shown_digits (sound : s.Sound) (isClock : s.isClock = true) :
    ∀ hour ∈ [s.field 0, faceHour (s.field 0)], ∀ digit ∈ timeDigits hour (s.field 1),
      0 ≤ digit ∧ digit ≤ 9 := by
  have time := sound.time isClock
  have face := faceHour_bounds (s.field 0)
  rw [List.forall_mem_cons, List.forall_mem_singleton]
  constructor
  · exact digit_of_mem_timeDigits (by omega) (by omega)
  · exact digit_of_mem_timeDigits (by omega) (by omega)

/-- The editors of steady sequences with small bounds find what they look up. -/
theorem Steady.editable (steady : s.Steady) (small : Small s.limits) : s.Editable where
  fields := steady.sound.size
  defaults := steady.sound.default.length_eq.symm
  proper := List.length_pos_iff.mpr steady.sound.bounded.proper
  columns := steady.sound.totalWidth_pos
  widths _ member := ⟨pos_of_mem_widths member, width_le_of_small small member⟩
  positional style := steady.exists_locate small style
  block marked _ _ style :=
    have inside := steady.cursor.block style
    ⟨inside, fun _ decimal => ⟨digitTarget_lt inside, inRange_extended steady.sound small marked decimal⟩⟩
  clock style :=
    have isClock : s.isClock = true := beq_iff_eq.mpr style
    ⟨steady.sound.clock isClock, steady.cursor.clock style, steady.sound.shown_digits isClock⟩
  steps _ second nonneg := exists_setStepCount second nonneg

end Computing

end Settings.Sequence
