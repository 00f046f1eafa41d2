import Mathlib.Data.List.Forall2
import Settings.Editor.Sequence.View
import Settings.Proofs.Numeral
import Settings.Proofs.Stored.Key

/-!
# Sequences

No edit changes the bounds, the separator or the default of a sequence, and every edit leaves the
fields within their bounds. So the string form of a sequence is read back by any sequence that was made
in the same way.

* `follows_handle`: edit actions keep the setup and leave the fields within bounds.
* `decode_encode`: the fields come back if digits and signs cannot be mistaken for separators.
-/
namespace Settings

namespace Sequence

/-- As many fields as there are bounds, each within its own. -/
abbrev Inside (limits : List Bounds) (fields : List Int) : Prop :=
  List.Forall₂ Bounds.Contains limits fields

/-- Bounds that a sequence can be made with. -/
structure Bounded (limits : List Bounds) : Prop where
  proper : limits ≠ []
  ordered : ∀ b ∈ limits, b.Ordered
  inRange : ∀ b ∈ limits, Numeral.InRange b.low ∧ Numeral.InRange b.high

/-- The fields are within bounds, and clocks have the bounds of a time of day. -/
structure Sound (s : Sequence) : Prop where
  bounded : Bounded s.limits
  value : Inside s.limits s.value
  default : Inside s.limits s.default
  clock : s.isClock = true → s.limits = clockLimits

/-- What no edit changes. -/
structure SameSetup (s s' : Sequence) : Prop where
  limits : s'.limits = s.limits
  separator : s'.separator = s.separator
  default : s'.default = s.default
  clock : s'.isClock = s.isClock

theorem SameSetup.refl (s : Sequence) : SameSetup s s := ⟨rfl, rfl, rfl, rfl⟩

theorem SameSetup.trans {s s' s'' : Sequence} (first : SameSetup s s') (second : SameSetup s' s'') :
    SameSetup s s'' :=
  ⟨second.limits.trans first.limits, second.separator.trans first.separator,
    second.default.trans first.default, second.clock.trans first.clock⟩

/-- An edit that keeps the setup and leaves the fields within bounds. -/
structure Follows (s s' : Sequence) : Prop where
  setup : SameSetup s s'
  value : s.Sound → Inside s.limits s'.value

variable {s s' : Sequence} {limits : List Bounds} {fields : List Int}

theorem Sound.follows (sound : s.Sound) (follows : Follows s s') : s'.Sound := by
  obtain ⟨same, value⟩ := follows
  refine ⟨same.limits ▸ sound.bounded, ?_, ?_, fun isClock => ?_⟩
  · rw [same.limits]
    exact value sound
  · rw [same.limits, same.default]
    exact sound.default
  · rw [same.limits]
    exact sound.clock (same.clock ▸ isClock)

theorem Follows.refl (s : Sequence) : Follows s s := ⟨.refl s, Sound.value⟩

theorem Follows.trans {s s' s'' : Sequence} (first : Follows s s') (second : Follows s' s'') :
    Follows s s'' :=
  ⟨first.setup.trans second.setup, fun sound =>
    first.setup.limits ▸ second.value (sound.follows first)⟩

theorem inside_fit (ordered : ∀ b ∈ limits, b.Ordered) (fields : List Int) :
    Inside limits (fit limits fields) := by
  induction limits generalizing fields with
  | nil => exact .nil
  | cons b rest ih =>
    obtain ⟨own, others⟩ := List.forall_mem_cons.mp ordered
    cases fields with
    | nil => exact .cons ⟨Int.le_refl _, own⟩ (ih others [])
    | cons v vs => exact .cons (Bounds.contains_clamp own v) (ih others vs)

theorem fit_of_inside (inside : Inside limits fields) : fit limits fields = fields := by
  induction inside with
  | nil => rfl
  | cons own _ ih => rw [fit, Bounds.clamp_of_contains own, ih]

theorem inside_clampFields (ordered : ∀ b ∈ limits, b.Ordered)
    (size : fields.length = limits.length) :
    Inside limits (clampFields limits fields) := by
  induction limits generalizing fields with
  | nil => exact .nil
  | cons b rest ih =>
    obtain ⟨own, others⟩ := List.forall_mem_cons.mp ordered
    cases fields with
    | nil => cases size
    | cons v vs => exact .cons (Bounds.contains_clamp own v) (ih others (Nat.succ.inj size))

theorem inRange_of_inside (bounded : Bounded limits) (inside : Inside limits fields) :
    ∀ v ∈ fields, Numeral.InRange v := by
  have ranges := bounded.inRange
  clear bounded
  induction inside with
  | nil => exact fun _ member => nomatch member
  | cons own _ ih =>
    obtain ⟨⟨low, high⟩, others⟩ := List.forall_mem_cons.mp ranges
    refine List.forall_mem_cons.mpr ⟨?_, ih others⟩
    unfold Bounds.Contains at own
    unfold Numeral.InRange at low high ⊢
    omega

theorem Sound.size (sound : s.Sound) : s.value.length = s.limits.length := sound.value.length_eq.symm

section Edits

theorem follows_setFields (fields : List Int) (s : Sequence) : Follows s (s.setFields fields) :=
  ⟨⟨rfl, rfl, rfl, rfl⟩, fun sound => inside_fit sound.bounded.ordered fields⟩

theorem follows_decode (text : String) (s : Sequence) : Follows s (s.decode text) :=
  follows_setFields _ s

theorem follows_reset (s : Sequence) : Follows s s.reset := ⟨⟨rfl, rfl, rfl, rfl⟩, Sound.default⟩

/-- An assigned value replaces the fields. -/
theorem exists_setFields_of_assign {v : Value} (taken : s.assign v = .ok s') :
    ∃ fields, s' = s.setFields fields := by
  cases v with
  | list items =>
    rw [assign] at taken
    split at taken
    · next fields _ =>
      cases taken
      exact ⟨fields, rfl⟩
    · cases taken
  | text t =>
    cases taken
    exact ⟨_, rfl⟩
  | int | real =>
    rw [assign] at taken
    split at taken
    · split at taken
      · next n _ =>
        cases taken
        exact ⟨[n], rfl⟩
      · cases taken
    · cases taken
  | _ => cases taken

/-- So does a count of steps. -/
theorem exists_setFields_of_setStepCount {n : Int} (taken : s.setStepCount n = .ok s') :
    ∃ fields, s' = s.setFields fields := by
  unfold setStepCount at taken
  split at taken
  · cases taken
  · split at taken
    · cases taken
    · cases taken
      exact ⟨_, rfl⟩

theorem follows_assign {v : Value} (taken : s.assign v = .ok s') : Follows s s' := by
  obtain ⟨fields, rfl⟩ := exists_setFields_of_assign taken
  exact follows_setFields fields s

theorem follows_setStepCount {n : Int} (taken : s.setStepCount n = .ok s') : Follows s s' := by
  obtain ⟨fields, rfl⟩ := exists_setFields_of_setStepCount taken
  exact follows_setFields fields s

/-- Fields that were put in anyhow are clamped. -/
theorem follows_settle (same : SameSetup s s') (size : s.Sound → s'.value.length = s.limits.length) :
    Follows s s'.settle.state := by
  have inside : s.Sound → Inside s.limits (clampFields s'.limits s'.value) := by
    intro sound
    rw [same.limits]
    exact inside_clampFields sound.bounded.ordered (size sound)
  unfold settle
  dsimp only
  split
  · exact ⟨⟨same.limits, same.separator, same.default, same.clock⟩, inside⟩
  · exact ⟨⟨same.limits, same.separator, same.default, same.clock⟩, inside⟩

theorem follows_enterDigit (digit : Nat) (s : Sequence) : Follows s (s.enterDigit digit).state := by
  refine follows_settle ⟨rfl, rfl, rfl, rfl⟩ fun sound => ?_
  dsimp only
  rw [List.length_set]
  exact sound.size

/-- An action moves the cursor of a positional sequence within its columns or enters a digit. -/
theorem handlePositional_cases (a : Action) (s : Sequence) :
    (∃ column, (s.handlePositional a).state = { s with cursor := column } ∧
      (s.cursor < s.totalWidth → column < s.totalWidth)) ∨
    ∃ digit, (s.handlePositional a).state = (s.enterDigit digit).state := by
  unfold handlePositional
  dsimp only
  cases a with
  | first | last => exact .inl ⟨_, rfl, by omega⟩
  | left =>
    dsimp only
    split
    · exact .inl ⟨_, rfl, id⟩
    · exact .inl ⟨_, rfl, by omega⟩
  | right =>
    dsimp only
    split
    · exact .inl ⟨_, rfl, by omega⟩
    · exact .inl ⟨_, rfl, by omega⟩
  | _ =>
    dsimp only
    split
    · exact .inr ⟨_, rfl⟩
    · exact .inl ⟨_, rfl, id⟩

theorem follows_handlePositional (a : Action) (s : Sequence) :
    Follows s (s.handlePositional a).state := by
  rcases s.handlePositional_cases a with ⟨column, moved, _⟩ | ⟨digit, entered⟩
  · rw [moved]
    exact ⟨⟨rfl, rfl, rfl, rfl⟩, Sound.value⟩
  · rw [entered]
    exact follows_enterDigit digit s

/-- Moving the marked field changes nothing else. -/
theorem follows_setBlock (notClock : s.isClock = false) (marked : Nat) (overwrite autoJump : Bool) :
    Follows s (s.setBlock marked overwrite autoJump).syncCursor :=
  ⟨⟨rfl, rfl, rfl, notClock.symm⟩, Sound.value⟩

theorem follows_writeBlock (notClock : s.isClock = false) (block : Nat) (n : Int) (autoJump : Bool) :
    Follows s (s.writeBlock block n autoJump).state := by
  have inside : s.Sound → Inside s.limits (clampFields s.limits (s.value.set block n)) :=
    fun sound => inside_clampFields sound.bounded.ordered (by rw [List.length_set, sound.size])
  unfold writeBlock
  dsimp only
  split
  · split
    · exact ⟨⟨rfl, rfl, rfl, notClock.symm⟩, inside⟩
    · exact ⟨⟨rfl, rfl, rfl, notClock.symm⟩, inside⟩
  · exact ⟨⟨rfl, rfl, rfl, notClock.symm⟩, inside⟩

/-- A digit that jumps goes to a field that exists. -/
theorem digitTarget_lt {marked digit : Nat} {overwrite autoJump : Bool}
    (inside : marked < s.limits.length) :
    (s.digitTarget marked overwrite autoJump digit).1 < s.limits.length := by
  unfold digitTarget
  dsimp only
  split
  · exact inside
  · split
    · next jumps =>
      simp only [Bool.and_eq_true, decide_eq_true_eq] at jumps
      exact jumps.2
    · exact inside

/-- An action leaves the marked field of a block editor, marks another one or writes into one. -/
theorem handleBlock_cases (marked : Nat) (overwrite autoJump : Bool) (a : Action) (s : Sequence) :
    ((s.handleBlock marked overwrite autoJump a).state = s ∨
      (s.handleBlock marked overwrite autoJump a).state = s.syncCursor) ∨
    (∃ block, (s.handleBlock marked overwrite autoJump a).state =
        (s.setBlock block true autoJump).syncCursor ∧
      (marked < s.limits.length → block < s.limits.length)) ∨
    ∃ block n, (s.handleBlock marked overwrite autoJump a).state =
        (s.writeBlock block n autoJump).state ∧
      (marked < s.limits.length → block < s.limits.length) := by
  unfold handleBlock
  dsimp only
  cases a with
  | left | right =>
    dsimp only
    split <;> exact .inr (.inl ⟨_, rfl, by omega⟩)
  | first | last => exact .inr (.inl ⟨_, rfl, by omega⟩)
  | digit | character =>
    dsimp only
    split
    · exact .inl (.inl rfl)
    · exact .inr (.inr ⟨_, _, rfl, digitTarget_lt⟩)
  | _ => exact .inl (.inr rfl)

theorem follows_handleBlock (notClock : s.isClock = false) (marked : Nat) (overwrite autoJump : Bool)
    (a : Action) : Follows s (s.handleBlock marked overwrite autoJump a).state := by
  rcases s.handleBlock_cases marked overwrite autoJump a with
    (same | synced) | ⟨block, moved, _⟩ | ⟨block, n, written, _⟩
  · rw [same]
    exact .refl s
  · rw [synced]
    exact ⟨⟨rfl, rfl, rfl, rfl⟩, Sound.value⟩
  · rw [moved]
    exact follows_setBlock notClock block true autoJump
  · rw [written]
    exact follows_writeBlock notClock block n autoJump

end Edits

section Clocks

theorem inside_clockLimits {hour minute : Int} (h : 0 ≤ hour ∧ hour ≤ 23)
    (m : 0 ≤ minute ∧ minute ≤ 59) :
    Inside clockLimits [hour, minute] :=
  .cons h (.cons m .nil)

/-- A clock has the fields for hour and minute. -/
theorem Sound.value_of_clock (sound : s.Sound) (isClock : s.isClock = true) :
    s.value = [s.field 0, s.field 1] := by
  have inside := sound.value
  rw [sound.clock isClock] at inside
  unfold field
  generalize s.value = fields at inside ⊢
  cases inside with
  | cons _ rest =>
    cases rest with
    | cons _ nothing =>
      cases nothing
      rfl

/-- A clock shows a time of day. -/
theorem Sound.time (sound : s.Sound) (isClock : s.isClock = true) :
    (0 ≤ s.field 0 ∧ s.field 0 ≤ 23) ∧ 0 ≤ s.field 1 ∧ s.field 1 ≤ 59 := by
  have inside := sound.value
  rw [sound.clock isClock, sound.value_of_clock isClock] at inside
  cases inside with
  | cons hour rest =>
    cases rest with
    | cons minute _ => exact ⟨hour, minute⟩

/-- The sequence is left alone, or it is a clock that is set to another time of day. -/
inductive Retimed (s : Sequence) : Sequence → Prop where
  | same : Retimed s s
  | time (isClock : s.isClock = true) (hour minute : Int)
      (fits : s.Sound → (0 ≤ hour ∧ hour ≤ 23) ∧ 0 ≤ minute ∧ minute ≤ 59) :
    Retimed s { s with value := [hour, minute] }

theorem Retimed.follows (retimed : Retimed s s') : Follows s s' := by
  cases retimed with
  | same => exact .refl s
  | time isClock hour minute fits =>
    refine ⟨⟨rfl, rfl, rfl, rfl⟩, fun sound => ?_⟩
    rw [sound.clock isClock]
    exact inside_clockLimits (fits sound).1 (fits sound).2

theorem retimed_increment (s : Sequence) : Retimed s s.increment.1 := by
  unfold increment
  split
  · next isClock =>
    unfold nextMinute
    dsimp only
    split
    · refine .time isClock _ _ fun sound => ?_
      have time := sound.time isClock
      split <;> omega
    · refine .time isClock _ _ fun sound => ?_
      have time := sound.time isClock
      omega
  · exact .same

theorem retimed_decrement (s : Sequence) : Retimed s s.decrement.1 := by
  unfold decrement
  split
  · next isClock =>
    unfold previousMinute
    dsimp only
    split
    · refine .time isClock _ _ fun sound => ?_
      have time := sound.time isClock
      split <;> omega
    · refine .time isClock _ _ fun sound => ?_
      have time := sound.time isClock
      omega
  · exact .same

theorem follows_increment (s : Sequence) : Follows s s.increment.1 := s.retimed_increment.follows

theorem follows_decrement (s : Sequence) : Follows s s.decrement.1 := s.retimed_decrement.follows

/-- A digit that a clock takes replaces the time. -/
theorem clockDigit_cases (mode : HourMode) (digit : Nat) (s : Sequence) :
    (s.clockDigit mode digit).state = s ∨ ∃ hour minute column,
      s.clockDigit mode digit = settle { s with value := [hour, minute], cursor := column } := by
  unfold clockDigit
  cases mode with
  | twelve =>
    dsimp only
    split
    · exact .inr ⟨_, _, _, rfl⟩
    · exact .inl rfl
  | twentyFour =>
    dsimp only
    split
    · exact .inr ⟨_, _, _, rfl⟩
    · exact .inl rfl

theorem follows_clockDigit (isClock : s.isClock = true) (mode : HourMode) (digit : Nat) :
    Follows s (s.clockDigit mode digit).state := by
  rcases s.clockDigit_cases mode digit with same | ⟨hour, minute, column, settled⟩
  · rw [same]
    exact .refl s
  · rw [settled]
    refine follows_settle ⟨rfl, rfl, rfl, rfl⟩ fun sound => ?_
    rw [sound.clock isClock]
    rfl

/-- An action moves the cursor of a clock within its columns, changes the half of the day or enters a
digit. -/
theorem handleClock_cases (isClock : s.isClock = true) (mode : HourMode) (a : Action) :
    (∃ column, (s.handleClock mode a).state = { s with cursor := column } ∧
      (s.cursor < 4 → column < 4)) ∨
    Retimed s (s.handleClock mode a).state ∨
    ∃ digit, (s.handleClock mode a).state = (s.clockDigit mode digit).state := by
  unfold handleClock
  dsimp only
  cases a with
  | first | last => exact .inl ⟨_, rfl, by omega⟩
  | left | right =>
    dsimp only
    split
    · exact .inr (.inl .same)
    · exact .inl ⟨_, rfl, by omega⟩
  | delete | backspace =>
    dsimp only
    split
    · refine .inr (.inl (.time isClock _ _ fun sound => ?_))
      have time := sound.time isClock
      omega
    · exact .inr (.inl .same)
  | _ =>
    dsimp only
    split
    · exact .inr (.inr ⟨_, rfl⟩)
    · exact .inr (.inl .same)

theorem follows_handleClock (isClock : s.isClock = true) (mode : HourMode) (a : Action) :
    Follows s (s.handleClock mode a).state := by
  rcases handleClock_cases isClock mode a with ⟨column, moved, _⟩ | retimed | ⟨digit, entered⟩
  · rw [moved]
    exact ⟨⟨rfl, rfl, rfl, rfl⟩, Sound.value⟩
  · exact retimed.follows
  · rw [entered]
    exact follows_clockDigit isClock mode digit

end Clocks

/-- Edit actions keep the setup and leave the fields within bounds. -/
theorem follows_handle (mode : HourMode) (a : Action) (s : Sequence) :
    Follows s (s.handle mode a).state := by
  unfold handle
  split
  · exact follows_handlePositional a s
  · next marked overwrite autoJump style =>
    exact follows_handleBlock (by simp [isClock, style]) marked overwrite autoJump a
  · next style => exact follows_handleClock (by simp [isClock, style]) mode a

section Frame

/-- What no edit changes: all but the fields and the place of the cursor. -/
def frame (s : Sequence) : Sequence := { s with value := [], cursor := 0, style := .positional }

theorem looks_of_frame (same : s'.frame = s.frame) :
    s'.censor = s.censor ∧ s'.hidden = s.hidden ∧ s'.scalar = s.scalar := by
  injection same with _ _ _ _ _ censor hidden scalar _
  exact ⟨censor, hidden, scalar⟩

theorem frame_settle (s : Sequence) : s.settle.state.frame = s.frame := by
  unfold settle
  dsimp only
  split <;> rfl

theorem frame_writeBlock (block : Nat) (n : Int) (autoJump : Bool) (s : Sequence) :
    (s.writeBlock block n autoJump).state.frame = s.frame := by
  unfold writeBlock
  dsimp only
  split
  · split <;> rfl
  · rfl

theorem Retimed.frame (retimed : Retimed s s') : s'.frame = s.frame := by
  cases retimed <;> rfl

theorem frame_handle (mode : HourMode) (a : Action) (s : Sequence) :
    (s.handle mode a).state.frame = s.frame := by
  unfold handle
  split
  · rcases s.handlePositional_cases a with ⟨column, moved, _⟩ | ⟨digit, entered⟩
    · rw [moved]
      rfl
    · rw [entered, enterDigit, frame_settle]
      rfl
  · next marked overwrite autoJump style =>
    rcases s.handleBlock_cases marked overwrite autoJump a with
      (same | synced) | ⟨block, moved, _⟩ | ⟨block, n, written, _⟩
    · rw [same]
    · rw [synced]
      rfl
    · rw [moved]
      rfl
    · rw [written, frame_writeBlock]
  · next style =>
    rcases handleClock_cases (s := s) (by simp [isClock, style]) mode a with
      ⟨column, moved, _⟩ | retimed | ⟨digit, entered⟩
    · rw [moved]
      rfl
    · exact retimed.frame
    · rcases s.clockDigit_cases mode digit with same | ⟨hour, minute, column, settled⟩
      · rw [entered, same]
      · rw [entered, settled, frame_settle]
        rfl

end Frame

section Scalar

/-- Only a sequence of one field is handed to the host as a number. -/
def Single (s : Sequence) : Prop := s.scalar = true → s.limits.length = 1

theorem Single.follows (single : s.Single) (follows : Follows s s') (scalar : s'.scalar = s.scalar) :
    s'.Single := by
  intro isScalar
  rw [follows.setup.limits]
  exact single (scalar ▸ isScalar)

end Scalar

section Codec

variable {separator : Char}

/-- A separator that cannot stand in a numeral. -/
def Separates (separator : Char) : Prop := separator.isDigit = false ∧ separator ≠ '-'

instance (separator : Char) : Decidable (Separates separator) :=
  inferInstanceAs (Decidable (separator.isDigit = false ∧ separator ≠ '-'))

/-- A separator that cannot stand in the numerals of fields within bounds. -/
structure Divides (separator : Char) (limits : List Bounds) : Prop where
  notDigit : separator.isDigit = false
  /-- A minus sign does if no field can be negative. -/
  sign : separator = '-' → ∀ b ∈ limits, 0 ≤ b.low

theorem Separates.divides (separates : Separates separator) (limits : List Bounds) :
    Divides separator limits :=
  ⟨separates.1, fun sign => absurd sign separates.2⟩

theorem nonneg_of_inside (inside : Inside limits fields) (nonneg : ∀ b ∈ limits, 0 ≤ b.low) :
    ∀ v ∈ fields, 0 ≤ v := by
  induction inside with
  | nil => exact fun _ member => nomatch member
  | cons own _ ih =>
    obtain ⟨first, others⟩ := List.forall_mem_cons.mp nonneg
    exact List.forall_mem_cons.mpr ⟨Int.le_trans first own.1, ih others⟩

theorem Divides.not_mem_chars (divides : Divides separator limits) (inside : Inside limits fields) :
    ∀ v ∈ fields, separator ∉ Numeral.chars v := by
  intro v member there
  rcases Numeral.mem_chars there with digit | ⟨sign, negative⟩
  · rw [divides.notDigit] at digit
    cases digit
  · have nonneg := nonneg_of_inside inside (divides.sign sign) v member
    omega

/-- Joined fields are cut into the fields again. -/
theorem splitAt_joinFields {first : Int} {rest : List Int}
    (absent : ∀ v ∈ first :: rest, separator ∉ Numeral.chars v) :
    Text.splitAt separator (joinFields separator (first :: rest)) =
      (first :: rest).map Numeral.chars := by
  induction rest generalizing first with
  | nil => exact Text.splitAt_of_not_mem (absent first List.mem_cons_self)
  | cons next others ih =>
    obtain ⟨own, absent⟩ := List.forall_mem_cons.mp absent
    have shape : joinFields separator (first :: next :: others) =
      Numeral.chars first ++ separator :: joinFields separator (next :: others) := rfl
    rw [shape, Text.splitAt_append_cons own, ih absent, List.map_cons]
    rfl

theorem readFields_chars {default : List Int} (size : default.length = fields.length)
    (inRange : ∀ v ∈ fields, Numeral.InRange v) :
    readFields default (fields.map Numeral.chars) = fields := by
  induction fields generalizing default with
  | nil => cases default <;> rfl
  | cons v rest ih =>
    obtain ⟨own, others⟩ := List.forall_mem_cons.mp inRange
    cases default with
    | nil => cases size
    | cons d ds =>
      rw [List.map_cons, readFields, Numeral.read?_trimChars_chars own, Option.getD_some,
        ih (Nat.succ.inj size) others]

/-- Sequences with the same bounds, default and separator take the same fields from a text. -/
theorem value_decode {fresh : Sequence} (separator : fresh.separator = s.separator)
    (limits : fresh.limits = s.limits) (default : fresh.default = s.default) (text : String) :
    (fresh.decode text).value = (s.decode text).value := by
  rw [decode, decode, setFields, setFields, separator, limits, default]

/-- The string form is read back by every sequence with the same bounds, default and separator. -/
theorem decode_encode {fresh : Sequence} (sound : s.Sound) (divides : Divides s.separator s.limits)
    (separator : fresh.separator = s.separator) (limits : fresh.limits = s.limits)
    (default : fresh.default = s.default) : (fresh.decode s.encode).value = s.value := by
  have proper : s.value ≠ [] := by
    intro empty
    have size := sound.size
    rw [empty] at size
    exact sound.bounded.proper (List.length_eq_zero_iff.mp size.symm)
  have pieces : Text.splitAt s.separator s.encode.toList = s.value.map Numeral.chars := by
    have absent := divides.not_mem_chars sound.value
    obtain ⟨v, rest, shape⟩ := List.exists_cons_of_ne_nil proper
    rw [shape] at absent
    rw [encode, String.toList_ofList, plainChars, shape]
    exact splitAt_joinFields absent
  have size : s.default.length = s.value.length :=
    sound.default.length_eq.symm.trans sound.value.length_eq
  have read := readFields_chars size (inRange_of_inside sound.bounded sound.value)
  rw [decode, setFields, separator, limits, default, pieces, read]
  exact fit_of_inside sound.value

theorem numberItems_map_int (inRange : ∀ v ∈ fields, Numeral.InRange v) :
    numberItems (fields.map .int) = .ok fields := by
  induction fields with
  | nil => rfl
  | cons v rest ih =>
    obtain ⟨own, others⟩ := List.forall_mem_cons.mp inRange
    rw [List.map_cons, numberItems, Value.int64?_int own]
    dsimp only
    rw [ih others]
    rfl

/-- The value is taken by every sequence with the same bounds that hands it out in the same way. -/
theorem assign_toValue {fresh : Sequence} (sound : s.Sound) (single : s.Single)
    (limits : fresh.limits = s.limits) (scalar : fresh.scalar = s.scalar) :
    ∃ s', fresh.assign s.toValue = .ok s' ∧ s'.value = s.value ∧ s'.separator = fresh.separator ∧
      s'.scalar = fresh.scalar := by
  have inRange := inRange_of_inside sound.bounded sound.value
  refine ⟨fresh.setFields s.value, ?_, ?_, rfl, rfl⟩
  · rw [toValue]
    split
    · next isScalar =>
      obtain ⟨v, only⟩ := List.length_eq_one_iff.mp (sound.size.trans (single isScalar))
      rw [only] at inRange
      rw [field, only, List.getD_cons_zero, assign, if_pos (scalar.trans isScalar),
        Value.int64?_int (inRange v List.mem_cons_self)]
    · rw [Value.ofInts, assign, numberItems_map_int inRange]
  · rw [setFields, limits, fit_of_inside sound.value]

theorem encode_reset {fresh : Sequence} (separator : fresh.separator = s.separator)
    (default : fresh.default = s.default) (isDefault : s.isDefault = true) :
    fresh.reset.encode = s.encode := by
  have same : s.value = s.default := eq_of_beq isDefault
  rw [encode, encode, plainChars, plainChars, same, ← default, ← separator]
  rfl

end Codec

section Making

/-- The sequences that hosts make, from numbers of 64 bits. -/
inductive Made : Sequence → Prop where
  | make (separator : Char) (limits : List Bounds) (default : List Int) (s : Sequence)
      (made : Sequence.make separator limits default = .ok s)
      (inRange : ∀ b ∈ limits, Numeral.InRange b.low ∧ Numeral.InRange b.high) : Made s
  | ip (default : List Int) (autoJump : Bool) : Made (.ip default autoJump)
  | cecAddress (default : List Int) (autoJump : Bool) : Made (.cecAddress default autoJump)
  | mac (default : List Int) : Made (.mac default)
  | date (day month year : Int) : Made (.date day month year)
  | dateOfTimestamp (timestamp : Int) : Made (.dateOfTimestamp timestamp)
  | clock (hour minute : Int) : Made (.clock hour minute)
  | clockOfTimestamp (timestamp : Int) : Made (.clockOfTimestamp timestamp)
  | fixedPoint (default : List Int) (whole steps : Bounds) (s : Sequence)
      (made : Sequence.fixedPoint default whole steps = .ok s)
      (inRange : ∀ b ∈ [whole, steps], Numeral.InRange b.low ∧ Numeral.InRange b.high) : Made s
  | integer (default : Int) (bounds : Option Bounds) (s : Sequence)
      (made : Sequence.integer default bounds = .ok s)
      (inRange : ∀ b ∈ bounds, Numeral.InRange b.low ∧ Numeral.InRange b.high) : Made s
  | pin (default : Int) (length : Nat) (censor : Char) (s : Sequence)
      (made : Sequence.pin default length censor = .ok s) : Made s
  | position (default highs : List Int) (s : Sequence)
      (made : Sequence.position default highs = .ok s)
      (inRange : ∀ high ∈ highs, Numeral.InRange high) : Made s
  | censored (censor : Char) (s : Sequence) (made : Made s) : Made (s.censored censor)

/-- A sequence over bounds is sound. -/
theorem sound_ofLimits (bounded : Bounded limits) (separator : Char) (default : List Int) :
    (ofLimits separator limits default).Sound :=
  ⟨bounded, inside_fit bounded.ordered default, inside_fit bounded.ordered default,
    fun isClock => nomatch isClock⟩

/-- Styles that are not the clock's and other looks do not matter. -/
theorem Sound.restyle (sound : s.Sound) (limits : s'.limits = s.limits) (value : s'.value = s.value)
    (default : s'.default = s.default) (clock : s'.isClock = true → s.isClock = true) : s'.Sound := by
  refine ⟨limits ▸ sound.bounded, ?_, ?_, fun isClock => ?_⟩
  · rw [limits, value]
    exact sound.value
  · rw [limits, default]
    exact sound.default
  · rw [limits]
    exact sound.clock (clock isClock)

theorem bounded_of_decide (proper : limits ≠ [])
    (fine : ∀ b ∈ limits, b.Ordered ∧ Numeral.InRange b.low ∧ Numeral.InRange b.high) :
    Bounded limits :=
  ⟨proper, fun b member => (fine b member).1, fun b member => (fine b member).2⟩

/-- Proper bounds are all that the check lets through. -/
theorem of_make {separator : Char} {default : List Int}
    (made : Sequence.make separator limits default = .ok s) :
    s = ofLimits separator limits default ∧ limits ≠ [] ∧ ∀ b ∈ limits, b.Ordered := by
  unfold Sequence.make at made
  split at made
  · cases made
  · next proper =>
    split at made
    · next ordered =>
      cases made
      exact ⟨rfl, fun empty => proper (List.isEmpty_iff.mpr empty), by simpa using ordered⟩
    · cases made

theorem of_integer {default : Int} {bounds : Option Bounds}
    (made : Sequence.integer default bounds = .ok s) :
    s = (ofLimits ':' [bounds.getD integerBounds] [default]).asScalar ∧
      (bounds.getD integerBounds).Ordered := by
  unfold Sequence.integer at made
  cases plain : Sequence.make ':' [bounds.getD integerBounds] [default] with
  | error violation => rw [plain] at made; cases made
  | ok s =>
    rw [plain] at made
    cases made
    obtain ⟨rfl, _, ordered⟩ := of_make plain
    exact ⟨rfl, ordered _ List.mem_cons_self⟩

theorem of_pin {default : Int} {length : Nat} {censor : Char}
    (made : Sequence.pin default length censor = .ok s) :
    s = ((ofLimits ':' [⟨0, (Nat.pow 10 length : Int) - 1⟩] [default]).censored censor).asScalar ∧
      length ≤ 18 := by
  unfold Sequence.pin at made
  split at made
  · next few =>
    cases made
    exact ⟨rfl, few.2⟩
  · cases made

theorem sound_clock (hour minute : Int) : (clock hour minute).Sound := by
  have bounded : Bounded clockLimits := bounded_of_decide (by decide) (by decide)
  have sound := sound_ofLimits bounded ':' [hour, minute]
  exact ⟨sound.bounded, sound.value, sound.default, fun _ => rfl⟩

theorem bounded_pin {length : Nat} (few : length ≤ 18) :
    Bounded [⟨0, (Nat.pow 10 length : Int) - 1⟩] := by
  have small : Nat.pow 10 length ≤ Nat.pow 10 18 := Nat.pow_le_pow_right (by decide) few
  have positive : 0 < Nat.pow 10 length := Nat.pow_pos (by decide)
  have top : Nat.pow 10 18 = 1000000000000000000 := by decide
  rw [top] at small
  refine bounded_of_decide (List.cons_ne_nil _ _) fun b member => ?_
  rw [List.mem_singleton.mp member]
  unfold Bounds.Ordered Numeral.InRange Numeral.minimum Numeral.maximum
  dsimp only
  omega

/-- The forms that hosts give sequences, over proper bounds. -/
inductive Formed : Sequence → Prop where
  | plain (separator : Char) (limits : List Bounds) (default : List Int) (bounded : Bounded limits) :
    Formed (ofLimits separator limits default)
  | scalar (b : Bounds) (default : Int) (bounded : Bounded [b]) :
    Formed (ofLimits ':' [b] [default]).asScalar
  /-- Fields that are shown without leading zeros have a separator that keeps them apart. -/
  | blocks (separator : Char) (limits : List Bounds) (default : List Int) (autoJump : Bool)
      (separates : Separates separator) (bounded : Bounded limits) :
    Formed ((ofLimits separator limits default).inBlocks autoJump)
  | clock (hour minute : Int) : Formed (.clock hour minute)
  | censored (censor : Char) (s : Sequence) (formed : Formed s) : Formed (s.censored censor)

theorem formed_make {separator : Char} {default : List Int}
    (made : Sequence.make separator limits default = .ok s)
    (inRange : ∀ b ∈ limits, Numeral.InRange b.low ∧ Numeral.InRange b.high) : s.Formed := by
  obtain ⟨rfl, proper, ordered⟩ := of_make made
  exact .plain separator limits default ⟨proper, ordered, inRange⟩

theorem formed_date (day month year : Int) : (date day month year).Formed :=
  .plain '.' dateLimits _ (bounded_of_decide (by decide) (by decide))

theorem Made.formed (made : s.Made) : s.Formed := by
  induction made with
  | make separator limits default s made inRange => exact formed_make made inRange
  | ip default autoJump =>
    exact .blocks '.' ipLimits default autoJump (by decide) (bounded_of_decide (by decide) (by decide))
  | cecAddress default autoJump =>
    exact .blocks '.' cecLimits default autoJump (by decide) (bounded_of_decide (by decide) (by decide))
  | mac default =>
    exact .blocks ':' macLimits default false (by decide) (bounded_of_decide (by decide) (by decide))
  | date day month year => exact formed_date day month year
  | dateOfTimestamp timestamp =>
    unfold Sequence.dateOfTimestamp
    split <;> exact formed_date _ _ _
  | clock hour minute => exact .clock hour minute
  | clockOfTimestamp timestamp =>
    unfold Sequence.clockOfTimestamp
    split <;> exact .clock _ _
  | fixedPoint default whole steps s made inRange => exact formed_make made inRange
  | integer default bounds s made inRange =>
    obtain ⟨rfl, ordered⟩ := of_integer made
    refine .scalar _ default ⟨List.cons_ne_nil _ _, List.forall_mem_singleton.mpr ordered,
      List.forall_mem_singleton.mpr ?_⟩
    cases bounds with
    | none => decide
    | some own => exact inRange own rfl
  | pin default length censor s made =>
    obtain ⟨rfl, few⟩ := of_pin made
    exact .censored censor _ (.scalar _ default (bounded_pin few))
  | position default highs s made inRange =>
    refine formed_make made fun b member => ?_
    obtain ⟨high, inside, rfl⟩ := List.mem_map.mp member
    have zero : Numeral.InRange 0 := by decide
    exact ⟨zero, inRange high inside⟩
  | censored censor s made formed => exact .censored censor s formed

theorem Formed.sound (formed : s.Formed) : s.Sound := by
  induction formed with
  | plain separator limits default bounded => exact sound_ofLimits bounded separator default
  | scalar b default bounded => exact (sound_ofLimits bounded ':' [default]).restyle rfl rfl rfl id
  | blocks separator limits default autoJump _ bounded =>
    exact (sound_ofLimits bounded separator default).restyle rfl rfl rfl fun isClock => nomatch isClock
  | clock hour minute => exact sound_clock hour minute
  | censored censor s formed sound => exact sound.restyle rfl rfl rfl id

/-- What hosts make is sound. -/
theorem Made.sound (made : s.Made) : s.Sound := made.formed.sound

theorem single_of_plain (plain : s.scalar = false) : s.Single := by
  intro isScalar
  rw [plain] at isScalar
  cases isScalar

theorem Formed.single (formed : s.Formed) : s.Single := by
  induction formed with
  | scalar b default bounded => exact fun _ => rfl
  | censored censor s formed single => exact single
  | _ => exact single_of_plain rfl

/-- Hosts make scalars of one field only. -/
theorem Made.single (made : s.Made) : s.Single := made.formed.single

/-- A sequence that nothing was done to. -/
structure Fresh (s : Sequence) : Prop where
  value : s.value = s.default
  cursor : s.cursor = 0
  marked : s.markedBlock?.getD 0 = 0

theorem Formed.fresh (formed : s.Formed) : s.Fresh := by
  induction formed with
  | censored censor s formed fresh => exact ⟨fresh.value, fresh.cursor, fresh.marked⟩
  | _ => exact ⟨rfl, rfl, rfl⟩

/-- What hosts make starts on its default and at its first column. -/
theorem Made.fresh (made : s.Made) : s.Fresh := made.formed.fresh

theorem Made.isDefault (made : s.Made) : s.isDefault = true := beq_iff_eq.mpr made.fresh.value

end Making

end Sequence

end Settings
