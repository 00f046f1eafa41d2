import Settings.Proofs.Editor.Marking

/-!
# Typing numbers into fields

The digits of a number are typed into a field of a block editor, one after the other. The first one
replaces what the field held and the others extend it. On the way the field holds the numbers of the
digits so far: none of them is outside the bounds, so no key is clamped or goes to the next field, and
none is as wide as the field, so the cursor does not move on before the last key. In the end it is as if
the number had been written at once.

* `writeBlock_of_contains`, `writeBlock_congr`, `writeBlock_of_room`: a number that is written into its
  field.
* `handleAll_written`, `handleAll_number`: digits whose numbers stay within the bounds.
* `handleAll_zeroed`: the digits of a number, and zeros in front of them.
* `handleAll_zero`: a first zero in a field that cannot be zero counts as a one.
-/
namespace Settings

namespace Sequence

variable {s : Sequence} {limits : List Bounds} {fields : List Int} {mode : HourMode} {b : Bounds}
  {block : Nat} {autoJump : Bool}

section Writing

/-- A sequence whose editor stands on a field. -/
def standing (block : Nat) (overwrite autoJump : Bool) (s : Sequence) : Sequence :=
  (s.setBlock block overwrite autoJump).syncCursor

/-- A number has as many digits as a field is wide. -/
def Fills (s : Sequence) (block : Nat) (n : Int) : Prop := s.widths.getD block 0 ≤ Numeral.width n

instance (s : Sequence) (block : Nat) (n : Int) : Decidable (s.Fills block n) :=
  inferInstanceAs (Decidable (s.widths.getD block 0 ≤ Numeral.width n))

/-- What it leads to that a number was put into a field. The editor goes on to the next field if the
number fills its own; behind the last field it stays and reports the edge. The next digit extends a field
that is not filled. -/
def written (block : Nat) (n : Int) (autoJump : Bool) (s : Sequence) : Outcome Sequence :=
  ⟨(s.withField block n).standing
      (if s.Fills block n ∧ block + 1 < s.limits.length then block + 1 else block)
      (decide (s.Fills block n)) autoJump,
    true, if s.Fills block n ∧ block + 1 = s.limits.length then some .finish else none⟩

/-- A number within the bounds of a field is put into it as it is. -/
theorem writeBlock_of_contains (inside : Inside s.limits s.value) (bounds : s.limits[block]? = some b)
    {n : Int} (contains : b.Contains n) (autoJump : Bool) :
    s.writeBlock block n autoJump = s.written block n autoJump := by
  have kept : clampFields s.limits (s.value.set block n) = s.value.set block n := by
    rw [clampFields_set bounds, clampFields_of_inside inside, Bounds.clamp_of_contains contains]
  obtain ⟨place, _⟩ := List.getElem?_eq_some_iff.mp bounds
  rw [writeBlock, written, kept]
  by_cases full : s.Fills block n
  · have wide : s.widths.getD block 0 ≤ Numeral.width n := full
    by_cases last : block + 1 = s.limits.length
    · simp only [wide, full, last, Nat.lt_irrefl, and_false, and_self, decide_true, beq_self_eq_true,
        Bool.and_self, if_true, if_false]
      rfl
    · have notLast : (block + 1 == s.limits.length) = false := beq_eq_false_iff_ne.mpr last
      have next : block + 1 < s.limits.length := by omega
      simp only [wide, full, next, last, notLast, and_false, and_self, decide_true, Bool.and_false,
        Bool.false_eq_true, if_true, if_false]
      rfl
  · have narrow : ¬s.widths.getD block 0 ≤ Numeral.width n := full
    simp only [narrow, full, false_and, decide_false, Bool.false_and, Bool.false_eq_true, if_false]
    rfl

/-- All that matters of a number is what it is clamped to and whether it fills the field. -/
theorem writeBlock_congr (bounds : s.limits[block]? = some b) {n m : Int}
    (clamped : b.clamp n = b.clamp m) (full : s.Fills block n ↔ s.Fills block m) (autoJump : Bool) :
    s.writeBlock block n autoJump = s.writeBlock block m autoJump := by
  have wide : (s.widths.getD block 0 ≤ Numeral.width n) = (s.widths.getD block 0 ≤ Numeral.width m) :=
    propext full
  rw [writeBlock, writeBlock, clampFields_set bounds, clampFields_set bounds, clamped]
  simp only [wide]

/-- A field is as wide as its upper bound. -/
theorem fills_iff (bounds : s.limits[block]? = some b) (n : Int) :
    s.Fills block n ↔ Numeral.width b.high ≤ Numeral.width n := by
  have width : s.widths.getD block 0 = Numeral.width b.high := by
    rw [List.getD_eq_getElem?_getD, widths, List.getElem?_map, bounds]
    rfl
  rw [Fills, width]

/-- A number with room for another digit behind it does not fill its field. -/
theorem not_fills_of_room (bounds : s.limits[block]? = some b) (wide : 10 ≤ b.high) {m : Nat}
    (room : 10 * (m : Int) ≤ b.high) : ¬s.Fills block m := by
  rw [fills_iff bounds]
  exact Nat.not_le.mpr (Numeral.width_lt_of_ten_mul_le wide room)

/-- A number that has room for another digit behind it stays in its field. -/
theorem writeBlock_of_room (inside : Inside s.limits s.value) (bounds : s.limits[block]? = some b)
    (wide : 10 ≤ b.high) {m : Nat} (above : b.low ≤ (m : Int)) (room : 10 * (m : Int) ≤ b.high)
    (autoJump : Bool) :
    s.writeBlock block m autoJump = .changedTo ((s.withField block m).standing block false autoJump) := by
  have notFull : ¬s.Fills block m := not_fills_of_room bounds wide room
  rw [writeBlock_of_contains inside bounds ⟨above, by omega⟩, written,
    if_neg fun both => notFull both.1, if_neg fun both => notFull both.1, decide_eq_false notFull]
  rfl

/-- What the field held and where the editor stood do not matter for what is written. -/
theorem writeBlock_standing (s : Sequence) (old n : Int) (place : Nat)
    (overwrite autoJump autoJump' : Bool) :
    ((s.withField block old).standing place overwrite autoJump').writeBlock block n autoJump =
      s.writeBlock block n autoJump := by
  have value : ((s.withField block old).standing place overwrite autoJump').value.set block n =
      s.value.set block n := List.set_set old
  have limits : ((s.withField block old).standing place overwrite autoJump').limits = s.limits := rfl
  have widths : ((s.withField block old).standing place overwrite autoJump').widths = s.widths := rfl
  rw [writeBlock, writeBlock, value, limits, widths]
  split
  · split <;> rfl
  · rfl

end Writing

section Typing

variable {marked : Nat} {overwrite : Bool} {a : Action} {digit : Nat}

theorem handle_of_block (style : s.style = .block marked overwrite autoJump) (mode : HourMode)
    (a : Action) : s.handle mode a = s.handleBlock marked overwrite autoJump a := by
  rw [handle, style]

theorem handleBlock_of_digit? (entered : a.digit? = some digit) (s : Sequence) :
    s.handleBlock marked overwrite autoJump a =
      s.writeBlock (s.digitTarget marked overwrite autoJump digit).1
        (s.digitTarget marked overwrite autoJump digit).2 autoJump := by
  unfold handleBlock
  cases a with
  | digit n =>
    dsimp only
    rw [entered]
  | character c =>
    dsimp only
    rw [entered]
  | _ => cases entered

/-- A digit is written to where it leads. -/
theorem handle_of_digitTarget (style : s.style = .block marked overwrite autoJump) (mode : HourMode)
    (entered : a.digit? = some digit) {n : Int}
    (target : s.digitTarget marked overwrite autoJump digit = (block, n)) :
    s.handle mode a = s.writeBlock block n autoJump := by
  rw [handle_of_block style, handleBlock_of_digit? entered, target]

/-- The first digit after a move replaces the field. -/
theorem handle_overwriting (style : s.style = .block block true autoJump) (mode : HourMode)
    (entered : a.digit? = some digit) : s.handle mode a = s.writeBlock block digit autoJump :=
  handle_of_digitTarget style mode entered rfl

/-- A further digit extends the field. An editor that jumps takes it to the next one if the number would
be above the bound. -/
theorem digitTarget_extending (bounds : s.limits[block]? = some b) (autoJump : Bool) (digit : Nat) :
    s.digitTarget block false autoJump digit =
      if autoJump = true ∧ b.high < s.field block * 10 + digit ∧ block + 1 < s.limits.length then
        (block + 1, (digit : Int))
      else (block, s.field block * 10 + digit) := by
  have high : (s.limits[block]?.map Bounds.high).getD 0 = b.high := by
    rw [bounds]
    rfl
  simp [digitTarget, high, and_assoc]

/-- A digit for which the field has room extends it, also in an editor that jumps. -/
theorem digitTarget_of_le (bounds : s.limits[block]? = some b)
    (below : s.field block * 10 + digit ≤ b.high) :
    s.digitTarget block false autoJump digit = (block, s.field block * 10 + digit) := by
  rw [digitTarget_extending bounds, if_neg]
  omega

theorem field_withField (inside : block < s.value.length) (n : Int) :
    (s.withField block n).field block = n := by
  rw [field, List.getD_eq_getElem?_getD, withField, List.getElem?_set_self inside, Option.getD_some]

/-- A further digit extends what was written. -/
theorem handle_extending (bounds : s.limits[block]? = some b) (size : s.value.length = s.limits.length)
    (mode : HourMode) (entered : a.digit? = some digit) {old : Nat}
    (below : ((10 * old + digit : Nat) : Int) ≤ b.high) :
    ((s.withField block old).standing block false autoJump).handle mode a =
      s.writeBlock block (10 * old + digit : Nat) autoJump := by
  obtain ⟨inside, _⟩ := List.getElem?_eq_some_iff.mp bounds
  have held : ((s.withField block old).standing block false autoJump).field block = old :=
    field_withField (size ▸ inside) old
  have longer : (old : Int) * 10 + digit = (10 * old + digit : Nat) := by omega
  have target : ((s.withField block old).standing block false autoJump).digitTarget block false autoJump
      digit = (block, _) :=
    digitTarget_of_le bounds (by rw [held]; omega)
  rw [held, longer] at target
  rw [handle_of_digitTarget rfl mode entered target, writeBlock_standing]

/-- The editor behind a number that was typed by some keys, and what they reported: none but the last one
an edge. -/
def entered (block : Nat) (n : Int) (autoJump : Bool) (count : Nat) (s : Sequence) :
    Sequence × List (Bool × Option Edge) :=
  ((s.written block n autoJump).state,
    List.replicate (count - 1) (true, none) ++ [(true, (s.written block n autoJump).edge)])

/-- The digits behind one that was written. -/
theorem handleAll_written (inside : Inside s.limits s.value) (bounds : s.limits[block]? = some b)
    (wide : 10 ≤ b.high) {t : Sequence} {m : Nat} {rest : List Action} {cs : List Char}
    (first : t.handle mode a = s.writeBlock block m autoJump) (enters : Action.Enters rest cs)
    (isDigit : ∀ c ∈ cs, c.isDigit = true) (above : b.low ≤ (m : Int))
    (below : (Nat.ofDigitChars 10 cs m : Int) ≤ b.high) :
    t.handleAll mode (a :: rest) =
      s.entered block (Nat.ofDigitChars 10 cs m) autoJump (rest.length + 1) := by
  induction cs generalizing t a m rest with
  | nil =>
    obtain rfl := List.map_eq_nil_iff.mp enters
    rw [handleAll, first, writeBlock_of_contains inside bounds ⟨above, below⟩]
    rfl
  | cons c cs ih =>
    obtain ⟨next, others, rfl, key, enters⟩ := enters.exists_cons
    obtain ⟨digit, isDigit⟩ := List.forall_mem_cons.mp isDigit
    rw [Action.digit?_of_isDigit digit] at key
    rw [Nat.ofDigitChars_cons] at below ⊢
    -- The number so far is at most a tenth of the whole one.
    have more := Numeral.le_ofDigitChars cs (10 * m + (c.toNat - '0'.toNat))
    have stays := writeBlock_of_room inside bounds wide above (by omega) autoJump
    have extended : ((s.withField block m).standing block false autoJump).handle mode next =
        s.writeBlock block (10 * m + (c.toNat - '0'.toNat) : Nat) autoJump :=
      handle_extending bounds inside.length_eq.symm mode key (by omega)
    rw [handleAll_cons (first.trans stays), ih extended enters isDigit (by omega) below]
    rfl

/-- Digits are entered as the number that they stand for, if the numbers on the way are within the
bounds: they are not below the first digit and not above the last number. -/
theorem handleAll_number (inside : Inside s.limits s.value) (bounds : s.limits[block]? = some b)
    (wide : 10 ≤ b.high) (style : s.style = .block block true autoJump) (mode : HourMode)
    {keys : List Action} {c : Char} {cs : List Char} (enters : Action.Enters keys (c :: cs))
    (isDigit : ∀ d ∈ c :: cs, d.isDigit = true) (above : b.low ≤ (c.toNat - '0'.toNat : Nat))
    (below : (Nat.ofDigitChars 10 (c :: cs) 0 : Int) ≤ b.high) :
    s.handleAll mode keys =
      s.entered block (Nat.ofDigitChars 10 (c :: cs) 0) autoJump keys.length := by
  obtain ⟨a, rest, rfl, key, enters⟩ := enters.exists_cons
  obtain ⟨digit, isDigit⟩ := List.forall_mem_cons.mp isDigit
  rw [Action.digit?_of_isDigit digit] at key
  rw [Nat.ofDigitChars_cons, Nat.mul_zero, Nat.zero_add] at below ⊢
  exact handleAll_written inside bounds wide (handle_overwriting style mode key) enters isDigit above below

/-- The digits of a number enter it, with zeros in front of them as well if the field can be zero. -/
theorem handleAll_zeroed (inside : Inside s.limits s.value) (bounds : s.limits[block]? = some b)
    (wide : 10 ≤ b.high) (style : s.style = .block block true autoJump) (mode : HourMode)
    {keys : List Action} {n zeros : Nat} (contains : b.Contains n)
    (enters : Action.Enters keys (Numeral.zeroed zeros n))
    (low : b.low ≤ 0 ∨ b.low ≤ 1 ∧ zeros = 0) :
    s.handleAll mode keys = s.entered block n autoJump keys.length := by
  have number : Nat.ofDigitChars 10 (Numeral.zeroed zeros n) 0 = n := by
    rw [Numeral.ofDigitChars_zeroed, Nat.mul_zero, Nat.zero_add]
  have isDigit : ∀ c ∈ Numeral.zeroed zeros n, c.isDigit = true :=
    fun _ => Numeral.isDigit_of_mem_zeroed
  cases shape : Numeral.zeroed zeros n with
  | nil => exact absurd (List.append_eq_nil_iff.mp shape).2 (Numeral.digits_ne_nil n)
  | cons c cs =>
    rw [shape] at number isDigit enters
    have above : b.low ≤ (c.toNat - '0'.toNat : Nat) := by
      rcases low with nonpos | ⟨one, rfl⟩
      · omega
      · rcases Nat.eq_zero_or_pos n with rfl | positive
        · have least := contains.1
          omega
        · have first := Numeral.first_digit_pos positive shape
          omega
    have typed := handleAll_number inside bounds wide style mode enters isDigit above
      (number.symm ▸ contains.2)
    rwa [number] at typed

end Typing

section LeadingZeros

/-- A zero in a field that cannot be zero is clamped to one, and the other digits extend that one. -/
theorem writeBlock_zero (bounds : s.limits[block]? = some b) (low : b.low = 1) (autoJump : Bool) :
    s.writeBlock block 0 autoJump = s.writeBlock block 1 autoJump := by
  have clamped : b.clamp 0 = b.clamp 1 := by
    unfold Bounds.clamp
    omega
  exact writeBlock_congr bounds clamped Iff.rfl autoJump

/-- So a first zero counts as a one. -/
theorem handleAll_zero (bounds : s.limits[block]? = some b) (low : b.low = 1)
    (style : s.style = .block block true autoJump) (mode : HourMode) {a : Action}
    (zero : a.digit? = some 0) (rest : List Action) :
    s.handleAll mode (a :: rest) = s.handleAll mode (.digit 1 :: rest) := by
  have one : (Action.digit 1).digit? = some 1 := rfl
  have same : s.handle mode a = s.handle mode (.digit 1) := by
    rw [handle_overwriting style mode zero, handle_overwriting style mode one]
    exact writeBlock_zero bounds low autoJump
  rw [handleAll, handleAll, same]

/-- As long as the field has room, the number comes out behind that one. -/
theorem handleAll_zeroed_one (inside : Inside s.limits s.value) (bounds : s.limits[block]? = some b)
    (low : b.low = 1) (high : 199 ≤ b.high) (style : s.style = .block block true autoJump)
    (mode : HourMode) {keys : List Action} {n zeros : Nat}
    (enters : Action.Enters keys (Numeral.zeroed (zeros + 1) n)) (short : keys.length ≤ 3) :
    s.handleAll mode keys =
      s.entered block (Nat.pow 10 (keys.length - 1) + n : Nat) autoJump keys.length := by
  rw [Numeral.zeroed_succ] at enters
  obtain ⟨a, rest, rfl, zero, enters⟩ := enters.exists_cons
  have few : (Numeral.zeroed zeros n).length ≤ 2 := by
    rw [← enters.length_eq]
    exact Nat.le_of_succ_le_succ short
  have small : n < 100 := by
    have width : Numeral.width (n : Int) ≤ (Numeral.zeroed zeros n).length := by
      rw [Numeral.zeroed, List.length_append]
      exact Nat.le_add_left _ _
    exact (Numeral.width_le_iff Nat.zero_lt_two).mp (Nat.le_trans width few)
  have place : Nat.pow 10 (Numeral.zeroed zeros n).length ≤ Nat.pow 10 2 :=
    Nat.pow_le_pow_right (by decide) few
  have hundred : Nat.pow 10 2 = 100 := rfl
  have one : ('1'.toNat - '0'.toNat : Nat) = 1 := rfl
  have number : Nat.ofDigitChars 10 ('1' :: Numeral.zeroed zeros n) 0 =
      Nat.pow 10 (Numeral.zeroed zeros n).length + n := by
    rw [Nat.ofDigitChars_cons, Numeral.ofDigitChars_zeroed, one, Nat.mul_zero, Nat.mul_one]
  have isDigit : ∀ c ∈ '1' :: Numeral.zeroed zeros n, c.isDigit = true :=
    List.forall_mem_cons.mpr ⟨rfl, fun _ => Numeral.isDigit_of_mem_zeroed⟩
  have ones : Action.Enters (.digit 1 :: rest) ('1' :: Numeral.zeroed zeros n) :=
    List.cons_eq_cons.mpr ⟨rfl, enters⟩
  have typed := handleAll_number inside bounds (by omega) style mode ones isDigit (by omega)
    (by rw [number]; omega)
  rw [handleAll_zero bounds low style mode zero, typed, number, ← enters.length_eq]
  rfl

end LeadingZeros

section Addresses

/-- The sequences that hosts make to be edited in blocks. -/
inductive Address : Sequence → Prop where
  | ip (default : List Int) (autoJump : Bool) : Address (.ip default autoJump)
  | cecAddress (default : List Int) (autoJump : Bool) : Address (.cecAddress default autoJump)
  | mac (default : List Int) : Address (.mac default)
  | censored (censor : Char) (s : Sequence) (address : Address s) : Address (s.censored censor)

theorem Address.made (address : s.Address) : s.Made := by
  induction address with
  | ip default autoJump => exact .ip default autoJump
  | cecAddress default autoJump => exact .cecAddress default autoJump
  | mac default => exact .mac default
  | censored censor s _ made => exact .censored censor s made

theorem Address.exists_manner (address : s.Address) : ∃ autoJump, s.manner = .block 0 true autoJump := by
  induction address with
  | ip default autoJump => exact ⟨autoJump, rfl⟩
  | cecAddress default autoJump => exact ⟨autoJump, rfl⟩
  | mac default => exact ⟨false, rfl⟩
  | censored censor s _ manner => exact manner

theorem Address.limits_cases (address : s.Address) :
    s.limits = ipLimits ∨ s.limits = cecLimits ∨ s.limits = macLimits := by
  induction address with
  | ip default autoJump => exact .inl rfl
  | cecAddress default autoJump => exact .inr (.inl rfl)
  | mac default => exact .inr (.inr rfl)
  | censored censor s _ limits => exact limits

/-- Their fields have at least two digits, and start at zero but for those of hardware addresses. -/
theorem Address.bounds (address : s.Address) :
    ∀ b ∈ s.limits, 10 ≤ b.high ∧ b.low = if s.limits = macLimits then 1 else 0 := by
  rcases address.limits_cases with limits | limits | limits
  · rw [limits]
    decide
  · rw [limits]
    decide
  · rw [limits]
    decide

/-- What is edited in the manner of blocks has the style of blocks. -/
theorem exists_style_of_manner {s' : Sequence} (same : s'.manner = .block 0 true autoJump) :
    ∃ marked overwrite, s'.style = .block marked overwrite autoJump := by
  unfold manner at same
  split at same
  · next marked overwrite jumps style =>
    cases same
    exact ⟨marked, overwrite, style⟩
  · next other => exact absurd same (by simpa using other 0 true autoJump)

end Addresses

section Moves

variable {marked : Nat} {overwrite : Bool} {move : Action}

/-- The field that a move goes to. -/
def target? (marked last : Nat) : Action → Option Nat
  | .first => some 0
  | .last => some last
  | .left => some (marked - 1)
  | .right => some (min (marked + 1) last)
  | _ => none

/-- A move leads to its field, whose next digit then replaces it. -/
theorem handle_move (style : s.style = .block marked overwrite autoJump) (mode : HourMode)
    (goes : target? marked (s.limits.length - 1) move = some block) :
    (s.handle mode move).state = s.standing block true autoJump := by
  rw [handle_of_block style]
  cases move with
  | first =>
    cases goes
    rfl
  | last =>
    cases goes
    rfl
  | left =>
    cases goes
    unfold handleBlock
    dsimp only
    split <;> rfl
  | right =>
    cases goes
    unfold handleBlock
    dsimp only
    split <;> rfl
  | _ => cases goes

/-- That field exists. -/
theorem target?_lt {count : Nat} (inside : marked < count)
    (goes : target? marked (count - 1) move = some block) : block < count := by
  cases move with
  | first | last | left | right =>
    cases goes
    omega
  | _ => cases goes

theorem entered_standing (n : Int) (place count : Nat) (s : Sequence) :
    (s.standing place overwrite autoJump).entered block n autoJump count =
      s.entered block n autoJump count := rfl

end Moves

end Sequence

end Settings
