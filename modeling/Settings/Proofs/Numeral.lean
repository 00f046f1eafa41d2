import Settings.Numeral
import Settings.Proofs.Text

/-!
# Numerals are read back

A written numeral consists of digits behind an optional minus sign, has no blank in it and is read as
the number that it was written for.

* `read?_trimChars_chars`: numbers of 64 bits.
* `position?_digits`: positions.
* `digits_eq_iff_plain`: a position can be written in other ways as well; the plain one is unique.
* `getElem?_padded`, `take_padded_eq_iff`: the columns of a numeral that zeros fill up.
-/
namespace Settings

theorem not_isBlank_of_isDigit {c : Char} (digit : c.isDigit = true) : Text.isBlank c = false := by
  simp only [Char.isDigit, Bool.and_eq_true, decide_eq_true_eq] at digit
  have low : 48 ≤ c.toNat := digit.1
  have high : c.toNat ≤ 57 := digit.2
  simp only [Text.isBlank, Bool.or_eq_false_iff, Bool.and_eq_false_iff, decide_eq_false_iff_not,
    beq_eq_false_iff_ne, ne_eq]
  omega

namespace Numeral

theorem text_natCast (n : Nat) : text (n : Int) = String.ofList (digits n) := by
  have nonneg : ¬ (n : Int) < 0 := by omega
  simp [text, chars, nonneg]

theorem chars_natCast (n : Nat) : chars (n : Int) = digits n := by
  have nonneg : ¬ (n : Int) < 0 := by omega
  rw [chars, if_neg nonneg, Int.natAbs_natCast]

theorem text_natCast_injective {m n : Nat} (same : text (m : Int) = text (n : Int)) : m = n := by
  rw [text_natCast, text_natCast, String.ofList_inj] at same
  have read := digits?_digits m
  rw [same, digits?_digits] at read
  exact (Option.some.inj read).symm

theorem isDigit_of_mem_digits {n : Nat} {c : Char} (member : c ∈ digits n) : c.isDigit = true :=
  Nat.isDigit_of_mem_toDigits (by decide) (by decide) member

theorem ofDigitChars_digits (n : Nat) : Nat.ofDigitChars 10 (digits n) 0 = n :=
  Nat.ofDigitChars_ten_toDigits

theorem chars_ne_nil (n : Int) : chars n ≠ [] := by
  unfold chars
  split
  · exact List.cons_ne_nil _ _
  · exact digits_ne_nil _

/-- A written number starts with none of the characters that are no digits. -/
theorem digits_ne_cons {c : Char} (other : c.isDigit = false) (n : Nat) (ds : List Char) :
    digits n ≠ c :: ds := by
  intro shape
  have isDigit : c.isDigit = true := isDigit_of_mem_digits (n := n) (shape ▸ List.mem_cons_self)
  rw [other] at isDigit
  cases isDigit

/-- A position that is written is read back. -/
theorem position?_digits {n : Nat} (bounded : n < positionBound) : position? (digits n) = some n := by
  unfold position?
  split
  · next ds shape => exact absurd shape (digits_ne_cons (by decide) n ds)
  · simp [digits?_digits, Option.filter, bounded]

theorem digitChar_of_isDigit {c : Char} (digit : c.isDigit = true) :
    Nat.digitChar (c.toNat - '0'.toNat) = c ∧ c.toNat - '0'.toNat < 10 := by
  simp only [Char.isDigit, Bool.and_eq_true, decide_eq_true_eq] at digit
  have low : 48 ≤ c.toNat := digit.1
  have high : c.toNat ≤ 57 := digit.2
  have zero : '0'.toNat = 48 := rfl
  rw [zero]
  refine ⟨Char.toNat_inj.mp ?_, by omega⟩
  rw [Nat.toNat_digitChar_of_lt_ten (by omega)]
  omega

/-- A digit behind the others makes the number ten times as large, and adds to it. -/
theorem ofDigitChars_concat {d : Nat} (decimal : d < 10) (cs : List Char) :
    Nat.ofDigitChars 10 (cs ++ [Nat.digitChar d]) 0 = 10 * Nat.ofDigitChars 10 cs 0 + d := by
  have place : (Nat.digitChar d).toNat - '0'.toNat = d := by
    have all : ∀ d < 10, (Nat.digitChar d).toNat - '0'.toNat = d := by decide
    exact all d decimal
  rw [Nat.ofDigitChars_append, Nat.ofDigitChars_cons, place]
  rfl

/-- Without the last digit it is a tenth of what it was. -/
theorem ofDigitChars_dropLast {cs : List Char} (isDigit : ∀ c ∈ cs, c.isDigit = true) :
    Nat.ofDigitChars 10 cs.dropLast 0 = Nat.ofDigitChars 10 cs 0 / 10 := by
  rcases List.eq_nil_or_concat cs with rfl | ⟨others, c, rfl⟩
  · rfl
  · rw [List.concat_eq_append] at isDigit ⊢
    obtain ⟨same, small⟩ := digitChar_of_isDigit (isDigit c (by simp))
    rw [List.dropLast_concat, ← same, ofDigitChars_concat small]
    omega

/-- More digits do not make a number smaller. -/
theorem le_ofDigitChars (cs : List Char) (n : Nat) : n ≤ Nat.ofDigitChars 10 cs n := by
  induction cs generalizing n with
  | nil => exact Nat.le_refl n
  | cons c cs ih =>
    rw [Nat.ofDigitChars_cons]
    have more := ih (10 * n + (c.toNat - '0'.toNat))
    omega

/-- Digits behind those of a positive number are the digits of a larger one. -/
theorem digits_append {n : Nat} (positive : 0 < n) {cs : List Char}
    (isDigit : ∀ c ∈ cs, c.isDigit = true) : digits n ++ cs = digits (Nat.ofDigitChars 10 cs n) := by
  induction cs generalizing n with
  | nil => exact List.append_nil _
  | cons c cs ih =>
    obtain ⟨first, others⟩ := List.forall_mem_cons.mp isDigit
    obtain ⟨value, small⟩ := digitChar_of_isDigit first
    have next : digits n ++ [c] = digits (10 * n + (c.toNat - '0'.toNat)) := by
      have joined := Nat.toDigits_append_toDigits (b := 10) (by decide) positive small
      rwa [Nat.toDigits_of_lt_base small, value] at joined
    rw [Nat.ofDigitChars_cons, ← ih (by omega) others, ← next, List.append_assoc]
    rfl

/-- A positive number is written without a zero in front. -/
theorem head?_digits {n : Nat} (positive : 0 < n) : (digits n).head? ≠ some '0' := by
  induction n using Nat.strongRecOn with
  | ind n ih =>
    by_cases small : n < 10
    · have single : ∀ d < 10, 0 < d → Nat.digitChar d ≠ '0' := by decide
      rw [digits, Nat.toDigits_of_lt_base small, List.head?_cons]
      exact fun same => single n small positive (Option.some.inj same)
    · have first := ih (n / 10) (by omega) (by omega)
      obtain ⟨c, rest, shape⟩ := List.exists_cons_of_ne_nil (digits_ne_nil (n / 10))
      rw [digits] at shape
      rw [digits, shape] at first
      rwa [digits, Nat.toDigits_of_base_le (by decide) (by omega), shape, List.cons_append]

/-- The first digit of a positive number is not zero. -/
theorem first_digit_pos {n : Nat} (positive : 0 < n) {c : Char} {cs : List Char}
    (shape : digits n = c :: cs) : 0 < c.toNat - '0'.toNat := by
  obtain ⟨same, _⟩ := digitChar_of_isDigit (isDigit_of_mem_digits (n := n) (shape ▸ List.mem_cons_self))
  refine Nat.pos_of_ne_zero fun zero => ?_
  rw [zero] at same
  have first := head?_digits positive
  rw [shape, ← same] at first
  exact first rfl

/-- Neither a plus sign nor a superfluous zero in front. -/
def Plain (cs : List Char) : Prop :=
  cs.head? ≠ some '+' ∧ (cs.head? = some '0' → cs = ['0'])

instance (cs : List Char) : Decidable (Plain cs) :=
  inferInstanceAs (Decidable (cs.head? ≠ some '+' ∧ (cs.head? = some '0' → cs = ['0'])))

theorem plain_digits (n : Nat) : Plain (digits n) := by
  constructor
  · intro sign
    obtain ⟨rest, shape⟩ := List.head?_eq_some_iff.mp sign
    exact digits_ne_cons (by decide) n rest shape
  · intro zero
    rcases Nat.eq_zero_or_pos n with rfl | positive
    · rfl
    · exact absurd zero (head?_digits positive)

/-- Digits without a zero in front are those of the number that they stand for. -/
theorem digits_ofDigitChars {c : Char} {rest : List Char}
    (isDigit : ∀ d ∈ c :: rest, d.isDigit = true) (noZero : c ≠ '0') :
    digits (Nat.ofDigitChars 10 (c :: rest) 0) = c :: rest := by
  obtain ⟨first, others⟩ := List.forall_mem_cons.mp isDigit
  obtain ⟨same, small⟩ := digitChar_of_isDigit first
  have positive : 0 < c.toNat - '0'.toNat := by
    rcases Nat.eq_zero_or_pos (c.toNat - '0'.toNat) with none | positive
    · rw [none] at same
      exact absurd same.symm noZero
    · exact positive
  have appended := digits_append positive others
  rw [digits, Nat.toDigits_of_lt_base small, same] at appended
  rw [Nat.ofDigitChars_cons, Nat.mul_zero, Nat.zero_add, ← appended]
  rfl

theorem digits?_eq_some_iff {cs : List Char} {n : Nat} :
    digits? cs = some n ↔
      cs ≠ [] ∧ (∀ c ∈ cs, c.isDigit = true) ∧ Nat.ofDigitChars 10 cs 0 = n := by
  constructor
  · intro read
    unfold digits? at read
    split at read
    · cases read
    · next fine =>
      rw [Bool.or_eq_true, not_or] at fine
      refine ⟨fun empty => fine.1 (List.isEmpty_iff.mpr empty), ?_, Option.some.inj read⟩
      exact List.all_eq_true.mp (by simpa using fine.2)
  · rintro ⟨proper, isDigit, rfl⟩
    have shown : (cs.isEmpty || !cs.all Char.isDigit) = false := by
      simp [proper, List.all_eq_true.mpr isDigit]
    rw [digits?, shown]
    rfl

/-- Of all digits that stand for a number, the plain ones are those that are written for it. -/
theorem digits_ofDigitChars_eq_iff {cs : List Char} (proper : cs ≠ [])
    (isDigit : ∀ c ∈ cs, c.isDigit = true) : digits (Nat.ofDigitChars 10 cs 0) = cs ↔ Plain cs := by
  constructor
  · intro same
    rw [← same]
    exact plain_digits _
  · rintro ⟨_, noZero⟩
    obtain ⟨c, rest, rfl⟩ := List.exists_cons_of_ne_nil proper
    by_cases zero : c = '0'
    · rw [noZero (congrArg some zero)]
      rfl
    · exact digits_ofDigitChars isDigit zero

/-- Of all ways to write a position, the plain one is the one in which it is written. -/
theorem digits_eq_iff_plain {cs : List Char} {n : Nat} (read : position? cs = some n) :
    digits n = cs ↔ Plain cs := by
  constructor
  · rintro rfl
    exact plain_digits n
  · intro plain
    have number : digits? cs = some n := by
      unfold position? at read
      split at read
      · exact absurd rfl plain.1
      · exact (Option.filter_eq_some_iff.mp read).1
    obtain ⟨proper, isDigit, rfl⟩ := digits?_eq_some_iff.mp number
    exact (digits_ofDigitChars_eq_iff proper isDigit).mpr plain

theorem width_pos (n : Int) : 0 < width n := Nat.length_toDigits_pos

/-- The width tells the magnitude. -/
theorem width_le_iff {n : Int} {columns : Nat} (positive : 0 < columns) :
    width n ≤ columns ↔ n.natAbs < Nat.pow 10 columns :=
  Nat.length_toDigits_le_iff (by decide) positive

theorem width_le_width {n m : Int} (less : n.natAbs ≤ m.natAbs) : width n ≤ width m := by
  have size := (width_le_iff (width_pos m)).mp (Nat.le_refl _)
  exact (width_le_iff (width_pos m)).mpr (Nat.lt_of_le_of_lt less size)

/-- A number that is a tenth of another one or less has fewer digits. -/
theorem width_lt_of_ten_mul_le {m : Nat} {high : Int} (wide : 10 ≤ high) (less : 10 * (m : Int) ≤ high) :
    width (m : Int) < width high := by
  have size : high.natAbs < Nat.pow 10 (width high) :=
    (width_le_iff (width_pos high)).mp (Nat.le_refl _)
  have two : 1 < width high := by
    refine Nat.lt_of_not_le fun narrow => ?_
    have small := (width_le_iff Nat.zero_lt_one).mp narrow
    have ten : Nat.pow 10 1 = 10 := rfl
    omega
  obtain ⟨columns, columns_eq⟩ := Nat.exists_eq_add_of_lt two
  have step : Nat.pow 10 (1 + columns + 1) = Nat.pow 10 (1 + columns) * 10 := rfl
  rw [columns_eq, step] at size
  rw [columns_eq, Nat.lt_succ_iff, width_le_iff (by omega)]
  omega

/-- Besides digits there is only the sign of a negative number. -/
theorem mem_chars {n : Int} {c : Char} (member : c ∈ chars n) :
    c.isDigit = true ∨ (c = '-' ∧ n < 0) := by
  unfold chars at member
  split at member
  · next negative =>
    rcases List.mem_cons.mp member with sign | digit
    · exact .inr ⟨sign, negative⟩
    · exact .inl (isDigit_of_mem_digits digit)
  · exact .inl (isDigit_of_mem_digits member)

theorem not_isBlank_of_mem_chars {n : Int} {c : Char} (member : c ∈ chars n) :
    Text.isBlank c = false := by
  rcases mem_chars member with digit | ⟨rfl, _⟩
  · exact not_isBlank_of_isDigit digit
  · decide

theorem trimChars_chars (n : Int) : Text.trimChars (chars n) = chars n :=
  Text.trimChars_of_ends (fun _ first => not_isBlank_of_mem_chars (List.mem_of_head? first))
    fun _ last => not_isBlank_of_mem_chars (List.mem_of_getLast? last)

/-- The digits behind the sign decide which number is read. -/
theorem read?_eq_of_digits? {n : Int} (range : InRange n) {ds : List Char}
    (read : digits? ds = some n.natAbs) (unsigned : ∀ c rest, ds = c :: rest → c.isDigit = true) :
    read? (if n < 0 then '-' :: ds else ds) = some n := by
  have kept : Option.filter (fun m => decide (InRange m)) (some n) = some n := by
    rw [Option.filter, if_pos (decide_eq_true range)]
  by_cases negative : n < 0
  · have same : -(n.natAbs : Int) = n := by omega
    rw [if_pos negative]
    change Option.filter (fun m => decide (InRange m))
      (((digits? ds).bind fun m => some (m : Int)).map fun m => -m) = some n
    rw [read, Option.bind_some, Option.map_some, same, kept]
  · have same : Int.ofNat n.natAbs = n := by
      rw [Int.ofNat_eq_natCast]
      omega
    rw [if_neg negative]
    unfold read?
    split
    · next rest => exact absurd (unsigned '-' rest rfl) (by decide)
    · next rest => exact absurd (unsigned '+' rest rfl) (by decide)
    · rw [read, Option.map_some, same, kept]

/-- A number that is written is read back. -/
theorem read?_chars {n : Int} (range : InRange n) : read? (chars n) = some n :=
  read?_eq_of_digits? range (digits?_digits _) fun _ _ shape =>
    isDigit_of_mem_digits (n := n.natAbs) (shape ▸ List.mem_cons_self)

theorem read?_trimChars_chars {n : Int} (range : InRange n) :
    read? (Text.trimChars (chars n)) = some n := by
  rw [trimChars_chars, read?_chars range]

/-- Digits are read as the number that they are the numeral of, if it lies in the range. -/
theorem read?_digits (n : Nat) :
    read? (digits n) = if InRange (n : Int) then some (n : Int) else none := by
  unfold read?
  split
  · next ds shape => exact absurd shape (digits_ne_cons (by decide) n ds)
  · next ds shape => exact absurd shape (digits_ne_cons (by decide) n ds)
  · rw [digits?_digits, Option.map_some, Option.filter]
    simp only [decide_eq_true_eq, Int.ofNat_eq_natCast]

theorem inRange_of_read? {cs : List Char} {n : Int} (read : read? cs = some n) : InRange n := by
  simpa using (Option.filter_eq_some_iff.mp read).2

/-- The number that digits behind an optional sign stand for. -/
inductive Denotes : List Char → Int → Prop where
  | unsigned {ds : List Char} (proper : ds ≠ []) (isDigit : ∀ c ∈ ds, c.isDigit = true) :
    Denotes ds (Nat.ofDigitChars 10 ds 0)
  | plus {ds : List Char} (proper : ds ≠ []) (isDigit : ∀ c ∈ ds, c.isDigit = true) :
    Denotes ('+' :: ds) (Nat.ofDigitChars 10 ds 0)
  | minus {ds : List Char} (proper : ds ≠ []) (isDigit : ∀ c ∈ ds, c.isDigit = true) :
    Denotes ('-' :: ds) (-(Nat.ofDigitChars 10 ds 0 : Int))

/-- A number is read of the texts that denote it, if it lies in the range. -/
theorem read?_eq_some_iff {cs : List Char} {n : Int} :
    read? cs = some n ↔ Denotes cs n ∧ InRange n := by
  unfold read?
  rw [Option.filter_eq_some_iff, decide_eq_true_iff]
  refine and_congr_left fun _ => ⟨fun read => ?_, fun denotes => ?_⟩
  · split at read
    · obtain ⟨m, magnitude, rfl⟩ := Option.map_eq_some_iff.mp read
      obtain ⟨_, digits, same⟩ := Option.bind_eq_some_iff.mp magnitude
      cases same
      obtain ⟨proper, isDigit, rfl⟩ := digits?_eq_some_iff.mp digits
      exact .minus proper isDigit
    · obtain ⟨_, digits, rfl⟩ := Option.map_eq_some_iff.mp read
      obtain ⟨proper, isDigit, rfl⟩ := digits?_eq_some_iff.mp digits
      exact .plus proper isDigit
    · obtain ⟨_, digits, rfl⟩ := Option.map_eq_some_iff.mp read
      obtain ⟨proper, isDigit, rfl⟩ := digits?_eq_some_iff.mp digits
      exact .unsigned proper isDigit
  · cases denotes with
    | minus proper isDigit => simp [digits?_eq_some_iff.mpr ⟨proper, isDigit, rfl⟩]
    | plus proper isDigit => simp [digits?_eq_some_iff.mpr ⟨proper, isDigit, rfl⟩]
    | unsigned proper isDigit =>
      have read := digits?_eq_some_iff.mpr ⟨proper, isDigit, rfl⟩
      split
      · exact absurd (isDigit '-' List.mem_cons_self) (by decide)
      · exact absurd (isDigit '+' List.mem_cons_self) (by decide)
      · rw [read]
        rfl

/-- The characters are the numeral of a number in the range. -/
def IsNumeral (cs : List Char) : Prop := ∃ n, Denotes cs n ∧ InRange n

theorem read?_eq_none_iff {cs : List Char} : read? cs = none ↔ ¬ IsNumeral cs := by
  simp only [Option.eq_none_iff_forall_ne_some, ne_eq, read?_eq_some_iff, IsNumeral, not_exists]

theorem inRange_saturate (n : Int) : InRange (saturate n) := by
  unfold InRange saturate minimum maximum
  omega

section Zeros

/-- Zeros in front of the digits of a number. -/
def zeroed (zeros n : Nat) : List Char := List.replicate zeros '0' ++ digits n

theorem zeroed_succ (zeros n : Nat) : zeroed (zeros + 1) n = '0' :: zeroed zeros n := rfl

theorem isDigit_of_mem_zeroed {zeros n : Nat} {c : Char} (member : c ∈ zeroed zeros n) :
    c.isDigit = true := by
  rcases List.mem_append.mp member with zero | digit
  · rw [List.eq_of_mem_replicate zero]
    rfl
  · exact isDigit_of_mem_digits digit

/-- They count as much as if they stood behind another number. -/
theorem ofDigitChars_zeroed (zeros n front : Nat) :
    Nat.ofDigitChars 10 (zeroed zeros n) front = Nat.pow 10 (zeroed zeros n).length * front + n := by
  have number : Nat.ofDigitChars 10 (zeroed zeros n) 0 = n := by
    rw [zeroed, Nat.ofDigitChars_append, Nat.ofDigitChars_replicate_zero, Nat.mul_zero,
      ofDigitChars_digits]
  rw [Nat.ofDigitChars_eq_ofDigitChars_zero, number]
  rfl

end Zeros

section Padded

variable {columns shown m n : Nat}

theorem padded_natCast (columns n : Nat) :
    padded columns (n : Int) = List.replicate (columns - (digits n).length) '0' ++ digits n := by
  have nonneg : ¬ (n : Int) < 0 := by omega
  rw [padded, if_neg nonneg, width, Int.natAbs_natCast]

theorem padded_ne_nil (columns : Nat) (n : Int) : padded columns n ≠ [] := by
  unfold padded
  split
  · exact List.cons_ne_nil _ _
  · exact List.append_ne_nil_of_right_ne_nil _ (digits_ne_nil _)

theorem le_length_padded (columns n : Nat) : columns ≤ (padded columns (n : Int)).length := by
  rw [padded_natCast, List.length_append, List.length_replicate]
  omega

theorem length_padded (positive : 0 < columns) (small : n < Nat.pow 10 columns) :
    (padded columns (n : Int)).length = columns := by
  have fits : (digits n).length ≤ columns :=
    (Nat.length_toDigits_le_iff (by decide) positive).mpr small
  rw [padded_natCast, List.length_append, List.length_replicate]
  omega

/-- The last column has the last digit, and the columns before it have the other digits. -/
theorem padded_succ (positive : 0 < columns) (n : Nat) :
    padded (columns + 1) (n : Int) =
      padded columns ((n / 10 : Nat) : Int) ++ [Nat.digitChar (n % 10)] := by
  rw [padded_natCast, padded_natCast]
  by_cases small : n < 10
  · -- A single digit has only zeros in front of it.
    obtain ⟨zeros, rfl⟩ := Nat.exists_eq_succ_of_ne_zero (Nat.ne_of_gt positive)
    have single : digits n = [Nat.digitChar n] := Nat.toDigits_of_lt_base small
    have zero : digits (n / 10) = ['0'] := by rw [Nat.div_eq_of_lt small]; rfl
    rw [single, zero, Nat.mod_eq_of_lt small, List.length_singleton, List.length_singleton,
      Nat.add_sub_cancel, Nat.succ_eq_add_one, Nat.add_sub_cancel, List.replicate_succ']
  · have step : digits n = digits (n / 10) ++ [Nat.digitChar (n % 10)] :=
      Nat.toDigits_of_base_le (by decide) (by omega)
    rw [step, List.length_append, List.length_singleton, Nat.add_sub_add_right,
      ← List.append_assoc]

/-- The first columns have the digits of what is left when the other digits are dropped. -/
theorem take_padded (positive : 0 < shown) (hidden : Nat) (small : n < Nat.pow 10 (shown + hidden)) :
    (padded (shown + hidden) (n : Int)).take shown =
      padded shown ((n / Nat.pow 10 hidden : Nat) : Int) := by
  induction hidden generalizing n with
  | zero =>
    have whole : n / Nat.pow 10 0 = n := Nat.div_one n
    rw [whole]
    exact List.take_of_length_le (Nat.le_of_eq (length_padded positive small))
  | succ hidden ih =>
    have fewer : n / 10 < Nat.pow 10 (shown + hidden) := Nat.div_lt_of_lt_mul (by
      rw [Nat.mul_comm]
      exact small)
    have enough : shown ≤ (padded (shown + hidden) ((n / 10 : Nat) : Int)).length :=
      Nat.le_trans (Nat.le_add_right _ _) (le_length_padded _ _)
    have divided : n / Nat.pow 10 (hidden + 1) = n / 10 / Nat.pow 10 hidden := by
      rw [Nat.div_div_eq_div_mul, Nat.mul_comm]
      rfl
    rw [← Nat.add_assoc, padded_succ (Nat.add_pos_left positive hidden),
      List.take_append_of_le_length enough, ih fewer, divided]

/-- What is shown is read as the number that is shown. -/
theorem ofDigitChars_padded (columns n : Nat) :
    Nat.ofDigitChars 10 (padded columns (n : Int)) 0 = n := by
  rw [padded_natCast, Nat.ofDigitChars_append, Nat.ofDigitChars_replicate_zero, Nat.mul_zero,
    ofDigitChars_digits]

theorem padded_inj : padded columns (m : Int) = padded columns (n : Int) ↔ m = n := by
  constructor
  · intro same
    rw [← ofDigitChars_padded columns m, same, ofDigitChars_padded]
  · rintro rfl
    rfl

/-- The numeral that stands in the first columns tells where it ends. -/
theorem padded_append_inj (positive : 0 < columns) (hm : m < Nat.pow 10 columns)
    (hn : n < Nat.pow 10 columns) {rest rest' : List Char}
    (same : padded columns (m : Int) ++ rest = padded columns (n : Int) ++ rest') :
    m = n ∧ rest = rest' := by
  have sizes := (length_padded positive hm).trans (length_padded positive hn).symm
  obtain ⟨numerals, rests⟩ := List.append_inj same sizes
  exact ⟨padded_inj.mp numerals, rests⟩

/-- Two numbers look alike in the first columns exactly if they are the same without the other
digits. -/
theorem take_padded_eq_iff (within : shown ≤ columns) (hm : m < Nat.pow 10 columns)
    (hn : n < Nat.pow 10 columns) :
    (padded columns (m : Int)).take shown = (padded columns (n : Int)).take shown ↔
      m / Nat.pow 10 (columns - shown) = n / Nat.pow 10 (columns - shown) := by
  obtain ⟨hidden, rfl⟩ := Nat.exists_eq_add_of_le within
  rw [Nat.add_sub_cancel_left]
  rcases Nat.eq_zero_or_pos shown with rfl | positive
  · rw [Nat.zero_add] at hm hn
    simp only [List.take_zero, Nat.div_eq_of_lt hm, Nat.div_eq_of_lt hn]
  · rw [take_padded positive hidden hm, take_padded positive hidden hn, padded_inj]

theorem getElem?_padded_last (small : n < Nat.pow 10 (shown + 1)) :
    (padded (shown + 1) (n : Int))[shown]? = some (Nat.digitChar (n % 10)) := by
  rcases Nat.eq_zero_or_pos shown with rfl | positive
  · have digit : n < 10 := small
    rw [padded_natCast, digits, Nat.toDigits_of_lt_base digit, Nat.mod_eq_of_lt digit]
    rfl
  · have fewer : n / 10 < Nat.pow 10 shown := Nat.div_lt_of_lt_mul (by
      rw [Nat.mul_comm]
      exact small)
    have size := length_padded positive fewer
    rw [padded_succ positive, List.getElem?_append_right (Nat.le_of_eq size), size, Nat.sub_self]
    rfl

/-- The digit at a column. -/
theorem getElem?_padded {column : Nat} (within : column < columns) (small : n < Nat.pow 10 columns) :
    (padded columns (n : Int))[column]? =
      some (Nat.digitChar (n / Nat.pow 10 (columns - column - 1) % 10)) := by
  obtain ⟨hidden, rfl⟩ := Nat.exists_eq_add_of_le (Nat.succ_le_of_lt within)
  have rest : column + 1 + hidden - column - 1 = hidden := by omega
  have front : n / Nat.pow 10 hidden < Nat.pow 10 (column + 1) := Nat.div_lt_of_lt_mul (by
    have split : Nat.pow 10 (column + 1 + hidden) = Nat.pow 10 hidden * Nat.pow 10 (column + 1) := by
      rw [Nat.add_comm]
      exact Nat.pow_add 10 hidden (column + 1)
    rw [← split]
    exact small)
  rw [← List.getElem?_take_of_lt (Nat.lt_succ_self column), rest]
  change (List.take (column + 1) _)[column]? = _
  rw [take_padded (Nat.succ_pos column) hidden small, getElem?_padded_last front]

theorem padded_two (small : n < 100) :
    padded 2 (n : Int) = [Nat.digitChar (n / 10), Nat.digitChar (n % 10)] := by
  have tens : digits (n / 10) = [Nat.digitChar (n / 10)] := Nat.toDigits_of_lt_base (by omega)
  rw [padded_succ Nat.zero_lt_one, padded_natCast, tens]
  rfl

end Padded

end Numeral

end Settings
