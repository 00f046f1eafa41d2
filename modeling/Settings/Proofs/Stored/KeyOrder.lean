import Settings.Proofs.Numeral
import Settings.Stored.KeyOrder

/-!
# The order of keys

The order in which keys are written is a total order, whatever is done to take the case away: it
compares in up to three steps, and the last step tells any two keys apart. Keys that are numerals come
first, in the order of the numbers that they stand for.

* `keyOrderBy_total`: all this in one statement.
-/
namespace Settings

namespace Numeral

variable {xs ys : List Char}

/-- Of two numbers with as many digits behind them the numbers decide, then the digits. -/
theorem ofDigitChars_lt_iff (size : xs.length = ys.length) (left : ∀ c ∈ xs, c.isDigit = true)
    (right : ∀ c ∈ ys, c.isDigit = true) (m n : Nat) :
    Nat.ofDigitChars 10 xs m < Nat.ofDigitChars 10 ys n ↔ m < n ∨ m = n ∧ xs < ys := by
  induction xs generalizing ys m n with
  | nil =>
    rw [List.length_eq_zero_iff.mp size.symm]
    simp
  | cons c xs ih =>
    obtain ⟨d, ys, rfl⟩ := List.exists_cons_of_length_eq_add_one size.symm
    obtain ⟨first, others⟩ := List.forall_mem_cons.mp left
    obtain ⟨first', others'⟩ := List.forall_mem_cons.mp right
    have small := Char.isDigit_iff_toNat.mp first
    have small' := Char.isDigit_iff_toNat.mp first'
    have zero : '0'.toNat = 48 := rfl
    have nine : '9'.toNat = 57 := rfl
    have before : c < d ↔ c.toNat < d.toNat := Iff.rfl
    have same : c = d ↔ c.toNat = d.toNat := Char.toNat_inj.symm
    rw [Nat.ofDigitChars_cons, Nat.ofDigitChars_cons, ih (Nat.succ.inj size) others others',
      List.cons_lt_cons_iff, before, same]
    by_cases less : xs < ys
    · simp only [less, and_true]
      omega
    · simp only [less, and_false, or_false]
      omega

/-- Digits without a zero in front stand for a positive number. -/
theorem ofDigitChars_pos (proper : xs ≠ []) (isDigit : ∀ c ∈ xs, c.isDigit = true)
    (noZero : xs.head? ≠ some '0') : 0 < Nat.ofDigitChars 10 xs 0 := by
  obtain ⟨c, rest, rfl⟩ := List.exists_cons_of_ne_nil proper
  have nonzero : c ≠ '0' := fun zero => noZero (congrArg some zero)
  have written := digits_ofDigitChars isDigit nonzero
  apply Nat.pos_of_ne_zero
  intro none
  rw [none] at written
  exact nonzero (List.cons.inj written).1.symm

/-- Without a zero in front, the longer numeral stands for the larger number. -/
theorem ofDigitChars_lt_of_length_lt (shorter : xs.length < ys.length)
    (left : ∀ c ∈ xs, c.isDigit = true) (right : ∀ c ∈ ys, c.isDigit = true)
    (noZero : ys.head? ≠ some '0') : Nat.ofDigitChars 10 xs 0 < Nat.ofDigitChars 10 ys 0 := by
  -- The digits that `ys` has more are a number of their own, which is positive.
  have size : xs.length = (ys.drop (ys.length - xs.length)).length := by
    rw [List.length_drop]
    omega
  have leading : 0 < Nat.ofDigitChars 10 (ys.take (ys.length - xs.length)) 0 := by
    apply ofDigitChars_pos
    · intro empty
      have taken := congrArg List.length empty
      rw [List.length_take, List.length_nil] at taken
      omega
    · exact fun c member => right c (List.mem_of_mem_take member)
    · rwa [List.head?_take, if_neg (by omega)]
  have whole := Nat.ofDigitChars_append (b := 10) (l := ys.take (ys.length - xs.length))
    (m := ys.drop (ys.length - xs.length)) 0
  rw [List.take_append_drop] at whole
  rw [whole, ofDigitChars_lt_iff size left fun c member => right c (List.mem_of_mem_drop member)]
  exact .inl leading

/-- Zeros in front do not count. -/
theorem ofDigitChars_dropWhile_zero (cs : List Char) :
    Nat.ofDigitChars 10 (cs.dropWhile (· = '0')) 0 = Nat.ofDigitChars 10 cs 0 := by
  induction cs with
  | nil => rfl
  | cons c rest ih =>
    by_cases zero : c = '0'
    · simp [zero, ih, Nat.ofDigitChars_cons]
    · simp [zero]

end Numeral

/-- The number that a key of digits stands for. -/
def keyNumber (key : String) : Nat := Nat.ofDigitChars 10 key.toList 0

/-- The order before ties are broken, with any way `lower` to take the case away. -/
def comparePrimaryBy (lower : String → String) (a b : String) : Ordering :=
  match isNumeralKey a, isNumeralKey b with
  | true, true => compareNumerals a b
  | true, false => .lt
  | false, true => .gt
  | false, false => compare (lower a) (lower b)

/-- The order of keys, with any way `lower` to take the case away. -/
def keyOrderBy (lower : String → String) (a b : String) : Ordering :=
  (comparePrimaryBy lower a b).then (compare a b)

theorem keyOrder_eq_keyOrderBy : keyOrder = keyOrderBy Text.toLowerCase := rfl

section Order

variable (lower : String → String)

/-- Numerals are compared by their lengths, then by their characters. -/
instance : Std.TransCmp compareNumerals :=
  inferInstanceAs (Std.TransCmp (compareLex
    (compareOn fun s : String => (s.toList.dropWhile (· = '0')).length)
    (compareOn fun s : String => String.ofList (s.toList.dropWhile (· = '0')))))

theorem swap_compareNumerals {a b : String} : compareNumerals a b = (compareNumerals b a).swap :=
  Std.OrientedCmp.eq_swap

instance : Std.OrientedCmp (comparePrimaryBy lower) where
  eq_swap {a b} := by
    unfold comparePrimaryBy
    cases isNumeralKey a <;> cases isNumeralKey b
    · exact Std.OrientedOrd.eq_swap
    · rfl
    · rfl
    · exact swap_compareNumerals

instance : Std.TransCmp (comparePrimaryBy lower) where
  isLE_trans {a b c} first second := by
    unfold comparePrimaryBy at first second ⊢
    cases ha : isNumeralKey a <;> cases hc : isNumeralKey c <;> simp only [ha, hc] at first second ⊢
    · -- Neither is a numeral, and then `b` is none either.
      cases hb : isNumeralKey b <;> simp only [hb] at first second
      · exact Std.TransCmp.isLE_trans first second
      · cases first
    · -- Nothing is after a key that is no numeral and before a numeral.
      cases hb : isNumeralKey b <;> simp only [hb] at first second
      · cases second
      · cases first
    · rfl
    · cases hb : isNumeralKey b <;> simp only [hb] at first second
      · cases second
      · exact Std.TransCmp.isLE_trans first second

instance : Std.TransCmp (keyOrderBy lower) :=
  inferInstanceAs (Std.TransCmp (compareLex (comparePrimaryBy lower) compare))

instance : Std.LawfulEqCmp (keyOrderBy lower) where
  compare_self := Std.ReflCmp.compare_self
  eq_of_compare same := Std.LawfulEqOrd.eq_of_compare (Ordering.then_eq_eq.mp same).2

end Order

section Numerals

variable {a b : String}

/-- The digits of a numeral without the zeros in front. -/
theorem digits_of_isNumeralKey (numeral : isNumeralKey a = true) :
    (∀ c ∈ a.toList.dropWhile (· = '0'), c.isDigit = true) ∧
      (a.toList.dropWhile (· = '0')).head? ≠ some '0' := by
  simp only [isNumeralKey, Bool.and_eq_true, List.all_eq_true] at numeral
  constructor
  · intro c member
    exact numeral.2 c ((List.dropWhile_sublist _).mem member)
  · intro zero
    have first := List.head?_dropWhile_not (fun c : Char => decide (c = '0')) a.toList
    rw [zero] at first
    simp at first

theorem lt_of_compare_eq_lt (less : compare a b = .lt) : a < b := compareOfLessAndEq_eq_lt.mp less

theorem keyNumber_lt_of_compareNumerals (left : isNumeralKey a = true) (right : isNumeralKey b = true)
    (less : compareNumerals a b = .lt) : keyNumber a < keyNumber b := by
  obtain ⟨digits, _⟩ := digits_of_isNumeralKey left
  obtain ⟨digits', noZero⟩ := digits_of_isNumeralKey right
  rw [keyNumber, keyNumber, ← Numeral.ofDigitChars_dropWhile_zero a.toList,
    ← Numeral.ofDigitChars_dropWhile_zero b.toList]
  rcases Ordering.then_eq_lt.mp less with shorter | ⟨size, before⟩
  · exact Numeral.ofDigitChars_lt_of_length_lt (Nat.compare_eq_lt.mp shorter) digits digits' noZero
  · have size := Nat.compare_eq_eq.mp size
    have before := String.lt_iff.mp (lt_of_compare_eq_lt before)
    rw [String.toList_ofList, String.toList_ofList] at before
    exact (Numeral.ofDigitChars_lt_iff size digits digits' 0 0).mpr (.inr ⟨rfl, before⟩)

/-- Numerals are in the order of the numbers that they stand for. -/
theorem compareNumerals_eq_compare (left : isNumeralKey a = true) (right : isNumeralKey b = true) :
    compareNumerals a b = compare (keyNumber a) (keyNumber b) := by
  cases order : compareNumerals a b with
  | lt =>
    exact (Nat.compare_eq_lt.mpr (keyNumber_lt_of_compareNumerals left right order)).symm
  | eq =>
    have same := Std.LawfulEqCmp.eq_of_compare (Ordering.then_eq_eq.mp order).2
    have same := String.ofList_injective same
    symm
    apply Nat.compare_eq_eq.mpr
    rw [keyNumber, keyNumber, ← Numeral.ofDigitChars_dropWhile_zero a.toList, same,
      Numeral.ofDigitChars_dropWhile_zero]
  | gt =>
    have order := Std.OrientedCmp.gt_iff_lt.mp order
    exact (Nat.compare_eq_gt.mpr (keyNumber_lt_of_compareNumerals right left order)).symm

end Numerals

/-- Whatever is done to take the case away, the order of keys is a total order, in which numerals of any
length come before all other keys and stand in the order of their numbers. -/
theorem keyOrderBy_total (lower : String → String) :
    keyOrder = keyOrderBy Text.toLowerCase ∧
    ∀ a b c : String,
      (keyOrderBy lower a b = .eq ↔ a = b) ∧
      keyOrderBy lower b a = (keyOrderBy lower a b).swap ∧
      (keyOrderBy lower a b = .lt → keyOrderBy lower b c = .lt → keyOrderBy lower a c = .lt) ∧
      (isNumeralKey a = true → isNumeralKey b = false → keyOrderBy lower a b = .lt) ∧
      (isNumeralKey a = true → isNumeralKey b = true →
        keyOrderBy lower a b = (compare (keyNumber a) (keyNumber b)).then (compare a b)) := by
  refine ⟨keyOrder_eq_keyOrderBy, ?_⟩
  intro a b c
  refine ⟨?_, ?_, ?_, ?_, ?_⟩
  · exact Std.LawfulEqCmp.compare_eq_iff_eq
  · exact Std.OrientedCmp.eq_swap
  · exact Std.TransCmp.lt_trans
  · intro left right
    simp [keyOrderBy, comparePrimaryBy, left, right]
  · intro left right
    simp [keyOrderBy, comparePrimaryBy, left, right, compareNumerals_eq_compare]

/-- A key of more digits than a machine word has room for stands between a small number, in spite of
the zeros in front of that, and a key with a letter. -/
theorem keyOrderBy_total_long :
    keyOrder "007" "123456789012345678901234567890" = .lt ∧
      keyOrder "123456789012345678901234567890" "1a" = .lt ∧ keyOrder "007" "1a" = .lt := by
  obtain ⟨same, total⟩ := keyOrderBy_total Text.toLowerCase
  obtain ⟨_, _, through, _, numbers⟩ := total "007" "123456789012345678901234567890" "1a"
  obtain ⟨_, _, _, sorts, _⟩ := total "123456789012345678901234567890" "1a" "1a"
  rw [same]
  have first : keyOrderBy Text.toLowerCase "007" "123456789012345678901234567890" = .lt := by
    rw [numbers (by decide) (by decide)]
    decide
  have second := sorts (by decide) (by decide)
  exact ⟨first, second, through first second⟩

end Settings
