import Settings.Proofs.Editor.Cursor

/-!
# Typing into sequences

The digits of all fields are typed into a positional sequence, one after the other from the first
column. The fields are clamped after each key, so the digits behind the cursor can change at any key.
Those before the cursor stay: a clamped field lies between what was typed and any field within bounds,
and if these two agree in their first columns, what lies between them does.

* `handleAll`: a run of actions and what each of them reports.
* `take_padded_entered`, `take_digitColumns_entered`: one key, in one field and in all fields.
* `exists_handleAll_entered`: the columns that were typed so far.
* `handleAll_entered`: all columns.
-/
namespace Settings

namespace Action

/-- The actions enter the digits of a text, by numeric keys or by characters. -/
def Enters (actions : List Action) (digits : List Char) : Prop :=
  actions.map digit? = digits.map fun c => (character c).digit?

instance (actions : List Action) (digits : List Char) : Decidable (Enters actions digits) :=
  inferInstanceAs (Decidable (actions.map digit? = digits.map fun c => (character c).digit?))

theorem digit?_digitChar {d : Nat} (decimal : d < 10) :
    (character (Nat.digitChar d)).digit? = some d := by
  have all : ∀ d < 10, (character (Nat.digitChar d)).digit? = some d := by decide
  exact all d decimal

theorem Enters.length_eq {actions : List Action} {digits : List Char}
    (enters : Enters actions digits) : actions.length = digits.length := by
  have sizes := congrArg List.length enters
  rwa [List.length_map, List.length_map] at sizes

/-- The action for one digit. -/
theorem Enters.exists_getElem? {actions : List Action} {digits : List Char}
    (enters : Enters actions digits) {i d : Nat} (decimal : d < 10)
    (digit : digits[i]? = some (Nat.digitChar d)) :
    ∃ a, actions[i]? = some a ∧ a.digit? = some d := by
  have entry := congrArg (fun entries => entries[i]?) enters
  simp only [List.getElem?_map, digit, Option.map_some, digit?_digitChar decimal] at entry
  exact Option.map_eq_some_iff.mp entry

theorem Enters.exists_cons {actions : List Action} {c : Char} {cs : List Char}
    (enters : Enters actions (c :: cs)) :
    ∃ a rest, actions = a :: rest ∧ a.digit? = (character c).digit? ∧ Enters rest cs :=
  List.map_eq_cons_iff.mp enters

theorem digit?_of_isDigit {c : Char} (isDigit : c.isDigit = true) :
    (character c).digit? = some (c.toNat - '0'.toNat) := if_pos isDigit

end Action

namespace Bounds

variable {b : Bounds} {n legal : Int}

/-- Clamping moves a number towards every number within bounds, and not past it. -/
theorem clamp_between (inside : b.Contains legal) :
    (n ≤ legal → n ≤ b.clamp n ∧ b.clamp n ≤ legal) ∧
      (legal ≤ n → legal ≤ b.clamp n ∧ b.clamp n ≤ n) := by
  unfold Contains at inside
  unfold clamp
  omega

/-- So it keeps the leading digits that the number has in common with one within bounds. -/
theorem clamp_div_eq (inside : b.Contains legal) {place : Int} (positive : 0 < place)
    (agree : n / place = legal / place) : b.clamp n / place = legal / place := by
  obtain ⟨fromBelow, fromAbove⟩ := clamp_between (n := n) inside
  rcases Int.le_total n legal with below | above
  · obtain ⟨lower, upper⟩ := fromBelow below
    have first := Int.ediv_le_ediv positive lower
    have second := Int.ediv_le_ediv positive upper
    omega
  · obtain ⟨lower, upper⟩ := fromAbove above
    have first := Int.ediv_le_ediv positive lower
    have second := Int.ediv_le_ediv positive upper
    omega

/-- A number within bounds has no more digits than the upper bound. -/
theorem Contains.lt_pow_width {n : Nat} (inside : b.Contains (n : Int)) :
    n < Nat.pow 10 (Numeral.width b.high) := by
  have high : b.high.natAbs < Nat.pow 10 (Numeral.width b.high) :=
    (Numeral.width_le_iff (Numeral.width_pos b.high)).mp (Nat.le_refl _)
  have bounded := inside.2
  omega

theorem Contains.exists_nat (inside : b.Contains n) (nonneg : 0 ≤ b.low) : ∃ m : Nat, n = (m : Int) :=
  Int.eq_ofNat_of_zero_le (Int.le_trans nonneg inside.1)

end Bounds

namespace Sequence

open Numeral (padded width)

variable {s : Sequence} {limits : List Bounds} {fields target : List Int}

section Runs

/-- Actions one after the other: the sequence in the end, and for each action whether it counts as a
change and the edge that it reports. -/
def handleAll (mode : HourMode) : List Action → Sequence → Sequence × List (Bool × Option Edge)
  | [], s => (s, [])
  | a :: rest, s =>
    let outcome := s.handle mode a
    let others := handleAll mode rest outcome.state
    (others.1, (outcome.changed, outcome.edge) :: others.2)

theorem handleAll_cons {mode : HourMode} {a : Action} {next : Sequence} {changed : Bool}
    {edge : Option Edge} (first : s.handle mode a = ⟨next, changed, edge⟩) (rest : List Action) :
    s.handleAll mode (a :: rest) =
      ((next.handleAll mode rest).1, (changed, edge) :: (next.handleAll mode rest).2) := by
  rw [handleAll, first]

theorem handleAll_append (mode : HourMode) (actions others : List Action) (s : Sequence) :
    s.handleAll mode (actions ++ others) =
      (((s.handleAll mode actions).1.handleAll mode others).1,
        (s.handleAll mode actions).2 ++ ((s.handleAll mode actions).1.handleAll mode others).2) := by
  induction actions generalizing s with
  | nil => rfl
  | cons a rest ih => rw [List.cons_append, handleAll, handleAll, ih, List.cons_append]

theorem moves_handleAll (mode : HourMode) (actions : List Action) (s : Sequence) :
    Moves s (s.handleAll mode actions).1 := by
  induction actions generalizing s with
  | nil => exact .refl s
  | cons a rest ih => exact (s.moves_handle mode a).trans (ih _)

end Runs

section Settling

theorem ordered_of_inside (inside : Inside limits fields) : ∀ b ∈ limits, b.Ordered := by
  induction inside with
  | nil => exact fun _ member => nomatch member
  | cons own _ ih => exact List.forall_mem_cons.mpr ⟨Int.le_trans own.1 own.2, ih⟩

theorem settle_of_lt (inside : s.cursor < s.totalWidth) :
    s.settle = .changedTo { s with value := clampFields s.limits s.value } := by
  rw [settle]
  exact if_pos inside

theorem settle_of_le (behind : s.totalWidth ≤ s.cursor) :
    s.settle =
      ⟨{ s with value := clampFields s.limits s.value, cursor := s.totalWidth - 1 }, true,
        some .finish⟩ := by
  rw [settle]
  exact if_neg (Nat.not_lt.mpr behind)

theorem clampFields_of_inside (inside : Inside limits fields) : clampFields limits fields = fields := by
  induction inside with
  | nil => rfl
  | cons own _ ih =>
    rw [clampFields] at ih
    rw [clampFields, List.zipWith_cons_cons, Bounds.clamp_of_contains own, ih]

/-- Clamping a field that was replaced. -/
theorem clampFields_set {i : Nat} {b : Bounds} (bounds : limits[i]? = some b) (n : Int) :
    clampFields limits (fields.set i n) = (clampFields limits fields).set i (b.clamp n) := by
  induction limits generalizing fields i with
  | nil => cases bounds
  | cons first rest ih =>
    cases fields with
    | nil => rfl
    | cons v others =>
      cases i with
      | zero =>
        cases bounds
        rfl
      | succ i => exact congrArg (first.clamp v :: ·) (ih bounds)

end Settling

section Columns

/-- The digits that the fields show, one for each column. -/
def digitColumns : List Bounds → List Int → List Char
  | b :: bounds, v :: values => padded (width b.high) v ++ digitColumns bounds values
  | _, _ => []

/-- Fields within bounds that are not negative show one digit for each column. -/
theorem length_padded_of_contains {b : Bounds} {v : Int} (nonneg : 0 ≤ b.low) (inside : b.Contains v) :
    (padded (width b.high) v).length = width b.high := by
  obtain ⟨n, rfl⟩ := inside.exists_nat nonneg
  exact Numeral.length_padded (Numeral.width_pos b.high) inside.lt_pow_width

theorem length_digitColumns (nonneg : ∀ b ∈ limits, 0 ≤ b.low) (inside : Inside limits fields) :
    (digitColumns limits fields).length = columns (limits.map fun b => width b.high) := by
  induction inside with
  | nil => rfl
  | cons own _ ih =>
    obtain ⟨first, others⟩ := List.forall_mem_cons.mp nonneg
    rw [digitColumns, List.length_append, ih others, length_padded_of_contains first own]
    rfl

/-- Each column shows a digit. -/
theorem exists_digit_of_digitColumns (nonneg : ∀ b ∈ limits, 0 ≤ b.low) (inside : Inside limits fields)
    {column : Nat} (within : column < columns (limits.map fun b => width b.high)) :
    ∃ digit < 10, (digitColumns limits fields)[column]? = some (Nat.digitChar digit) := by
  induction inside generalizing column with
  | nil => cases within
  | @cons b v bounds values own _ ih =>
    obtain ⟨first, others⟩ := List.forall_mem_cons.mp nonneg
    have size := length_padded_of_contains first own
    rw [digitColumns]
    by_cases here : column < width b.high
    · obtain ⟨n, rfl⟩ := own.exists_nat first
      rw [List.getElem?_append_left (Nat.lt_of_lt_of_eq here size.symm),
        Numeral.getElem?_padded here own.lt_pow_width]
      exact ⟨_, Nat.mod_lt _ (by decide), rfl⟩
    · have later : column - width b.high < columns (bounds.map fun b => width b.high) := by
        change column < width b.high + columns (bounds.map fun b => width b.high) at within
        omega
      rw [List.getElem?_append_right (by omega), size]
      exact ih others later

/-- What the columns show tells the fields. -/
theorem eq_of_digitColumns_eq (nonneg : ∀ b ∈ limits, 0 ≤ b.low) (inside : Inside limits fields)
    (legal : Inside limits target) (same : digitColumns limits fields = digitColumns limits target) :
    fields = target := by
  induction inside generalizing target with
  | nil =>
    cases legal
    rfl
  | @cons b v bounds values own _ ih =>
    obtain ⟨first, others⟩ := List.forall_mem_cons.mp nonneg
    cases legal with
    | @cons _ t _ targets own' legal =>
      rw [digitColumns, digitColumns] at same
      have sizes :=
        (length_padded_of_contains first own).trans (length_padded_of_contains first own').symm
      obtain ⟨here, below⟩ := List.append_inj same sizes
      obtain ⟨n, rfl⟩ := own.exists_nat first
      obtain ⟨m, rfl⟩ := own'.exists_nat first
      rw [Numeral.padded_inj.mp here, ih others legal below]

end Columns

section Entering

/-- A number in which the digit at a place was replaced: the digits in front of it, the new one, and the
digits behind it. -/
def withDigit (place digit n : Nat) : Nat := n % place + (n / place / 10 * 10 + digit) * place

theorem replaceDigit_eq (columns column digit n : Nat) :
    replaceDigit columns column digit (n : Int) =
      (withDigit (Nat.pow 10 (columns - column - 1)) digit n : Int) := by
  rw [replaceDigit, Int.natAbs_natCast, withDigit]
  generalize Nat.pow 10 (columns - column - 1) = place
  have whole := Nat.mod_add_div n place
  have leading : n / place / 10 * 10 + n / place % 10 = n / place := by omega
  have split : place * (n / place) = n / place / 10 * 10 * place + n / place % 10 * place := by
    rw [← Nat.add_mul, leading, Nat.mul_comm]
  rw [split] at whole
  rw [Nat.add_mul]
  omega

theorem withDigit_div {place : Nat} (positive : 0 < place) (digit n : Nat) :
    withDigit place digit n / place = n / place / 10 * 10 + digit := by
  rw [withDigit, Nat.add_mul_div_right _ _ positive, Nat.div_eq_of_lt (Nat.mod_lt n positive),
    Nat.zero_add]

/-- A key in a field: the columns that were typed and the one under the cursor show the target, although
the field is clamped. -/
theorem take_padded_entered {b : Bounds} {old goal : Int} {column digit : Nat} (nonneg : 0 ≤ b.low)
    (inside : b.Contains old) (legal : b.Contains goal) (within : column < width b.high)
    (agree : (padded (width b.high) old).take column = (padded (width b.high) goal).take column)
    (key : (padded (width b.high) goal)[column]? = some (Nat.digitChar digit)) (decimal : digit < 10) :
    (padded (width b.high) (b.clamp (replaceDigit (width b.high) column digit old))).take (column + 1) =
      (padded (width b.high) goal).take (column + 1) := by
  obtain ⟨o, rfl⟩ := inside.exists_nat nonneg
  obtain ⟨g, rfl⟩ := legal.exists_nat nonneg
  rw [replaceDigit_eq]
  have clamped := Bounds.contains_clamp (Int.le_trans legal.1 legal.2)
    (withDigit (Nat.pow 10 (width b.high - column - 1)) digit o)
  obtain ⟨c, same⟩ := clamped.exists_nat nonneg
  rw [same] at clamped ⊢
  have last : width b.high - (column + 1) = width b.high - column - 1 := rfl
  rw [Numeral.take_padded_eq_iff (Nat.succ_le_of_lt within) clamped.lt_pow_width legal.lt_pow_width,
    last]
  rw [Numeral.take_padded_eq_iff (Nat.le_of_lt within) inside.lt_pow_width legal.lt_pow_width] at agree
  rw [Numeral.getElem?_padded within legal.lt_pow_width] at key
  have wider : Nat.pow 10 (width b.high - column) = Nat.pow 10 (width b.high - column - 1) * 10 := by
    have step : width b.high - column = width b.high - column - 1 + 1 := by omega
    rw [step]
    rfl
  have positive : 0 < Nat.pow 10 (width b.high - column - 1) := Nat.pow_pos (by decide)
  rw [wider, ← Nat.div_div_eq_div_mul, ← Nat.div_div_eq_div_mul] at agree
  generalize Nat.pow 10 (width b.high - column - 1) = place at *
  -- Before it is clamped the field agrees with the target up to the key.
  have digits : g / place % 10 = digit := by
    have read := congrArg (Option.map fun c => (Action.character c).digit?) key
    rw [Option.map_some, Option.map_some, Action.digit?_digitChar (Nat.mod_lt _ (by decide)),
      Action.digit?_digitChar decimal] at read
    exact Option.some.inj (Option.some.inj read)
  have typed : withDigit place digit o / place = g / place := by
    rw [withDigit_div positive, agree]
    omega
  have agreed : (withDigit place digit o : Int) / (place : Int) = (g : Int) / (place : Int) := by
    rw [← Int.natCast_ediv, ← Int.natCast_ediv, typed]
  have kept := Bounds.clamp_div_eq legal (Int.natCast_pos.mpr positive) agreed
  rw [same, ← Int.natCast_ediv, ← Int.natCast_ediv] at kept
  exact Int.ofNat.inj kept

theorem take_append_of_length_eq {α : Type} {front back : List α} {n count : Nat}
    (size : front.length = n) (enough : n ≤ count) :
    (front ++ back).take count = front ++ back.take (count - n) := by
  rw [List.take_append, List.take_of_length_le (size ▸ enough), size]

/-- The same in all fields: the other fields stay, since clamping does not change them. -/
theorem take_digitColumns_entered (nonneg : ∀ b ∈ limits, 0 ≤ b.low) (inside : Inside limits fields)
    (legal : Inside limits target) {column digit field inner : Nat}
    (found : locate (limits.map fun b => width b.high) column = (field, inner))
    (within : column < columns (limits.map fun b => width b.high))
    (agree : (digitColumns limits fields).take column = (digitColumns limits target).take column)
    (key : (digitColumns limits target)[column]? = some (Nat.digitChar digit)) (decimal : digit < 10) :
    (digitColumns limits (clampFields limits (fields.set field
      (replaceDigit ((limits.map fun b => width b.high).getD field 0) inner digit
        (fields.getD field 0))))).take (column + 1) =
      (digitColumns limits target).take (column + 1) := by
  induction inside generalizing target column field inner with
  | nil => cases within
  | @cons b v bounds values own rest ih =>
    obtain ⟨first, others⟩ := List.forall_mem_cons.mp nonneg
    cases legal with
    | @cons _ t _ targets own' legal =>
      have size := length_padded_of_contains first own
      have size' := length_padded_of_contains first own'
      rw [digitColumns] at agree key
      rw [digitColumns] at agree
      rw [List.map_cons, locate] at found
      split at found
      · -- The key is for the first field.
        next here =>
        cases found
        have room := Nat.succ_le_of_lt here
        have ordered : b.Ordered := Int.le_trans own.1 own.2
        have clamped := Bounds.contains_clamp ordered (replaceDigit (width b.high) column digit v)
        rw [List.take_append_of_le_length (Nat.le_of_lt (Nat.lt_of_lt_of_eq here size.symm)),
          List.take_append_of_le_length (Nat.le_of_lt (Nat.lt_of_lt_of_eq here size'.symm))] at agree
        rw [List.getElem?_append_left (Nat.lt_of_lt_of_eq here size'.symm)] at key
        rw [List.map_cons, List.getD_cons_zero, List.getD_cons_zero, List.set_cons_zero, clampFields,
          List.zipWith_cons_cons, digitColumns, digitColumns,
          List.take_append_of_le_length (Nat.le_trans room
            (Nat.le_of_eq (length_padded_of_contains first clamped).symm)),
          List.take_append_of_le_length (Nat.le_trans room (Nat.le_of_eq size'.symm))]
        exact take_padded_entered first own own' here agree key decimal
      · -- The key is for another field, and the first one is the target already.
        next notHere =>
        cases place : locate (bounds.map fun b => width b.high) (column - width b.high) with
        | mk later inner =>
        rw [place] at found
        cases found
        have behind : width b.high ≤ column := Nat.le_of_not_lt notHere
        have inside' : column - width b.high < columns (bounds.map fun b => width b.high) := by
          change column < width b.high + columns (bounds.map fun b => width b.high) at within
          omega
        have next : column + 1 - width b.high = column - width b.high + 1 := by omega
        rw [take_append_of_length_eq size behind, take_append_of_length_eq size' behind] at agree
        obtain ⟨whole, agree⟩ := List.append_inj agree (size.trans size'.symm)
        rw [List.getElem?_append_right (Nat.le_trans (Nat.le_of_eq size') behind), size'] at key
        have entered := ih others legal place inside' agree key
        rw [List.map_cons, List.getD_cons_succ, List.getD_cons_succ, List.set_cons_succ, clampFields,
          List.zipWith_cons_cons, Bounds.clamp_of_contains own, digitColumns, digitColumns,
          take_append_of_length_eq size (Nat.le_succ_of_le behind),
          take_append_of_length_eq size' (Nat.le_succ_of_le behind), whole, next, ← entered]
        rfl

end Entering

section Positional

variable {keys : List Action}

theorem handle_of_positional (style : s.style = .positional) (a : Action) :
    s.handle mode a = s.handlePositional a := by
  rw [handle, style]

theorem handlePositional_of_digit? {a : Action} {digit : Nat} (entered : a.digit? = some digit)
    (s : Sequence) : s.handlePositional a = s.enterDigit digit := by
  unfold handlePositional
  cases a with
  | digit n =>
    dsimp only
    rw [entered]
  | character c =>
    dsimp only
    rw [entered]
  | _ => cases entered

/-- The key for a column. Where the cursor stops behind it is left to the settling. -/
theorem exists_handle_entered (mode : HourMode) (style : s.style = .positional)
    (nonneg : ∀ b ∈ s.limits, 0 ≤ b.low) (inside : Inside s.limits fields)
    (legal : Inside s.limits target) (enters : Action.Enters keys (digitColumns s.limits target))
    {column : Nat} (within : column < s.totalWidth)
    (agree : (digitColumns s.limits fields).take column = (digitColumns s.limits target).take column) :
    ∃ a raw, keys[column]? = some a ∧
      handle mode a { s with value := fields, cursor := column } =
        settle { s with value := raw, cursor := column + 1 } ∧
      Inside s.limits (clampFields s.limits raw) ∧
      (digitColumns s.limits (clampFields s.limits raw)).take (column + 1) =
        (digitColumns s.limits target).take (column + 1) := by
  obtain ⟨digit, decimal, shown⟩ := exists_digit_of_digitColumns nonneg legal within
  obtain ⟨a, key, entered⟩ := enters.exists_getElem? decimal shown
  cases found : locate s.widths column with
  | mk field inner =>
  refine ⟨a, _, key, ?_, ?_,
    take_digitColumns_entered nonneg inside legal found within agree shown decimal⟩
  · have place : locate (widths { s with value := fields, cursor := column }) column = (field, inner) :=
      found
    rw [handle_of_positional (s := { s with value := fields, cursor := column }) style,
      handlePositional_of_digit? entered, enterDigit, place]
    rfl
  · refine inside_clampFields (ordered_of_inside legal) ?_
    rw [List.length_set]
    exact inside.length_eq.symm

/-- From the first column on, every key but the last puts its digit into its column and keeps the
columns before it. -/
theorem exists_handleAll_entered (mode : HourMode) (style : s.style = .positional)
    (nonneg : ∀ b ∈ s.limits, 0 ≤ b.low) (inside : Inside s.limits s.value)
    (legal : Inside s.limits target) (enters : Action.Enters keys (digitColumns s.limits target))
    {count : Nat} (within : count < s.totalWidth) :
    ∃ fields, s.handleAll mode (.first :: keys.take count) =
        ({ s with value := fields, cursor := count },
          (false, none) :: List.replicate count (true, none)) ∧
      Inside s.limits fields ∧
      (digitColumns s.limits fields).take count = (digitColumns s.limits target).take count := by
  induction count with
  | zero =>
    refine ⟨s.value, ?_, inside, rfl⟩
    rw [List.take_zero, handleAll, handle_of_positional style]
    rfl
  | succ count ih =>
    have room : count < s.totalWidth := Nat.lt_of_succ_lt within
    obtain ⟨fields, before, inside, agree⟩ := ih room
    obtain ⟨a, raw, next, typed, inside, agree⟩ :=
      exists_handle_entered mode style nonneg inside legal enters room agree
    refine ⟨_, ?_, inside, agree⟩
    rw [List.take_add_one, next, Option.toList_some, ← List.cons_append, handleAll_append, before,
      handleAll, typed, settle_of_lt within, List.replicate_succ']
    rfl

theorem eq_take_append_of_getElem? {α : Type} {entries : List α} {n : Nat} {x : α}
    (last : entries[n]? = some x) (size : entries.length = n + 1) :
    entries = entries.take n ++ [x] := by
  have step : entries.take (n + 1) = entries.take n ++ [x] := by
    rw [List.take_add_one, last, Option.toList_some]
  rw [← step, ← size, List.take_length]

/-- The last key completes the fields, and the cursor stays on its column. -/
theorem handleAll_entered (mode : HourMode) (style : s.style = .positional)
    (nonneg : ∀ b ∈ s.limits, 0 ≤ b.low) (inside : Inside s.limits s.value)
    (legal : Inside s.limits target) (wide : 0 < s.totalWidth)
    (enters : Action.Enters keys (digitColumns s.limits target)) :
    s.handleAll mode (.first :: keys) =
      ({ s with value := target, cursor := s.totalWidth - 1 },
        (false, none) ::
          (List.replicate (s.totalWidth - 1) (true, none) ++ [(true, some .finish)])) := by
  have room : s.totalWidth - 1 < s.totalWidth := Nat.sub_lt wide Nat.zero_lt_one
  have last : s.totalWidth - 1 + 1 = s.totalWidth := Nat.sub_add_cancel wide
  have size : (digitColumns s.limits target).length = s.totalWidth := length_digitColumns nonneg legal
  obtain ⟨fields, before, inside, agree⟩ :=
    exists_handleAll_entered mode style nonneg inside legal enters room
  obtain ⟨a, raw, next, typed, inside, agree⟩ :=
    exists_handle_entered mode style nonneg inside legal enters room agree
  have complete : clampFields s.limits raw = target := by
    have whole : (digitColumns s.limits (clampFields s.limits raw)).length = s.totalWidth :=
      length_digitColumns nonneg inside
    rw [last, List.take_of_length_le (Nat.le_of_eq whole),
      List.take_of_length_le (Nat.le_of_eq size)] at agree
    exact eq_of_digitColumns_eq nonneg inside legal agree
  have keysSplit : keys = keys.take (s.totalWidth - 1) ++ [a] :=
    eq_take_append_of_getElem? next (by rw [enters.length_eq, size, last])
  rw [keysSplit, ← List.cons_append, handleAll_append, before, handleAll, typed,
    settle_of_le (Nat.le_of_eq last.symm), complete]
  rfl

end Positional

end Sequence

end Settings
