import Settings.Proofs.Editor.Choices

/-!
# Moves over choices

A selection does not keep its position but finds it again by its string form. As long as the string forms
are distinct, this is the same as counting: a move leads from one position to another, round the ends or
up to them.

* `index_moveTo`, `moveTo_index`: a selection and its position.
* `Move.cast_target`: positions as numbers.
* `moved_moveTo`: one move.
-/
namespace Settings.Selection

/-- Four edit actions and the direct edit that takes the next choice. -/
inductive Move where
  | left | right | first | last | next
  deriving DecidableEq, Repr

namespace Move

/-- The position that a move leads to among `size` choices, as a number. -/
def position (wraparound : Bool) (size i : Int) : Move → Int
  | .left => if wraparound then (i - 1) % size else max 0 (i - 1)
  | .right => if wraparound then (i + 1) % size else min (size - 1) (i + 1)
  | .first => 0
  | .last => size - 1
  | .next => (i + 1) % size

/-- The position behind a run of moves. -/
def positions (wraparound : Bool) (size i : Int) (moves : List Move) : Int :=
  moves.foldl (fun i move => move.position wraparound size i) i

/-- The edit action of a move; `none` if it is a direct edit. -/
def action? : Move → Option Action
  | .left => some .left
  | .right => some .right
  | .first => some .first
  | .last => some .last
  | .next => none

/-- The position that the selection goes to; it stays where an action leads nowhere. -/
def target (wraparound : Bool) (size i : Nat) (move : Move) : Nat :=
  match move.action? with
  | some a => (target? wraparound size i a).getD i
  | none => (i + 1) % size

section Numbers

variable {wraparound : Bool} {size i : Nat}

theorem target_lt (wraparound : Bool) (inside : i < size) (move : Move) :
    move.target wraparound size i < size := by
  have positive : 0 < size := by omega
  have remainder (n : Nat) : n % size < size := Nat.mod_lt n positive
  cases move with
  | left | right =>
    simp only [target, action?, target?]
    split
    · exact inside
    · exact remainder _
  | first => exact positive
  | last =>
    simp only [target, action?, target?, Option.getD_some]
    omega
  | next => exact remainder _

/-- The targets are counted as the numbers are. -/
theorem cast_target (inside : i < size) (move : Move) :
    (move.target wraparound size i : Int) = move.position wraparound size i := by
  have back : ((i + size - 1 : Nat) : Int) = (i : Int) - 1 + size := by omega
  cases move with
  | left =>
    cases wraparound with
    | true => simp [target, action?, target?, position, back]
    | false =>
      have led : Move.left.target false size i = i - 1 := by
        by_cases start : i = 0
        · simp [target, action?, target?, start]
        · have before : (i + size - 1) % size = i - 1 := by
            rw [show i + size - 1 = i - 1 + size by omega, Nat.add_mod_right, Nat.mod_eq_of_lt (by omega)]
          simp [target, action?, target?, start, before]
      simp only [led, position, Bool.false_eq_true, if_false]
      omega
  | right =>
    cases wraparound with
    | true => simp [target, action?, target?, position]
    | false =>
      have led : Move.right.target false size i = min (size - 1) (i + 1) := by
        by_cases finish : i + 1 = size
        · simp only [target, action?, target?, finish, Bool.not_false, beq_self_eq_true, Bool.and_self,
            if_true, Option.getD_none]
          omega
        · have after : (i + 1) % size = i + 1 := Nat.mod_eq_of_lt (by omega)
          have below : min (size - 1) (i + 1) = i + 1 := by omega
          simp [target, action?, target?, finish, after, below]
      simp only [led, position, Bool.false_eq_true, if_false]
      omega
  | first => rfl
  | last =>
    simp only [target, action?, target?, position, Option.getD_some]
    omega
  | next => simp [target, action?, position]

theorem positions_concat (wraparound : Bool) (size i : Int) (moves : List Move) (move : Move) :
    positions wraparound size i (moves ++ [move]) =
      move.position wraparound size (positions wraparound size i moves) :=
  List.foldl_append

/-- Moves to the right count on, round the end. -/
theorem positions_replicate_right {size i : Int} (low : 0 ≤ i) (high : i < size) (count : Nat) :
    positions true size i (List.replicate count .right) = (i + count) % size := by
  induction count with
  | zero => simpa [positions] using (Int.emod_eq_of_lt low high).symm
  | succ count ih =>
    rw [List.replicate_succ', positions_concat, ih]
    simp [position, Int.add_assoc]

/-- A move to the left takes back a move to the right, unless there was nowhere to go. -/
theorem positions_right_left {wraparound : Bool} {size i : Int} (low : 0 ≤ i) (high : i < size)
    (fits : wraparound = true ∨ i + 1 < size) : positions wraparound size i [.right, .left] = i := by
  cases wraparound with
  | true => simpa [positions, position] using Int.emod_eq_of_lt low high
  | false =>
    have further : i + 1 < size := by simpa using fits
    simp only [positions, position, List.foldl_cons, List.foldl_nil, Bool.false_eq_true, if_false]
    omega

end Numbers

end Move

/-- What a move does to a selection. -/
def moved (s : Selection) (move : Move) : Selection :=
  match move.action? with
  | some a => (s.handle a).state
  | none => s.selectNext

variable {s : Selection} {i j : Nat} {c : Choice}

section Positions

theorem moveTo_of_getElem? (there : s.choices[i]? = some c) :
    s.moveTo i = { s with value := c.value } := by
  rw [moveTo, there]

theorem choices_moveTo (i : Nat) (s : Selection) : (s.moveTo i).choices = s.choices :=
  (follows_moveTo i s).choices

theorem wraparound_moveTo (i : Nat) (s : Selection) : (s.moveTo i).wraparound = s.wraparound := by
  unfold moveTo
  split <;> rfl

/-- Only the last move counts. -/
theorem moveTo_moveTo (i : Nat) (inside : j < s.choices.length) :
    (s.moveTo i).moveTo j = s.moveTo j := by
  have there := List.getElem?_eq_getElem inside
  have still : (s.moveTo i).choices[j]? = some s.choices[j] := by
    rw [choices_moveTo, there]
  rw [moveTo_of_getElem? there, moveTo_of_getElem? still]
  unfold moveTo
  split <;> rfl

/-- A selection finds the position that it was moved to. -/
theorem index_moveTo (distinct : (s.choices.map Choice.key).Nodup) (inside : i < s.choices.length) :
    (s.moveTo i).index = i := by
  have there := List.getElem?_eq_getElem inside
  rw [moveTo_of_getElem? there]
  exact index_eq (standsFirst_of_distinct distinct there) rfl

/-- A selection on a choice is where it was moved to. -/
theorem moveTo_index (distinct : (s.choices.map Choice.key).Nodup) (member : c ∈ s.choices)
    (on : c.value = s.value) : s.index < s.choices.length ∧ s.moveTo s.index = s := by
  obtain ⟨i, inside, rfl⟩ := List.getElem_of_mem member
  have there := List.getElem?_eq_getElem inside
  have same : s.index = i :=
    index_eq (standsFirst_of_distinct distinct there) (congrArg Value.stringForm on)
  rw [same, moveTo_of_getElem? there, on]
  exact ⟨inside, rfl⟩

end Positions

/-- An action leads to its target, if it has one. -/
theorem state_handle (several : 2 ≤ s.choices.length) (a : Action) :
    (s.handle a).state =
      ((target? s.wraparound s.choices.length s.index a).map s.moveTo).getD s := by
  rw [handle, if_neg (by omega)]
  cases target? s.wraparound s.choices.length s.index a <;> rfl

/-- A move leads from its position to its target. -/
theorem moved_moveTo (distinct : (s.choices.map Choice.key).Nodup) (several : 2 ≤ s.choices.length)
    (inside : i < s.choices.length) (move : Move) :
    (s.moveTo i).moved move = s.moveTo (move.target s.wraparound s.choices.length i) := by
  -- Only the value is kept, so the move starts at the position that is found for it, which is the old one.
  have ends := Move.target_lt s.wraparound inside move
  cases acts : move.action? with
  | some a =>
    simp only [moved, Move.target, acts] at ends ⊢
    rw [state_handle (by rwa [choices_moveTo]), choices_moveTo, wraparound_moveTo,
      index_moveTo distinct inside]
    cases leads : target? s.wraparound s.choices.length i a with
    | none => rfl
    | some j =>
      rw [leads] at ends
      exact moveTo_moveTo i ends
  | none =>
    simp only [moved, Move.target, acts, selectNext] at ends ⊢
    rw [choices_moveTo, index_moveTo distinct inside]
    exact moveTo_moveTo i ends

end Settings.Selection
