import Settings.Proofs.Editor.Navigation
import Settings.Proofs.Element.Closed

/-!
# Moves over choices, in every order

A run of moves over the choices of a selection changes nothing but the value, and the position of the
value behind the run is the one that the moves count up to, as long as the choices have distinct string
forms.

* `perform_move`: one move.
* `run_moves`: a run of moves.
* `index_navigated`: the position behind a run.
-/
namespace Settings.Element

open Selection (Move)

/-- The move over choices that an operation is, if it is one. -/
def Operation.move? : Operation → Option Move
  | .act _ .left => some .left
  | .act _ .right => some .right
  | .act _ .first => some .first
  | .act _ .last => some .last
  | .edit .selectNext => some .next
  | _ => none

variable {e : Element} {s : Selection} {i : Nat} {c : Choice}

theorem result_act_selection (enabled : e.enabled = true) (shown : e.kind = .selection s)
    (mode : HourMode) (a : Action) :
    (e.perform (.act mode a)).1.result = { e with kind := .selection (s.handle a).state } := by
  simp only [perform, handle, enabled, if_true, shown, Kind.handle]
  rfl

/-- A move changes nothing but the selection. -/
theorem perform_move (enabled : e.enabled = true) (shown : e.kind = .selection s) {op : Operation}
    {move : Move} (moves : op.move? = some move) :
    (e.perform op).1.result = { e with kind := .selection (s.moved move) } := by
  cases op with
  | act mode a =>
    cases a with
    | left | right | first | last =>
      cases moves
      exact result_act_selection enabled shown mode _
    | _ => cases moves
  | edit change =>
    cases change with
    | selectNext =>
      cases moves
      have done : e.kind.apply .selectNext = .ok (.selection s.selectNext, none) := by
        rw [shown, Kind.apply]
      rw [perform_edit done]
      rfl
    | _ => cases moves
  | _ => cases moves

/-- A run of moves leads to the position that they count up to. -/
theorem run_moves (enabled : e.enabled = true) (distinct : (s.choices.map Choice.key).Nodup)
    (several : 2 ≤ s.choices.length) {ops : List Operation} {moves : List Move}
    (only : ops.map Operation.move? = moves.map some) (inside : i < s.choices.length)
    (shown : e.kind = .selection (s.moveTo i)) :
    ∃ j < s.choices.length, (j : Int) = Move.positions s.wraparound s.choices.length i moves ∧
      (run ops e).result = { e with kind := .selection (s.moveTo j) } := by
  -- All selections of the run are moves of the first one, so the choices and their forms stay the same.
  induction ops generalizing e i moves with
  | nil =>
    cases moves with
    | nil => exact ⟨i, inside, rfl, by rw [← shown]; rfl⟩
    | cons move rest => cases only
  | cons op ops ih =>
    cases moves with
    | nil => cases only
    | cons move rest =>
      rw [List.map_cons, List.map_cons, List.cons.injEq] at only
      have first := perform_move enabled shown only.1
      rw [Selection.moved_moveTo distinct several inside] at first
      have ends := Move.target_lt s.wraparound inside move
      obtain ⟨j, below, counted, led⟩ :=
        ih (e := (e.perform op).1.result) (by rw [first]; exact enabled) only.2 ends (by rw [first])
      have whole : (run (op :: ops) e).result = (run ops (e.perform op).1.result).result := rfl
      refine ⟨j, below, ?_, by rw [whole, led, first]⟩
      rw [counted, Move.cast_target inside]
      rfl

/-- Moves over choices with distinct string forms are counting: behind any run of them the selection has
the choice at the position that the moves count up to, and finds it there; nothing else changes. Round the
ends, as many moves to the right as there are choices lead back, and a move to the left takes a move to
the right back, also up to the ends if there is a choice further right. -/
theorem index_navigated (enabled : e.enabled = true) (shown : e.kind = .selection s)
    (several : 2 ≤ s.choices.length) (distinct : (s.choices.map Choice.key).Nodup)
    (member : c ∈ s.choices) (on : c.value = s.value) :
    (∀ ops moves, ops.map Operation.move? = moves.map some →
      ∃ (j : Nat) (c' : Choice), (j : Int) = Move.positions s.wraparound s.choices.length s.index moves ∧
        s.choices[j]? = some c' ∧ Selection.index { s with value := c'.value } = j ∧
        (run ops e).result = { e with kind := .selection { s with value := c'.value } }) ∧
    (∀ ops, s.wraparound = true →
      ops.map Operation.move? = List.replicate s.choices.length (some .right) →
      (run ops e).result = e) ∧
    ∀ right left : Operation, right.move? = some .right → left.move? = some .left →
      s.wraparound = true ∨ s.index + 1 < s.choices.length → (run [right, left] e).result = e := by
  obtain ⟨inside, there⟩ := Selection.moveTo_index distinct member on
  have placed : e.kind = .selection (s.moveTo s.index) := by rw [there, shown]
  have back (ops moves) (only : ops.map Operation.move? = moves.map some)
      (returns : Move.positions s.wraparound s.choices.length s.index moves = s.index) :
      (run ops e).result = e := by
    obtain ⟨j, _, counted, led⟩ := run_moves enabled distinct several only inside placed
    have same : j = s.index := by omega
    rw [led, same, there, ← shown]
  refine ⟨fun ops moves only => ?_, fun ops round only => ?_, fun right left first second fits => ?_⟩
  · obtain ⟨j, below, counted, led⟩ := run_moves enabled distinct several only inside placed
    have choice := List.getElem?_eq_getElem below
    have found := Selection.index_moveTo distinct below
    rw [Selection.moveTo_of_getElem? choice] at found led
    exact ⟨j, _, counted, choice, found, led⟩
  · refine back ops (List.replicate s.choices.length .right) (by rw [only, List.map_replicate]) ?_
    rw [round, Move.positions_replicate_right (by omega) (by omega), Int.add_emod_right]
    exact Int.emod_eq_of_lt (by omega) (by omega)
  · refine back [right, left] [.right, .left] (by simp [first, second]) ?_
    exact Move.positions_right_left (by omega) (by omega) (fits.imp_right fun further => by omega)

/-- Three speeds of different types. -/
def mixedSpeeds : List Choice := [⟨.text "off", none⟩, ⟨.int 1, some "slow"⟩, ⟨.list [.int 2], none⟩]

/-- Three moves to the right and one back, two on by direct edits, one back and one on. -/
def speedMoves : List Operation :=
  [.act .twelve .right, .act .twelve .right, .act .twentyFour .right, .act .twelve .left,
    .edit .selectNext, .edit .selectNext, .act .twelve .left, .edit .selectNext]

/-- From the second speed and up to the ends, the moves lead to the second speed, since two moves to the
right stop at the last one and the last move to the left stops at the first one. Round the ends three moves
to the right lead back. -/
theorem index_navigated_speeds :
    (∃ c, mixedSpeeds[1]? = some c ∧
      (run speedMoves (ofKind (.selection
        ((Selection.ofChoices mixedSpeeds (some (.text "1"))).withWraparound false)))).result.kind =
        .selection ⟨mixedSpeeds, c.value, .int 1, false⟩) ∧
    (run [.act .twelve .right, .act .twentyFour .right, .act .twelve .right]
        (ofKind (.selection (.ofChoices mixedSpeeds none)))).result =
      ofKind (.selection (.ofChoices mixedSpeeds none)) := by
  have distinct : (mixedSpeeds.map Choice.key).Nodup := by decide +kernel
  constructor
  · obtain ⟨moved, _⟩ := index_navigated (e := ofKind (.selection ⟨mixedSpeeds, .int 1, .int 1, false⟩))
      (c := ⟨.int 1, some "slow"⟩) rfl rfl (by decide) distinct (by simp [mixedSpeeds]) rfl
    obtain ⟨j, c, counted, there, _, led⟩ :=
      moved speedMoves [.right, .right, .right, .left, .next, .next, .left, .next] rfl
    have second : j = 1 := Int.ofNat.inj (counted.trans (by decide +kernel))
    have made : (Selection.ofChoices mixedSpeeds (some (.text "1"))).withWraparound false =
        ⟨mixedSpeeds, .int 1, .int 1, false⟩ := by decide +kernel
    refine ⟨c, second ▸ there, ?_⟩
    rw [made, led]
  · obtain ⟨_, returns, _⟩ := index_navigated (e := ofKind (.selection (.ofChoices mixedSpeeds none)))
      (c := ⟨.text "off", none⟩) rfl rfl (by decide) distinct (by simp [mixedSpeeds, Selection.ofChoices]) rfl
    exact returns _ rfl rfl

end Settings.Element
