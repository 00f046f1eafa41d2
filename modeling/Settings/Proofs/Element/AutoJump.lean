import Settings.Proofs.Editor.AutoJump
import Settings.Proofs.Element.BlockEntry

/-!
# Digits that go on to the next field, after every run

Whatever was done to an address that jumps, a digit for which the marked field has no room is not lost as
long as there is a next field, and the digits that are typed are shared out greedily into the fields.

* `digits_carried`: one digit, and a run of digits, in any state.
-/
namespace Settings.Element

open Sequence (appended numbers withNumbers)

variable {s : Sequence}

/-- Wherever operations led an address that jumps, a digit replaces the marked field, extends it or goes to
the next one, and only in the last field a number is clamped. A run of digits gives the fields the numbers
that the digits are shared out into, as long as there are fields for them. These numbers hold all digits in
their order: the first one those that it took behind its old number, each other one a group of its own. -/
theorem digits_carried (address : s.Address) (jumps : s.style = .block 0 true true)
    (ops : List Operation) (mode : HourMode) :
    ∃ high s' marked overwrite, (run ops (ofKind (.sequence s))).result.kind = .sequence s' ∧
      s'.limits = List.replicate 4 ⟨0, high⟩ ∧ s'.style = .block marked overwrite true ∧
      marked < 4 ∧ s'.Carries mode high marked overwrite ∧
      ∀ (keys : List Action) (digits : List Nat), keys.map Action.digit? = digits.map some →
        digits ≠ [] →
        marked + (numbers high (if overwrite then 0 else s'.field marked) digits).length ≤ 4 →
        (s'.handleAll mode keys).1.value =
            withNumbers marked (numbers high (if overwrite then 0 else s'.field marked) digits)
              s'.value ∧
          ∃ (own : List Nat) (others : List (List Nat)), own ++ others.flatten = digits ∧
            (∀ group ∈ others, group ≠ []) ∧
            numbers high (if overwrite then 0 else s'.field marked) digits =
              appended (if overwrite then 0 else s'.field marked) own :: others.map (appended 0) := by
  obtain ⟨s', reached, moves⟩ := moves_run s ops
  have steady := address.made.steady.moves moves
  obtain ⟨high, wide, limits⟩ := address.exists_limits jumps
  have manner : s'.manner = .block 0 true true := moves.manner.trans (Sequence.manner_block jumps)
  obtain ⟨marked, overwrite, style⟩ := Sequence.exists_style_of_manner manner
  have kept : s'.limits = List.replicate 4 ⟨0, high⟩ := moves.follows.setup.limits.trans limits
  have uniform : s'.Uniform high := ⟨steady.sound.value, ⟨4, kept⟩, wide⟩
  have four : s'.limits.length = 4 := by
    rw [kept, List.length_replicate]
  have there := steady.cursor.block style
  refine ⟨high, s', marked, overwrite, reached, kept, style, four ▸ there,
    uniform.carries style there mode, fun keys digits enters typed room => ?_⟩
  exact ⟨uniform.value_handleAll style there mode enters typed (four.symm ▸ room),
    Sequence.exists_groups high _ digits⟩

/-- A two, a five, a six and a one make twenty-five and sixty-one in an address of the internet. In the
last field of one on the control bus a seven behind a one is clamped. -/
theorem digits_carried_octets :
    (∃ s', (run [.act .twelve .right] (ofKind (.sequence (.ip [10, 0, 0, 1] true)))).result.kind =
        .sequence s' ∧
      (s'.handleAll .twelve [.digit 2, .character '5', .digit 6, .digit 1]).1.value = [10, 25, 61, 1]) ∧
    ∃ s', (run [.act .twelve .last, .act .twelve (.digit 1)]
        (ofKind (.sequence (.cecAddress [1, 2, 3, 4] true)))).result.kind = .sequence s' ∧
      s'.handle .twelve (.digit 7) = s'.written 3 15 true ∧
      (s'.written 3 15 true).state.value = [1, 2, 3, 15] := by
  constructor
  · obtain ⟨high, s', marked, overwrite, reached, limits, style, _, _, shared⟩ :=
      digits_carried (.ip [10, 0, 0, 1] true) rfl [.act .twelve .right] .twelve
    have there : s' = { Sequence.ip [10, 0, 0, 1] true with cursor := 3, style := .block 1 true true } :=
      Kind.sequence.inj (reached.symm.trans rfl)
    subst there
    cases style
    cases limits
    have two := shared [.digit 2, .character '5', .digit 6, .digit 1] [2, 5, 6, 1] rfl (by decide)
      (by decide)
    exact ⟨_, reached, two.1.trans (by decide)⟩
  · obtain ⟨high, s', marked, overwrite, reached, limits, style, _, carries, _⟩ :=
      digits_carried (.cecAddress [1, 2, 3, 4] true) rfl
        [.act .twelve .last, .act .twelve (.digit 1)] .twelve
    have there : s' = { Sequence.cecAddress [1, 2, 3, 4] true with
        value := [1, 2, 3, 1], cursor := 6, style := .block 3 false true } :=
      Kind.sequence.inj (reached.symm.trans (by decide +kernel))
    subst there
    cases style
    cases limits
    have last := carries.clamped rfl (.digit 7) 7 rfl (by decide) (by decide)
    exact ⟨_, reached, last, by decide⟩

end Settings.Element
