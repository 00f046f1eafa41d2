import Settings.Proofs.Editor.Edges
import Settings.Proofs.Element.Bounds

/-!
# Edges after every run

Whatever was done to a sequence that a host made, its cursor is on a place from the first to the last, the
moves lead over these places one by one and report the edges where there is no further place, and digits
report the end where the cursor cannot go on.

* `edges_run`: the moves and the digits after any run.
-/
namespace Settings.Element

variable {s : Sequence}

/-- In each of the three styles, wherever operations led a sequence, moves to the left and to the right go
on by one place or report that there is none, the other moves report nothing, no move changes a field, and
a digit that is taken reports the end exactly on the last place, in a block editor if the number is as
wide as its field. -/
theorem edges_run (made : s.Made) (ops : List Operation) (mode : HourMode) :
    ∃ s', (run ops (ofKind (.sequence s))).result.kind = .sequence s' ∧ s'.place ≤ s'.lastPlace ∧
      s'.Steers mode ∧ s'.Signals mode := by
  obtain ⟨s', reached, _, steady⟩ := steady_run made ops
  exact ⟨s', reached, steady.place_le_lastPlace, steady.steers mode, steady.signals mode⟩

/-- A date goes back from its last column and reports the end for a digit there; a clock on the face of
twelve hours refuses a nine in front of the hours, and an address in whose last field a two and a five
were typed reports the end for another five. -/
theorem edges_run_ends :
    (∃ s', (run [.act .twelve .last] (ofKind (.sequence (.date 15 3 1985)))).result.kind = .sequence s' ∧
      s'.place = 7 ∧ s'.Goes (s'.handle .twelve .left) 6 none ∧
      s'.Goes (s'.handle .twelve .right) 7 (some .finish) ∧
      (s'.handle .twelve (.digit 4)).edge = some .finish) ∧
    (∃ s', (run [.increment] (ofKind (.sequence (.clock 19 50)))).result.kind = .sequence s' ∧
      s'.Goes (s'.handle .twelve .left) 0 (some .start) ∧
      s'.Goes (s'.handle .twelve .right) 1 none ∧
      s'.handle .twelve (.digit 9) = .quiet s') ∧
    ∃ s', (run [.act .twelve .last, .act .twelve (.digit 2), .act .twelve (.digit 5)]
        (ofKind (.sequence (.ip [10, 0, 0, 1] true)))).result.kind = .sequence s' ∧
      (s'.handle .twelve (.digit 5)).state.value = [10, 0, 0, 255] ∧
      (s'.handle .twelve (.digit 5)).edge = some .finish := by
  refine ⟨?_, ?_, ?_⟩
  · obtain ⟨s', reached, _, steers, signals⟩ := edges_run (.date 15 3 1985) [.act .twelve .last] .twelve
    have there : s' = { Sequence.date 15 3 1985 with cursor := 7 } :=
      Kind.sequence.inj (reached.symm.trans rfl)
    subst there
    obtain ⟨_, reports⟩ := signals.column (.digit 4) 4 rfl rfl (fun style => nomatch style)
    exact ⟨_, reached, rfl, steers.left 6 rfl, steers.finish (by decide), reports.trans (by decide)⟩
  · obtain ⟨s', reached, _, steers, signals⟩ := edges_run (.clock 19 50) [.increment] .twelve
    have there : s' = { Sequence.clock 19 50 with value := [19, 51] } :=
      Kind.sequence.inj (reached.symm.trans rfl)
    subst there
    have refused := signals.refused (.digit 9) 9 rfl fun taken => absurd (taken rfl) (by decide)
    exact ⟨_, reached, steers.start rfl, steers.right (by decide), refused⟩
  · obtain ⟨s', reached, _, _, signals⟩ :=
      edges_run (.ip [10, 0, 0, 1] true)
        [.act .twelve .last, .act .twelve (.digit 2), .act .twelve (.digit 5)] .twelve
    have there : s' = { Sequence.ip [10, 0, 0, 1] true with
        value := [10, 0, 0, 25], cursor := 7, style := .block 3 false true } :=
      Kind.sequence.inj (reached.symm.trans (by decide +kernel))
    subst there
    obtain ⟨_, value, reports⟩ := signals.block (.digit 5) 5 3 false true rfl rfl 3 255 rfl
    exact ⟨_, reached, value.trans (by decide), reports.trans (by decide)⟩

end Settings.Element
