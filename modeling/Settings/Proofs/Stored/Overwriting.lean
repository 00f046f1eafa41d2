import Mathlib.Data.List.Induction
import Settings.Proofs.Stored.Codec

/-!
# Later lines win

Each line of a settings text takes away what earlier lines said of its path, of the levels on the way to
it and of all below it, and leaves the rest alone. So what a text says of a path is decided by the last
line that has to do with the path.

* `get?_insertAt_eq_leaf_iff`: what a line does to the paths that it has to do with.
* `leaf_ofText_iff`: the leaf that a text has at a path.
-/
namespace Settings

/-- The line is about the path, a path on the way to it, or one that leads on from it. -/
def Line.overlaps (path : List String) (line : Line) : Bool :=
  line.path.isPrefixOf path || path.isPrefixOf line.path

theorem Line.overlaps_iff {path : List String} {line : Line} :
    line.overlaps path = true ↔ line.path <+: path ∨ path <+: line.path := by
  rw [overlaps, Bool.or_eq_true, List.isPrefixOf_iff_prefix, List.isPrefixOf_iff_prefix]

theorem Line.apart_iff {path : List String} {line : Line} :
    line.overlaps path = false ↔ Apart line.path path := by
  rw [← Bool.not_eq_true, overlaps_iff, not_or]
  rfl

/-- A leaf leads nowhere but to itself. -/
theorem Stored.at?_leaf_eq_some_iff {rest : List String} {value : String} {s : Stored} :
    (Stored.leaf value).at? rest = some s ↔ rest = [] ∧ s = .leaf value := by
  cases rest with
  | nil => simp [eq_comm]
  | cons key rest => simp

namespace Level

/-- Of the paths that a written line has to do with, only its own leads to a leaf afterwards. -/
theorem get?_insertAt_eq_leaf_iff {entries : Level} {line : Line} (proper : line.path ≠ [])
    {path : List String} {value : String} (overlaps : line.overlaps path = true) :
    get? (insertAt entries line.path (.leaf line.value)) path = some (.leaf value) ↔
      line = ⟨path, value⟩ := by
  have own := get?_insertAt entries proper (.leaf line.value)
  constructor
  · intro found
    have proper' : path ≠ [] := by
      intro empty
      simp [empty, get?] at found
    rw [get?_eq_at? proper] at own
    rw [get?_eq_at? proper'] at found
    rcases Line.overlaps_iff.mp overlaps with ⟨rest, shape⟩ | ⟨rest, shape⟩
    · rw [← shape, Stored.at?_append, own, Option.bind_some] at found
      obtain ⟨here, same⟩ := Stored.at?_leaf_eq_some_iff.mp found
      rw [here, List.append_nil] at shape
      cases same
      rw [← shape]
    · rw [← shape, Stored.at?_append, shape, found, Option.bind_some] at own
      obtain ⟨here, same⟩ := Stored.at?_leaf_eq_some_iff.mp own
      rw [here, List.append_nil] at shape
      cases same
      rw [shape]
  · rintro rfl
    exact own

theorem ofLines_append_singleton (lines : List Line) (line : Line) (entries : Level) :
    ofLines (lines ++ [line]) entries =
      insertAt (ofLines lines entries) line.path (.leaf line.value) :=
  List.foldl_append

/-- What lines say of a path is decided by the last one that has to do with it. -/
theorem leaf_ofLines_iff {lines : List Line} (proper : ∀ line ∈ lines, line.path ≠ [])
    (path : List String) (value : String) :
    get? (ofLines lines []) path = some (.leaf value) ↔
      (lines.filter (Line.overlaps path)).getLast? = some ⟨path, value⟩ := by
  induction lines using List.reverseRecOn with
  | nil => simp [ofLines, get?_empty]
  | append_singleton lines line ih =>
    have proper' := proper line (by simp)
    have ih := ih fun other member => proper other (by simp [member])
    rw [ofLines_append_singleton, List.filter_append]
    cases overlaps : line.overlaps path with
    | true =>
      rw [get?_insertAt_eq_leaf_iff proper' overlaps]
      simp [overlaps]
    | false =>
      rw [get?_insertAt_of_apart _ _ (Line.apart_iff.mp overlaps), ih]
      simp [overlaps]

/-- A text has a leaf at a path exactly if the last of its lines that has to do with the path, an entry
on the way to it or one below it, is a line for this path and this value. -/
theorem leaf_ofText_iff (root text : String) (path : List String) (value : String) :
    get? (ofText root text) path = some (.leaf value) ↔
      ((Line.ofText root text).filter (Line.overlaps path)).getLast? = some ⟨path, value⟩ := by
  rw [ofText_eq_ofLines]
  apply leaf_ofLines_iff
  intro line member
  obtain ⟨cs, _, read⟩ := List.mem_filterMap.mp member
  obtain ⟨_, _, _, _, _, named, _⟩ := Line.ofChars?_eq_some read
  exact (keyPath?_eq_some named).2.1

end Level

end Settings
