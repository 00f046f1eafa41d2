import Settings.Proofs.Text
import Settings.Stored.Line

/-!
# Dotted keys

A dotted key names the path from which it was put together, and only that one.

* `keyPath?_eq_some`: the key of a path that was read.
* `keyPath?_key`: the path of a key that was put together.
-/
namespace Settings

/-- The characters of the key of a path. -/
theorem toList_foldl_childKey (root : String) (path : List String) :
    (path.foldl childKey root).toList =
      root.toList ++ (path.map String.toList).flatMap ('.' :: ·) := by
  induction path generalizing root with
  | nil => simp
  | cons name rest ih =>
    rw [List.foldl_cons, ih, childKey]
    simp

/-- What a key that names a path consists of. -/
theorem keyPath?_eq_some {root : String} {cs : List Char} {path : List String}
    (named : keyPath? root cs = some path) :
    cs = (path.foldl childKey root).toList ∧ path ≠ [] ∧ ∀ name ∈ path, name ≠ "" := by
  unfold keyPath? at named
  split at named
  · next first others segments =>
    split at named
    · next fits =>
      cases named
      obtain ⟨rfl, proper, nonempty⟩ := fits
      refine ⟨?_, proper, by simpa using nonempty⟩
      obtain ⟨piece, pieces, split⟩ := List.exists_cons_of_ne_nil
        (List.splitOnP_ne_nil (· = '.') cs)
      rw [keySegments, Text.splitAt, split, List.map_cons] at segments
      cases segments
      rw [toList_foldl_childKey, Text.eq_of_splitAt split]
      simp [List.map_map, Function.comp_def]
    · cases named
  · cases named

/-- The key of a path names it. -/
theorem keyPath?_key {root : String} {path : List String} (plain : '.' ∉ root.toList)
    (proper : path ≠ []) (names : ∀ name ∈ path, name ≠ "" ∧ '.' ∉ name.toList) :
    keyPath? root (path.foldl childKey root).toList = some path := by
  have segments : keySegments (path.foldl childKey root).toList = root :: path := by
    rw [keySegments, toList_foldl_childKey, Text.splitAt_flatMap plain]
    · simp [List.map_map, Function.comp_def]
    · intro piece member
      obtain ⟨name, inside, rfl⟩ := List.mem_map.mp member
      exact (names name inside).2
  have nonempty : "" ∉ path := fun inside => (names "" inside).1 rfl
  rw [keyPath?, segments]
  simp [proper, nonempty]

end Settings
