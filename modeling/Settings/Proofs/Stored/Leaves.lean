import Settings.Proofs.Stored.Path
import Settings.Stored.Line
import Settings.Stored.Printer

/-!
# The leaves of a stored map

The leaves as lines, in the order in which they are written. The settings text is made of them, one
after the other, and a sorted map has a leaf exactly where a path leads to one.

* `text_eq_join`: the text of a map from its leaves.
* `mem_leaves`: the leaves of a sorted map.
-/
namespace Settings

namespace Line

/-- The line of an entry, seen from the level above. -/
def below (name : String) (line : Line) : Line := ⟨name :: line.path, line.value⟩

/-- How a line is written. -/
def text (root : String) (line : Line) : String := line.key root ++ "=" ++ line.value ++ "\n"

end Line

namespace Stored

mutual
/-- The leaves of an entry, each level in key order. -/
def leaves : Stored → List Line
  | .leaf value => [⟨[], value⟩]
  | .level entries => ((sortByKey Prod.fst (entryLeaves entries)).map Prod.snd).flatten

/-- The entries of a level, each with its leaves. -/
def entryLeaves : List (String × Stored) → List (String × List Line)
  | [] => []
  | (name, entry) :: rest => (name, entry.leaves.map (Line.below name)) :: entryLeaves rest
end

theorem sortByKey_map {α β : Type} (f : String × α → β) (entries : List (String × α)) :
    sortByKey Prod.fst (entries.map fun p => (p.1, f p)) =
      (sortByKey Prod.fst entries).map fun p => (p.1, f p) := by
  unfold sortByKey
  rw [List.map_mergeSort]
  exact fun _ _ _ _ => rfl

theorem mem_sortByKey {α : Type} {entries : List (String × α)} {p : String × α} :
    p ∈ sortByKey Prod.fst entries ↔ p ∈ entries :=
  List.mem_mergeSort

theorem entryLines_eq_map (above : String) (entries : Level) :
    entryLines above entries = entries.map fun p => (p.1, lines (childKey above p.1) p.2) := by
  induction entries with
  | nil => rw [entryLines]; rfl
  | cons p rest ih => rw [entryLines, ih, List.map_cons]

theorem entryLeaves_eq_map (entries : Level) :
    entryLeaves entries = entries.map fun p => (p.1, p.2.leaves.map (Line.below p.1)) := by
  induction entries with
  | nil => rw [entryLeaves]; rfl
  | cons p rest ih => rw [entryLeaves, ih, List.map_cons]

theorem lines_level (key : String) (entries : Level) :
    lines key (.level entries) =
      String.join ((sortByKey Prod.fst entries).map fun p => lines (childKey key p.1) p.2) := by
  rw [lines, entryLines_eq_map, sortByKey_map fun p => lines (childKey key p.1) p.2,
    List.map_map]
  rfl

theorem leaves_leaf (value : String) : leaves (.leaf value) = [⟨[], value⟩] := by
  rw [leaves]

theorem leaves_level (entries : Level) :
    leaves (.level entries) =
      (sortByKey Prod.fst entries).flatMap fun p => p.2.leaves.map (Line.below p.1) := by
  rw [leaves, entryLeaves_eq_map,
    sortByKey_map fun p : String × Stored => p.2.leaves.map (Line.below p.1), List.map_map]
  rfl

theorem join_flatMap {α : Type} (f : α → List String) (items : List α) :
    String.join (items.flatMap f) = String.join (items.map fun item => String.join (f item)) := by
  induction items with
  | nil => rfl
  | cons item rest ih =>
    rw [List.flatMap_cons, String.join_append, ih, List.map_cons, String.join_cons]

/-- An entry is written leaf by leaf. -/
theorem lines_eq_join (key : String) (s : Stored) :
    s.lines key = String.join (s.leaves.map (Line.text key)) := by
  induction s using Stored.induction generalizing key with
  | leaf value =>
    rw [lines, leaves]
    simp [Line.text, Line.key]
  | level entries ih =>
    have entry : ∀ p ∈ sortByKey Prod.fst entries, lines (childKey key p.1) p.2 =
        String.join ((p.2.leaves.map (Line.below p.1)).map (Line.text key)) := by
      intro p member
      rw [ih p (mem_sortByKey.mp member), List.map_map]
      rfl
    rw [lines_level, leaves_level, List.map_congr_left entry, List.map_flatMap, join_flatMap]

/-- A sorted map has a leaf exactly where a path leads to one. -/
theorem mem_leaves {s : Stored} (canonical : s.Canonical) {path : List String} {value : String} :
    ⟨path, value⟩ ∈ s.leaves ↔ s.at? path = some (.leaf value) := by
  induction s using Stored.induction generalizing path with
  | leaf other =>
    rw [leaves, List.mem_singleton]
    cases path with
    | nil => simp [eq_comm]
    | cons key rest => simp
  | level entries ih =>
    rw [leaves_level, List.mem_flatMap]
    constructor
    · rintro ⟨⟨name, entry⟩, member, inside⟩
      rw [mem_sortByKey] at member
      obtain ⟨⟨rest, other⟩, below, shape⟩ := List.mem_map.mp inside
      cases shape
      have found := Keyed.get?_of_mem canonical.sorted.distinct member
      rw [at?_cons_level, found, Option.bind_some]
      exact (ih _ member (canonical.get? found)).mp below
    · intro reached
      cases path with
      | nil => simp at reached
      | cons name rest =>
        rw [at?_cons_level] at reached
        obtain ⟨entry, found, below⟩ := Option.bind_eq_some_iff.mp reached
        have member := Keyed.mem_of_get? found
        refine ⟨(name, entry), mem_sortByKey.mpr member, List.mem_map.mpr ⟨⟨rest, value⟩, ?_, rfl⟩⟩
        exact (ih _ member (canonical.get? found)).mpr below

end Stored

namespace Level

/-- The settings text of a map is made of its leaves. -/
theorem text_eq_join (root : String) (entries : Level) :
    text root entries = String.join ((Stored.level entries).leaves.map (Line.text root)) :=
  Stored.lines_eq_join root (.level entries)

/-- A leaf of a sorted map has its line in the settings text. -/
theorem text_of_get? {entries : Level} (canonical : (Stored.level entries).Canonical) (root : String)
    {path : List String} {value : String} (found : entries.get? path = some (.leaf value)) :
    ∃ before after, text root entries = before ++ Line.text root ⟨path, value⟩ ++ after ∧
      (before = "" ∨ ∃ earlier, before = earlier ++ "\n") := by
  have proper : path ≠ [] := by
    rintro rfl
    cases found
  rw [get?_eq_at? proper] at found
  obtain ⟨earlier, later, split⟩ := List.append_of_mem ((Stored.mem_leaves canonical).mpr found)
  refine ⟨String.join (earlier.map (Line.text root)), String.join (later.map (Line.text root)), ?_, ?_⟩
  · rw [text_eq_join, split, List.map_append, List.map_cons, String.join_append, String.join_cons,
      String.append_assoc]
  · rcases List.eq_nil_or_concat earlier with rfl | ⟨others, line, rfl⟩
    · exact .inl rfl
    · refine .inr ⟨String.join (others.map (Line.text root)) ++
        (line.key root ++ "=" ++ line.value), ?_⟩
      simp [Line.text, String.append_assoc]

end Level

end Settings
