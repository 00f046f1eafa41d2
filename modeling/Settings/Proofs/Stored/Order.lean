import Settings.Proofs.Stored.KeyOrder
import Settings.Proofs.Stored.Leaves

/-!
# Settings texts are in order

The leaves of a stored map are written in the order of their paths, which are compared key by key: the
levels are sorted one by one, and so the whole text is.

* `ascending_leaves`: the leaves of a sorted map.
* `text_eq_ascending_lines`: its settings text has a line for each of them, in this order.
-/
namespace Settings

instance : Std.TransCmp keyOrder :=
  inferInstanceAs (Std.TransCmp (keyOrderBy Text.toLowerCase))

instance : Std.LawfulEqCmp keyOrder :=
  inferInstanceAs (Std.LawfulEqCmp (keyOrderBy Text.toLowerCase))

/-- The order of paths: the first keys that differ decide. A path comes before those that lead on from
it. -/
def comparePaths (p q : List String) : Ordering := List.compareLex keyOrder p q

theorem keyOrder_self (key : String) : keyOrder key key = .eq := Std.ReflCmp.compare_self

theorem comparePaths_nil : comparePaths [] [] = .eq := List.compareLex_nil_nil

theorem comparePaths_cons (j k : String) (p q : List String) :
    comparePaths (j :: p) (k :: q) = (keyOrder j k).then (comparePaths p q) :=
  List.compareLex_cons_cons

@[simp] theorem comparePaths_self (p : List String) : comparePaths p p = .eq := by
  induction p with
  | nil => exact comparePaths_nil
  | cons key rest ih => rw [comparePaths_cons, keyOrder_self, ih, Ordering.eq_then]

theorem comparePaths_cons_self (key : String) (p q : List String) :
    comparePaths (key :: p) (key :: q) = comparePaths p q := by
  rw [comparePaths_cons, keyOrder_self, Ordering.eq_then]

theorem comparePaths_of_keyOrder {j k : String} (before : keyOrder j k = .lt) (p q : List String) :
    comparePaths (j :: p) (k :: q) = .lt := by
  rw [comparePaths_cons, before, Ordering.lt_then]

namespace Stored

section Sorting

variable {α : Type} {entries sorted : List (String × α)}

/-- Entries with distinct keys are put in the order of their keys. -/
theorem pairwise_sortByKey (distinct : (Keyed.keys entries).Nodup) :
    (sortByKey Prod.fst entries).Pairwise fun p q => keyOrder p.1 q.1 = .lt := by
  have weakly : (sortByKey Prod.fst entries).Pairwise fun p q => (keyOrder p.1 q.1).isLE = true := by
    apply List.pairwise_mergeSort
    · intro p q r
      exact Std.TransCmp.isLE_trans
    · intro p q
      have swapped : keyOrder q.1 p.1 = (keyOrder p.1 q.1).swap := Std.OrientedCmp.eq_swap
      rw [swapped]
      cases keyOrder p.1 q.1 <;> rfl
  have distinct : ((sortByKey Prod.fst entries).map Prod.fst).Nodup :=
    ((List.mergeSort_perm entries _).map Prod.fst).nodup_iff.mpr distinct
  refine weakly.imp₂ (fun p q before different => ?_) (List.pairwise_map.mp distinct)
  cases order : keyOrder p.1 q.1 with
  | lt => rfl
  | eq => exact absurd (Std.LawfulEqCmp.eq_of_compare order) different
  | gt => simp [order] at before

/-- There is only one way to put entries in the order of their keys. -/
theorem sortByKey_eq_of_perm (perm : sorted.Perm entries)
    (ascending : sorted.Pairwise fun p q => keyOrder p.1 q.1 = .lt) :
    sortByKey Prod.fst entries = sorted := by
  have distinct : (Keyed.keys entries).Nodup := by
    apply (perm.map Prod.fst).nodup_iff.mp
    refine List.pairwise_map.mpr (ascending.imp fun before same => ?_)
    rw [same, keyOrder_self] at before
    cases before
  have same : (sortByKey Prod.fst entries).Perm sorted := (List.mergeSort_perm entries _).trans perm.symm
  refine same.eq_of_pairwise (fun p q _ _ before after => ?_) (pairwise_sortByKey distinct) ascending
  have swapped : keyOrder q.1 p.1 = (keyOrder p.1 q.1).swap := Std.OrientedCmp.eq_swap
  rw [swapped, before] at after
  cases after

end Sorting

/-- The leaves of a sorted map are in the order of their paths. -/
theorem ascending_leaves {s : Stored} (canonical : s.Canonical) :
    s.leaves.Pairwise fun line other => comparePaths line.path other.path = .lt := by
  induction s using Stored.induction with
  | leaf value =>
    rw [leaves_leaf]
    exact List.pairwise_singleton _ _
  | level entries ih =>
    rw [leaves_level, List.pairwise_flatMap]
    constructor
    · intro p member
      have inside := mem_sortByKey.mp member
      have own := ih p inside (canonical.get? (Keyed.get?_of_mem canonical.sorted.distinct inside))
      simpa [List.pairwise_map, Line.below, comparePaths_cons_self] using own
    · refine (pairwise_sortByKey canonical.sorted.distinct).imp fun before line here other there => ?_
      obtain ⟨_, _, rfl⟩ := List.mem_map.mp here
      obtain ⟨_, _, rfl⟩ := List.mem_map.mp there
      exact comparePaths_of_keyOrder before _ _

theorem nodup_leaves {s : Stored} (canonical : s.Canonical) : s.leaves.Nodup := by
  refine (ascending_leaves canonical).imp fun before same => ?_
  rw [same, comparePaths_self] at before
  cases before

end Stored

namespace Level

/-- The settings text of a map has a line for each leaf, and the paths increase from line to line. -/
theorem text_eq_ascending_lines (root : String) {entries : Level}
    (canonical : (Stored.level entries).Canonical) :
    text root entries = String.join ((Stored.level entries).leaves.map (Line.text root)) ∧
      (∀ path value, ⟨path, value⟩ ∈ (Stored.level entries).leaves ↔
        get? entries path = some (.leaf value)) ∧
      (Stored.level entries).leaves.Nodup ∧
      (Stored.level entries).leaves.Pairwise fun line other =>
        comparePaths line.path other.path = .lt := by
  refine ⟨text_eq_join root entries, fun path value => ?_, Stored.nodup_leaves canonical,
    Stored.ascending_leaves canonical⟩
  rw [Stored.mem_leaves canonical]
  cases path with
  | nil => simp [get?]
  | cons key rest => rw [get?_eq_at? (List.cons_ne_nil _ _)]

/-- A map whose levels are sorted as texts, which is not how they are written. -/
def studio : Level :=
  [("10", .level [("B1", .leaf "x"), ("b", .leaf "y")]), ("2", .leaf "two"), ("Nims", .leaf "z"),
    ("audio", .level [("volume", .leaf "50")])]

theorem text_eq_ascending_lines_studio :
    text "config" studio =
        "config.2=two\nconfig.10.b=y\nconfig.10.B1=x\nconfig.audio.volume=50\nconfig.Nims=z\n" ∧
      comparePaths ["10", "B1"] ["audio", "volume"] = .lt := by
  have canonical : (Stored.level studio).Canonical := by
    simp only [studio, Stored.Canonical, Stored.CanonicalEntries]
    decide
  obtain ⟨written, _, _, ascending⟩ := text_eq_ascending_lines "config" canonical
  have outer : sortByKey Prod.fst studio =
      [("2", .leaf "two"), ("10", .level [("B1", .leaf "x"), ("b", .leaf "y")]),
        ("audio", .level [("volume", .leaf "50")]), ("Nims", .leaf "z")] :=
    Stored.sortByKey_eq_of_perm (by decide +kernel) (by decide +kernel)
  have inner : sortByKey Prod.fst [("B1", Stored.leaf "x"), ("b", .leaf "y")] =
      [("b", .leaf "y"), ("B1", .leaf "x")] :=
    Stored.sortByKey_eq_of_perm (by decide +kernel) (by decide +kernel)
  have single : sortByKey Prod.fst [("volume", Stored.leaf "50")] = [("volume", .leaf "50")] :=
    List.mergeSort_singleton _
  have lines : (Stored.level studio).leaves = [⟨["2"], "two"⟩, ⟨["10", "b"], "y"⟩, ⟨["10", "B1"], "x"⟩,
      ⟨["audio", "volume"], "50"⟩, ⟨["Nims"], "z"⟩] := by
    simp [Stored.leaves_level, Stored.leaves_leaf, outer, inner, single, Line.below]
  rw [lines] at written ascending
  refine ⟨written.trans (by decide +kernel), ?_⟩
  exact (List.pairwise_iff_getElem.mp ascending) 2 3 (by decide) (by decide) (by decide)

end Level

end Settings
