import Settings.Proofs.Stored.Order

/-!
# Compact stored maps

A stored map without empty levels. Writing texts and removing keep maps compact, and so does reading
them from a settings text. A compact map can be told from its settings text: whatever it has more
than another one shows there.

* `exists_leaf`: a compact entry has a leaf.
* `text_ne_of_leaf`: two texts differ if one map has all leaves of the other and one more.
-/
namespace Settings

namespace Stored

/-- No level inside is empty. -/
def Compact (s : Stored) : Prop := ∀ path, s.at? path ≠ some (.level [])

theorem compact_leaf (value : String) : (Stored.leaf value).Compact := by
  intro path empty
  cases path with
  | nil =>
    rw [at?_nil] at empty
    cases empty
  | cons key rest => cases empty

theorem compact_level_iff {entries : Level} :
    (Stored.level entries).Compact ↔
      entries ≠ [] ∧ ∀ key s, Keyed.get? key entries = some s → s.Compact := by
  constructor
  · intro compact
    refine ⟨?_, fun key s found path empty => compact (key :: path) ?_⟩
    · rintro rfl
      exact compact [] (at?_nil _)
    · rw [at?_cons_level, found]
      exact empty
  · rintro ⟨proper, inner⟩ path empty
    cases path with
    | nil =>
      rw [at?_nil] at empty
      cases empty
      exact proper rfl
    | cons key rest =>
      rw [at?_cons_level] at empty
      obtain ⟨s, found, below⟩ := Option.bind_eq_some_iff.mp empty
      exact inner key s found rest below

theorem Compact.at? {s t : Stored} (compact : s.Compact) {path : List String}
    (reached : s.at? path = some t) : t.Compact := by
  intro rest empty
  refine compact (path ++ rest) ?_
  rw [at?_append, reached]
  exact empty

/-- A compact entry has a leaf. -/
theorem Compact.exists_leaf {s : Stored} (compact : s.Compact) :
    ∃ path value, s.at? path = some (.leaf value) := by
  induction s using Stored.induction with
  | leaf value => exact ⟨[], value, at?_nil _⟩
  | level entries ih =>
    obtain ⟨proper, inner⟩ := compact_level_iff.mp compact
    obtain ⟨⟨key, s⟩, rest, rfl⟩ := List.exists_cons_of_ne_nil proper
    have found : Keyed.get? key ((key, s) :: rest) = some s := by simp [Keyed.get?]
    obtain ⟨path, value, reached⟩ := ih (key, s) List.mem_cons_self (inner key s found)
    refine ⟨key :: path, value, ?_⟩
    rw [at?_cons_level, found]
    exact reached

end Stored

namespace Level

/-- No level inside is empty; the map itself may be. -/
def Compact (entries : Level) : Prop := ∀ key s, Keyed.get? key entries = some s → s.Compact

theorem compact_empty : Compact [] := fun _ _ found => nomatch found

theorem Compact.insert {entries : Level} (compact : Compact entries) (key : String) {s : Stored}
    (inner : s.Compact) : Compact (Keyed.insert key s entries) := by
  intro other t found
  rw [Keyed.get?_insert] at found
  split at found
  · cases found
    exact inner
  · exact compact other t found

theorem Compact.erase {entries : Level} (compact : Compact entries) (sorted : Keyed.Sorted entries)
    (key : String) : Compact (Keyed.erase key entries) := by
  intro other t found
  rw [Keyed.get?_erase sorted.distinct] at found
  split at found
  · cases found
  · exact compact other t found

theorem Compact.below {entries : Level} (compact : Compact entries) (key : String) :
    Compact (below (Keyed.get? key entries)) := by
  unfold Level.below
  split
  · next inner found => exact (Stored.compact_level_iff.mp (compact key _ found)).2
  · exact compact_empty

theorem Compact.insertAt {entries : Level} (compact : Compact entries) (path : List String)
    {s : Stored} (inner : s.Compact) : Compact (insertAt entries path s) := by
  induction path generalizing entries with
  | nil => exact compact
  | cons key rest ih =>
    cases rest with
    | nil => exact compact.insert key inner
    | cons next rest =>
      exact compact.insert key (Stored.compact_level_iff.mpr
        ⟨insertAt_cons_ne_nil _ _ _ _, ih (compact.below key)⟩)

theorem Compact.removeAt {entries : Level} (compact : Compact entries)
    (canonical : (Stored.level entries).Canonical) (path : List String) :
    Compact (removeAt entries path).2 := by
  induction path generalizing entries with
  | nil => exact compact
  | cons key rest ih =>
    cases rest with
    | nil => exact compact.erase canonical.sorted key
    | cons next rest =>
      rw [removeAt_cons_cons]
      split
      · next inner found =>
        have inside := (Stored.compact_level_iff.mp (compact key _ found)).2
        dsimp only
        split
        · exact compact.erase canonical.sorted key
        · next left =>
          refine compact.insert key (Stored.compact_level_iff.mpr ⟨?_, ih inside (canonical.get? found)⟩)
          exact fun empty => left (List.isEmpty_iff.mpr empty)
      · exact compact

end Level

theorem length_flatMap_le_of_subset {α β : Type} [DecidableEq α] (f : α → List β) {xs ys : List α}
    (distinct : xs.Nodup) (inside : xs ⊆ ys) : (xs.flatMap f).length ≤ (ys.flatMap f).length := by
  induction xs generalizing ys with
  | nil => exact Nat.zero_le _
  | cons x rest ih =>
    obtain ⟨fresh, distinct⟩ := List.nodup_cons.mp distinct
    have left : rest ⊆ ys.erase x := by
      intro y member
      have different : y ≠ x := by
        rintro rfl
        exact fresh member
      exact (List.mem_erase_of_ne different).mpr (inside (List.mem_cons_of_mem _ member))
    have total := ((List.perm_cons_erase (inside List.mem_cons_self)).flatMap_right f).length_eq
    have others := ih distinct left
    rw [List.flatMap_cons, List.length_append] at total ⊢
    omega

namespace Level

theorem toList_text (root : String) (entries : Level) : (text root entries).toList =
    (Stored.level entries).leaves.flatMap fun line => (line.text root).toList := by
  rw [text_eq_join, String.toList_join, List.flatMap_map]

/-- Two texts differ if one map has all leaves of the other and one more. -/
theorem text_ne_of_leaf {entries others : Level} (canonical : (Stored.level entries).Canonical)
    (canonical' : (Stored.level others).Canonical)
    (inside : ∀ path value, (Stored.level others).at? path = some (.leaf value) →
      (Stored.level entries).at? path = some (.leaf value))
    {path : List String} {value : String}
    (more : (Stored.level entries).at? path = some (.leaf value))
    (absent : (Stored.level others).at? path = none) (root : String) :
    text root entries ≠ text root others := by
  intro same
  have fresh : ⟨path, value⟩ ∉ (Stored.level others).leaves := by
    rw [Stored.mem_leaves canonical', absent]
    simp
  have distinct := List.nodup_cons.mpr ⟨fresh, Stored.nodup_leaves canonical'⟩
  have subset : ⟨path, value⟩ :: (Stored.level others).leaves ⊆ (Stored.level entries).leaves := by
    rintro ⟨path', value'⟩ member
    rw [Stored.mem_leaves canonical]
    rcases List.mem_cons.mp member with here | there
    · cases here
      exact more
    · exact inside _ _ ((Stored.mem_leaves canonical').mp there)
  have total := length_flatMap_le_of_subset (fun line => (line.text root).toList) distinct subset
  rw [← toList_text, same, List.flatMap_cons, ← toList_text, List.length_append] at total
  have positive : 0 < (Line.text root ⟨path, value⟩).toList.length := by
    have separator : "=".toList.length = 1 := by decide
    simp only [Line.text, String.toList_append, List.length_append, separator]
    omega
  omega

end Level

end Settings
