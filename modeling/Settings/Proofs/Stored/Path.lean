import Settings.Proofs.Keyed
import Settings.Stored.Basic

/-!
# Paths in stored maps

What writing and removing at a path do to the entries at all other paths. Two paths are apart if
neither leads on from the other; an entry at a path apart is never touched.

* `get?_insertAt_of_apart`, `get?_removeAt_of_apart`: the entries apart stay.
* `get?_removeAt_of_prefix`: what was removed is gone, with all below it.
* `exists_apart_of_removeAt_ne_nil`, `not_apart_of_removeAt_eq_nil`: when nothing is left of a map.
-/
namespace Settings

/-- Neither path leads on from the other. -/
def Apart (p q : List String) : Prop := ¬ p <+: q ∧ ¬ q <+: p

theorem Apart.symm {p q : List String} (apart : Apart p q) : Apart q p := ⟨apart.2, apart.1⟩

theorem apart_cons_iff {j k : String} {p q : List String} :
    Apart (j :: p) (k :: q) ↔ j ≠ k ∨ Apart p q := by
  by_cases same : j = k
  · simp [Apart, List.cons_prefix_cons, same]
  · simp [Apart, List.cons_prefix_cons, same, Ne.symm same]

theorem not_apart_nil (p : List String) : ¬ Apart p [] := fun apart => apart.2 (List.nil_prefix)

namespace Stored

/-- An induction over all entries inside. -/
theorem induction {P : Stored → Prop} (leaf : ∀ value, P (.leaf value))
    (level : ∀ entries : Level, (∀ p ∈ entries, P p.2) → P (.level entries)) (s : Stored) : P s :=
  Stored.rec (motive_1 := P) (motive_2 := fun entries => ∀ p ∈ entries, P p.2)
    (motive_3 := fun p => P p.2) leaf level (fun _ member => nomatch member)
    (fun _ _ head tail => List.forall_mem_cons.mpr ⟨head, tail⟩) (fun _ _ inner => inner) s

/-- The entry that a path leads to from an entry; the empty path stays there. -/
def at? : List String → Stored → Option Stored
  | [], entry => some entry
  | _ :: _, .leaf _ => none
  | key :: rest, .level entries => (Keyed.get? key entries).bind (at? rest)

@[simp] theorem at?_nil (s : Stored) : s.at? [] = some s := by cases s <;> rfl

@[simp] theorem at?_cons_leaf (key : String) (rest : List String) (value : String) :
    (Stored.leaf value).at? (key :: rest) = none := rfl

@[simp] theorem at?_cons_level (key : String) (rest : List String) (entries : Level) :
    (Stored.level entries).at? (key :: rest) = (Keyed.get? key entries).bind (at? rest) := rfl

theorem at?_append (p q : List String) (s : Stored) : s.at? (p ++ q) = (s.at? p).bind (at? q) := by
  induction p generalizing s with
  | nil => simp
  | cons key rest ih =>
    cases s with
    | leaf value => rfl
    | level entries =>
      rw [List.cons_append, at?_cons_level, at?_cons_level]
      cases Keyed.get? key entries with
      | none => rfl
      | some inner => exact ih inner

theorem bind_leaf?_eq_some_iff {found : Option Stored} {value : String} :
    found.bind leaf? = some value ↔ found = some (.leaf value) := by
  cases found with
  | none => simp
  | some s => cases s <;> simp [leaf?]

theorem canonicalEntries_iff {entries : Level} :
    CanonicalEntries entries ↔ ∀ p ∈ entries, p.2.Canonical := by
  induction entries with
  | nil => simp [CanonicalEntries]
  | cons p rest ih => simp [CanonicalEntries, ih]

theorem canonical_level_iff {entries : Level} :
    (Stored.level entries).Canonical ↔
      Keyed.Sorted entries ∧ ∀ key s, Keyed.get? key entries = some s → s.Canonical := by
  rw [Canonical, canonicalEntries_iff]
  refine and_congr_right fun sorted => ⟨fun all key s found => ?_, fun all p member => ?_⟩
  · exact all _ (Keyed.mem_of_get? found)
  · exact all p.1 p.2 (Keyed.get?_of_mem sorted.distinct member)

theorem Canonical.sorted {entries : Level} (canonical : (Stored.level entries).Canonical) :
    Keyed.Sorted entries :=
  (canonical_level_iff.mp canonical).1

theorem Canonical.get? {entries : Level} (canonical : (Stored.level entries).Canonical)
    {key : String} {s : Stored} (found : Keyed.get? key entries = some s) : s.Canonical :=
  (canonical_level_iff.mp canonical).2 key s found

theorem Canonical.at? {s t : Stored} (canonical : s.Canonical) {path : List String}
    (reached : s.at? path = some t) : t.Canonical := by
  induction path generalizing s with
  | nil =>
    rw [at?_nil] at reached
    cases reached
    exact canonical
  | cons key rest ih =>
    cases s with
    | leaf value => cases reached
    | level entries =>
      rw [at?_cons_level] at reached
      obtain ⟨inner, found, below⟩ := Option.bind_eq_some_iff.mp reached
      exact ih (canonical.get? found) below

theorem canonical_leaf (value : String) : (Stored.leaf value).Canonical := trivial

theorem canonical_empty : (Stored.level []).Canonical :=
  canonical_level_iff.mpr ⟨Keyed.sorted_nil, fun _ _ found => nomatch found⟩

theorem Canonical.insert {entries : Level} (canonical : (Stored.level entries).Canonical)
    (key : String) {s : Stored} (inner : s.Canonical) :
    (Stored.level (Keyed.insert key s entries)).Canonical := by
  refine canonical_level_iff.mpr ⟨canonical.sorted.insert _ _, fun other t found => ?_⟩
  rw [Keyed.get?_insert] at found
  split at found
  · cases found
    exact inner
  · exact canonical.get? found

theorem Canonical.erase {entries : Level} (canonical : (Stored.level entries).Canonical)
    (key : String) : (Stored.level (Keyed.erase key entries)).Canonical := by
  refine canonical_level_iff.mpr ⟨canonical.sorted.erase _, fun other t found => ?_⟩
  rw [Keyed.get?_erase canonical.sorted.distinct] at found
  split at found
  · cases found
  · exact canonical.get? found

end Stored

namespace Level

theorem get?_cons (entries : Level) (key : String) (rest : List String) :
    get? entries (key :: rest) = (Keyed.get? key entries).bind (Stored.at? rest) := by
  induction rest generalizing entries key with
  | nil => cases found : Keyed.get? key entries <;> simp [get?, found]
  | cons next rest ih =>
    rw [get?]
    · split
      · next inner found => rw [ih, found, Option.bind_some, Stored.at?_cons_level]
      · next noLevel =>
        cases found : Keyed.get? key entries with
        | none => rfl
        | some s =>
          cases s with
          | leaf value => rfl
          | level inner => exact absurd found (noLevel inner)
    · simp

theorem get?_eq_at? {entries : Level} {path : List String} (proper : path ≠ []) :
    get? entries path = (Stored.level entries).at? path := by
  cases path with
  | nil => exact absurd rfl proper
  | cons key rest => rw [get?_cons, Stored.at?_cons_level]

/-- Below a path without an entry there is none. -/
theorem get?_append_of_absent {entries : Level} {p : List String} (proper : p ≠ [])
    (absent : get? entries p = none) (q : List String) : get? entries (p ++ q) = none := by
  rw [get?_eq_at? proper] at absent
  rw [get?_eq_at? (by simp [proper]), Stored.at?_append, absent]
  rfl

theorem get?_empty (path : List String) : get? [] path = none := by
  cases path with
  | nil => rfl
  | cons key rest => rw [get?_cons]; rfl

/-- Below an entry one looks into its level; a leaf or nothing has none. -/
theorem get?_below (entry : Option Stored) (key : String) (rest : List String) :
    get? (below entry) (key :: rest) = entry.bind (Stored.at? (key :: rest)) := by
  rw [get?_cons]
  cases entry with
  | none => rfl
  | some s => cases s <;> rfl

theorem removeAt_empty (path : List String) : removeAt [] path = (none, []) := by
  cases path with
  | nil => rfl
  | cons key rest => cases rest <;> rfl

theorem insertAt_cons_cons (entries : Level) (key next : String) (rest : List String)
    (entry : Stored) : insertAt entries (key :: next :: rest) entry =
      Keyed.insert key (.level (insertAt (below (Keyed.get? key entries)) (next :: rest) entry))
        entries := rfl

theorem canonical_below {entries : Level} (canonical : (Stored.level entries).Canonical)
    (key : String) : (Stored.level (below (Keyed.get? key entries))).Canonical := by
  unfold below
  split
  · next inner found => exact canonical.get? found
  · exact Stored.canonical_empty

theorem canonical_insertAt {entries : Level} (canonical : (Stored.level entries).Canonical)
    (path : List String) {entry : Stored} (inner : entry.Canonical) :
    (Stored.level (insertAt entries path entry)).Canonical := by
  induction path generalizing entries with
  | nil => exact canonical
  | cons key rest ih =>
    cases rest with
    | nil => exact canonical.insert key inner
    | cons next rest => exact canonical.insert key (ih (canonical_below canonical key))

/-- Writing at a path changes one entry of the uppermost level only. -/
theorem get?_insertAt_of_ne {key other : String} (different : other ≠ key) (entries : Level)
    (rest : List String) (entry : Stored) :
    Keyed.get? other (insertAt entries (key :: rest) entry) = Keyed.get? other entries := by
  cases rest with
  | nil => exact Keyed.get?_insert_of_ne different _ _
  | cons next rest => exact Keyed.get?_insert_of_ne different _ _

theorem get?_insertAt (entries : Level) {path : List String} (proper : path ≠ []) (entry : Stored) :
    get? (insertAt entries path entry) path = some entry := by
  obtain ⟨key, rest, rfl⟩ := List.exists_cons_of_ne_nil proper
  exact get?_insertAt_self entries key rest entry

theorem insertAt_cons_ne_nil (entries : Level) (key : String) (rest : List String)
    (entry : Stored) : insertAt entries (key :: rest) entry ≠ [] := by
  intro empty
  have written := get?_insertAt_self entries key rest entry
  rw [empty, get?_empty] at written
  cases written

/-- Writing at a path leaves all entries apart from it alone. -/
theorem get?_insertAt_of_apart (entries : Level) {p q : List String} (entry : Stored)
    (apart : Apart p q) : get? (insertAt entries p entry) q = get? entries q := by
  induction p generalizing entries q with
  | nil => exact absurd apart.symm (not_apart_nil q)
  | cons key rest ih =>
    cases q with
    | nil => rfl
    | cons other below =>
      have elsewhere := apart_cons_iff.mp apart
      rw [get?_cons, get?_cons]
      cases rest with
      | nil =>
        have different : other ≠ key := by
          rcases elsewhere with different | nested
          · exact different.symm
          · exact absurd nested.symm (not_apart_nil below)
        rw [insertAt, Keyed.get?_insert_of_ne different]
      | cons next rest =>
        rw [insertAt_cons_cons, Keyed.get?_insert]
        split
        · next same =>
          have nested : Apart (next :: rest) below := by
            rcases elsewhere with different | nested
            · exact absurd same.symm different
            · exact nested
          cases below with
          | nil => exact absurd nested (not_apart_nil _)
          | cons first others =>
            rw [Option.bind_some, ← get?_eq_at? (List.cons_ne_nil _ _), ih _ nested, get?_below, same]
        · rfl

theorem removeAt_cons_cons (entries : Level) (key next : String) (rest : List String) :
    removeAt entries (key :: next :: rest) =
      match Keyed.get? key entries with
      | some (.level inner) =>
        ((removeAt inner (next :: rest)).1,
          if (removeAt inner (next :: rest)).2.isEmpty then Keyed.erase key entries
          else Keyed.insert key (.level (removeAt inner (next :: rest)).2) entries)
      | _ => (none, entries) := rfl

theorem removeAt_fst (entries : Level) (path : List String) :
    (removeAt entries path).1 = get? entries path := by
  induction path generalizing entries with
  | nil => rfl
  | cons key rest ih =>
    cases rest with
    | nil => rfl
    | cons next rest =>
      rw [removeAt_cons_cons, get?_cons]
      cases Keyed.get? key entries with
      | none => rfl
      | some s =>
        cases s with
        | leaf value => rfl
        | level inner => simp only [ih, Option.bind_some, get?_eq_at? (List.cons_ne_nil _ _)]

theorem canonical_removeAt {entries : Level} (canonical : (Stored.level entries).Canonical)
    (path : List String) : (Stored.level (removeAt entries path).2).Canonical := by
  induction path generalizing entries with
  | nil => exact canonical
  | cons key rest ih =>
    cases rest with
    | nil => exact canonical.erase key
    | cons next rest =>
      rw [removeAt_cons_cons]
      split
      · next inner found =>
        dsimp only
        split
        · exact canonical.erase key
        · exact canonical.insert key (ih (canonical.get? found))
      · exact canonical

/-- What is found one step into a map from which a path was removed. -/
theorem get?_removeAt_head {entries : Level} (canonical : (Stored.level entries).Canonical)
    (key next : String) (rest : List String) :
    Keyed.get? key (removeAt entries (key :: next :: rest)).2 =
      match Keyed.get? key entries with
      | some (.level inner) =>
        if (removeAt inner (next :: rest)).2.isEmpty then none
        else some (.level (removeAt inner (next :: rest)).2)
      | other => other := by
  rw [removeAt_cons_cons]
  cases found : Keyed.get? key entries with
  | none => exact found
  | some s =>
    cases s with
    | leaf value => exact found
    | level inner =>
      dsimp only
      split
      · rw [Keyed.get?_erase canonical.sorted.distinct, if_pos rfl]
      · rw [Keyed.get?_insert_self]

theorem get?_removeAt_of_ne {entries : Level} {key other : String} (different : other ≠ key)
    (rest : List String) :
    Keyed.get? other (removeAt entries (key :: rest)).2 = Keyed.get? other entries := by
  cases rest with
  | nil => exact Keyed.get?_erase_of_ne different entries
  | cons next rest =>
    rw [removeAt_cons_cons]
    split
    · dsimp only
      split
      · exact Keyed.get?_erase_of_ne different entries
      · exact Keyed.get?_insert_of_ne different _ entries
    · rfl

/-- What is found below the first step of the removed path. -/
private theorem get?_removeAt_cons {entries : Level} (canonical : (Stored.level entries).Canonical)
    (key next first : String) (rest others : List String) :
    get? (removeAt entries (key :: next :: rest)).2 (key :: first :: others) =
      get? (removeAt (below (Keyed.get? key entries)) (next :: rest)).2 (first :: others) := by
  have nothing : get? (removeAt [] (next :: rest)).2 (first :: others) = none := by
    rw [removeAt_empty, get?_empty]
  rw [get?_cons, get?_removeAt_head canonical]
  cases Keyed.get? key entries with
  | none => exact nothing.symm
  | some s =>
    cases s with
    | leaf value => exact nothing.symm
    | level inner =>
      dsimp only [below]
      split
      · next empty =>
        rw [List.isEmpty_iff.mp empty, get?_empty]
        rfl
      · rw [Option.bind_some, ← get?_eq_at? (List.cons_ne_nil _ _)]

/-- Removing at a path leaves all entries apart from it alone. -/
theorem get?_removeAt_of_apart {entries : Level} (canonical : (Stored.level entries).Canonical)
    {p q : List String} (apart : Apart p q) : get? (removeAt entries p).2 q = get? entries q := by
  induction p generalizing entries q with
  | nil => exact absurd apart.symm (not_apart_nil q)
  | cons key rest ih =>
    cases q with
    | nil => rfl
    | cons other below =>
      by_cases same : other = key
      · subst same
        have nested : Apart rest below := by
          rcases apart_cons_iff.mp apart with different | nested
          · exact absurd rfl different
          · exact nested
        cases rest with
        | nil => exact absurd nested.symm (not_apart_nil below)
        | cons next rest =>
          cases below with
          | nil => exact absurd nested (not_apart_nil _)
          | cons first others =>
            rw [get?_removeAt_cons canonical, ih (canonical_below canonical other) nested, get?_below,
              get?_cons]
      · rw [get?_cons, get?_cons, get?_removeAt_of_ne same]

/-- What is removed is gone, with all below it. -/
theorem get?_removeAt_of_prefix {entries : Level} (canonical : (Stored.level entries).Canonical)
    {p q : List String} (proper : p ≠ []) (below : p <+: q) :
    get? (removeAt entries p).2 q = none := by
  induction p generalizing entries q with
  | nil => exact absurd rfl proper
  | cons key rest ih =>
    cases q with
    | nil => rfl
    | cons other others =>
      obtain ⟨same, nested⟩ := List.cons_prefix_cons.mp below
      subst same
      cases rest with
      | nil => rw [get?_cons, removeAt, Keyed.get?_erase canonical.sorted.distinct, if_pos rfl]; rfl
      | cons next rest =>
        cases others with
        | nil => simp at nested
        | cons first others =>
          rw [get?_removeAt_cons canonical]
          exact ih (canonical_below canonical key) (List.cons_ne_nil _ _) nested

/-- Without the entry at a key, exactly the paths that start with another key lead to an entry. -/
theorem get?_erase_eq_some_iff {entries : Level} (sorted : Keyed.Sorted entries) (key : String)
    {path : List String} {s : Stored} (found : get? entries path = some s) :
    get? (Keyed.erase key entries) path = some s ↔ ¬ [key] <+: path := by
  cases path with
  | nil => cases found
  | cons first rest =>
    rw [get?_cons] at found ⊢
    rw [Keyed.get?_erase sorted.distinct, List.cons_prefix_cons]
    by_cases same : first = key
    · simp [same]
    · simp [same, Ne.symm same, found]

private theorem exists_apart_of_erase_ne_nil {entries : Level}
    (canonical : (Stored.level entries).Canonical) {key : String}
    (left : Keyed.erase key entries ≠ []) (rest : List String) :
    ∃ q, (get? entries q).isSome ∧ Apart (key :: rest) q := by
  obtain ⟨⟨other, s⟩, others, shape⟩ := List.exists_cons_of_ne_nil left
  have found : Keyed.get? other (Keyed.erase key entries) = some s := by
    rw [shape, Keyed.get?_cons, if_pos rfl]
  rw [Keyed.get?_erase canonical.sorted.distinct] at found
  split at found
  · cases found
  · next different =>
    refine ⟨[other], ?_, apart_cons_iff.mpr (.inl (Ne.symm different))⟩
    rw [get?_cons, found]
    rfl

/-- If an entry was removed and something is left, it had an entry apart from the removed one. -/
theorem exists_apart_of_removeAt_ne_nil {entries : Level}
    (canonical : (Stored.level entries).Canonical) {path : List String}
    (present : (get? entries path).isSome) (left : (removeAt entries path).2 ≠ []) :
    ∃ q, (get? entries q).isSome ∧ Apart path q := by
  induction path generalizing entries with
  | nil => cases present
  | cons key rest ih =>
    cases rest with
    | nil => exact exists_apart_of_erase_ne_nil canonical left []
    | cons next rest =>
      rw [get?_cons] at present
      rw [removeAt_cons_cons] at left
      cases found : Keyed.get? key entries with
      | none => simp [found] at present
      | some s =>
        cases s with
        | leaf value => simp [found] at present
        | level inner =>
          simp only [found, Option.bind_some] at present left
          split at left
          · exact exists_apart_of_erase_ne_nil canonical left _
          · next nonempty =>
            rw [← get?_eq_at? (List.cons_ne_nil _ _)] at present
            obtain ⟨q, inside, apart⟩ := ih (canonical.get? found) present
              (fun empty => nonempty (List.isEmpty_iff.mpr empty))
            refine ⟨key :: q, ?_, apart_cons_iff.mpr (.inr apart)⟩
            have proper : q ≠ [] := fun empty => not_apart_nil _ (empty ▸ apart)
            rwa [get?_cons, found, Option.bind_some, ← get?_eq_at? proper]

/-- If nothing is left, every entry lay on the way to the removed one or below it. -/
theorem not_apart_of_removeAt_eq_nil {entries : Level} (canonical : (Stored.level entries).Canonical)
    {path q : List String} (empty : (removeAt entries path).2 = [])
    (inside : (get? entries q).isSome) :
    ¬ Apart path q := by
  intro apart
  rw [← get?_removeAt_of_apart canonical apart, empty, get?_empty] at inside
  cases inside

end Level

end Settings
