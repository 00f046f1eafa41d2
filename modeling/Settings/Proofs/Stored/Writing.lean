import Mathlib.Data.List.Infix
import Settings.Proofs.Stored.Compact

/-!
# Writing and removing at a path

Writing at a path puts an entry there, makes a level of whatever lies on the way to it and leaves all
entries apart alone. Removing takes away the entry and the levels that it leaves empty; if the levels
on the way were made by the write, they are what it takes away, and the map is as before.

* `insertAt_append`: a long path is written by writing a level at its beginning.
* `removeAt_of_absent`, `removeAt_insertAt`: when removing changes nothing or undoes a write.
* `insertAt_exact`, `removeAt_exact`: what is found at every path afterwards.
-/
namespace Settings

/-- Below an entry one finds what its level has there; a leaf has nothing. -/
theorem Stored.at?_eq_bind_level? (s : Stored) {path : List String} (proper : path ≠ []) :
    s.at? path = s.level?.bind fun inner => Level.get? inner path := by
  cases s with
  | leaf value =>
    obtain ⟨key, rest, rfl⟩ := List.exists_cons_of_ne_nil proper
    rfl
  | level inner => exact (Level.get?_eq_at? proper).symm

namespace Level

variable {entries : Level} {entry : Stored} {path : List String}

theorem get?_append (entries : Level) {p q : List String} (proper : p ≠ []) (below : q ≠ []) :
    get? entries (p ++ q) =
      (get? entries p).bind fun s => s.level?.bind fun inner => get? inner q := by
  have whole : p ++ q ≠ [] := List.append_ne_nil_of_left_ne_nil proper q
  rw [get?_eq_at? whole, Stored.at?_append, ← get?_eq_at? proper]
  cases get? entries p with
  | none => rfl
  | some s => exact s.at?_eq_bind_level? below

/-- One step further down the same path. -/
theorem get?_cons_of_ne_nil (entries : Level) (key : String) (proper : path ≠ []) :
    get? entries (key :: path) = get? (below (Keyed.get? key entries)) path := by
  obtain ⟨next, rest, rfl⟩ := List.exists_cons_of_ne_nil proper
  rw [get?_cons, get?_below]

section Writing

theorem insertAt_cons_of_ne_nil (entries : Level) (key : String) (proper : path ≠ [])
    (entry : Stored) : insertAt entries (key :: path) entry =
      Keyed.insert key (.level (insertAt (below (Keyed.get? key entries)) path entry)) entries := by
  obtain ⟨next, rest, rfl⟩ := List.exists_cons_of_ne_nil proper
  exact insertAt_cons_cons entries key next rest entry

/-- A long path is written by writing a level at its beginning: the level that is there, or an empty
one, with the entry at the end of the path. -/
theorem insertAt_append (entries : Level) {p q : List String} (proper : p ≠ []) (below : q ≠ [])
    (entry : Stored) : insertAt entries (p ++ q) entry =
      insertAt entries p (.level (insertAt (Level.below (get? entries p)) q entry)) := by
  induction p generalizing entries with
  | nil => exact absurd rfl proper
  | cons key rest ih =>
    cases rest with
    | nil => exact insertAt_cons_of_ne_nil entries key below entry
    | cons next rest =>
      have inner : next :: rest ≠ [] := List.cons_ne_nil _ _
      rw [List.cons_append, insertAt_cons_of_ne_nil entries key (by simp), ih _ inner,
        insertAt_cons_of_ne_nil entries key inner, get?_cons_of_ne_nil entries key inner]

/-- On the way to a written entry there are levels. -/
theorem get?_insertAt_of_prefix (entries : Level) {q : List String} (proper : q ≠ [])
    (onTheWay : q <+: path) (earlier : q ≠ path) (entry : Stored) :
    ∃ inner, get? (insertAt entries path entry) q = some (.level inner) := by
  obtain ⟨rest, rfl⟩ := onTheWay
  have below : rest ≠ [] := by
    rintro rfl
    exact earlier (List.append_nil q).symm
  refine ⟨insertAt (Level.below (get? entries q)) rest entry, ?_⟩
  rw [insertAt_append entries proper below, get?_insertAt entries proper]

/-- Writing an entry without empty levels makes none, and the map is not empty afterwards. -/
theorem Compact.level_insertAt (compact : Compact entries) (proper : path ≠ [])
    (inner : entry.Compact) : (Stored.level (Level.insertAt entries path entry)).Compact := by
  apply Stored.compact_level_iff.mpr
  constructor
  · obtain ⟨key, rest, rfl⟩ := List.exists_cons_of_ne_nil proper
    exact insertAt_cons_ne_nil entries key rest entry
  · exact compact.insertAt path inner

/-- After an entry was written at a path, the path leads to it, and a path that leads on leads to
whatever the entry has there. On the way there are levels, and all that lies apart is as before. No
level is empty unless one was before or the entry has one. -/
theorem insertAt_exact (entries : Level) {path : List String} (proper : path ≠ []) (entry : Stored) :
    get? (insertAt entries path entry) path = some entry ∧
    (∀ rest, rest ≠ [] → get? (insertAt entries path entry) (path ++ rest) =
      entry.level?.bind fun inner => get? inner rest) ∧
    (∀ q, q ≠ [] → q <+: path → q ≠ path →
      ∃ inner, get? (insertAt entries path entry) q = some (.level inner)) ∧
    (∀ q, Apart path q → get? (insertAt entries path entry) q = get? entries q) ∧
    (Compact entries → entry.Compact → (Stored.level (insertAt entries path entry)).Compact) := by
  have written := get?_insertAt entries proper entry
  refine ⟨written, fun rest below => ?_, fun q nonempty onTheWay earlier => ?_, fun q apart => ?_,
    fun compact inner => ?_⟩
  · rw [get?_append _ proper below, written]
    rfl
  · exact get?_insertAt_of_prefix entries nonempty onTheWay earlier entry
  · exact get?_insertAt_of_apart entries entry apart
  · exact compact.level_insertAt proper inner

end Writing

/-- A screen with its aspect under one key and its modes below another. -/
def screen : Level :=
  insertAt (insertAt [] ["av", "mode", "hdmi"] (.leaf "1080i")) ["av", "aspect"] (.leaf "16:9")

theorem canonical_screen : (Stored.level screen).Canonical :=
  canonical_insertAt (canonical_insertAt Stored.canonical_empty _ (Stored.canonical_leaf _)) _
    (Stored.canonical_leaf _)

theorem compact_screen : Compact screen :=
  (compact_empty.insertAt _ (Stored.compact_leaf _)).insertAt _ (Stored.compact_leaf _)

/-- A level is written below the aspect, which was a leaf. -/
theorem insertAt_exact_screen :
    ∃ entries, entries = insertAt screen ["av", "aspect", "tv"] (.level [("wide", .leaf "on")]) ∧
      get? screen ["av", "aspect"] = some (.leaf "16:9") ∧
      get? entries ["av", "aspect", "tv", "wide"] = some (.leaf "on") ∧
      (∃ inner, get? entries ["av", "aspect"] = some (.level inner)) ∧
      get? entries ["av", "mode", "hdmi"] = some (.leaf "1080i") ∧
      (Stored.level entries).Compact := by
  obtain ⟨_, below, between, elsewhere, compact⟩ :=
    insertAt_exact screen (List.cons_ne_nil "av" ["aspect", "tv"]) (.level [("wide", .leaf "on")])
  have wide : (Stored.level [("wide", .leaf "on")]).Compact :=
    compact_empty.level_insertAt (List.cons_ne_nil "wide" []) (Stored.compact_leaf "on")
  refine ⟨_, rfl, by decide, ?_, ?_, ?_, compact compact_screen wide⟩
  · exact (below ["wide"] (by decide)).trans (by decide)
  · exact between ["av", "aspect"] (by decide) (by decide) (by decide)
  · rw [elsewhere ["av", "mode", "hdmi"] ⟨by decide, by decide⟩]
    decide

section Removing

variable (canonical : (Stored.level entries).Canonical) (compact : Compact entries)

include canonical compact

/-- Where nothing is found, nothing is removed. -/
theorem removeAt_of_absent (absent : get? entries path = none) : (removeAt entries path).2 = entries := by
  induction path generalizing entries with
  | nil => rfl
  | cons key rest ih =>
    cases rest with
    | nil => exact Keyed.erase_of_absent absent
    | cons next rest =>
      rw [removeAt_cons_cons]
      split
      · next inner found =>
        obtain ⟨nonempty, inside⟩ := Stored.compact_level_iff.mp (compact key _ found)
        have nothing : get? inner (next :: rest) = none := by
          rw [get?_cons_of_ne_nil entries key (List.cons_ne_nil _ _), found] at absent
          exact absent
        have same := ih (canonical.get? found) inside nothing
        simp only [same, List.isEmpty_iff, nonempty, if_false]
        exact canonical.sorted.insert_of_get? found
      · rfl

/-- Removing what was written at a free path, with no leaf on the way, undoes the write: exactly the
levels that it made are empty then. -/
theorem removeAt_insertAt (proper : path ≠ []) (absent : get? entries path = none)
    (clear : ∀ q, q <+: path → q ≠ path → ∀ value, get? entries q ≠ some (.leaf value))
    (entry : Stored) : removeAt (insertAt entries path entry) path = (some entry, entries) := by
  induction path generalizing entries with
  | nil => exact absurd rfl proper
  | cons key rest ih =>
    cases rest with
    | nil =>
      have free := canonical.sorted.erase_insert absent entry
      rw [insertAt, removeAt, Keyed.get?_insert_self, free]
    | cons next rest =>
      have inner : next :: rest ≠ [] := List.cons_ne_nil _ _
      have undone : removeAt (insertAt (below (Keyed.get? key entries)) (next :: rest) entry)
          (next :: rest) = (some entry, below (Keyed.get? key entries)) := by
        apply ih (canonical_below canonical key) (compact.below key) inner
        · rwa [get?_cons_of_ne_nil entries key inner] at absent
        · intro q onTheWay earlier value found
          have nonempty : q ≠ [] := by
            rintro rfl
            cases found
          apply clear (key :: q) (List.cons_prefix_cons.mpr ⟨rfl, onTheWay⟩) (by simpa using earlier)
            value
          rwa [get?_cons_of_ne_nil entries key nonempty]
      rw [insertAt_cons_cons, removeAt_cons_cons, Keyed.get?_insert_self]
      simp only [undone, Prod.mk.injEq, true_and]
      -- The level below was made by the write, or it held something else before.
      cases found : Keyed.get? key entries with
      | none => exact canonical.sorted.erase_insert found _
      | some s =>
        cases s with
        | leaf value =>
          have onTheWay : [key] <+: key :: next :: rest := ⟨next :: rest, rfl⟩
          exact absurd found (clear [key] onTheWay (by simp) value)
        | level held =>
          have nonempty := (Stored.compact_level_iff.mp (compact key _ found)).1
          simp only [below, List.isEmpty_iff, nonempty, if_false]
          rw [canonical.sorted.insert_insert, canonical.sorted.insert_of_get? found]

end Removing

/-- Removing at a path answers with the entry there. Neither it nor anything below it is found
afterwards, all that lies apart is as before, and no level is empty. Where there was nothing the map
stays as it is. A leaf that was written at a free path, with no leaf on the way, is removed without a
trace. -/
theorem removeAt_exact {entries : Level} (canonical : (Stored.level entries).Canonical)
    (compact : Compact entries) {path : List String} (proper : path ≠ []) :
    (removeAt entries path).1 = get? entries path ∧
    (∀ q, path <+: q → get? (removeAt entries path).2 q = none) ∧
    (∀ q, Apart path q → get? (removeAt entries path).2 q = get? entries q) ∧
    Compact (removeAt entries path).2 ∧
    (get? entries path = none → (removeAt entries path).2 = entries) ∧
    (get? entries path = none →
      (∀ q, q <+: path → q ≠ path → ∀ value, get? entries q ≠ some (.leaf value)) →
      ∀ value, removeAt (insertAt entries path (.leaf value)) path =
        (some (.leaf value), entries)) := by
  refine ⟨removeAt_fst entries path, fun q below => ?_, fun q apart => ?_, ?_, fun absent => ?_,
    fun absent clear value => ?_⟩
  · exact get?_removeAt_of_prefix canonical proper below
  · exact get?_removeAt_of_apart canonical apart
  · exact compact.removeAt canonical path
  · exact removeAt_of_absent canonical compact absent
  · exact removeAt_insertAt canonical compact proper absent clear (.leaf value)

/-- The only mode goes, and the level of the modes with it. A second input beside it comes and goes. -/
theorem removeAt_exact_screen :
    removeAt screen ["av", "mode", "hdmi"] =
        (some (.leaf "1080i"), [("av", .level [("aspect", .leaf "16:9")])]) ∧
      Compact (removeAt screen ["av", "mode", "hdmi"]).2 ∧
      get? (removeAt screen ["av", "mode", "hdmi"]).2 ["av", "mode", "hdmi", "x"] = none ∧
      get? (removeAt screen ["av", "mode", "hdmi"]).2 ["av", "aspect"] = some (.leaf "16:9") ∧
      removeAt (insertAt screen ["av", "input", "scart"] (.leaf "rgb")) ["av", "input", "scart"] =
        (some (.leaf "rgb"), screen) := by
  obtain ⟨_, gone, elsewhere, left, _, _⟩ := removeAt_exact canonical_screen compact_screen
    (List.cons_ne_nil "av" ["mode", "hdmi"])
  obtain ⟨_, _, _, _, _, undone⟩ := removeAt_exact canonical_screen compact_screen
    (List.cons_ne_nil "av" ["input", "scart"])
  refine ⟨by decide, left, gone _ (by decide), ?_, ?_⟩
  · rw [elsewhere ["av", "aspect"] ⟨by decide, by decide⟩]
    decide
  · apply undone (by decide)
    have noLeaf : ∀ q ∈ ["av", "input", "scart"].inits, (get? screen q).bind Stored.leaf? = none := by
      decide
    intro q onTheWay _ value found
    have nothing := noLeaf q ((List.mem_inits _ _).mpr onTheWay)
    rw [found] at nothing
    cases nothing

end Level

end Settings
