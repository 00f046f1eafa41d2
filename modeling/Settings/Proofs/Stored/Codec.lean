import Settings.Proofs.Stored.Compact
import Settings.Proofs.Stored.Line

/-!
# Settings texts are read back

A stored map with sorted levels, none of them empty, is determined by its leaves. The settings text
has a line for each of them, so the map comes back when the text is read.

* `eq_of_leaves`: maps with the same leaves are the same.
* `leaf_ofText_text_trimmed_iff`: every leaf is read back with its value trimmed, if it is on one line.
* `leaf_ofText_text_iff`: every leaf is read back, whatever the levels around it.
* `ofText_text`: the map of a settings text that was written for a map.
-/
namespace Settings

namespace Stored

variable {s t : Stored}

/-- Only one leaf or level can be at a path, so leaves stand apart. -/
theorem apart_of_leaves {p q : List String} {v w : String} (left : s.at? p = some (.leaf v))
    (right : s.at? q = some (.leaf w)) (different : p ≠ q) : Apart p q := by
  have above : ∀ {p q : List String} {v w : String}, s.at? p = some (.leaf v) →
      s.at? q = some (.leaf w) → p <+: q → p = q := by
    rintro p q v w left right ⟨rest, rfl⟩
    rw [at?_append, left, Option.bind_some] at right
    cases rest with
    | nil => rw [List.append_nil]
    | cons key others => cases right
  exact ⟨fun before => different (above left right before),
    fun before => different (above right left before).symm⟩

/-- The lines of a sorted map stand apart. -/
theorem pairwise_leaves (canonical : s.Canonical) :
    s.leaves.Pairwise fun line other => Apart line.path other.path := by
  refine List.Pairwise.imp_of_mem ?_ (nodup_leaves canonical)
  rintro ⟨p, v⟩ ⟨q, w⟩ left right different
  have here := (mem_leaves canonical).mp left
  have there := (mem_leaves canonical).mp right
  refine apart_of_leaves here there ?_
  rintro rfl
  rw [here] at there
  cases there
  exact different rfl

theorem exists_leaf_of_get? {entries : Level} (compact : Level.Compact entries) {key : String}
    (found : Keyed.get? key entries = some s) :
    ∃ rest value, (Stored.level entries).at? (key :: rest) = some (.leaf value) := by
  obtain ⟨rest, value, leaf⟩ := (compact key s found).exists_leaf
  refine ⟨rest, value, ?_⟩
  rw [at?_cons_level, found]
  exact leaf

/-- A path that leads to a leaf from one of two levels and not from the other tells them apart. -/
private theorem level_ext {entries others : Level} (canonical : (Stored.level entries).Canonical)
    (canonical' : (Stored.level others).Canonical) (compact : Level.Compact entries)
    (compact' : Level.Compact others)
    (same : ∀ path value, (Stored.level entries).at? path = some (.leaf value) ↔
      (Stored.level others).at? path = some (.leaf value))
    (inner : ∀ key a b, Keyed.get? key entries = some a → Keyed.get? key others = some b →
      (∀ path value, a.at? path = some (.leaf value) ↔ b.at? path = some (.leaf value)) → a = b) :
    entries = others := by
  refine canonical.sorted.ext canonical'.sorted fun key => ?_
  cases found : Keyed.get? key entries with
  | none =>
    cases found' : Keyed.get? key others with
    | none => rfl
    | some b =>
      obtain ⟨rest, value, leaf⟩ := exists_leaf_of_get? compact' found'
      have leaf := (same _ _).mpr leaf
      rw [at?_cons_level, found] at leaf
      cases leaf
  | some a =>
    cases found' : Keyed.get? key others with
    | none =>
      obtain ⟨rest, value, leaf⟩ := exists_leaf_of_get? compact found
      have leaf := (same _ _).mp leaf
      rw [at?_cons_level, found'] at leaf
      cases leaf
    | some b =>
      refine congrArg some (inner key a b found found' fun path value => ?_)
      have below := same (key :: path) value
      rw [at?_cons_level, at?_cons_level, found, found'] at below
      exact below

/-- Sorted entries without empty levels are told apart by their leaves. -/
theorem eq_of_leaves (canonical : s.Canonical) (canonical' : t.Canonical) (compact : s.Compact)
    (compact' : t.Compact)
    (same : ∀ path value, s.at? path = some (.leaf value) ↔ t.at? path = some (.leaf value)) :
    s = t := by
  induction s using Stored.induction generalizing t with
  | leaf value =>
    have here := (same [] value).mp (at?_nil _)
    rw [at?_nil] at here
    exact (Option.some.inj here).symm
  | level entries ih =>
    cases t with
    | leaf value =>
      have here := (same [] value).mpr (at?_nil _)
      cases here
    | level others =>
      have inner := (compact_level_iff.mp compact).2
      have inner' := (compact_level_iff.mp compact').2
      refine congrArg Stored.level (level_ext canonical canonical' inner inner' same ?_)
      intro key a b found found' below
      exact ih _ (Keyed.mem_of_get? found) (canonical.get? found) (canonical'.get? found')
        (inner key a found) (inner' key b found') below

end Stored

namespace Level

/-- Sorted maps without empty levels are told apart by their leaves. -/
theorem eq_of_leaves {entries others : Level} (canonical : (Stored.level entries).Canonical)
    (canonical' : (Stored.level others).Canonical) (compact : Compact entries)
    (compact' : Compact others)
    (same : ∀ path value, (Stored.level entries).at? path = some (.leaf value) ↔
      (Stored.level others).at? path = some (.leaf value)) : entries = others :=
  Stored.level_ext canonical canonical' compact compact' same fun key _ _ found found' below =>
    Stored.eq_of_leaves (canonical.get? found) (canonical'.get? found') (compact key _ found)
      (compact' key _ found') below

/-- Puts the value of every line at its path. -/
def ofLines (lines : List Line) (entries : Level) : Level :=
  lines.foldl (fun entries line => insertAt entries line.path (.leaf line.value)) entries

theorem ofText_eq_ofLines (root text : String) :
    ofText root text = ofLines (Line.ofText root text) [] :=
  rfl

/-- A leaf is the one that was put there or stood there before. -/
theorem leaf_of_insertAt {entries : Level} {p q : List String} {v w : String}
    (found : (Stored.level (insertAt entries p (.leaf v))).at? q = some (.leaf w)) :
    (q = p ∧ w = v) ∨ (Stored.level entries).at? q = some (.leaf w) := by
  induction p generalizing entries q with
  | nil => exact .inr found
  | cons key rest ih =>
    cases q with
    | nil => cases found
    | cons k others =>
      cases rest with
      | nil =>
        rw [insertAt, Stored.at?_cons_level, Keyed.get?_insert] at found
        by_cases same : k = key
        · rw [if_pos same, Option.bind_some] at found
          cases others with
          | nil =>
            rw [Stored.at?_nil] at found
            cases found
            exact .inl ⟨by rw [same], rfl⟩
          | cons next more => cases found
        · rw [if_neg same] at found
          exact .inr found
      | cons next rest =>
        rw [insertAt_cons_cons, Stored.at?_cons_level, Keyed.get?_insert] at found
        by_cases same : k = key
        · rw [if_pos same, Option.bind_some] at found
          rcases ih found with ⟨path, value⟩ | before
          · exact .inl ⟨by rw [same, path], value⟩
          · cases others with
            | nil => cases before
            | cons first more =>
              rw [← get?_eq_at? (List.cons_ne_nil _ _), get?_below] at before
              refine .inr ?_
              rw [Stored.at?_cons_level, same]
              exact before
        · rw [if_neg same] at found
          exact .inr found

theorem leaf_of_ofLines {lines : List Line} {entries : Level} {path : List String} {value : String}
    (found : (Stored.level (ofLines lines entries)).at? path = some (.leaf value)) :
    ⟨path, value⟩ ∈ lines ∨ (Stored.level entries).at? path = some (.leaf value) := by
  induction lines generalizing entries with
  | nil => exact .inr found
  | cons line rest ih =>
    rcases ih found with later | before
    · exact .inl (List.mem_cons_of_mem _ later)
    · rcases leaf_of_insertAt before with ⟨rfl, rfl⟩ | earlier
      · exact .inl List.mem_cons_self
      · exact .inr earlier

theorem get?_ofLines_of_apart {lines : List Line} {path : List String}
    (apart : ∀ line ∈ lines, Apart line.path path) (entries : Level) :
    get? (ofLines lines entries) path = get? entries path := by
  induction lines generalizing entries with
  | nil => rfl
  | cons line rest ih =>
    obtain ⟨first, others⟩ := List.forall_mem_cons.mp apart
    exact (ih others _).trans (get?_insertAt_of_apart entries _ first)

/-- Lines that stand apart all hold. -/
theorem get?_ofLines_of_mem {lines : List Line}
    (apart : lines.Pairwise fun line other => Apart line.path other.path)
    (proper : ∀ line ∈ lines, line.path ≠ []) (entries : Level) {line : Line}
    (member : line ∈ lines) :
    get? (ofLines lines entries) line.path = some (.leaf line.value) := by
  induction lines generalizing entries with
  | nil => cases member
  | cons first rest ih =>
    obtain ⟨own, apart⟩ := List.pairwise_cons.mp apart
    obtain ⟨here, there⟩ := List.forall_mem_cons.mp proper
    rcases List.mem_cons.mp member with rfl | later
    · refine (get?_ofLines_of_apart (fun other inside => (own other inside).symm) _).trans ?_
      exact get?_insertAt entries here _
    · exact ih apart there _ later

theorem canonical_ofLines (lines : List Line) {entries : Level}
    (canonical : (Stored.level entries).Canonical) :
    (Stored.level (ofLines lines entries)).Canonical := by
  induction lines generalizing entries with
  | nil => exact canonical
  | cons line rest ih =>
    exact ih (canonical_insertAt canonical line.path (Stored.canonical_leaf line.value))

theorem compact_ofLines (lines : List Line) {entries : Level} (compact : Compact entries) :
    Compact (ofLines lines entries) := by
  induction lines generalizing entries with
  | nil => exact compact
  | cons line rest ih => exact ih (compact.insertAt line.path (Stored.compact_leaf line.value))

theorem canonical_ofText (root text : String) : (Stored.level (ofText root text)).Canonical :=
  canonical_ofLines _ Stored.canonical_empty

theorem compact_ofText (root text : String) : Compact (ofText root text) :=
  compact_ofLines _ compact_empty

/-- Every leaf can be written as a line. -/
def Writable (entries : Level) : Prop :=
  ∀ path value, (Stored.level entries).at? path = some (.leaf value) → Line.Writable ⟨path, value⟩

/-- Every leaf is written on one line, which names its path. -/
def Printable (entries : Level) : Prop :=
  ∀ path value, (Stored.level entries).at? path = some (.leaf value) → Line.Printable ⟨path, value⟩

theorem Writable.printable {entries : Level} (writable : Writable entries) : Printable entries :=
  fun path value found => (writable path value found).printable

theorem no_leaf_of_empty {path : List String} {value : String} :
    (Stored.level []).at? path ≠ some (.leaf value) := by
  intro found
  cases path <;> cases found

theorem writable_empty : Writable [] := fun _ _ found => absurd found no_leaf_of_empty

/-- What was read can be written. -/
theorem writable_ofText (root text : String) : Writable (ofText root text) := by
  intro path value found
  rcases leaf_of_ofLines found with member | before
  · exact Line.writable_of_mem_ofText member
  · exact absurd before no_leaf_of_empty

theorem Writable.inner {entries inner : Level} (writable : Writable entries) {key : String}
    (found : Keyed.get? key entries = some (.level inner)) : Writable inner := by
  intro path value leaf
  cases path with
  | nil => cases leaf
  | cons next rest =>
    have whole : Line.Writable ⟨key :: next :: rest, value⟩ := by
      refine writable _ _ ?_
      rw [Stored.at?_cons_level, found]
      exact leaf
    refine ⟨fun name member => whole.names name (List.mem_cons_of_mem _ member), ?_, whole.value⟩
    have ending := whole.ending
    rwa [List.getLast?_cons_cons] at ending

/-- The leaves that are read from the settings text of a sorted map are its own, with trimmed values. -/
theorem leaf_ofText_text_trimmed_iff {root : String} (rooted : IsRootName root) {entries : Level}
    (canonical : (Stored.level entries).Canonical) (printable : Printable entries) (path : List String)
    (value : String) :
    (Stored.level (ofText root (text root entries))).at? path = some (.leaf value) ↔
      ∃ own, (Stored.level entries).at? path = some (.leaf own) ∧ value = Text.trim own := by
  have leaves : ∀ line ∈ (Stored.level entries).leaves, line.path ≠ [] ∧ line.Printable := by
    rintro ⟨path, value⟩ member
    have found := (Stored.mem_leaves canonical).mp member
    refine ⟨?_, printable path value found⟩
    rintro rfl
    cases found
  rw [ofText_eq_ofLines, text_eq_join, Line.ofText_join_trimmed rooted leaves]
  constructor
  · intro found
    rcases leaf_of_ofLines found with member | before
    · obtain ⟨line, inside, same⟩ := List.mem_map.mp member
      cases same
      exact ⟨line.value, (Stored.mem_leaves canonical).mp inside, rfl⟩
    · exact absurd before no_leaf_of_empty
  · rintro ⟨own, found, rfl⟩
    have member := (Stored.mem_leaves canonical).mpr found
    have apart : ((Stored.level entries).leaves.map Line.trimmed).Pairwise
        fun line other => Apart line.path other.path :=
      List.pairwise_map.mpr (Stored.pairwise_leaves canonical)
    have proper : ∀ line ∈ (Stored.level entries).leaves.map Line.trimmed, line.path ≠ [] :=
      List.forall_mem_map.mpr fun line inside => (leaves line inside).1
    exact (get?_eq_at? (leaves _ member).1).symm.trans
      (get?_ofLines_of_mem apart proper [] (List.mem_map_of_mem member))

/-- The leaves of a sorted map are those that are read from its settings text. -/
theorem leaf_ofText_text_iff {root : String} (rooted : IsRootName root) {entries : Level}
    (canonical : (Stored.level entries).Canonical) (writable : Writable entries) (path : List String)
    (value : String) :
    (Stored.level (ofText root (text root entries))).at? path = some (.leaf value) ↔
      (Stored.level entries).at? path = some (.leaf value) := by
  rw [leaf_ofText_text_trimmed_iff rooted canonical writable.printable]
  constructor
  · rintro ⟨own, found, rfl⟩
    rw [(writable path own found).value.2]
    exact found
  · intro found
    exact ⟨value, found, (writable path value found).value.2.symm⟩

/-- A settings text that was written for a map is read as this map. -/
theorem ofText_text {root : String} (rooted : IsRootName root) {entries : Level}
    (canonical : (Stored.level entries).Canonical) (compact : Compact entries)
    (writable : Writable entries) : ofText root (text root entries) = entries :=
  eq_of_leaves (canonical_ofText root _) canonical (compact_ofText root _) compact
    (leaf_ofText_text_iff rooted canonical writable)

end Level

end Settings
