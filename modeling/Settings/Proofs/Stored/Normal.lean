import Settings.Proofs.Stored.Codec

/-!
# The normal form of a stored map

A settings text has no line for a level without leaves, so such levels are lost when a map is
written and read again. Nothing else is, and a map that was read has no such levels: writing what a
text says gives a text that says the same, and nothing changes when this is done again.

* `ofText_text_eq_pruned`: a map that was written is read without its leafless levels.
* `ofText_normalText`: the normal form of a text says what the text says.
-/
namespace Settings

namespace Stored

mutual
/-- There is a leaf inside. -/
def hasLeaf : Stored → Bool
  | .leaf _ => true
  | .level entries => anyLeaf entries

def anyLeaf : List (String × Stored) → Bool
  | [] => false
  | (_, entry) :: rest => entry.hasLeaf || anyLeaf rest
end

mutual
/-- The entry without the levels inside that have no leaf. -/
def pruned : Stored → Stored
  | .leaf value => .leaf value
  | .level entries => .level (prunedEntries entries)

def prunedEntries : List (String × Stored) → List (String × Stored)
  | [] => []
  | (name, entry) :: rest =>
    if entry.hasLeaf then (name, entry.pruned) :: prunedEntries rest else prunedEntries rest
end

mutual
/-- All keys inside are valid and all values can stand in one line. -/
def Plain : Stored → Prop
  | .leaf value => Text.Legible value
  | .level entries => PlainEntries entries

def PlainEntries : List (String × Stored) → Prop
  | [] => True
  | (name, entry) :: rest => isValidKey name = true ∧ entry.Plain ∧ PlainEntries rest
end

variable {s : Stored} {entries : Level}

theorem anyLeaf_iff : anyLeaf entries = true ↔ ∃ p ∈ entries, p.2.hasLeaf = true := by
  induction entries with
  | nil => simp [anyLeaf]
  | cons p rest ih => simp [anyLeaf, ih]

theorem prunedEntries_eq_map (entries : Level) : prunedEntries entries =
    (entries.filter fun p => p.2.hasLeaf).map fun p => (p.1, p.2.pruned) := by
  induction entries with
  | nil => rw [prunedEntries]; rfl
  | cons p rest ih =>
    rw [prunedEntries, ih, List.filter_cons]
    split <;> rfl

theorem plainEntries_iff :
    PlainEntries entries ↔ ∀ p ∈ entries, isValidKey p.1 = true ∧ p.2.Plain := by
  induction entries with
  | nil => simp [PlainEntries]
  | cons p rest ih => simp [PlainEntries, ih, and_assoc]

/-- A path to a leaf is what shows that there is one. -/
theorem hasLeaf_iff (canonical : s.Canonical) :
    s.hasLeaf = true ↔ ∃ path value, s.at? path = some (.leaf value) := by
  induction s using Stored.induction with
  | leaf value => exact ⟨fun _ => ⟨[], value, at?_nil _⟩, fun _ => rfl⟩
  | level entries ih =>
    rw [hasLeaf, anyLeaf_iff]
    constructor
    · rintro ⟨p, member, leafy⟩
      have found := Keyed.get?_of_mem canonical.sorted.distinct member
      obtain ⟨path, value, leaf⟩ := (ih p member (canonical.get? found)).mp leafy
      refine ⟨p.1 :: path, value, ?_⟩
      rw [at?_cons_level, found]
      exact leaf
    · rintro ⟨path, value, leaf⟩
      cases path with
      | nil => cases leaf
      | cons key rest =>
        rw [at?_cons_level] at leaf
        obtain ⟨t, found, below⟩ := Option.bind_eq_some_iff.mp leaf
        have member := Keyed.mem_of_get? found
        exact ⟨_, member, (ih _ member (canonical.get? found)).mpr ⟨rest, value, below⟩⟩

theorem Compact.hasLeaf (compact : s.Compact) (canonical : s.Canonical) : s.hasLeaf = true :=
  (hasLeaf_iff canonical).mpr compact.exists_leaf

theorem get?_prunedEntries (sorted : Keyed.Sorted entries) (key : String) :
    Keyed.get? key (prunedEntries entries) =
      ((Keyed.get? key entries).filter hasLeaf).map pruned := by
  rw [prunedEntries_eq_map, Keyed.get?_map fun _ => pruned, Keyed.get?_filter sorted.distinct]

/-- What is left at a key was there and had a leaf. -/
theorem exists_of_get?_prunedEntries (sorted : Keyed.Sorted entries) {key : String}
    (found : Keyed.get? key (prunedEntries entries) = some s) :
    ∃ t, Keyed.get? key entries = some t ∧ t.hasLeaf = true ∧ t.pruned = s := by
  rw [get?_prunedEntries sorted] at found
  obtain ⟨t, kept, same⟩ := Option.map_eq_some_iff.mp found
  obtain ⟨inside, leafy⟩ := Option.filter_eq_some_iff.mp kept
  exact ⟨t, inside, leafy, same⟩

theorem canonical_pruned (canonical : s.Canonical) : s.pruned.Canonical := by
  induction s using Stored.induction with
  | leaf value => exact canonical_leaf value
  | level entries ih =>
    rw [pruned]
    refine canonical_level_iff.mpr ⟨?_, fun key t found => ?_⟩
    · rw [prunedEntries_eq_map, Keyed.Sorted, Keyed.keys_map fun _ => pruned]
      exact canonical.sorted.sublist (List.filter_sublist.map Prod.fst)
    · obtain ⟨u, inside, _, rfl⟩ := exists_of_get?_prunedEntries canonical.sorted found
      exact ih _ (Keyed.mem_of_get? inside) (canonical.get? inside)

/-- What is left has no empty levels. -/
theorem compact_pruned (canonical : s.Canonical) (leafy : s.hasLeaf = true) : s.pruned.Compact := by
  induction s using Stored.induction with
  | leaf value => exact compact_leaf value
  | level entries ih =>
    rw [hasLeaf, anyLeaf_iff] at leafy
    obtain ⟨p, member, inner⟩ := leafy
    rw [pruned]
    refine compact_level_iff.mpr ⟨fun empty => ?_, fun key t found => ?_⟩
    · rw [prunedEntries_eq_map, List.map_eq_nil_iff, List.filter_eq_nil_iff] at empty
      exact empty p member inner
    · obtain ⟨u, inside, leafy, rfl⟩ := exists_of_get?_prunedEntries canonical.sorted found
      exact ih _ (Keyed.mem_of_get? inside) (canonical.get? inside) leafy

/-- All leaves are left. -/
theorem leaf_pruned_iff (canonical : s.Canonical) (path : List String) (value : String) :
    s.pruned.at? path = some (.leaf value) ↔ s.at? path = some (.leaf value) := by
  induction path generalizing s with
  | nil => cases s <;> simp [pruned]
  | cons key rest ih =>
    cases s with
    | leaf other => rfl
    | level entries =>
      rw [pruned, at?_cons_level, at?_cons_level, get?_prunedEntries canonical.sorted]
      cases found : Keyed.get? key entries with
      | none => rfl
      | some t =>
        have inner := canonical.get? found
        cases leafy : t.hasLeaf with
        | true => simpa [Option.filter, leafy] using ih inner
        | false =>
          have barren : t.at? rest ≠ some (.leaf value) := by
            intro leaf
            rw [(hasLeaf_iff inner).mpr ⟨rest, value, leaf⟩] at leafy
            cases leafy
          simp [Option.filter, leafy, barren]

theorem Plain.get? (plain : (Stored.level entries).Plain) {key : String}
    (found : Keyed.get? key entries = some s) : isValidKey key = true ∧ s.Plain :=
  plainEntries_iff.mp plain _ (Keyed.mem_of_get? found)

/-- The leaves of a plain entry can be written as lines. -/
theorem Plain.writable (plain : s.Plain) {path : List String} {value : String}
    (found : s.at? path = some (.leaf value)) : Line.Writable ⟨path, value⟩ := by
  induction path generalizing s with
  | nil =>
    rw [at?_nil] at found
    cases found
    exact Line.writable_of_legible plain
  | cons key rest ih =>
    cases s with
    | leaf other => cases found
    | level entries =>
      rw [at?_cons_level] at found
      obtain ⟨t, inside, below⟩ := Option.bind_eq_some_iff.mp found
      obtain ⟨valid, inner⟩ := plain.get? inside
      exact (ih inner below).below valid

end Stored

namespace Level

variable {root : String} {entries : Level}

/-- The map without the levels inside that have no leaf. -/
def pruned (entries : Level) : Level := Stored.prunedEntries entries

theorem canonical_pruned (canonical : (Stored.level entries).Canonical) :
    (Stored.level (pruned entries)).Canonical := by
  have whole := Stored.canonical_pruned canonical
  rwa [Stored.pruned] at whole

theorem compact_pruned (canonical : (Stored.level entries).Canonical) : Compact (pruned entries) := by
  intro key s found
  obtain ⟨t, inside, leafy, rfl⟩ := Stored.exists_of_get?_prunedEntries canonical.sorted found
  exact Stored.compact_pruned (canonical.get? inside) leafy

theorem leaf_pruned_iff (canonical : (Stored.level entries).Canonical) (path : List String)
    (value : String) : (Stored.level (pruned entries)).at? path = some (.leaf value) ↔
      (Stored.level entries).at? path = some (.leaf value) := by
  have whole := Stored.leaf_pruned_iff canonical path value
  rwa [Stored.pruned] at whole

/-- A map has no empty level inside exactly if there is a leaf at or below each of its entries. -/
theorem compact_iff_hasLeaf (canonical : (Stored.level entries).Canonical) :
    Compact entries ↔ ∀ path s, get? entries path = some s → s.hasLeaf = true := by
  constructor
  · intro compact path s found
    cases path with
    | nil => cases found
    | cons key rest =>
      rw [get?_cons] at found
      obtain ⟨t, inside, reached⟩ := Option.bind_eq_some_iff.mp found
      exact ((compact key t inside).at? reached).hasLeaf ((canonical.get? inside).at? reached)
  · intro leafy key t inside path empty
    have found : get? entries (key :: path) = some (.level []) := by
      rw [get?_cons, inside]
      exact empty
    cases leafy _ _ found

/-- A map that was written is read without its leafless levels, so as it is if it has none. -/
theorem ofText_text_eq_pruned (valid : isValidKey root = true)
    (canonical : (Stored.level entries).Canonical) (plain : (Stored.level entries).Plain) :
    ofText root (text root entries) = pruned entries ∧
      (ofText root (text root entries) = entries ↔
        ∀ path s, get? entries path = some s → s.hasLeaf = true) := by
  have rooted := isRootName_of_isValidKey valid
  have writable : Writable entries := fun _ _ found => plain.writable found
  refine ⟨?_, ?_⟩
  · refine eq_of_leaves (canonical_ofText root _) (canonical_pruned canonical)
      (compact_ofText root _) (compact_pruned canonical) fun path value => ?_
    exact (leaf_ofText_text_iff rooted canonical writable path value).trans
      (leaf_pruned_iff canonical path value).symm
  · rw [← compact_iff_hasLeaf canonical]
    constructor
    · intro same
      rw [← same]
      exact compact_ofText root _
    · exact fun compact => ofText_text rooted canonical compact writable

/-- A map with a level in which there are only levels, beside one with a value. -/
def atticAndDesk : Level :=
  [("attic", .level [("box", .level [])]), ("desk", .level [("lamp", .leaf "on=#1 .")])]

theorem ofText_text_atticAndDesk :
    ofText "config" (text "config" atticAndDesk) =
        [("desk", .level [("lamp", .leaf "on=#1 .")])] ∧
      ofText "config" (text "config" atticAndDesk) ≠ atticAndDesk := by
  have canonical : (Stored.level atticAndDesk).Canonical := by
    simp only [atticAndDesk, Stored.Canonical, Stored.CanonicalEntries]
    decide
  have plain : (Stored.level atticAndDesk).Plain := by
    simp only [atticAndDesk, Stored.Plain, Stored.PlainEntries]
    decide
  have valid : isValidKey "config" = true := by decide
  obtain ⟨read, _⟩ := ofText_text_eq_pruned valid canonical plain
  have left : pruned atticAndDesk = [("desk", .level [("lamp", .leaf "on=#1 .")])] := by decide
  refine ⟨read.trans left, ?_⟩
  rw [read]
  decide

theorem text_nil (root : String) : text root [] = "" := by
  rw [text, Stored.lines_level, sortByKey, List.mergeSort_nil]
  rfl

/-- The settings text of what a text says below a root. -/
def normalText (root text : String) : String := Level.text root (ofText root text)

/-- Normalising a text changes nothing of what it says, so it is done after the first time. -/
theorem ofText_normalText {root : String} (noComment : root.toList.head? ≠ some '#')
    (text : String) : ofText root (normalText root text) = ofText root text ∧
      normalText root (normalText root text) = normalText root text := by
  have same : ofText root (normalText root text) = ofText root text := by
    cases shape : ofText root text with
    | nil =>
      rw [normalText, shape, text_nil]
      rfl
    | cons entry rest =>
      -- The value inside was on a line, which the root cannot have spoiled.
      have found : Keyed.get? entry.1 (ofText root text) = some entry.2 := by
        rw [shape, Keyed.get?_cons, if_pos rfl]
      obtain ⟨path, value, leaf⟩ := Stored.exists_leaf_of_get? (compact_ofText root text) found
      have member := (leaf_of_ofLines leaf).resolve_right no_leaf_of_empty
      rw [← shape]
      exact ofText_text (Line.isRootName_of_mem_ofText member noComment) (canonical_ofText root text)
        (compact_ofText root text) (writable_ofText root text)
  refine ⟨same, ?_⟩
  rw [normalText, same, normalText]

/-- A text with a comment, a stray line, a foreign key, blanks and two lines for one key. -/
def untidyText : String :=
  "# lights\n config.lamp = off \r\nlamp\nother.lamp=on\n\nconfig.lamp=a=b # on\r\r\nconfig.fan #1.x\ry=3"

theorem ofText_normalText_untidyText :
    ofText "config" (normalText "config" untidyText) =
        [("fan #1", .level [("x\ry", .leaf "3")]), ("lamp", .leaf "a=b # on")] ∧
      normalText "config" (normalText "config" untidyText) = normalText "config" untidyText := by
  have noComment : "config".toList.head? ≠ some '#' := by decide
  obtain ⟨same, again⟩ := ofText_normalText noComment untidyText
  exact ⟨same.trans (by decide +kernel), again⟩

end Level

end Settings
