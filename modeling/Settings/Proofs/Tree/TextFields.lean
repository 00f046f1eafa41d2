import Settings.Proofs.Tree.RoundTrip

/-!
# Text fields in the settings text

A line of a settings text holds its value without outer blanks, so a text field that was edited comes
back trimmed. Blanks inside a text are kept, and so is a text that is not written, since it is the
default.

* `valueString_load_trimmed`: what a text field takes over from a text.
* `valueString_load_readText`: the text fields of a tree that was restored.
-/
namespace Settings

namespace Kind

variable {f : TextField}

theorem exists_textField_of_setup {k : Kind} (same : k.setup = (Kind.textField f).setup) :
    ∃ g, k = .textField g ∧ g.setup = f.setup := by
  cases sameSetup_of_setup same with
  | textField g f same => exact ⟨g, rfl, same⟩

end Kind

namespace Element

/-- A text field takes over the trimmed text of another one with the same setup, or the default if
nothing was persisted. -/
theorem valueString_load_trimmed {e fresh : Element} {f : TextField} (isField : e.kind = .textField f)
    (sound : e.kind.Sound) (setup : fresh.kind.setup = e.kind.setup)
    (handed : fresh.saved = e.formToSave.map Text.trim) :
    fresh.load.result.valueString =
      if e.neverSaved then e.kind.encodeDefault
      else if e.isDefault && !e.savesDefault then e.valueString
      else Text.trim e.valueString := by
  rw [isField] at sound setup
  obtain ⟨g, isFresh, same⟩ := Kind.exists_textField_of_setup setup
  have ownSound : g.Sound := TextField.Sound.of_setup sound same
  have default : (Kind.textField g).reset.encode = e.kind.encodeDefault := by
    rw [isField]
    exact (TextField.encode_reset_eq_default ownSound).trans (TextField.default_of_setup same)
  change fresh.loadedKind.encode = _
  rw [loadedKind, handed, isFresh, formToSave]
  cases e.neverSaved with
  | true => exact default
  | false =>
    cases omitted : e.isDefault && !e.savesDefault with
    | true =>
      rw [Bool.and_eq_true] at omitted
      exact default.trans (Kind.encode_eq_encodeDefault omitted.1).symm
    | false =>
      obtain ⟨g', read, shown⟩ : ∃ g', g.decode (Text.trim f.encode) = .ok g' ∧
          g'.encode = Text.trim f.encode := TextField.exists_decode_trim sound same
      have text : e.valueString = f.encode := congrArg Kind.encode isField
      simp [Kind.decode, Kind.encode, Except.map, text, read, shown]

end Element

namespace Tree

variable {t fresh : Tree}

/-- A tree that was made like an edited one and reads its settings text: each text field that is never
persisted is on its default then, one whose default was not written is on the same text, and any other
one is on the same text without its outer blanks. -/
theorem valueString_load_readText (edited : t.Edited) (rooted : IsRootName t.name)
    (single : ∀ path e, (Node.container t.save.result.root).at? path = some (.element e) →
      ∀ text, e.saved = some text → '\n' ∉ text.toList)
    (built : fresh.Built) (name : fresh.name = t.name) (outline : fresh.outline = t.outline)
    (isBase : Bool) {path : List String} {e : Element} {f : TextField}
    (live : (Node.container t.root).at? path = some (.element e)) (isField : e.kind = .textField f) :
    ∃ e', (Node.container
        (fresh.readText t.save.result.text isBase).result.load.result.root).at? path =
        some (.element e') ∧
      e'.valueString =
        if e.neverSaved then e.kind.encodeDefault
        else if e.isDefault && !e.savesDefault then e.valueString
        else Text.trim e.valueString := by
  obtain ⟨e', there, setup, handed⟩ := exists_element_trimmed edited rooted single built name outline
    isBase (Node.at?_mapChildren live)
  -- There is nothing to tidy up in a text field, so saving writes the form and nothing else.
  have tidy : e.kind.prepareSave = e.kind := by
    rw [isField]
    rfl
  have form : e.save.result.saved = e.formToSave := by
    change Element.formToSave { e with kind := e.kind.prepareSave } = e.formToSave
    rw [tidy]
  have sameSetup : e'.kind.setup = e.kind.setup := setup.trans (congrArg Kind.setup tidy)
  rw [form] at handed
  exact ⟨e'.load.result, Node.at?_mapChildren there,
    Element.valueString_load_trimmed isField (edited.sound.element path e live) sameSetup handed⟩

/-- A text of fixed size. -/
def pad : Kind := .textField ((TextField.make "ab").withFixedSize true)

def padTree : Tree := (named "config").after (.attach "config" "pad" (.element (.ofKind pad)))

/-- The same tree after the first letter was deleted, which leaves a space in its place. -/
def usedPadTree : Tree :=
  (padTree.after (.element "config.pad" (.act .twelve .first))).after
    (.element "config.pad" (.act .twelve .delete))

theorem built_padTree : padTree.Built := by
  have new : (Node.element (.ofKind pad)).New :=
    Node.throughout_element ⟨.textField _ (.withFixedSize true _ (.make "ab")), rfl⟩
  have room := hasRoom_root (t := named "config") (by decide)
  exact .after _ _ (.named "config") ⟨⟨.element _, room⟩, new⟩

/-- Edits lead from one tree to the other, and nothing was attached. -/
theorem edited_usedPadTree : usedPadTree.Edited ∧ padTree.outline = usedPadTree.outline := by
  have edited : padTree.Edited := built_padTree.edited
  have first := ReachedBy.after padTree (.element "config.pad" (.act .twelve .first)) edited
    ⟨trivial, trivial⟩
  have moved := outline_after edited.reachable.wellFormed (.element "config.pad" (.act .twelve .first))
    trivial nofun
  have deleted := outline_after (Edited.reachable first).wellFormed
    (.element "config.pad" (.act .twelve .delete)) trivial nofun
  exact ⟨.after _ (.element "config.pad" (.act .twelve .delete)) first ⟨trivial, trivial⟩,
    (deleted.trans moved).symm⟩

/-- Nothing is persisted but a space and a letter. -/
theorem single_usedPadTree : ∀ path e,
    (Node.container usedPadTree.save.result.root).at? path = some (.element e) →
      ∀ text, e.saved = some text → '\n' ∉ text.toList := by
  have children : (usedPadTree.save.result.root.children.map fun p => p.2.element?.map Element.saved) =
      [some (some " b")] := by decide +kernel
  have all : usedPadTree.save.result.Throughout (fun e => e.saved = some " b") fun _ => True := by
    refine Node.throughout_container_iff.mpr ⟨trivial, fun key child live => ?_⟩
    have member := List.mem_map_of_mem (f := fun p => p.2.element?.map Element.saved)
      (Keyed.mem_of_get? live)
    rw [children, List.mem_singleton] at member
    obtain ⟨e, isElement, saved⟩ := Option.map_eq_some_iff.mp member
    have same : child = .element e := Node.eq_element_of_element? isElement
    rw [same]
    exact Node.throughout_element saved
  intro path e live text found
  obtain rfl : " b" = text := Option.some.inj ((all.element path e live).symm.trans found)
  decide

theorem text_usedPadTree : usedPadTree.save.result.text = "config.pad= b\n" := by
  have snapshot : usedPadTree.save.result.snapshot = [("pad", .leaf " b")] := by decide +kernel
  rw [text, snapshot, Level.text, Stored.lines_level, sortByKey, List.mergeSort_singleton]
  decide +kernel

theorem exists_element_usedPadTree : ∃ e f,
    (Node.container usedPadTree.root).at? ["pad"] = some (.element e) ∧ e.kind = .textField f ∧
      e.valueString = " b" ∧ e.neverSaved = false ∧ e.isDefault = false := by
  have facts : (((Node.container usedPadTree.root).at? ["pad"]).bind Node.element?).map
      (fun e => (e.kind.setup, e.valueString, e.neverSaved, e.isDefault)) =
        some (pad.setup, " b", false, false) := by decide +kernel
  obtain ⟨e, found, shown⟩ := Option.map_eq_some_iff.mp facts
  obtain ⟨n, live, isElement⟩ := Option.bind_eq_some_iff.mp found
  simp only [Prod.mk.injEq] at shown
  obtain ⟨setup, value, mayBeSaved, edited⟩ := shown
  obtain ⟨f, isField, _⟩ := Kind.exists_textField_of_setup setup
  rw [Node.eq_element_of_element? isElement] at live
  exact ⟨e, f, live, isField, value, mayBeSaved, edited⟩

theorem read_usedPadTree : ∃ e e',
    (Node.container usedPadTree.root).at? ["pad"] = some (.element e) ∧ e.valueString = " b" ∧
      (Node.container
          (padTree.readText usedPadTree.save.result.text false).result.load.result.root).at? ["pad"] =
        some (.element e') ∧ e'.valueString = "b" := by
  obtain ⟨used, outline⟩ := edited_usedPadTree
  obtain ⟨e, f, live, isField, value, mayBeSaved, edited⟩ := exists_element_usedPadTree
  have rooted : IsRootName usedPadTree.name := isRootName_of_isValidKey (by decide)
  obtain ⟨e', there, shown⟩ :=
    valueString_load_readText used rooted single_usedPadTree built_padTree rfl outline false live isField
  have trimmed : Text.trim " b" = "b" := by decide +kernel
  rw [mayBeSaved, edited, value] at shown
  exact ⟨e, e', live, value, there, shown.trans trimmed⟩

/-- A blank in front of a text does not come back. -/
theorem blank_in_front_lost :
    ¬ ∀ (t fresh : Tree), t.Edited → IsRootName t.name →
      (∀ path e, (Node.container t.save.result.root).at? path = some (.element e) →
        ∀ text, e.saved = some text → '\n' ∉ text.toList) →
      fresh.Built → fresh.name = t.name → fresh.outline = t.outline →
      ∀ path e f, (Node.container t.root).at? path = some (.element e) → e.kind = .textField f →
        e.neverSaved = false →
        ∃ e', (Node.container
            (fresh.readText t.save.result.text true).result.load.result.root).at? path =
          some (.element e') ∧ e'.valueString = e.valueString := by
  intro survives
  obtain ⟨used, outline⟩ := edited_usedPadTree
  obtain ⟨e, f, live, isField, value, mayBeSaved, _⟩ := exists_element_usedPadTree
  obtain ⟨e', there, same⟩ := survives usedPadTree padTree used (isRootName_of_isValidKey (by decide))
    single_usedPadTree built_padTree rfl outline ["pad"] e f live isField mayBeSaved
  have lost : (((Node.container
      (padTree.readText "config.pad= b\n" true).result.load.result.root).at? ["pad"]).bind
        Node.element?).map Element.valueString = some "b" := by decide +kernel
  rw [← text_usedPadTree, there] at lost
  have shown : e'.valueString = "b" := Option.some.inj lost
  rw [same, value] at shown
  exact absurd shown (by decide)

end Tree

end Settings
