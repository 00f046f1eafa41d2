import Settings.Proofs.Container.Transfer
import Settings.Proofs.Element.Saving
import Settings.Proofs.Tree.Throughout

/-!
# A tree is restored from its settings text

A tree that was edited is saved and written; another tree that was made in the same way reads the
text and loads. Then every element that may be saved is on the same value, and the same text is
written again.

* `outline_after`: edits do not change what sits where.
* `exists_element_trimmed`: what an element takes over from the text.
* `restored_of_text`: the round trip.
-/
namespace Settings

/-- Elements as hosts make them, nothing persisted. -/
def Node.New (n : Node) : Prop := n.Throughout (fun e => e.kind.Made ∧ e.saved = none) (· = [])

namespace Tree

variable {t fresh : Tree}

/-- Nodes are new when they are attached, elements keep their setup, and stored maps come from settings
texts. -/
def Operation.Edits : Operation → Prop
  | .attach _ _ n => n.New
  | .element _ op => op.KeepsSetup
  | .load | .save | .cancel | .readText _ _ => True
  | _ => False

/-- A new node is attached. -/
def Operation.Builds : Operation → Prop
  | .attach _ _ n => n.New
  | _ => False

theorem Operation.Builds.edits {op : Operation} (builds : op.Builds) : op.Edits := by
  cases op with
  | attach key name n => exact builds
  | _ => exact absurd builds id

/-- The trees that edits lead to. -/
abbrev Edited (t : Tree) : Prop := ReachedBy (fun t op => op.Permitted t ∧ op.Edits) t

/-- The trees that attaching new nodes leads to. -/
abbrev Built (t : Tree) : Prop := ReachedBy (fun t op => op.Permitted t ∧ op.Builds) t

/-- What sits at each path, and how it was made. -/
def outline (t : Tree) : List String → Option Node.Label := (Node.container t.root).outline

/-- Stored maps that have no empty level and can be written. -/
def Tidy (entries : Level) : Prop := Level.Compact entries ∧ Level.Writable entries

theorem lasting_sound : Lasting (fun e => e.kind.Sound) Tidy where
  saves _ _ sound := sound
  loads e sound := e.evolves_load.sound sound
  assigns e text sound := (e.evolves_assignText text).sound sound
  hereditary entries key inner tidy found :=
    ⟨Node.hereditary_compact entries key inner tidy.1 found, tidy.2.inner found⟩
  reads root text := ⟨Level.compact_ofText root text, Level.writable_ofText root text⟩

/-- What the maker of all elements decided is not changed by reading and loading. -/
theorem lasting_setup (setup : Kind.Setup) :
    Lasting (fun e => e.kind.setup = setup) fun _ => True where
  saves _ _ same := same
  loads e same := e.evolves_load.setup.trans same
  assigns e text same := (e.evolves_assignText text).setup.trans same
  hereditary _ _ _ _ _ := trivial
  reads _ _ := trivial

theorem throughout_of_new {n : Node} (new : n.New) : n.Throughout (fun e => e.kind.Sound) Tidy := by
  constructor
  · exact fun path e live => (new.element path e live).1.sound
  · intro path c live
    rw [new.stored path c live]
    exact ⟨Level.compact_empty, Level.writable_empty⟩

namespace Edited

theorem reachable (edited : t.Edited) : t.Reachable := edited.mono fun _ _ fine => fine.1

/-- Edits leave sound elements and tidy stored maps. -/
theorem sound (edited : t.Edited) : t.Throughout (fun e => e.kind.Sound) Tidy := by
  induction edited with
  | named name => exact Container.throughout_empty .named ⟨Level.compact_empty, Level.writable_empty⟩
  | after t op before fine all =>
    obtain ⟨permitted, edits⟩ := fine
    have wf : t.WellFormed := (Edited.reachable before).wellFormed
    cases op with
    | attach key name n =>
      exact Throughout.after_attach lasting_sound wf all key name (throughout_of_new edits)
    | element key op =>
      exact Throughout.after_element wf all key fun e sound =>
        (Element.evolves_perform edits e).sound sound
    | load => exact Throughout.load all fun e sound => e.evolves_load.sound sound
    | save => exact Throughout.save all fun e sound => e.evolves_save.sound sound
    | cancel => exact Throughout.cancel all fun e sound => e.evolves_load.sound sound
    | readText text isBase => exact Throughout.readText lasting_sound wf all text isBase
    | _ => exact absurd edits id

end Edited

namespace Built

theorem edited (built : t.Built) : t.Edited := built.mono fun _ _ fine => ⟨fine.1, fine.2.edits⟩

theorem wellFormed (built : t.Built) : t.WellFormed := built.edited.reachable.wellFormed

/-- A tree that was only built has nothing persisted. -/
theorem blank (built : t.Built) : t.Throughout (fun e => e.saved = none) (· = []) := by
  induction built with
  | named name => exact Container.throughout_empty .named rfl
  | after t op before fine all =>
    obtain ⟨permitted, builds⟩ := fine
    have wf : t.WellFormed := Built.wellFormed before
    cases op with
    | attach key name n =>
      rcases after_attach key name n t with same | ⟨c, r, there, attached, shape⟩
      · rw [same]
        exact all
      · rw [shape]
        refine related_setContainer Node.lifts_throughout wf there (fun own => ?_) all
        obtain ⟨place, _, result⟩ := Container.attach_eq_ok attached
        obtain ⟨nothing, children⟩ := Node.throughout_container_iff.mp own
        have bound : (n.bind c.stored place).result = n := by rw [nothing]; rfl
        rw [result, bound]
        refine Node.throughout_container_iff.mpr ⟨nothing, fun other child found => ?_⟩
        rw [Container.get?_placed] at found
        split at found
        · cases found
          exact Node.Throughout.mono builds fun e new => new.2
        · exact children other child found
    | _ => exact absurd builds id

end Built

theorem outline_assignLines {c : Container Node} (wf : c.WellFormed) (lines : List Line) :
    (Node.container (assignLines lines c).result).outline = (Node.container c).outline := by
  induction lines generalizing c with
  | nil => rfl
  | cons line rest ih =>
    have first := related_assignLine Node.lifts_outline wf line fun e =>
      Node.outline_element_of_setup (e.evolves_assignText line.value).setup
    rw [assignLines]
    exact (ih (wellFormed_assignLine wf line)).trans first

/-- Edits do not change what sits where. -/
theorem outline_after (wf : t.WellFormed) (op : Operation) (edits : op.Edits)
    (still : ∀ key name n, op ≠ .attach key name n) : (t.after op).outline = t.outline := by
  have mapped : ∀ {f : Element → Reported Element}, (∀ e, (f e).result.kind.setup = e.kind.setup) →
      (Node.container { t.root with children := (Node.mapChildren f t.root.children).result }).outline =
        t.outline := by
    intro f keeps
    have whole := Node.outline_mapElements keeps (.container t.root)
    rwa [Node.mapElements_container] at whole
  have handed : ∀ (c : Container Node) entries,
      (Node.container (c.setStored entries)).outline = (Node.container c).outline := by
    intro c entries
    rw [← Node.setSaved_container_level]
    exact Node.outline_setSaved _ _
  cases op with
  | attach key name n => exact absurd rfl (still key name n)
  | element key op =>
    refine related_after_element Node.lifts_outline wf key op fun e => ?_
    exact Node.outline_element_of_setup (Element.evolves_perform edits e).setup
  | load => exact mapped fun e => e.evolves_load.setup
  | save => exact mapped fun e => e.evolves_save.setup
  | cancel => exact mapped fun e => e.evolves_load.setup
  | readText text isBase =>
    rw [Tree.after, readText]
    cases isBase with
    | true => exact handed _ _
    | false => exact (handed _ _).trans (outline_assignLines wf _)
  | _ => exact absurd edits id

/-- However a text is read, its map is handed to elements that sit where they sat, and to which nothing
was handed yet. -/
theorem Built.exists_readText_root (built : fresh.Built) (text : String) (isBase : Bool) :
    ∃ c : Container Node,
      (fresh.readText text isBase).result.root = c.setStored (Level.ofText fresh.name text) ∧
        (Node.container c).outline = fresh.outline ∧ c.Throughout (fun e => e.saved = none) (· = []) := by
  cases isBase with
  | true => exact ⟨fresh.root, rfl, rfl, built.blank⟩
  | false =>
    refine ⟨_, rfl, outline_assignLines built.wellFormed _, ?_⟩
    exact throughout_assignLines (fun e text unsaved => (e.saved_attempt (e.kind.decode text)).trans unsaved)
      built.wellFormed built.blank _

section Restoring

/-- What holds of the elements of a tree when it was saved. -/
structure Saved (e : Element) : Prop where
  sound : e.kind.Sound
  saved : e.saved = e.formToSave

theorem Saved.legible {e : Element} (own : Saved e) (portable : e.neverSaved = false → e.Portable)
    {text : String} (found : e.saved = some text) : Text.Legible text := by
  rw [own.saved, Element.formToSave] at found
  split at found
  · cases found
  · next condition =>
    cases found
    rw [Bool.or_eq_true, not_or, Bool.not_eq_true] at condition
    exact (portable condition.1).legible

theorem Edited.throughout_save (edited : t.Edited) : t.save.result.Throughout Saved Tidy :=
  Throughout.save edited.sound fun e sound => ⟨e.evolves_save.sound sound, e.saved_save⟩

variable (edited : t.Edited)

section Trimming

variable (rooted : IsRootName t.name)
  (single : ∀ path e, (Node.container t.save.result.root).at? path = some (.element e) →
    ∀ text, e.saved = some text → '\n' ∉ text.toList)

include edited rooted single in
/-- The text of a tree that was saved tells all values that it persists, trimmed. -/
theorem leaf_ofText_text_save (path : List String) (value : String) :
    (Stored.level (Level.ofText t.name t.save.result.text)).at? path = some (.leaf value) ↔
      ∃ own, (Stored.level t.save.result.snapshot).at? path = some (.leaf own) ∧
        value = Text.trim own := by
  have wf : t.save.result.WellFormed := edited.reachable.wellFormed.mapChildren Element.save
  have all : t.save.result.Throughout Saved Tidy := edited.throughout_save
  refine Level.leaf_ofText_text_trimmed_iff rooted wf.canonical_snapshot
    (Container.printable_snapshot wf ⟨single, fun path c live => ?_⟩) path value
  exact (all.stored path c live).2.printable

variable (built : fresh.Built) (name : fresh.name = t.name) (outline : fresh.outline = t.outline)

include edited outline in
theorem outline_save : fresh.outline = t.save.result.outline :=
  outline.trans (outline_after edited.reachable.wellFormed .save trivial nofun).symm

include edited rooted single built name outline in
/-- An element gets what the element at the same place has saved, trimmed. -/
theorem exists_element_trimmed (isBase : Bool) {path : List String} {e : Element}
    (live : (Node.container t.save.result.root).at? path = some (.element e)) :
    ∃ e', (Node.container (fresh.readText t.save.result.text isBase).result.root).at? path =
        some (.element e') ∧ e'.kind.setup = e.kind.setup ∧ e'.saved = e.saved.map Text.trim := by
  have wf : t.save.result.WellFormed := edited.reachable.wellFormed.mapChildren Element.save
  have leaves := leaf_ofText_text_save edited rooted single path
  rw [← name] at leaves
  obtain ⟨c, root, placed, blank⟩ := built.exists_readText_root t.save.result.text isBase
  obtain ⟨old, there, setup⟩ :=
    Node.exists_element_of_outline (placed.trans (outline_save edited outline)) live
  have proper : path ≠ [] := by
    rintro rfl
    rw [Node.at?_nil] at live
    cases live
  have entry : (Stored.level t.save.result.snapshot).at? path = e.saved.map .leaf := by
    rw [← Level.get?_eq_at? proper, ← Node.snapshot_element, ← Node.snapshot_of_at? wf live]
    exact Container.get?_snapshot_eq_persisted? _ proper
  have handed : (Node.container
      (c.setStored (Level.ofText fresh.name t.save.result.text))).at? path =
        some (.element (old.setSaved
          (((Stored.level (Level.ofText fresh.name t.save.result.text)).at? path).bind Stored.leaf?))) := by
    rw [← Node.setSaved_container_level, Node.at?_setSaved, there, Option.map_some,
      Node.handed_of_unsaved (blank.element path old there)]
  rw [root]
  refine ⟨_, handed, setup, Option.ext fun value => ?_⟩
  change Option.bind _ _ = some value ↔ _
  rw [Stored.bind_leaf?_eq_some_iff, leaves value, entry]
  simp [eq_comm]

end Trimming

variable (valid : isValidKey t.name = true)
  (portable : ∀ path e, (Node.container t.save.result.root).at? path = some (.element e) →
    e.neverSaved = false → e.Portable)

include edited valid portable in
/-- The text of a tree that was saved tells all that it persists. -/
theorem ofText_text_save : Level.ofText t.name t.save.result.text = t.save.result.snapshot := by
  have wf : t.save.result.WellFormed := edited.reachable.wellFormed.mapChildren Element.save
  have all : t.save.result.Throughout Saved Tidy := edited.throughout_save
  refine Level.ofText_text (isRootName_of_isValidKey valid) wf.canonical_snapshot ?_ ?_
  · exact Container.Compact.snapshot wf fun path c live => (all.stored path c live).1
  · refine Container.writable_snapshot wf ⟨fun path e live text found => ?_, fun path c live => ?_⟩
    · exact (all.element path e live).legible (portable path e live) found
    · exact (all.stored path c live).2

variable (built : fresh.Built) (name : fresh.name = t.name) (outline : fresh.outline = t.outline)

include edited valid portable built name outline in
theorem snapshot_readText :
    (fresh.readText t.save.result.text true).result.snapshot = t.save.result.snapshot := by
  have wf : t.save.result.WellFormed := edited.reachable.wellFormed.mapChildren Element.save
  have read := ofText_text_save edited valid portable
  rw [← name] at read
  change (fresh.root.setStored (Level.ofText fresh.name t.save.result.text)).snapshot = _
  rw [read]
  refine built.wellFormed.snapshot_setStored_of_fits wf.canonical_snapshot ?_ ?_ ?_
  · rw [← read]
    exact Level.compact_ofText fresh.name _
  · by_cases empty : t.save.result.snapshot = []
    · rw [empty]
      exact Stored.fits_empty _
    · have persisted := Node.snapshot_container_of_ne_nil empty
      exact Node.fits_of_outline wf (outline_save edited outline) persisted
  · exact Node.covers_of_snapshot_eq_none built.wellFormed
      (Node.snapshot_eq_none_of_blank built.wellFormed built.blank)

include edited valid portable built name outline in
/-- An element gets what the element at the same place has saved. -/
theorem exists_element_readText {path : List String} {e : Element}
    (live : (Node.container t.save.result.root).at? path = some (.element e)) :
    ∃ e', (Node.container (fresh.readText t.save.result.text true).result.root).at? path =
        some (.element e') ∧ e'.kind.setup = e.kind.setup ∧ e'.saved = e.saved := by
  have legible : ∀ path e, (Node.container t.save.result.root).at? path = some (.element e) →
      ∀ text, e.saved = some text → Text.Legible text := fun path e live text found =>
    (edited.throughout_save.element path e live).legible (portable path e live) found
  obtain ⟨e', there, setup, handed⟩ := exists_element_trimmed edited
    (isRootName_of_isValidKey valid) (fun path e live text found => (legible path e live text found).1)
    built name outline true live
  refine ⟨e', there, setup, handed.trans ?_⟩
  cases saved : e.saved with
  | none => rfl
  | some text => exact congrArg some (legible path e live text saved).2

end Restoring

/-- A tree that was made like an edited one takes over every saved value from its settings text, and
writes the same text. -/
theorem restored_of_text (edited : t.Edited) (valid : isValidKey t.name = true) (built : fresh.Built)
    (name : fresh.name = t.name) (outline : fresh.outline = t.outline)
    (portable : ∀ path e, (Node.container t.save.result.root).at? path = some (.element e) →
      e.neverSaved = false → e.Portable) :
    (fresh.readText t.save.result.text true).result.load.result.text = t.save.result.text ∧
    ∀ path e, (Node.container t.save.result.root).at? path = some (.element e) →
      e.neverSaved = false →
      ∃ e', (Node.container
          (fresh.readText t.save.result.text true).result.load.result.root).at? path =
        some (.element e') ∧ e'.valueString = e.valueString := by
  have read : (fresh.after (.readText t.save.result.text true)).WellFormed :=
    built.wellFormed.after trivial
  have wf : (fresh.readText t.save.result.text true).result.WellFormed := read
  constructor
  · have loaded := Node.snapshot_mapElements wf (f := Element.load) fun _ => rfl
    rw [Node.mapElements_container] at loaded
    have kept := snapshot_readText edited valid portable built name outline
    have same := (Node.snapshot_container_inj loaded).trans kept
    change Level.text fresh.name _ = Level.text t.name _
    rw [name]
    exact congrArg (Level.text t.name) same
  · intro path e live mayBeSaved
    have own : Saved e := edited.throughout_save.element path e live
    obtain ⟨e', there, setup, handed⟩ :=
      exists_element_readText edited valid portable built name outline live
    refine ⟨e'.load.result, ?_, ?_⟩
    · have loaded := Node.at?_mapElements Element.load path
        (Node.container (fresh.readText t.save.result.text true).result.root)
      rw [Node.mapElements_container, there] at loaded
      exact loaded
    · have divided := (portable path e live mayBeSaved).separable.divided
      exact Element.valueString_load own.sound divided own.saved
        mayBeSaved setup handed

/-- A section with one switch. -/
def desk : Node := .container ⟨.named, [("lamp", .element (.ofKind (.switch (.plain false))))], []⟩

def deskTree : Tree := (named "config").after (.attach "config" "desk" desk)

/-- The same tree after it took over a text with a line that nothing claims and the switch was used. -/
def usedDeskTree : Tree :=
  (deskTree.after (.readText "config.fan=on" true)).after
    (.element "config.desk.lamp" (.act .twelve .toggle))

theorem throughout_desk {P : Element → Prop} {Q : Level → Prop}
    (holds : P (.ofKind (.switch (.plain false)))) (empty : Q []) : desk.Throughout P Q := by
  refine Node.throughout_container_iff.mpr ⟨empty, fun key child live => ?_⟩
  obtain ⟨_, rfl⟩ := Prod.mk.inj (List.mem_singleton.mp (Keyed.mem_of_get? live))
  exact Node.throughout_element holds

theorem built_deskTree : deskTree.Built := by
  have wf : desk.WellFormed := by
    refine .container _ (by decide) Stored.canonical_empty fun p member => ?_
    rw [List.mem_singleton.mp member]
    exact .element _
  have new : desk.New := throughout_desk ⟨.switch _ (.plain false), rfl⟩ rfl
  exact .after _ _ (.named "config") ⟨⟨wf, hasRoom_root (t := named "config") (by decide)⟩, new⟩

theorem text_usedDeskTree :
    usedDeskTree.save.result.text = "config.desk.lamp=True\nconfig.fan=on\n" := by
  have snapshot : usedDeskTree.save.result.snapshot =
      [("desk", .level [("lamp", .leaf "True")]), ("fan", .leaf "on")] := by decide +kernel
  have sorted :
      sortByKey Prod.fst [("desk", Stored.level [("lamp", .leaf "True")]), ("fan", .leaf "on")] =
        [("desk", .level [("lamp", .leaf "True")]), ("fan", .leaf "on")] :=
    List.mergeSort_of_pairwise (by decide +kernel)
  rw [text, snapshot, Level.text, Stored.lines_level, sorted]
  decide +kernel

theorem restored_usedDeskTree :
    (deskTree.readText usedDeskTree.save.result.text true).result.load.result.text =
        "config.desk.lamp=True\nconfig.fan=on\n" ∧
      ∃ e, (Node.container
          (deskTree.readText usedDeskTree.save.result.text true).result.load.result.root).at?
        ["desk", "lamp"] = some (.element e) ∧ e.valueString = "True" := by
  have fresh : deskTree.Edited := built_deskTree.mono fun _ op fine => ⟨fine.1, fine.2.edits⟩
  have read := ReachedBy.after deskTree (.readText "config.fan=on" true) fresh ⟨trivial, trivial⟩
  have edited : usedDeskTree.Edited :=
    .after _ (.element "config.desk.lamp" (.act .twelve .toggle)) read ⟨trivial, trivial⟩
  have outline : deskTree.outline = usedDeskTree.outline := by
    have first := outline_after fresh.reachable.wellFormed (.readText "config.fan=on" true) trivial nofun
    have second := outline_after (Edited.reachable read).wellFormed
      (.element "config.desk.lamp" (.act .twelve .toggle)) trivial nofun
    exact (second.trans first).symm
  have switches : deskTree.Throughout (fun e => e.kind.setup = .switch false) fun _ => True :=
    Throughout.after_attach (lasting_setup _) (Container.wellFormed_empty .named)
      (Container.throughout_empty .named trivial) "config" "desk" (throughout_desk rfl trivial)
  have portable : ∀ path e,
      (Node.container usedDeskTree.save.result.root).at? path = some (.element e) →
      e.neverSaved = false → e.Portable := by
    intro path e live _
    obtain ⟨e', there, setup⟩ := Node.exists_element_of_outline (outline_save edited outline) live
    exact Element.portable_of_switch (setup.symm.trans (switches.element path e' there))
  obtain ⟨text, values⟩ := restored_of_text edited (by decide) built_deskTree rfl outline portable
  have lamp : (((Node.container usedDeskTree.save.result.root).at? ["desk", "lamp"]).bind
      Node.element?).map (fun e => (e.neverSaved, e.valueString)) = some (false, "True") := by
    decide +kernel
  obtain ⟨e, found, facts⟩ := Option.map_eq_some_iff.mp lamp
  obtain ⟨n, live, isElement⟩ := Option.bind_eq_some_iff.mp found
  rw [Node.eq_element_of_element? isElement] at live
  obtain ⟨mayBeSaved, value⟩ := Prod.mk.inj facts
  obtain ⟨e', there, same⟩ := values ["desk", "lamp"] e live mayBeSaved
  exact ⟨text.trans text_usedDeskTree, e', there, same.trans value⟩

end Tree

end Settings
