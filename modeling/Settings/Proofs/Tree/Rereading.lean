import Settings.Proofs.Container.Assigning
import Settings.Proofs.Element.Saving
import Settings.Proofs.Tree.Operation

/-!
# Reading a text again

A settings text that was edited elsewhere is read while the elements are in use: each line is assigned to
the element that it names as soon as it is read. What the lines do to the working values lasts until the
next load, which leads to the same as if the text had only been stored.

* `elementAt?_assignLines`: which texts an element is assigned.
* `reread_agrees`: what is the same after a load, and what the elements show before it.
-/
namespace Settings

namespace Node

variable {n : Node} {path : List String}

theorem elementAt?_mapElements (f : Element → Reported Element) (path : List String) (n : Node) :
    (n.mapElements f).result.elementAt? path = (n.elementAt? path).map fun e => (f e).result := by
  rw [elementAt?, elementAt?, at?_mapElements]
  cases n.at? path with
  | none => rfl
  | some m =>
    cases m with
    | element e => simp [element?]
    | container c => simp [element?, mapElements_container]

/-- An element keeps its working value when it is handed an entry. -/
theorem elementAt?_setSaved (s : Stored) (path : List String) (n : Node) :
    (n.setSaved s).elementAt? path = (n.elementAt? path).map fun e =>
      e.setSaved (((s.at? path).bind Stored.leaf?).or e.saved) := by
  rw [elementAt?, elementAt?, at?_setSaved]
  cases n.at? path with
  | none => rfl
  | some m =>
    cases m with
    | element e => rcases s.at? path with _ | text | entries <;> rfl
    | container c => rcases s.at? path with _ | text | entries <;> simp [element?]

end Node

namespace Tree

variable {t : Tree} {c : Container Node} {path : List String}

theorem revalued_assignLine (wf : c.WellFormed) (line : Line) :
    Node.Revalued (.container c) (.container (assignLine line c).result) :=
  related_assignLine Node.lifts_revalued wf line fun e =>
    .element (e.evolves_assignText line.value).setup (e.saved_attempt _)

/-- Lines change working values only. -/
theorem revalued_assignLines (wf : c.WellFormed) (lines : List Line) :
    Node.Revalued (.container c) (.container (assignLines lines c).result) := by
  induction lines generalizing c with
  | nil => exact .refl wf
  | cons line rest ih =>
    exact (revalued_assignLine wf line).trans (ih (wellFormed_assignLine wf line))

/-- A line is assigned to the element at the place of its path. -/
theorem elementAt?_assignLine (wf : c.WellFormed) (line : Line) (path : List String) :
    (Node.container (assignLine line c).result).elementAt? path =
      ((Node.container c).elementAt? path).map fun e =>
        if (Node.container c).place line.path = path then
          (e.perform (.assignText line.value)).1.result
        else e := by
  rw [assignLine]
  split
  · next c' notices updated =>
    rw [wf.elementAt?_updateElementAt? updated]
    refine congrArg (Option.map · _) (funext fun e => ?_)
    rw [Element.perform]
    cases e.assignText line.value <;> rfl
  · next refused =>
    have nothing := wf.elementAt?_place_of_updateElementAt?_eq_none refused
    cases there : (Node.container c).elementAt? path with
    | none => rfl
    | some e =>
      rw [Option.map_some, if_neg]
      rintro rfl
      rw [nothing] at there
      cases there

/-- An element is assigned the values of the lines whose paths mean it, in order. -/
theorem elementAt?_assignLines (wf : c.WellFormed) (lines : List Line) (path : List String) :
    (Node.container (assignLines lines c).result).elementAt? path =
      ((Node.container c).elementAt? path).map (Element.assigned
        ((lines.filter fun line => (Node.container c).place line.path = path).map Line.value)) := by
  induction lines generalizing c with
  | nil => exact Option.map_id'.symm
  | cons line rest ih =>
    have same := (revalued_assignLine wf line).place
    rw [assignLines, ih (wellFormed_assignLine wf line), elementAt?_assignLine wf, Option.map_map]
    simp only [same]
    refine congrArg (Option.map · _) (funext fun e => ?_)
    by_cases meant : (Node.container c).place line.path = path
    · rw [List.filter_cons_of_pos (by simpa using meant), List.map_cons, Element.assigned_cons,
        Function.comp_apply, if_pos meant]
    · rw [List.filter_cons_of_neg (by simpa using meant), Function.comp_apply, if_neg meant]

/-- What is shown and what is saved of the element at a path. -/
def shown? (path : List String) (t : Tree) : Option (String × Option String) :=
  ((Node.container t.root).elementAt? path).map fun e => (e.valueString, e.saved)

/-- An element after it was handed its part of a stored map and loaded. -/
def loadedFrom (entries : Level) (path : List String) (e : Element) : Element :=
  (e.setSaved ((((Stored.level entries).at? path).bind Stored.leaf?).or e.saved)).load.result

theorem shown?_load_setStored (name : String) (entries : Level) (path : List String)
    (c : Container Node) :
    (load ⟨name, c.setStored entries⟩).result.shown? path =
      ((Node.container c).elementAt? path).map fun e =>
        ((loadedFrom entries path e).valueString, (loadedFrom entries path e).saved) := by
  have root : Node.container (load ⟨name, c.setStored entries⟩).result.root =
      (((Node.container c).setSaved (.level entries)).mapElements Element.load).result := by
    rw [Node.setSaved_container_level, Node.mapElements_container]
    rfl
  rw [shown?, root, Node.elementAt?_mapElements, Node.elementAt?_setSaved, Option.map_map,
    Option.map_map]
  rfl

/-- Elements with the same footing come to the same. -/
theorem loadedFrom_of_footing {e e' : Element} (same : Node.footing e' = Node.footing e)
    (entries : Level) (path : List String) :
    (loadedFrom entries path e').valueString = (loadedFrom entries path e).valueString ∧
      (loadedFrom entries path e').saved = (loadedFrom entries path e).saved := by
  obtain ⟨setup, saved⟩ := Prod.mk.inj same
  have loaded : ∀ text, (e.setSaved text).load.result.kind.SameValue (e'.setSaved text).load.result.kind :=
    fun _ => Element.sameValue_load setup rfl
  have left : loadedFrom entries path e' =
      (e'.setSaved ((((Stored.level entries).at? path).bind Stored.leaf?).or e.saved)).load.result := by
    rw [loadedFrom, saved]
  rw [left]
  exact ⟨(loaded _).encode, rfl⟩

theorem text_load_setStored {name : String} {entries : Level} (wf : c.WellFormed)
    (canonical : (Stored.level entries).Canonical) :
    (load ⟨name, c.setStored entries⟩).result.text = (c.setStored entries).snapshot.text name := by
  have loaded := Node.snapshot_mapElements (wf.setStored canonical) (f := Element.load) fun _ => rfl
  rw [Node.mapElements_container] at loaded
  exact congrArg (Level.text name) (Node.snapshot_container_inj loaded)

/-- Containers that differ in working values only come to the same with a stored map. -/
theorem loaded_of_revalued {c' : Container Node} (wf : c.WellFormed)
    (revalued : Node.Revalued (.container c) (.container c')) {entries : Level}
    (canonical : (Stored.level entries).Canonical) (name : String) :
    (load ⟨name, c'.setStored entries⟩).result.text = (load ⟨name, c.setStored entries⟩).result.text ∧
      ∀ path, (load ⟨name, c'.setStored entries⟩).result.shown? path =
        (load ⟨name, c.setStored entries⟩).result.shown? path := by
  constructor
  · have wf' : c'.WellFormed := revalued.wellFormed
    have handed := revalued.snapshot (some (.level entries)) fun s same => by
      cases same
      exact canonical
    rw [Node.handed_some, Node.handed_some, Node.setSaved_container_level,
      Node.setSaved_container_level] at handed
    rw [text_load_setStored wf canonical, text_load_setStored wf' canonical,
      Node.snapshot_container_inj handed]
  · intro path
    have footing := revalued.footing path
    rw [shown?_load_setStored, shown?_load_setStored]
    cases there : (Node.container c).elementAt? path with
    | none =>
      rw [there, Option.map_none, Option.map_eq_none_iff] at footing
      rw [footing, Option.map_none]
    | some e =>
      rw [there, Option.map_some] at footing
      obtain ⟨e', there', same⟩ := Option.map_eq_some_iff.mp footing
      obtain ⟨value, saved⟩ := loadedFrom_of_footing same entries path
      rw [there', Option.map_some, Option.map_some, value, saved]

/-- Reading a text in use and reading it as the base come to the same with the next load: the same text
is written, and the elements show the same and have the same saved. Until then a live element has
the value of the last line that names it exactly and that it can read, if no line names it otherwise. -/
theorem reread_agrees (reachable : t.Reachable) (text : String) :
    ((t.readText text false).result.load.result.text = (t.readText text true).result.load.result.text ∧
      ∀ path, (t.readText text false).result.load.result.shown? path =
        (t.readText text true).result.load.result.shown? path) ∧
    ∀ path e before line after k, (Node.container t.root).elementAt? path = some e →
      Line.ofText t.name text = before ++ line :: after → line.path = path →
      e.kind.decode line.value = .ok k →
      (∀ later ∈ after, later.path = path → ¬ e.Readable later.value) →
      (∀ other ∈ Line.ofText t.name text, (Node.container t.root).place other.path = path →
        other.path = path) →
      ∃ e', (Node.container (t.readText text false).result.root).elementAt? path = some e' ∧
        e'.valueString = k.encode ∧ e'.toValue = k.toValue := by
  have wf : t.root.WellFormed := reachable.wellFormed
  refine ⟨loaded_of_revalued wf (revalued_assignLines wf _) (Level.canonical_ofText t.name text) t.name, ?_⟩
  intro path e before line after k live lines named read last only
  have assigned := elementAt?_assignLines wf (Line.ofText t.name text) path
  rw [live, Option.map_some] at assigned
  have handed := Node.elementAt?_setSaved (.level (Level.ofText t.name text)) path
    (.container (assignLines (Line.ofText t.name text) t.root).result)
  rw [Node.setSaved_container_level, assigned, Option.map_some] at handed
  refine ⟨_, handed, ?_⟩
  have here : (Node.container t.root).place line.path = path := by
    rw [named]
    exact Node.WellFormed.place_of_at? wf (Node.elementAt?_eq_some_iff.mp live)
  rw [lines, List.filter_append, List.filter_cons_of_pos (by simpa using here), List.map_append,
    List.map_cons]
  refine Element.value_assigned read fun text later => ?_
  obtain ⟨other, member, rfl⟩ := List.mem_map.mp later
  obtain ⟨follows, meant⟩ := List.mem_filter.mp member
  have inside : other ∈ Line.ofText t.name text := by
    rw [lines]
    exact List.mem_append_right _ (List.mem_cons_of_mem _ follows)
  exact last other follows (only other inside (of_decide_eq_true meant))

/-- A dial from 0 to 100. -/
def dial : Slider := ⟨50, 50, 5, ⟨0, 100⟩⟩

def dialTree : Tree := (named "config").after (.attach "config" "dial" (.element (.ofKind (.slider dial))))

theorem reachable_dialTree : dialTree.Reachable := by
  have room := hasRoom_root (t := named "config") (by decide)
  exact .after _ _ (.named "config") ⟨.element _, room⟩

/-- The second line cannot be read, but it is the one that is stored. -/
def dialText : String := "config.dial=20\nconfig.dial=loud\n"

theorem reread_dialTree :
    (∃ e, (Node.container (dialTree.readText dialText false).result.root).elementAt? ["dial"] = some e ∧
      e.valueString = "20") ∧
    (dialTree.readText dialText false).result.load.result.shown? ["dial"] = some ("50", some "loud") := by
  have live : (Node.container dialTree.root).elementAt? ["dial"] = some (.ofKind (.slider dial)) := by
    decide +kernel
  have lines : Line.ofText dialTree.name dialText =
      [] ++ ⟨["dial"], "20"⟩ :: [⟨["dial"], "loud"⟩] := by decide +kernel
  have loud : ¬ (Element.ofKind (.slider dial)).Readable "loud" := by
    rintro ⟨k, read⟩
    cases read
  obtain ⟨⟨_, loaded⟩, shows⟩ := reread_agrees reachable_dialTree dialText
  constructor
  · obtain ⟨e, there, shown, _⟩ := shows ["dial"] (.ofKind (.slider dial)) [] ⟨["dial"], "20"⟩
      [⟨["dial"], "loud"⟩] (.slider (dial.setValue 20)) live lines rfl (by decide +kernel)
      (by
        rintro later member - readable
        cases List.mem_singleton.mp member
        exact loud readable)
      (by
        intro other member _
        rw [lines] at member
        cases member with
        | head => rfl
        | tail _ member => cases List.mem_singleton.mp member; rfl)
    exact ⟨e, there, shown.trans (by decide +kernel)⟩
  · rw [loaded]
    decide +kernel

end Tree

end Settings
