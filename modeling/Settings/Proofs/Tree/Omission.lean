import Settings.Proofs.Container.Writing
import Settings.Proofs.Element.Omission
import Settings.Proofs.Tree.Operation

/-!
# Defaults in the snapshot of a tree

What a tree persists at the place of an element that was saved, and with it whether an element on its
default shows up in the settings text.

* `get?_snapshot_save`: a saved tree persists at each element what that element has saved.
* `omitted_iff_tidyDefault`: elements on their default, one by one and in a tree.
-/
namespace Settings

namespace Tree

variable {t : Tree}

/-- A saved tree persists at the place of an element what the element has saved. -/
theorem get?_snapshot_save (wf : t.WellFormed) {path : List String} {e : Element}
    (live : (Node.container t.root).elementAt? path = some e) :
    t.save.result.snapshot.get? path = e.save.result.saved.map .leaf := by
  have there := Node.elementAt?_eq_some_iff.mp live
  have wf' : t.save.result.WellFormed := wf.mapChildren Element.save
  have proper : path ≠ [] := by
    rintro rfl
    cases live
  have saved : (Node.container t.save.result.root).at? path = some (.element e.save.result) :=
    Node.at?_mapChildren there
  rw [← Node.snapshot_element, ← Node.snapshot_of_at? wf' saved]
  exact Container.get?_snapshot_eq_persisted? _ proper

/-- Saving an element on its default, if defaults are not to be persisted: nothing is persisted for it
exactly if it is never persisted or its default is tidy. If its default is not tidy, the value without
the names that have no options is persisted. The same holds of what a tree persists at its place, and
whatever was done to the element, its default is tidy if the one that it was made with is. -/
theorem omitted_iff_tidyDefault {e : Element} (isDefault : e.isDefault = true)
    (unforced : e.savesDefault = false) :
    (e.save.result.saved =
      if e.neverSaved = true ∨ e.kind.TidyDefault then none else some e.save.result.valueString) ∧
    (∀ (t : Tree) (path : List String), t.Reachable →
      (Node.container t.root).elementAt? path = some e →
      t.save.result.snapshot.get? path =
        if e.neverSaved = true ∨ e.kind.TidyDefault then none
        else some (.leaf e.save.result.valueString)) ∧
    ∀ (kind : Kind) (ops : List Element.Operation), (Element.run ops (.ofKind kind)).result = e →
      (e.kind.TidyDefault ↔ kind.TidyDefault) := by
  have saved := Element.saved_save_of_isDefault isDefault unforced
  refine ⟨saved, fun t path reachable live => ?_, ?_⟩
  · rw [get?_snapshot_save reachable.wellFormed live, saved]
    split <;> rfl
  · rintro kind ops rfl
    exact Element.tidyDefault_run kind ops

/-- A table whose default has a name without options. -/
def bareTable : Kind := .optionTable (.make [("audio", [])])

/-- A table whose default has an option for its name. -/
def fullTable : Kind := .optionTable (.make [("audio", [("volume", "3")])])

def bareTree : Tree := (named "config").after (.attach "config" "bare" (.element (.ofKind bareTable)))

/-- A tree with both tables. -/
def tablesTree : Tree := bareTree.after (.attach "config" "full" (.element (.ofKind fullTable)))

theorem reachable_tablesTree : tablesTree.Reachable := by
  have room := hasRoom_root (t := named "config") (by decide)
  have roomLeft := hasRoom_root (t := bareTree) (by decide +kernel)
  rw [bareTree, after_name, ← bareTree] at roomLeft
  exact .after _ _ (.after _ _ (.named "config") ⟨.element _, room⟩) ⟨.element _, roomLeft⟩

theorem omitted_tablesTree :
    (Element.ofKind fullTable).isDefault = true ∧
      (Element.ofKind fullTable).save.result.saved = none ∧
      tablesTree.save.result.snapshot.get? ["full"] = none ∧
      tablesTree.save.result.snapshot.get? ["bare"] = some (.leaf "v1\x7b\x7d") := by
  have isDefault : (Element.ofKind fullTable).isDefault = true := by decide
  obtain ⟨alone, inTree, _⟩ := omitted_iff_tidyDefault isDefault rfl
  obtain ⟨_, bareInTree, _⟩ := omitted_iff_tidyDefault (e := .ofKind bareTable) (by decide) rfl
  have bare := bareInTree tablesTree ["bare"] reachable_tablesTree (by decide +kernel)
  refine ⟨isDefault, alone.trans (if_pos (.inr (by decide))), ?_, bare.trans (by decide +kernel)⟩
  exact (inTree tablesTree ["full"] reachable_tablesTree (by decide +kernel)).trans
    (if_pos (.inr (by decide)))

/-- A default with a name without options is persisted, as another value. -/
theorem bare_default_persisted :
    ¬ ∀ (kind : Kind) (ops : List Element.Operation) (e : Element), kind.Made →
      (Element.run ops (.ofKind kind)).result = e → e.isDefault = true → e.savesDefault = false →
      e.save.result.saved = none := by
  intro omits
  have made : bareTable.Made := .optionTable _ ⟨by decide, by decide⟩
  have nothing := omits bareTable [] _ made rfl (by decide) rfl
  have persisted : (Element.ofKind bareTable).save.result.saved = some "v1\x7b\x7d" := by
    decide +kernel
  cases nothing.symm.trans persisted

end Tree

end Settings
