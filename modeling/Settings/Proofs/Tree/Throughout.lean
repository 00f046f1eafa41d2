import Settings.Proofs.Container.Throughout
import Settings.Proofs.Tree.Operation

/-!
# What lasts throughout a tree

A condition on the elements and one on the stored maps last through the operations on a tree if the
elements keep theirs when they are handed something, load or are assigned, and if the other one passes
to inner levels and holds of whatever is read from a settings text.
-/
namespace Settings

/-- Conditions that no attaching, loading and reading breaks. -/
structure Lasting (P : Element → Prop) (Q : Level → Prop) : Prop where
  saves : ∀ e saved, P e → P (e.setSaved saved)
  loads : ∀ e : Element, P e → P e.load.result
  assigns : ∀ (e : Element) text, P e → P (e.perform (.assignText text)).1.result
  hereditary : Node.Hereditary Q
  reads : ∀ root text, Q (Level.ofText root text)

namespace Tree

variable {t : Tree} {P P' : Element → Prop} {Q : Level → Prop}

/-- What holds throughout a tree. -/
abbrev Throughout (P : Element → Prop) (Q : Level → Prop) (t : Tree) : Prop := t.root.Throughout P Q

theorem Throughout.after_attach (lasting : Lasting P Q) (wf : t.WellFormed) (all : t.Throughout P Q)
    (key name : String) {n : Node} (inner : n.Throughout P Q) :
    (t.after (.attach key name n)).Throughout P Q := by
  rcases Tree.after_attach key name n t with same | ⟨c, r, there, attached, shape⟩
  · rw [same]
    exact all
  · rw [shape]
    refine related_setContainer Node.lifts_throughout wf there (fun own => ?_) all
    exact Container.Throughout.attach own inner lasting.saves lasting.loads lasting.hereditary attached

theorem Throughout.after_element (wf : t.WellFormed) (all : t.Throughout P Q) (key : String)
    {op : Element.Operation} (step : ∀ e : Element, P e → P (e.perform op).1.result) :
    (t.after (.element key op)).Throughout P Q :=
  related_after_element Node.lifts_throughout wf key op
    (fun e own => Node.throughout_element (step e (own.element [] e (Node.at?_nil _)))) all

theorem Throughout.load (all : t.Throughout P Q) (step : ∀ e, P e → P' e.load.result) :
    t.load.result.Throughout P' Q :=
  Container.Throughout.mapChildren all step

theorem Throughout.save (all : t.Throughout P Q) (step : ∀ e, P e → P' e.save.result) :
    t.save.result.Throughout P' Q :=
  Container.Throughout.mapChildren all step

theorem Throughout.cancel (all : t.Throughout P Q) (step : ∀ e, P e → P' e.cancel.result) :
    t.cancel.result.Throughout P' Q :=
  Container.Throughout.mapChildren all step

theorem throughout_assignLines
    (assigns : ∀ (e : Element) text, P e → P (e.perform (.assignText text)).1.result)
    {c : Container Node} (wf : c.WellFormed) (all : c.Throughout P Q) (lines : List Line) :
    (assignLines lines c).result.Throughout P Q := by
  induction lines generalizing c with
  | nil => exact all
  | cons line rest ih =>
    rw [assignLines]
    refine ih (wellFormed_assignLine wf line) ?_
    refine related_assignLine Node.lifts_throughout wf line (fun e own => ?_) all
    exact Node.throughout_element (assigns e _ (own.element [] e (Node.at?_nil _)))

theorem Throughout.readText (lasting : Lasting P Q) (wf : t.WellFormed) (all : t.Throughout P Q)
    (text : String) (isBase : Bool) : (t.readText text isBase).result.Throughout P Q := by
  have fine := lasting.reads t.name text
  rw [Tree.readText]
  cases isBase with
  | true => exact Container.Throughout.setStored all lasting.saves lasting.hereditary fine
  | false =>
    exact Container.Throughout.setStored (throughout_assignLines lasting.assigns wf all _)
      lasting.saves lasting.hereditary fine

end Tree

end Settings
