import Settings.Proofs.Container.Update
import Settings.Proofs.Element.InPlace
import Settings.Proofs.Element.Misreading
import Settings.Tree

/-!
# Refused assignments

An assignment by key works on the element where it sits in the tree, and what it does there is done
also if it fails later. But an assignment fails before it changes anything, so a refused one leaves the
tree as it was and nobody is told.

* `Tree.allOrNothing_atElement`: from an element to the tree around it.
* `Tree.assignInPlace_eq_error_iff`: when assignments fail, and what they leave behind.
-/
namespace Settings

open InPlace

namespace Tree

/-- Works on the element at a key. What was done to it is kept, also when the work has failed. -/
def atElement (key : String) (p : InPlace (Reported Element) Unit) : InPlace (Reported Tree) Unit :=
  fun r =>
    let worked := (r.result.path? key).bind (r.result.root.updateElementAt? fun e =>
      match p ⟨e, r.notices⟩ with
      | .ok _ after => (after.result, after.notices, Except.ok ())
      | .error err after => (after.result, after.notices, Except.error err))
    match worked with
    | none => .error (.unknownPath key) r
    | some (root, notices, .ok _) => .ok () ⟨{ r.result with root := root }, notices⟩
    | some (root, notices, .error err) => .error err ⟨{ r.result with root := root }, notices⟩

def assignTextInPlace (key text : String) : InPlace (Reported Tree) Unit :=
  atElement key (Element.assignTextInPlace text)

def assignValueInPlace (key : String) (v : Value) : InPlace (Reported Tree) Unit :=
  atElement key ((Element.assignValueInPlace v).explain (Error.atPath key))

/-- Work that changes all of an element or nothing does so to the tree around it. -/
theorem allOrNothing_atElement {p : InPlace (Reported Element) Unit}
    {f : Element → Except Error (Reported Element)}
    (whole : AllOrNothing p fun r => (f r.result).map (Reported.following r.notices)) (key : String) :
    AllOrNothing (atElement key p) fun r =>
      (r.result.assignAt key f).map (Reported.following r.notices) := by
  rintro ⟨t, log⟩
  dsimp only
  rw [atElement, assignAt, element?, node?]
  dsimp only
  cases t.path? key with
  | none => rfl
  | some path =>
    rw [Option.bind_some, Option.bind_some]
    cases target : (t.root.get? path).bind Node.element? with
    | none =>
      rw [Container.updateElementAt?, target]
      rfl
    | some e =>
      obtain ⟨put, same, puts⟩ :=
        Container.updateElementAt?_of_get? (Node.bind_element?_eq_some_iff.mp target)
      have here := whole ⟨e, log⟩
      dsimp only at here ⊢
      rw [puts, here]
      cases f e with
      | error err =>
        change EStateM.Result.error err (⟨{ t with root := put e }, log⟩ : Reported Tree) = _
        rw [same]
        rfl
      | ok r =>
        dsimp only [Except.map]
        rw [puts]
        rfl

theorem allOrNothing_assignText (key text : String) :
    AllOrNothing (assignTextInPlace key text) fun r =>
      (r.result.assignText key text).map (Reported.following r.notices) :=
  allOrNothing_atElement (Element.allOrNothing_assignText text) key

theorem allOrNothing_assignValue (key : String) (v : Value) :
    AllOrNothing (assignValueInPlace key v) fun r =>
      (r.result.assignValue key v).map (Reported.following r.notices) := by
  refine allOrNothing_atElement (fun r => ?_) key
  refine ((Element.allOrNothing_assignValue v).explain (Error.atPath key) r).trans ?_
  dsimp only
  cases r.result.assignValue v <;> rfl

/-- A text is refused by an element exactly if its kind misreads it. Wherever an assignment fails on its
way, of a text or of any value of the host, to an element or by key, the whole element or the whole
tree is as it was before, and nobody was told anything. -/
theorem assignInPlace_eq_error_iff :
    (∀ (e : Element) (text : String),
      (∃ err, e.assignText text = .error err) ↔ e.kind.Misreads text) ∧
    (∀ (e : Element) (told : List Notice) (text : String) (err : Error) (r : Reported Element),
      Element.assignTextInPlace text ⟨e, told⟩ = .error err r ↔
        e.assignText text = .error err ∧ r = ⟨e, told⟩) ∧
    (∀ (e : Element) (told : List Notice) (v : Value) (err : Error) (r : Reported Element),
      Element.assignValueInPlace v ⟨e, told⟩ = .error err r ↔
        e.assignValue v = .error err ∧ r = ⟨e, told⟩) ∧
    (∀ (t : Tree) (told : List Notice) (key text : String) (err : Error) (r : Reported Tree),
      assignTextInPlace key text ⟨t, told⟩ = .error err r ↔
        t.assignText key text = .error err ∧ r = ⟨t, told⟩) ∧
    ∀ (t : Tree) (told : List Notice) (key : String) (v : Value) (err : Error) (r : Reported Tree),
      assignValueInPlace key v ⟨t, told⟩ = .error err r ↔
        t.assignValue key v = .error err ∧ r = ⟨t, told⟩ := by
  refine ⟨fun e text => ?_, fun e told text err r => ?_, fun e told v err r => ?_,
    fun t told key text err r => ?_, fun t told key v err r => ?_⟩
  · rw [← Kind.exists_error_decode_iff, Element.assignText]
    cases e.kind.decode text <;> simp [Except.map]
  · exact (Element.allOrNothing_assignText text).eq_error_iff_following
  · exact (Element.allOrNothing_assignValue v).eq_error_iff_following
  · exact (allOrNothing_assignText key text).eq_error_iff_following
  · exact (allOrNothing_assignValue key v).eq_error_iff_following

end Tree

end Settings
