import Settings.Element.Basic
import Settings.Proofs.Editor.OptionTable
import Settings.Proofs.InPlace

/-!
# Assignments step by step

How each kind takes a text or a value of the host if it works in place: a value of several parts is
gathered item by item, and any item may be a misfit. The programs fail before they change anything, so
they do what `decode` and `assign` say.

* `Kind.allOrNothing_decode`, `Kind.allOrNothing_assign`: the kinds.
* `Element.allOrNothing_assignText`, `Element.allOrNothing_assignValue`: an element and the notices.
-/
namespace Settings

open InPlace

section Kinds

namespace Switch

def decodeInPlace (text : String) : InPlace Switch Unit := modify (decode text)

def assignInPlace (v : Value) : InPlace Switch Unit :=
  match v with
  | .bool b => modify fun s => { s with value := b }
  | .text t => decodeInPlace t
  | .int n => modify fun s => { s with value := n == 1 }
  | .real _ => modify fun s => { s with value := false }
  | v => throw (.mismatch .boolean v)

theorem allOrNothing_decode (text : String) :
    AllOrNothing (decodeInPlace text) fun s => .ok (s.decode text) :=
  allOrNothing_modify fun _ => rfl

theorem allOrNothing_assign (v : Value) : AllOrNothing (assignInPlace v) (assign v) := by
  cases v <;> exact fun _ => rfl

end Switch

namespace Selection

def decodeInPlace (text : String) : InPlace Selection Unit := modify (decode text)

def assignInPlace (v : Value) : InPlace Selection Unit := modify (setValue v)

theorem allOrNothing_decode (text : String) :
    AllOrNothing (decodeInPlace text) fun s => .ok (s.decode text) :=
  allOrNothing_modify fun _ => rfl

theorem allOrNothing_assign (v : Value) : AllOrNothing (assignInPlace v) fun s => .ok (s.setValue v) :=
  allOrNothing_modify fun _ => rfl

end Selection

namespace Sequence

def decodeInPlace (text : String) : InPlace Sequence Unit := modify (decode text)

def assignInPlace (v : Value) : InPlace Sequence Unit :=
  match v with
  | .list items => do
    let fields ← gather (fun item => orFail (.mismatch .integerField item) item.int64?) items
    modify (setFields fields)
  | .text t => decodeInPlace t
  | .int _ | .real _ => do
    let s ← get
    if s.scalar then
      let n ← orFail (.mismatch .integer v) v.int64?
      modify (setFields [n])
    else throw (.mismatch .integerFields v)
  | v => throw (.mismatch .integerFields v)

theorem allOrNothing_decode (text : String) :
    AllOrNothing (decodeInPlace text) fun s => .ok (s.decode text) :=
  allOrNothing_modify fun _ => rfl

theorem readsAll_numberItems :
    ReadsAll (fun item => item.int64?.elim (.error (.mismatch .integerField item)) .ok)
      fun items => (numberItems items).mapError (.mismatch .integerField) := by
  refine ⟨rfl, fun item rest => ?_⟩
  rw [numberItems]
  cases item.int64? with
  | none => rfl
  | some n => cases numberItems rest <;> rfl

theorem assign_list (items : List Value) (s : Sequence) : s.assign (.list items) =
    ((numberItems items).mapError (.mismatch .integerField)).map s.setFields := by
  rw [assign]
  cases numberItems items <;> rfl

theorem allOrNothing_assign (v : Value) : AllOrNothing (assignInPlace v) (assign v) := by
  cases v with
  | list items =>
    refine readsAll_numberItems.allOrNothing (fun item => computes_orFail _ _) (fun fields read => ?_)
      fun err read s => ?_
    · exact allOrNothing_modify fun s => by rw [assign_list, read]; rfl
    · rw [assign_list, read]; rfl
  | int n =>
    refine allOrNothing_get fun s => ?_
    rw [assign]
    split
    · cases (Value.int n).int64? <;> rfl
    · rfl
  | real x =>
    refine allOrNothing_get fun s => ?_
    rw [assign]
    split <;> rfl
  | _ => exact fun _ => rfl

end Sequence

namespace MultiChoice

def decodeInPlace (text : String) : InPlace MultiChoice Unit := do
  let t ← ofExcept (Blob.decode text)
  let items ← orFail (.undecodable text .stringList) t.strings?
  modify (setItems items)

def assignInPlace (v : Value) : InPlace MultiChoice Unit :=
  match v with
  | .list items => do
    let texts ← gather (fun item => orFail (.mismatch .string item) item.text?) items
    modify (setItems texts)
  | .text s => decodeInPlace s
  | v => throw (.mismatch .stringArray v)

theorem readsAll_textItems :
    ReadsAll (fun item => item.text?.elim (.error (.mismatch .string item)) .ok)
      fun items => (textItems items).mapError (.mismatch .string) := by
  refine ⟨rfl, fun item rest => ?_⟩
  rw [textItems]
  cases item.text? with
  | none => rfl
  | some s => cases textItems rest <;> rfl

theorem assign_list (items : List Value) (m : MultiChoice) : m.assign (.list items) =
    ((textItems items).mapError (.mismatch .string)).map m.setItems := by
  rw [assign]
  cases textItems items <;> rfl

theorem allOrNothing_decode (text : String) : AllOrNothing (decodeInPlace text) (decode text) := by
  refine allOrNothing_ofExcept (fun t read => ?_) fun err read m => ?_
  · refine allOrNothing_orFail (fun items found => ?_) fun none m => ?_
    · exact allOrNothing_modify fun m => by simp only [decode, read, found]
    · simp only [decode, read, none]
  · rw [decode, read]

theorem allOrNothing_assign (v : Value) : AllOrNothing (assignInPlace v) (assign v) := by
  cases v with
  | list items =>
    refine readsAll_textItems.allOrNothing (fun item => computes_orFail _ _) (fun texts read => ?_)
      fun err read m => ?_
    · exact allOrNothing_modify fun m => by rw [assign_list, read]; rfl
    · rw [assign_list, read]; rfl
  | text s => exact allOrNothing_decode s
  | _ => exact fun _ => rfl

end MultiChoice

namespace Slider

def decodeInPlace (text : String) : InPlace Slider Unit := do
  let n ← orFail (.undecodable text .integer) (Numeral.read? (Text.trimChars text.toList))
  modify (setValue n)

def assignInPlace (v : Value) : InPlace Slider Unit := do
  let n ← orFail (.mismatch .integer v) v.int64?
  modify (setValue n)

theorem allOrNothing_decode (text : String) : AllOrNothing (decodeInPlace text) (decode text) := by
  refine allOrNothing_orFail (fun n read => ?_) fun none s => ?_
  · exact allOrNothing_modify fun s => by rw [decode, read]
  · rw [decode, none]

theorem allOrNothing_assign (v : Value) : AllOrNothing (assignInPlace v) (assign v) := by
  refine allOrNothing_orFail (fun n read => ?_) fun none s => ?_
  · exact allOrNothing_modify fun s => by rw [assign, read]
  · rw [assign, none]

end Slider

namespace Timestamp

def decodeInPlace (text : String) : InPlace Timestamp Unit := do
  let n ← orFail (.undecodable text .timestamp) (Numeral.read? (Text.trimChars text.toList))
  modify (setValue n)

def assignInPlace (v : Value) : InPlace Timestamp Unit := do
  let n ← orFail (.mismatch .timestamp v) v.int64?
  modify (setValue n)

theorem allOrNothing_decode (text : String) : AllOrNothing (decodeInPlace text) (decode text) := by
  refine allOrNothing_orFail (fun n read => ?_) fun none t => ?_
  · exact allOrNothing_modify fun t => by rw [decode, read]
  · rw [decode, none]

theorem allOrNothing_assign (v : Value) : AllOrNothing (assignInPlace v) (assign v) := by
  refine allOrNothing_orFail (fun n read => ?_) fun none t => ?_
  · exact allOrNothing_modify fun t => by rw [assign, read]
  · rw [assign, none]

end Timestamp

namespace TextField

def decodeInPlace (text : String) : InPlace TextField Unit := do
  let t ← get
  if t.isNumber then
    let n ← orFail (.undecodable text .integer) (Numeral.read? (Text.trimChars text.toList))
    modify (setText (Numeral.text n))
  else modify (setText text)

def assignInPlace (v : Value) : InPlace TextField Unit :=
  match v with
  | .text s => decodeInPlace s
  | .int _ | .real _ => do
    let t ← get
    if t.isNumber then
      let n ← orFail (.mismatch .integer v) v.int64?
      modify (setText (Numeral.text n))
    else throw (.mismatch .text v)
  | v => do
    let t ← get
    throw (.mismatch t.expectation v)

theorem allOrNothing_decode (text : String) : AllOrNothing (decodeInPlace text) (decode text) := by
  refine allOrNothing_get fun t => ?_
  rw [decode]
  split
  · cases Numeral.read? (Text.trimChars text.toList) <;> rfl
  · rfl

theorem allOrNothing_assign (v : Value) : AllOrNothing (assignInPlace v) (assign v) := by
  cases v with
  | text s => exact allOrNothing_decode s
  | int n =>
    refine allOrNothing_get fun t => ?_
    rw [assign]
    split
    · cases (Value.int n).int64? <;> rfl
    · rfl
  | real x =>
    refine allOrNothing_get fun t => ?_
    rw [assign]
    split <;> rfl
  | _ => exact fun _ => rfl

end TextField

namespace OptionTable

def decodeInPlace (text : String) : InPlace OptionTable Unit := do
  let term ← ofExcept (Blob.decode text)
  let options ← orFail (.undecodable text .stringMaps) (ofTerm? term)
  modify fun t => { t with value := options }

/-- The options of one name. -/
def gatherOptions {σ : Type} : List (String × Value) → InPlace σ (List (String × String)) :=
  gather fun p => do
    let s ← orFail (.mismatch .string p.2) p.2.text?
    return (p.1, s)

def gatherNames {σ : Type} : List (String × Value) → InPlace σ Options :=
  gather fun p =>
    match p.2 with
    | .object inner => do
      let options ← gatherOptions inner
      return (p.1, options)
    | v => throw (.mismatch .object v)

def assignInPlace (v : Value) : InPlace OptionTable Unit :=
  match v with
  | .object entries => do
    let options ← gatherNames entries
    modify fun t => { t with value := options }
  | v => throw (.mismatch .object v)

theorem allOrNothing_decode (text : String) : AllOrNothing (decodeInPlace text) (decode text) := by
  refine allOrNothing_ofExcept (fun term read => ?_) fun err read t => ?_
  · refine allOrNothing_orFail (fun options found => ?_) fun none t => ?_
    · exact allOrNothing_modify fun t => by simp only [decode, read, found]
    · simp only [decode, read, none]
  · rw [decode, read]

theorem computes_gatherOptions {σ : Type} (entries : List (String × Value)) :
    Computes (gatherOptions entries : InPlace σ (List (String × String))) (updateOptions entries) := by
  have reads : ReadsAll (fun p : String × Value => p.2.text?.elim (.error (.mismatch .string p.2)) .ok >>=
      fun s => .ok (p.1, s)) updateOptions := by
    refine ⟨rfl, fun p rest => ?_⟩
    rw [updateOptions]
    cases p.2.text? <;> rfl
  exact reads.computes_gather
    (fun p => (computes_orFail _ p.2.text?).bind fun s => computes_pure (p.1, s)) entries

theorem computes_gatherNames {σ : Type} (entries : List (String × Value)) :
    Computes (gatherNames entries : InPlace σ Options) (updateNames entries) := by
  have reads : ReadsAll (fun p : String × Value =>
      match p.2 with
      | .object inner => updateOptions inner >>= fun options => .ok (p.1, options)
      | v => .error (.mismatch .object v)) updateNames := by
    refine ⟨rfl, fun (name, v) rest => ?_⟩
    cases v with
    | object inner =>
      rw [updateNames]
      dsimp only
      cases updateOptions inner <;> rfl
    | _ => rfl
  refine reads.computes_gather (fun (name, v) => ?_) entries
  cases v with
  | object inner => exact (computes_gatherOptions inner).bind fun options => computes_pure (name, options)
  | _ => exact computes_throw _

theorem allOrNothing_assign (v : Value) : AllOrNothing (assignInPlace v) (assign v) := by
  cases v with
  | object entries =>
    refine (computes_gatherNames entries).andThen (fun options read => ?_) fun err read t => ?_
    · exact allOrNothing_modify fun t => by rw [assign, read]; rfl
    · rw [assign, read]; rfl
  | _ => exact fun _ => rfl

end OptionTable

end Kinds

namespace Kind

def decodeInPlace (text : String) : InPlace Kind Unit := fun k =>
  match k with
  | .switch s => onPart .switch (Switch.decodeInPlace text) s
  | .selection s => onPart .selection (Selection.decodeInPlace text) s
  | .sequence s => onPart .sequence (Sequence.decodeInPlace text) s
  | .multiChoice m => onPart .multiChoice (MultiChoice.decodeInPlace text) m
  | .slider s => onPart .slider (Slider.decodeInPlace text) s
  | .textField t => onPart .textField (TextField.decodeInPlace text) t
  | .timestamp t => onPart .timestamp (Timestamp.decodeInPlace text) t
  | .optionTable t => onPart .optionTable (OptionTable.decodeInPlace text) t

def assignInPlace (v : Value) : InPlace Kind Unit := fun k =>
  match k with
  | .switch s => onPart .switch (Switch.assignInPlace v) s
  | .selection s => onPart .selection (Selection.assignInPlace v) s
  | .sequence s => onPart .sequence (Sequence.assignInPlace v) s
  | .multiChoice m => onPart .multiChoice (MultiChoice.assignInPlace v) m
  | .slider s => onPart .slider (Slider.assignInPlace v) s
  | .textField t => onPart .textField (TextField.assignInPlace v) t
  | .timestamp t => onPart .timestamp (Timestamp.assignInPlace v) t
  | .optionTable t => onPart .optionTable (OptionTable.assignInPlace v) t

theorem allOrNothing_decode (text : String) : AllOrNothing (decodeInPlace text) (decode text) := by
  intro k
  cases k with
  | switch s => exact (Switch.allOrNothing_decode text).onPart Kind.switch s
  | selection s => exact (Selection.allOrNothing_decode text).onPart Kind.selection s
  | sequence s => exact (Sequence.allOrNothing_decode text).onPart Kind.sequence s
  | multiChoice m => exact (MultiChoice.allOrNothing_decode text).onPart Kind.multiChoice m
  | slider s => exact (Slider.allOrNothing_decode text).onPart Kind.slider s
  | textField t => exact (TextField.allOrNothing_decode text).onPart Kind.textField t
  | timestamp t => exact (Timestamp.allOrNothing_decode text).onPart Kind.timestamp t
  | optionTable t => exact (OptionTable.allOrNothing_decode text).onPart Kind.optionTable t

theorem allOrNothing_assign (v : Value) : AllOrNothing (assignInPlace v) (assign v) := by
  intro k
  cases k with
  | switch s => exact (Switch.allOrNothing_assign v).onPart Kind.switch s
  | selection s => exact (Selection.allOrNothing_assign v).onPart Kind.selection s
  | sequence s => exact (Sequence.allOrNothing_assign v).onPart Kind.sequence s
  | multiChoice m => exact (MultiChoice.allOrNothing_assign v).onPart Kind.multiChoice m
  | slider s => exact (Slider.allOrNothing_assign v).onPart Kind.slider s
  | textField t => exact (TextField.allOrNothing_assign v).onPart Kind.textField t
  | timestamp t => exact (Timestamp.allOrNothing_assign v).onPart Kind.timestamp t
  | optionTable t => exact (OptionTable.allOrNothing_assign v).onPart Kind.optionTable t

end Kind

/-- The result with what observers were told before in front of its own notices. -/
def Reported.following {α : Type} (before : List Notice) (r : Reported α) : Reported α :=
  ⟨r.result, before ++ r.notices⟩

/-- A failed operation leaves what it works on alone and tells nobody. -/
theorem InPlace.AllOrNothing.eq_error_iff_following {α : Type} {p : InPlace (Reported α) Unit}
    {f : α → Except Error (Reported α)}
    (whole : AllOrNothing p fun r => (f r.result).map (Reported.following r.notices)) {x : α}
    {told : List Notice} {err : Error} {r : Reported α} :
    p ⟨x, told⟩ = .error err r ↔ f x = .error err ∧ r = ⟨x, told⟩ := by
  refine whole.eq_error_iff.trans (and_congr_left fun _ => ?_)
  cases f x <;> simp [Except.map]

namespace Element

/-- Works on the kind of an element. -/
def onKind (p : InPlace Kind Unit) : InPlace (Reported Element) Unit := fun r =>
  onPart (fun kind => ⟨{ r.result with kind := kind }, r.notices⟩) p r.result.kind

/-- Tells the observers of every change. -/
def report : InPlace (Reported Element) Unit :=
  modify fun r => ⟨r.result, r.notices ++ r.result.changeNotices⟩

def assignTextInPlace (text : String) : InPlace (Reported Element) Unit := do
  onKind (Kind.decodeInPlace text)
  report

def assignValueInPlace (v : Value) : InPlace (Reported Element) Unit := do
  onKind (Kind.assignInPlace v)
  report

theorem allOrNothing_report {p : InPlace Kind Unit} {f : Kind → Except Error Kind}
    (whole : AllOrNothing p f) :
    AllOrNothing (do onKind p; report) fun r =>
      (f r.result.kind).map fun kind =>
        (changed { r.result with kind := kind }).following r.notices := by
  intro r
  have part : onKind p r = _ := whole.onPart _ r.result.kind
  dsimp only
  cases done : f r.result.kind with
  | error err =>
    rw [done] at part
    exact bind_of_error part
  | ok kind =>
    rw [done] at part
    exact bind_of_ok part

theorem allOrNothing_assignText (text : String) :
    AllOrNothing (assignTextInPlace text) fun r =>
      (r.result.assignText text).map (Reported.following r.notices) := by
  intro r
  refine (allOrNothing_report (Kind.allOrNothing_decode text) r).trans ?_
  dsimp only
  rw [assignText]
  cases r.result.kind.decode text <;> rfl

theorem allOrNothing_assignValue (v : Value) :
    AllOrNothing (assignValueInPlace v) fun r =>
      (r.result.assignValue v).map (Reported.following r.notices) := by
  intro r
  refine (allOrNothing_report (Kind.allOrNothing_assign v) r).trans ?_
  dsimp only
  rw [assignValue]
  cases r.result.kind.assign v <;> rfl

end Element

end Settings
