import Settings.Blob.Decode
import Settings.Blob.Encode
import Settings.Display
import Settings.Error

/-!
# Option tables

Texts by name and option key: for each name a map of its options. A name whose last option was
removed keeps its empty map until the table is saved.
-/
namespace Settings

/-- Options by name. -/
abbrev Options := List (String × List (String × String))

structure OptionTable where
  value : Options
  default : Options
  deriving DecidableEq, Repr

namespace OptionTable

def make (default : Options) : OptionTable := ⟨default, default⟩

/-- The names in order. -/
def names (t : OptionTable) : List String := Keyed.keys t.value

def get? (name key : String) (t : OptionTable) : Option String :=
  (Keyed.get? name t.value).bind (Keyed.get? key)

def set (name key value : String) (t : OptionTable) : OptionTable :=
  let options := (Keyed.get? name t.value).getD []
  { t with value := Keyed.insert name (Keyed.insert key value options) t.value }

/-- Removes an option; the answer says whether it was there. -/
def remove (name key : String) (t : OptionTable) : OptionTable × Bool :=
  match Keyed.get? name t.value with
  | none => (t, false)
  | some options =>
    ({ t with value := Keyed.insert name (Keyed.erase key options) t.value },
      Keyed.contains key options)

def toTerm (options : Options) : Term :=
  .map (Keyed.mapValues (fun inner => .map (Keyed.mapValues .text inner)) options)

/-- The entries of a map whose values are all read by `value?`. -/
def readEntries? {α β : Type} (value? : α → Option β) :
    List (String × α) → Option (List (String × β))
  | [] => some []
  | (key, v) :: rest => do
    let x ← value? v
    let xs ← readEntries? value? rest
    return (key, x) :: xs

/-- The options that a map of maps of texts holds. -/
def ofTerm? : Term → Option Options
  | .map entries =>
    readEntries? (fun inner => match inner with
      | .map options => readEntries? Term.text? options
      | _ => none) entries
  | _ => none

def encode (t : OptionTable) : String := Blob.encode (toTerm t.value)

def encodeDefault (t : OptionTable) : String := Blob.encode (toTerm t.default)

def isDefault (t : OptionTable) : Bool := t.value == t.default

def decode (text : String) (t : OptionTable) : Except Error OptionTable :=
  match Blob.decode text with
  | .error e => .error e
  | .ok term =>
    match ofTerm? term with
    | none => .error (.undecodable text .stringMaps)
    | some options => .ok { t with value := options }

def reset (t : OptionTable) : OptionTable := { t with value := t.default }

def display (t : OptionTable) : Display := .plain (", ".intercalate t.names)

def toValue (t : OptionTable) : Value :=
  .object (Keyed.mapValues (fun inner => .object (Keyed.mapValues .text inner)) t.value)

/-- The options of one name; the first misfit with what it should have been otherwise. -/
def updateOptions : List (String × Value) → Except Error (List (String × String))
  | [] => .ok []
  | (key, v) :: rest =>
    match v.text? with
    | none => .error (.mismatch .string v)
    | some s => (updateOptions rest).map ((key, s) :: ·)

def updateNames : List (String × Value) → Except Error Options
  | [] => .ok []
  | (name, .object inner) :: rest =>
    match updateOptions inner with
    | .error e => .error e
    | .ok options => (updateNames rest).map ((name, options) :: ·)
  | (_, v) :: _ => .error (.mismatch .object v)

def assign (v : Value) (t : OptionTable) : Except Error OptionTable :=
  match v with
  | .object entries => (updateNames entries).map fun options => { t with value := options }
  | v => .error (.mismatch .object v)

/-- Drops the names without options. -/
def prune (t : OptionTable) : OptionTable :=
  { t with value := t.value.filter fun p => !p.2.isEmpty }

end OptionTable

end Settings
