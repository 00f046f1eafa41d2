import Settings.Stored.Basic
import Settings.Text.Blank
import Settings.Text.Split

/-!
# Reading settings text

A settings text has one `key=value` per line. Lines that say nothing are passed over: empty lines,
comments, lines without an equals sign, and keys that do not name something below the root.
-/
namespace Settings

/-- The segments of a dotted key. -/
def keySegments (key : List Char) : List String :=
  (Text.splitAt '.' key).map String.ofList

/-- The path below `root` that a dotted key names: at least one segment, none of them empty. -/
def keyPath? (root : String) (key : List Char) : Option (List String) :=
  match keySegments key with
  | first :: path =>
    if first = root ∧ path ≠ [] ∧ path.all (· ≠ "") then some path else none
  | [] => none

/-- A line that assigns `value` to the path below the root. -/
structure Line where
  path : List String
  value : String
  deriving DecidableEq, Repr

namespace Line

/-- The full dotted key. -/
def key (root : String) (line : Line) : String :=
  line.path.foldl childKey root

/-- Reads one line without its line end; `none` if the line says nothing below `root`. -/
def ofChars? (root : String) (cs : List Char) : Option Line :=
  let cs := Text.dropEndWhile (· = '\r') cs
  if cs.isEmpty || cs.head? = some '#' then none
  else do
    let (name, value) ← Text.splitOnce? '=' cs
    let path ← keyPath? root (Text.trimChars name)
    return ⟨path, String.ofList (Text.trimChars value)⟩

/-- The usable lines of a text, in order. -/
def ofText (root text : String) : List Line :=
  (Text.splitAt '\n' text.toList).filterMap (ofChars? root)

end Line

/-- The stored map of a settings text: of two lines that cannot both hold, the later one does. -/
def Level.ofText (root text : String) : Level :=
  (Line.ofText root text).foldl (fun entries line => entries.insertAt line.path (.leaf line.value)) []

end Settings
