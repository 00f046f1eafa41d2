import Settings.Error
import Settings.Text.Split

/-!
# Storage

Files and folders around a working folder, by name. A name is a list of segments between slashes;
empty segments and single dots mean nothing, two dots go up, and a slash in front starts at the root.
-/
namespace Settings

inductive StorageItem where
  | file (bytes : ByteArray)
  | folder

/-- Items by their places below the root. The root and the working folder are not listed. -/
structure Storage where
  items : List (List String × StorageItem)

namespace Storage

def empty : Storage := ⟨[]⟩

/-- The place of the working folder. No segment of a name holds a slash, so no name leads into the
folder from outside. -/
def home : List String := ["/"]

/-- The item at a place; the empty place is the root. -/
def item? (place : List String) (s : Storage) : Option StorageItem :=
  if place = [] ∨ place = home then some .folder
  else (s.items.find? fun p => p.1 == place).map Prod.snd

/-- The segments of a name, as they stand. -/
def segments (name : String) : List String :=
  (Text.splitAt '/' name.toList).map String.ofList

/-- The most bytes that a segment may have. -/
def segmentLimit : Nat := 255

/-- The most bytes that a name may have. -/
def nameLimit : Nat := 4095

/-- Where the segments of a name start. -/
def start (name : String) : List String :=
  if name.toList.head? = some '/' then [] else home

/-- Walks from the folder `place` along segments. Every place that is walked through has to be a
folder. -/
def walk (s : Storage) : (place : List String) → List String → Except FileFault (List String)
  | place, [] => .ok place
  | place, segment :: rest =>
    match s.item? place with
    | none => .error .missing
    | some (.file _) => .error .notDirectory
    | some .folder =>
      if segment = "" ∨ segment = "." then walk s place rest
      else if segment = ".." then walk s place.dropLast rest
      else if segmentLimit < segment.utf8ByteSize then .error .nameTooLong
      else walk s (place ++ [segment]) rest

/-- What is wrong with a name, wherever it leads. An empty name means nothing. -/
def nameFault? (name : String) : Option FileFault :=
  if name.toList.contains '\x00' then some .zeroInName
  else if name = "" then some .missing
  else if nameLimit < name.utf8ByteSize then some .nameTooLong
  else none

/-- The place that a name means. -/
def place (name : String) (s : Storage) : Except FileFault (List String) :=
  match nameFault? name with
  | some fault => .error fault
  | none => s.walk (start name) (segments name)

def readBytes (name : String) (s : Storage) : Except FileFault ByteArray := do
  let place ← s.place name
  match s.item? place with
  | none => .error .missing
  | some .folder => .error .directory
  | some (.file bytes) => .ok bytes

/-- The text of a file. -/
def readText (name : String) (s : Storage) : Except FileFault String := do
  match String.fromUTF8? (← s.readBytes name) with
  | some text => .ok text
  | none => .error .notText

def put (place : List String) (item : StorageItem) (s : Storage) : Storage :=
  ⟨(place, item) :: s.items.filter fun p => p.1 != place⟩

/-- The segments of a name without the slashes at its end. -/
def coreSegments (name : String) : List String :=
  ((segments name).reverse.dropWhile (· = "")).reverse

/-- The place of an item to be made: its folder has to be there, and its own segment names it. -/
def newPlace (name : String) (s : Storage) : Except FileFault (List String) := do
  match nameFault? name with
  | some fault => .error fault
  | none =>
    let core := coreSegments name
    let folder ← s.walk (start name) core.dropLast
    let last := core.getLastD "."
    match s.item? folder with
    | none => .error .missing
    | some (.file _) => .error .notDirectory
    | some .folder =>
      if last = "." ∨ last = ".." then .error .busy
      else if segmentLimit < last.utf8ByteSize then .error .nameTooLong
      else .ok (folder ++ [last])

/-- Writes a whole file over any file of its name. A slash at the end of a name asks for a folder. -/
def write (name : String) (bytes : ByteArray) (s : Storage) : Except FileFault Storage := do
  let place ← s.newPlace name
  match s.item? place with
  | some .folder => .error .directory
  | _ =>
    if (segments name).getLast? = some "" then .error .notDirectory
    else .ok (s.put place (.file bytes))

/-- Makes a folder. What is there already stays as it is. -/
def makeFolder (name : String) (s : Storage) : Except FileFault Storage := do
  let place ← s.newPlace name
  match s.item? place with
  | some _ => .ok s
  | none => .ok (s.put place .folder)

end Storage

end Settings
