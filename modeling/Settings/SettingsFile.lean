import Settings.Storage
import Settings.Tree

/-!
# Settings files

Loading a tree from a settings file and writing it back. Where files live is up to the host: a disk
says how one is read and how one is replaced as a whole.
-/
namespace Settings

structure Disk (m : Type → Type) where
  read : String → m (Except FileFault String)
  /-- Replaces a file; the answer is what prevented it. A file that could not be replaced is as
  before. -/
  write : String → String → m (Option FileFault)

/-- A disk whose files are those of a storage. -/
def Storage.disk : Disk (StateM Storage) where
  read name := return (← get).readText name
  write name text := do
    match (← get).write name text.toUTF8 with
    | .ok storage => set storage; return none
    | .error fault => return some fault

namespace SettingsFile

variable {m : Type → Type} [Monad m]

/-- Where settings live unless said otherwise. -/
def defaultPath : String := "/etc/enigma2/settings"

/-- Takes over the stored entries of a file and loads every element. A file that cannot be read
leaves the stored entries as they are; the elements are loaded all the same. -/
def load (disk : Disk m) (path : String) (t : Tree) : m (Reported Tree × Option Error) := do
  match ← disk.read path with
  | .ok text =>
    let read := t.readText text true
    let loaded := read.result.load
    return (⟨loaded.result, read.notices ++ loaded.notices⟩, none)
  | .error fault => return (t.load, some (.unreadable path fault))

/-- Takes over a file that was edited by others: elements that it names are assigned at once. -/
def reload (disk : Disk m) (path : String) (t : Tree) : m (Reported Tree × Option Error) := do
  match ← disk.read path with
  | .ok text => return (t.readText text false, none)
  | .error fault => return (⟨t, []⟩, some (.unreadable path fault))

/-- Writes what is persisted. -/
def save (disk : Disk m) (path : String) (t : Tree) : m (Option Error) := do
  return (← disk.write path t.text).map (Error.unwritable path)

end SettingsFile

end Settings
