import Settings.SettingsFile
import Settings.Tool.Arguments
import Settings.Tool.Config

/-!
# Running the tool

The command line tool reads and edits a settings file. It attaches no elements, so every key is an
unclaimed one and is kept the way the tree keeps those.
-/
namespace Settings

mutual
/-- A stored entry as a value: texts and objects. -/
def Stored.toValue : Stored → Value
  | .leaf text => .text text
  | .level entries => .object (Stored.entryValues entries)

def Stored.entryValues : List (String × Stored) → List (String × Value)
  | [] => []
  | (key, entry) :: rest => (key, entry.toValue) :: Stored.entryValues rest
end

namespace Tool

/-- Why a command failed. -/
inductive Failure where
  | invalidConfig (path : String)
  | unreadableConfig (path : String)
  | cannotOpen (cause : Error)
  | notSet (key : String)
  | settings (cause : Error)
  deriving DecidableEq, Repr

def Failure.message : Failure → String
  | .invalidConfig path => "invalid tool config " ++ path
  | .unreadableConfig path => "failed to read " ++ path
  | .cannotOpen _ => "cannot open settings"
  | .notSet key => key ++ " is not set"
  | .settings cause => cause.message

/-- The first line of the message; a key in it may hold more. -/
def Failure.headline (failure : Failure) : String :=
  String.ofList (Text.firstLine failure.message.toList)

/-- What a run shows: text, or a failure, or that the command line was not understood. -/
inductive Outcome where
  | printed (text : String)
  | failed (failure : Failure)
  | misused
  deriving DecidableEq, Repr

def Outcome.exitCode : Outcome → Nat
  | .printed _ => 0
  | .failed _ => 1
  | .misused => 2

def Outcome.output : Outcome → String
  | .printed text => text
  | .failed _ | .misused => ""

/-- Where the configuration is unless said otherwise. -/
def defaultConfigPath : String := ".settool.toml"

def versionText : String := "settool 0.1.0\n"

def helpText : String :=
  "Inspect and edit dotted key=value settings files\n\n" ++
  "Usage: settool [OPTIONS] <COMMAND>\n\n" ++
  "Commands:\n" ++
  "  show   Print the file normalised: sorted, comments and bad lines dropped\n" ++
  "  get    Print one value\n" ++
  "  set    Set one value and save\n" ++
  "  unset  Remove a value, or a whole level, and save\n" ++
  "  json   Print the stored tree as JSON\n" ++
  "  help   Print this message or the help of the given subcommand(s)\n\n" ++
  "Options:\n" ++
  "  -f, --file <FILE>      Settings file (default from the tool config, then " ++
  SettingsFile.defaultPath ++ ")\n" ++
  "      --root <ROOT>      Root key name\n" ++
  "      --config <CONFIG>  Tool config file [default: " ++ defaultConfigPath ++ "]\n" ++
  "  -h, --help             Print help\n" ++
  "  -V, --version          Print version\n"

/-- The key with the root in front, unless it stands there. -/
def fullKey (root key : String) : String :=
  match (if root.toList.isPrefixOf key.toList then key.toList.drop root.length else []) with
  | '.' :: _ => key
  | _ => childKey root key

variable {m : Type → Type} [Monad m]

/-- The configuration in a file. One that is not there says nothing, and one whose name leads nowhere
is not there. -/
def loadConfig (disk : Disk m) (path : String) : m (Except Failure Config) := do
  match ← disk.read path with
  | .error .missing | .error .notDirectory | .error .nameTooLong | .error .zeroInName =>
    return .ok .empty
  | .error _ => return .error (.unreadableConfig path)
  | .ok text =>
    match Config.ofText? text with
    | some config => return .ok config
    | none => return .error (.invalidConfig path)

/-- The tree that a file holds. If `create`, a file that is not there holds an empty one. -/
def openTree (disk : Disk m) (path root : String) (create : Bool) : m (Except Failure Tree) := do
  let (loaded, error) ← SettingsFile.load disk path (.named root)
  match error with
  | none => return .ok loaded.result
  | some (.unreadable path fault) =>
    if create && fault == .missing then return .ok loaded.result
    else return .error (.cannotOpen (.unreadable path fault))
  | some e => return .error (.cannotOpen e)

/-- Writes a tree back. -/
def saveTree (disk : Disk m) (path : String) (t : Tree) : m Outcome := do
  match ← SettingsFile.save disk path t with
  | none => return .printed ""
  | some e => return .failed (.settings e)

/-- What a command shows of a tree without changing it. -/
def printedBy (root : String) (t : Tree) : Command → Outcome
  | .print => .printed t.text
  | .json => .printed ((Value.object (Stored.entryValues t.snapshot)).pretty ++ "\n")
  | .get key =>
    match t.storedValue? (fullKey root key) with
    | some value => .printed (value ++ "\n")
    | none => .failed (.notSet (fullKey root key))
  | .set _ _ | .unset _ => .printed ""

def perform (disk : Disk m) (path root : String) (command : Command) : m Outcome := do
  let create := match command with
    | .set _ _ => true
    | _ => false
  match ← openTree disk path root create with
  | .error failure => return .failed failure
  | .ok t =>
    match command with
    | .set key value =>
      match t.setStored (fullKey root key) value with
      | .ok t => saveTree disk path t
      | .error e => return .failed (.settings e)
    | .unset key =>
      match t.removeStored (fullKey root key) with
      | .ok (t, true) => saveTree disk path t
      | .ok (_, false) => return .printed ""
      | .error e => return .failed (.settings e)
    | command => return printedBy root t command

/-- Runs a command line. Its options count before the configuration. -/
def run (disk : Disk m) (words : List String) : m Outcome := do
  match readArguments? words with
  | none => return .misused
  | some .version => return .printed versionText
  | some .help => return .printed helpText
  | some (.run options command) =>
    match ← loadConfig disk (options.config.getD defaultConfigPath) with
    | .error failure => return .failed failure
    | .ok config =>
      let path := (options.file.or config.settings).getD SettingsFile.defaultPath
      let root := (options.root.or config.root).getD Tree.defaultName
      perform disk path root command

end Tool

end Settings
