import Settings.Text.Split

/-!
# Command lines

What the words of a command line ask for. Options may stand before and behind the command; the one
behind it counts. An option stands once at each place, and a word that begins with a dash is an option
unless two dashes stand before it. Help is a command too; the words behind it name what to help with.
-/
namespace Settings.Tool

/-- What to do with the settings file. -/
inductive Command where
  | print
  | get (key : String)
  | set (key value : String)
  | unset (key : String)
  | json
  deriving DecidableEq, Repr

inductive OptionName where
  | file | root | config
  deriving DecidableEq, Repr

/-- The options that were given. -/
structure Options where
  file : Option String
  root : Option String
  config : Option String
  deriving DecidableEq, Repr

def Options.none : Options := ⟨.none, .none, .none⟩

/-- Takes an option. It must not have been given, and a path must not be empty. -/
def Options.give? (name : OptionName) (value : String) (o : Options) : Option Options :=
  match name with
  | .file => if o.file.isSome || value.isEmpty then .none else some { o with file := some value }
  | .config =>
    if o.config.isSome || value.isEmpty then .none else some { o with config := some value }
  | .root => if o.root.isSome then .none else some { o with root := some value }

/-- Options behind the command count before those in front of it. -/
def Options.over (behind front : Options) : Options :=
  ⟨behind.file.or front.file, behind.root.or front.root, behind.config.or front.config⟩

/-- What a command line asks for. -/
inductive Request where
  | run (options : Options) (command : Command)
  | version
  | help
  deriving DecidableEq, Repr

/-- The meaning of one word. -/
inductive Word where
  | plain (text : String)
  /-- An option with its value, if that is part of the word. -/
  | option (name : OptionName) (value : Option String)
  | version
  | help
  /-- Only plain words follow. -/
  | dashes
  | unknown
  deriving DecidableEq, Repr

/-- An option behind two dashes, possibly with an equals sign and a value. -/
def longWord (cs : List Char) : Word :=
  let name := String.ofList (cs.takeWhile (· ≠ '='))
  let value := (Text.splitOnce? '=' cs).map fun p => String.ofList p.2
  match name, value with
  | "file", value => .option .file value
  | "root", value => .option .root value
  | "config", value => .option .config value
  | "version", .none => .version
  | "help", .none => .help
  | _, _ => .unknown

/-- A letter behind one dash; what follows the letter of an option is its value. -/
def shortWord : List Char → Word
  | 'f' :: [] => .option .file .none
  | 'f' :: '=' :: value => .option .file (some (String.ofList value))
  | 'f' :: value => .option .file (some (String.ofList value))
  | 'V' :: _ => .version
  | 'h' :: _ => .help
  | _ => .unknown

def Word.ofText (text : String) : Word :=
  match text.toList with
  | ['-', '-'] => .dashes
  | '-' :: '-' :: cs => longWord cs
  | ['-'] => .plain text
  | '-' :: cs => shortWord cs
  | _ => .plain text

/-- The command of a name and its words, if there are as many as it takes. -/
def Command.ofWords? : String → List String → Option Command
  | "show", [] => some .print
  | "get", [key] => some (.get key)
  | "set", [key, value] => some (.set key value)
  | "unset", [key] => some (.unset key)
  | "json", [] => some .json
  | _, _ => none

/-- How many words a command takes; `none` if there is no such command. -/
def Command.arity? : String → Option Nat
  | "show" | "json" => some 0
  | "get" | "unset" => some 1
  | "set" => some 2
  | _ => none

/-- Reads the words behind a command: `taken` are the plain words so far, latest first, and `room`
is how many more there may be. -/
def readBehind? (name : String) (front : Options) :
    (options : Options) → (taken : List String) → (room : Nat) → List String → Option Request
  | options, taken, _, [] =>
    (Command.ofWords? name taken.reverse).map fun c => .run (options.over front) c
  | options, taken, room, word :: rest =>
    match Word.ofText word with
    | .plain text =>
      match room with
      | 0 => none
      | room + 1 => readBehind? name front options (text :: taken) room rest
    | .option option (some value) =>
      (options.give? option value).bind fun options => readBehind? name front options taken room rest
    | .option option .none =>
      match rest with
      | [] => none
      | value :: rest =>
        match Word.ofText value with
        | .plain value =>
          (options.give? option value).bind fun options =>
            readBehind? name front options taken room rest
        | _ => none
    | .dashes =>
      (Command.ofWords? name (taken.reverse ++ rest)).map fun c => .run (options.over front) c
    | .help => some .help
    | .version | .unknown => none

/-- Help can be had on the tool, on one command and on the help itself. -/
def helpOn? : List String → Option Request
  | [] => some .help
  | [topic] => if topic = "help" || (Command.arity? topic).isSome then some .help else none
  | _ => none

/-- Reads a whole command line; `none` if it asks for nothing that the tool does. -/
def readFront? : (options : Options) → List String → Option Request
  | _, [] => none
  | options, word :: rest =>
    match Word.ofText word with
    | .plain "help" => helpOn? rest
    | .plain name =>
      (Command.arity? name).bind fun room => readBehind? name options .none [] room rest
    | .option option (some value) =>
      (options.give? option value).bind fun options => readFront? options rest
    | .option option .none =>
      match rest with
      | [] => none
      | value :: rest =>
        match Word.ofText value with
        | .plain value =>
          (options.give? option value).bind fun options => readFront? options rest
        | _ => none
    | .version => some .version
    | .help => some .help
    | .dashes | .unknown => none

def readArguments? (words : List String) : Option Request := readFront? .none words

end Settings.Tool
