/-!
# Tool configuration

A file in the notation of TOML that may name a settings file and a root: `settings` and `root`, each
once and as a string. A file that says anything else is invalid.
-/
namespace Settings.Tool

structure Config where
  settings : Option String
  root : Option String
  deriving DecidableEq, Repr

namespace Config

def empty : Config := ⟨none, none⟩

/-- Takes an assignment. There are two keys, and each is assigned once. -/
def assign? (key value : String) (c : Config) : Option Config :=
  match key with
  | "settings" => if c.settings.isSome then none else some { c with settings := some value }
  | "root" => if c.root.isSome then none else some { c with root := some value }
  | _ => none

/-- Spaces and tabs. -/
def isSpace (c : Char) : Bool := c = ' ' || c = '\t'

/-- Characters that may stand as they are: tabs, and whatever is no control character. -/
def isPlain (c : Char) : Bool := c = '\t' || (0x20 ≤ c.toNat && c.toNat ≠ 0x7F)

/-- The value of a hexadecimal digit. -/
def hexDigit? (c : Char) : Option Nat :=
  if c.isDigit then some (c.toNat - '0'.toNat)
  else if 'a' ≤ c && c ≤ 'f' then some (c.toNat - 'a'.toNat + 10)
  else if 'A' ≤ c && c ≤ 'F' then some (c.toNat - 'A'.toNat + 10)
  else none

/-- The character with a code point, which must not be half of a pair. -/
def scalar? (digits : List Char) : Option Char := do
  let n ← digits.foldlM (fun n c => (hexDigit? c).map (n * 16 + ·)) 0
  if n < 0xD800 ∨ (0xDFFF < n ∧ n < 0x110000) then some (Char.ofNat n) else none

/-- What one letter behind a backslash stands for, unless a code point follows it. -/
def escape? : Char → Option Char
  | 'b' => some '\x08'
  | 't' => some '\t'
  | 'n' => some '\n'
  | 'f' => some '\x0C'
  | 'r' => some '\r'
  | '"' => some '"'
  | '\\' => some '\\'
  | _ => none

/-- The rest of a string between double quotes; `taken` holds what came so far, latest first. -/
def readBasic? (taken : List Char) : List Char → Option (List Char × List Char)
  | [] => none
  | '"' :: rest => some (taken.reverse, rest)
  | '\\' :: 'u' :: a :: b :: c :: d :: rest =>
    (scalar? [a, b, c, d]).bind fun x => readBasic? (x :: taken) rest
  | '\\' :: 'U' :: a :: b :: c :: d :: e :: f :: g :: h :: rest =>
    (scalar? [a, b, c, d, e, f, g, h]).bind fun x => readBasic? (x :: taken) rest
  | '\\' :: c :: rest => (escape? c).bind fun x => readBasic? (x :: taken) rest
  | c :: rest => if isPlain c && c ≠ '\\' then readBasic? (c :: taken) rest else none

/-- The rest of a string between single quotes, in which nothing is escaped. -/
def readLiteral? (taken : List Char) : List Char → Option (List Char × List Char)
  | [] => none
  | '\'' :: rest => some (taken.reverse, rest)
  | c :: rest => if isPlain c then readLiteral? (c :: taken) rest else none

/-- Nothing but spaces stands before the end of the line. -/
def endsLine (cs : List Char) : Bool :=
  match cs.dropWhile isSpace with
  | '\n' :: _ => true
  | '\r' :: '\n' :: _ => true
  | _ => false

/-- What a string holds and what follows it, behind three closing quotes. Of more quotes up to two
belong to the string. -/
def closeLines (quote : Char) (taken : List Char) : List Char → List Char × List Char
  | x :: y :: rest =>
    if x = quote then
      if y = quote then ((quote :: quote :: taken).reverse, rest)
      else ((quote :: taken).reverse, y :: rest)
    else (taken.reverse, x :: y :: rest)
  | [x] => if x = quote then ((quote :: taken).reverse, []) else (taken.reverse, [x])
  | [] => (taken.reverse, [])

/-- The rest of a string between three double quotes. A backslash at the end of a line joins it with
the text of the next ones; while `joining`, spaces and line ends are passed over. -/
def readLines? (joining : Bool) (taken : List Char) :
    List Char → Option (List Char × List Char)
  | [] => none
  | '"' :: '"' :: '"' :: rest => some (closeLines '"' taken rest)
  | '\\' :: rest =>
    if endsLine rest then readLines? true taken rest
    else
      match rest with
      | 'u' :: a :: b :: c :: d :: rest =>
        (scalar? [a, b, c, d]).bind fun x => readLines? false (x :: taken) rest
      | 'U' :: a :: b :: c :: d :: e :: f :: g :: h :: rest =>
        (scalar? [a, b, c, d, e, f, g, h]).bind fun x => readLines? false (x :: taken) rest
      | c :: rest => (escape? c).bind fun x => readLines? false (x :: taken) rest
      | [] => none
  | '\r' :: '\n' :: rest =>
    if joining then readLines? true taken rest else readLines? false ('\n' :: taken) rest
  | c :: rest =>
    if joining && (isSpace c || c = '\n') then readLines? true taken rest
    else if c = '\n' || isPlain c then readLines? false (c :: taken) rest
    else none

/-- The rest of a string between three single quotes. -/
def readLiteralLines? (taken : List Char) : List Char → Option (List Char × List Char)
  | [] => none
  | '\'' :: '\'' :: '\'' :: rest => some (closeLines '\'' taken rest)
  | '\r' :: '\n' :: rest => readLiteralLines? ('\n' :: taken) rest
  | c :: rest => if c = '\n' || isPlain c then readLiteralLines? (c :: taken) rest else none

/-- A line end right behind the opening quotes does not count. -/
def dropLineEnd : List Char → List Char
  | '\n' :: rest => rest
  | '\r' :: '\n' :: rest => rest
  | cs => cs

/-- A string of any of the four forms. -/
def readString? : List Char → Option (List Char × List Char)
  | '"' :: '"' :: '"' :: rest => readLines? false [] (dropLineEnd rest)
  | '"' :: rest => readBasic? [] rest
  | '\'' :: '\'' :: '\'' :: rest => readLiteralLines? [] (dropLineEnd rest)
  | '\'' :: rest => readLiteral? [] rest
  | _ => none

def isKeyChar (c : Char) : Bool :=
  ('a' ≤ c && c ≤ 'z') || ('A' ≤ c && c ≤ 'Z') || c.isDigit || c = '_' || c = '-'

/-- A key, bare or between quotes of one kind. -/
def readKey? : List Char → Option (List Char × List Char)
  | '"' :: rest => readBasic? [] rest
  | '\'' :: rest => readLiteral? [] rest
  | cs =>
    let key := cs.takeWhile isKeyChar
    if key.isEmpty then none else some (key, cs.dropWhile isKeyChar)

/-- What follows the end of a line, possibly behind a comment. -/
def readLineEnd? (cs : List Char) : Option (List Char) :=
  let cs := match cs.dropWhile isSpace with
    | '#' :: comment => comment.dropWhile isPlain
    | cs => cs
  match cs with
  | [] => some []
  | '\n' :: rest => some rest
  | '\r' :: '\n' :: rest => some rest
  | _ => none

/-- An assignment and what follows it. -/
def readAssignment? (cs : List Char) : Option ((String × String) × List Char) := do
  let (key, rest) ← readKey? cs
  match rest.dropWhile isSpace with
  | '=' :: rest =>
    let (value, rest) ← readString? (rest.dropWhile isSpace)
    return ((String.ofList key, String.ofList value), rest)
  | _ => none

/-- Reads line after line. A line takes at least one character, unless it is the last one, so the
length of the text bounds their number. -/
def readDocument? : (lines : Nat) → Config → List Char → Option Config
  | 0, _, _ => none
  | _ + 1, config, [] => some config
  | lines + 1, config, cs =>
    match readLineEnd? cs with
    | some rest => readDocument? lines config rest
    | none => do
      let ((key, value), rest) ← readAssignment? (cs.dropWhile isSpace)
      let config ← config.assign? key value
      let rest ← readLineEnd? rest
      readDocument? lines config rest

/-- Reads a configuration. A byte order mark in front is passed over. -/
def ofText? (text : String) : Option Config :=
  let cs := match text.toList with
    | '\uFEFF' :: rest => rest
    | cs => cs
  readDocument? (cs.length + 1) empty cs

end Config

end Settings.Tool
