import Settings.Decimal.Layout
import Settings.Value.Basic

/-!
# Writing values

JSON text of a value: compact, without any blank, or pretty, one item per line.
-/
namespace Settings.Value

/-- Four hexadecimal digits. -/
def unitEscape (c : Char) : List Char :=
  let ds := Nat.toDigits 16 c.toNat
  '\\' :: 'u' :: (List.replicate (4 - ds.length) '0' ++ ds)

def escapedChar (c : Char) : List Char :=
  match c with
  | '"' => ['\\', '"']
  | '\\' => ['\\', '\\']
  | '\x08' => ['\\', 'b']
  | '\x0C' => ['\\', 'f']
  | '\n' => ['\\', 'n']
  | '\r' => ['\\', 'r']
  | '\t' => ['\\', 't']
  | c => if c.toNat < 0x20 then unitEscape c else [c]

/-- A text between double quotes; quotes, backslashes and control characters are escaped. -/
def textChars (s : String) : List Char :=
  '"' :: (s.toList.flatMap escapedChar ++ ['"'])

def boolChars (b : Bool) : List Char :=
  if b then ['t', 'r', 'u', 'e'] else ['f', 'a', 'l', 's', 'e']

mutual
def compactChars : Value → List Char
  | .null => ['n', 'u', 'l', 'l']
  | .bool b => boolChars b
  | .int n => Numeral.chars n
  | .real x => Decimal.shortestChars x
  | .text s => textChars s
  | .list items => '[' :: (itemsChars items ++ [']'])
  | .object entries => '{' :: (entriesChars entries ++ ['}'])

/-- The items with commas between them. -/
def itemsChars : List Value → List Char
  | [] => []
  | [item] => compactChars item
  | item :: rest => compactChars item ++ ',' :: itemsChars rest

def entriesChars : List (String × Value) → List Char
  | [] => []
  | [(key, value)] => textChars key ++ ':' :: compactChars value
  | (key, value) :: rest => textChars key ++ ':' :: (compactChars value ++ ',' :: entriesChars rest)
end

def compact (v : Value) : String := String.ofList (compactChars v)

/-- The string form of a value: text stands for itself, all else for its compact text. -/
def stringForm : Value → String
  | .text s => s
  | v => v.compact

/-- A line end and two spaces per level. -/
def lineStart (level : Nat) : List Char :=
  '\n' :: List.replicate (2 * level) ' '

mutual
def prettyChars (level : Nat) : Value → List Char
  | .list [] => ['[', ']']
  | .list items => '[' :: (prettyItems (level + 1) items ++ lineStart level ++ [']'])
  | .object [] => ['{', '}']
  | .object entries => '{' :: (prettyEntries (level + 1) entries ++ lineStart level ++ ['}'])
  | .null => ['n', 'u', 'l', 'l']
  | .bool b => boolChars b
  | .int n => Numeral.chars n
  | .real x => Decimal.shortestChars x
  | .text s => textChars s

def prettyItems (level : Nat) : List Value → List Char
  | [] => []
  | [item] => lineStart level ++ prettyChars level item
  | item :: rest => lineStart level ++ prettyChars level item ++ ',' :: prettyItems level rest

def prettyEntries (level : Nat) : List (String × Value) → List Char
  | [] => []
  | [(key, value)] => lineStart level ++ textChars key ++ ':' :: ' ' :: prettyChars level value
  | (key, value) :: rest =>
    lineStart level ++ textChars key ++ ':' :: ' ' :: prettyChars level value ++
      ',' :: prettyEntries level rest
end

def pretty (v : Value) : String := String.ofList (prettyChars 0 v)

end Settings.Value
