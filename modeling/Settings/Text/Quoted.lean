import Settings.Text.CharRange
import Settings.Text.Table.Extending
import Settings.Text.Table.Unprintable

/-!
# Quoted text

How messages show a text that may hold anything: between double quotes, with an escape for every
character that could not be told from its surroundings.
-/
namespace Settings.Text

/-- Lower-case hexadecimal digits between curly brackets. -/
def codePointEscape (c : Char) : List Char :=
  '\\' :: 'u' :: '{' :: (Nat.toDigits 16 c.toNat ++ ['}'])

/-- A mark that merges with the character before it. The two halfwidth voicing marks go with their
letter as well, but stand beside it. -/
def isMerging (c : Char) : Bool :=
  inRanges Table.extending c && c ≠ '\uFF9E' && c ≠ '\uFF9F'

/-- The fillers of Hangul syllables, letters without a shape. -/
def isFiller (c : Char) : Bool :=
  c = '\u115F' || c = '\u1160' || c = '\u3164' || c = '\uFFA0'

/-- What stands for a character between the quotes. Marks that would merge with the character before
them and characters without a glyph are written by their code point; of the blanks only the space
stands for itself. -/
def quotedChar (c : Char) : List Char :=
  match c with
  | '\x00' => ['\\', '0']
  | '\t' => ['\\', 't']
  | '\r' => ['\\', 'r']
  | '\n' => ['\\', 'n']
  | '"' => ['\\', '"']
  | '\\' => ['\\', '\\']
  | ' ' => [' ']
  | c =>
    if isMerging c || isFiller c || inRanges Table.unprintable c then codePointEscape c
    else [c]

def quoted (s : String) : String :=
  String.ofList ('"' :: (s.toList.flatMap quotedChar ++ ['"']))

end Settings.Text
