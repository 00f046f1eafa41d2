import Settings.Text.CharRange
import Settings.Text.Table.Cased
import Settings.Text.Table.CaseIgnorable
import Settings.Text.Table.LowerCase

/-!
# Lower case

The full lower-case mapping of texts. Two characters need more than a table: the capital dotted I
becomes two characters, and a capital sigma becomes a final sigma at the end of a word.
-/
namespace Settings.Text

/-- The lower case of a character that does not depend on its neighbours. -/
def lowerChar (c : Char) : Char :=
  if c.toNat < 0x80 then c.toLower
  else match Table.lowerCase.find? (·.covers c.toNat) with
    | some run => Char.ofNat (c.toNat + run.offset).toNat
    | none => c

/-- A cased character follows, behind characters that case looks through. -/
def casedFollows (cs : List Char) : Bool :=
  match cs.dropWhile (inRanges Table.caseIgnorable) with
  | c :: _ => inRanges Table.cased c
  | [] => false

/-- Lower case of the characters in front; `before` holds those already passed, latest first. -/
def lowerChars (before : List Char) : List Char → List Char
  | [] => []
  | c :: rest =>
    let lower :=
      if c = 'Σ' then
        if casedFollows before && !casedFollows rest then ['ς'] else ['σ']
      else if c = 'İ' then ['i', '\u0307']
      else [lowerChar c]
    lower ++ lowerChars (c :: before) rest

def toLowerCase (s : String) : String :=
  String.ofList (lowerChars [] s.toList)

end Settings.Text
