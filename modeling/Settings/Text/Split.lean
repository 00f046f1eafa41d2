/-!
# Splitting texts

Cutting a text at a separator character, everywhere or once, and at the end of its first line.
-/
namespace Settings.Text

/-- The pieces of `cs` between the separators; there is always at least one. -/
def splitAt (separator : Char) (cs : List Char) : List (List Char) :=
  cs.splitOnP (· = separator)

/-- What stands before and after the first separator. -/
def splitOnce? (separator : Char) (cs : List Char) : Option (List Char × List Char) :=
  match cs.dropWhile (· ≠ separator) with
  | _ :: after => some (cs.takeWhile (· ≠ separator), after)
  | [] => none

/-- The first line without its line end, which is a line feed with or without a carriage return in
front. The end of the text ends a line as well. -/
def firstLine (cs : List Char) : List Char :=
  let line := cs.takeWhile (· ≠ '\n')
  if line.getLast? = some '\r' then line.dropLast else line

end Settings.Text
