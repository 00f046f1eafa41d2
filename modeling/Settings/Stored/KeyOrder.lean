import Settings.Text.LowerCase

/-!
# The order of keys in a settings file

Keys that are numerals come first and compare by their value, all others follow and compare without
regard to case. Keys that agree so far compare by their characters, so the order is total.
-/
namespace Settings

/-- A non-empty run of ASCII digits. -/
def isNumeralKey (key : String) : Bool :=
  let cs := key.toList
  !cs.isEmpty && cs.all Char.isDigit

/-- Order by value: without leading zeros, the longer numeral is larger, and of two equally long
ones the first different digit decides. -/
def compareNumerals (a b : String) : Ordering :=
  let x := a.toList.dropWhile (· = '0')
  let y := b.toList.dropWhile (· = '0')
  (compare x.length y.length).then (compare (String.ofList x) (String.ofList y))

/-- The order before ties are broken. -/
def comparePrimary (a b : String) : Ordering :=
  match isNumeralKey a, isNumeralKey b with
  | true, true => compareNumerals a b
  | true, false => .lt
  | false, true => .gt
  | false, false => compare (Text.toLowerCase a) (Text.toLowerCase b)

def keyOrder (a b : String) : Ordering :=
  (comparePrimary a b).then (compare a b)

/-- Stable sorting by key. -/
def sortByKey {α : Type} (key : α → String) (items : List α) : List α :=
  items.mergeSort fun x y => (keyOrder (key x) (key y)).isLE

end Settings
