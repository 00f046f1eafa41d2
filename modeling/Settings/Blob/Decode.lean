import Settings.Blob.Term
import Settings.Error
import Settings.Numeral

/-!
# Reading terms from text

The reader for the text that `Blob.encode` writes. It accepts a little more: leading zeros in a
length, and map keys in any order and repeated, where the last value of a key counts. Brackets nest
at most `maxDepth` deep and nothing may be left over.

Each reader takes characters from the front and returns what it read and the rest.
-/
namespace Settings.Blob

/-- The deepest nesting of lists and maps that is read. -/
def maxDepth : Nat := 32

/-- A length, a colon and as many characters. -/
def readText? (cs : List Char) : Option (String × List Char) :=
  let length := cs.takeWhile Char.isDigit
  match cs.dropWhile Char.isDigit with
  | ':' :: rest =>
    if length.isEmpty then none
    else
      let size := Nat.ofDigitChars 10 length 0
      let body := rest.take size
      if body.length = size then some (String.ofList body, rest.drop size) else none
  | _ => none

/-- Reads parts until `close` stands in front; `fuel` bounds their number. -/
def readUntil? {α : Type} (close : Char) (part : List Char → Option (α × List Char)) :
    Nat → List Char → Option (List α × List Char)
  | 0, _ => none
  | _ + 1, [] => none
  | fuel + 1, c :: cs =>
    if c = close then some ([], cs)
    else match part (c :: cs) with
      | none => none
      | some (x, rest) => (readUntil? close part fuel rest).map fun r => (x :: r.1, r.2)

/-- A key and the value behind it. -/
def readPair? {α : Type} (value : List Char → Option (α × List Char)) (cs : List Char) :
    Option ((String × α) × List Char) :=
  match readText? cs with
  | none => none
  | some (key, rest) => (value rest).map fun r => ((key, r.1), r.2)

/-- A term whose brackets nest at most `depth` deep. A part takes at least one character, so the
length of the text bounds the number of parts. -/
def readTerm? : (depth : Nat) → List Char → Option (Term × List Char)
  | 0, cs => (readText? cs).map fun r => (.text r.1, r.2)
  | depth + 1, '[' :: cs =>
    (readUntil? ']' (readTerm? depth) (cs.length + 1) cs).map fun r => (.list r.1, r.2)
  | depth + 1, '{' :: cs =>
    (readUntil? '}' (readPair? (readTerm? depth)) (cs.length + 1) cs).map fun r =>
      (.map (Keyed.ofList r.1), r.2)
  | _ + 1, cs => (readText? cs).map fun r => (.text r.1, r.2)

def decodeChars? : List Char → Option Term
  | 'v' :: '1' :: body =>
    match readTerm? maxDepth body with
    | some (t, []) => some t
    | _ => none
  | _ => none

/-- The term that `s` stands for; `none` if `s` is no written term. -/
def decode? (s : String) : Option Term :=
  decodeChars? s.toList

/-- The term that `s` stands for, as elements read it. -/
def decode (s : String) : Except Error Term :=
  match decode? s with
  | some t => .ok t
  | none => .error (.undecodable s .blob)

end Settings.Blob
