import Settings.Blob.Term
import Settings.Numeral

/-!
# Writing terms as text

The written form of a term: the version tag, then

* a string: its number of characters, a colon and the characters themselves;
* a list: its items between square brackets;
* a map: each key, written as a string, and its value, between curly brackets.

Lengths are announced, so nothing inside a string needs an escape.
-/
namespace Settings.Blob

/-- Leads every written term. -/
def version : List Char := ['v', '1']

def textChars (s : String) : List Char :=
  Numeral.digits s.toList.length ++ ':' :: s.toList

mutual
def termChars : Term → List Char
  | .text s => textChars s
  | .list items => '[' :: (itemsChars items ++ [']'])
  | .map entries => '{' :: (entriesChars entries ++ ['}'])

def itemsChars : List Term → List Char
  | [] => []
  | item :: rest => termChars item ++ itemsChars rest

def entriesChars : List (String × Term) → List Char
  | [] => []
  | (key, value) :: rest => textChars key ++ (termChars value ++ entriesChars rest)
end

def encode (t : Term) : String :=
  String.ofList (version ++ termChars t)

end Settings.Blob
