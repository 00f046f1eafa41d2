import Settings.Stored.Basic
import Settings.Stored.KeyOrder

/-!
# Writing stored maps as settings text

One line `key=value` for every leaf. The key is the path from the root, joined by dots, and each
level is walked in key order.
-/
namespace Settings

namespace Stored

mutual
/-- The lines of an entry whose full key is `key`. -/
def lines (key : String) : Stored → String
  | .leaf value => key ++ "=" ++ value ++ "\n"
  | .level entries =>
    String.join ((sortByKey Prod.fst (entryLines key entries)).map Prod.snd)

/-- The entries of a level, each with its lines. -/
def entryLines (above : String) : List (String × Stored) → List (String × String)
  | [] => []
  | (name, entry) :: rest => (name, lines (childKey above name) entry) :: entryLines above rest
end

end Stored

/-- The settings text of a stored map whose keys start with `root`. -/
def Level.text (root : String) (entries : Level) : String :=
  Stored.lines root (.level entries)

end Settings
