/-!
# Reserved words

A name that a language keeps for itself is told apart by an underscore behind it.
-/

namespace ApiDocs.Name

/-- A name with an underscore behind it if it is one of the words. -/
def escapeReserved (words : List String) (name : String) : String :=
  if words.contains name then name ++ "_" else name

end ApiDocs.Name
