import ApiDocs.Name.Snake

/-!
# Pascal case

Names reach `PascalCase` from three styles, told apart by the whole name.  One with an underscore or
a hyphen, or one without any small letter, is a list of words, of which each gets a capital and
small letters behind it: `DEFAULT_REGION` becomes `DefaultRegion`.  Any other is in camel case
already and needs only its first letter raised.
-/

namespace ApiDocs.Name

/-- The characters that stand between the words of a name. -/
def isSeparator (c : Char) : Bool := c == '_' || c == '-'

/-- A name without a single ASCII small letter. -/
def isShouted (cs : List Char) : Bool := !cs.any isSmall

/-- A word with its first letter raised and the others lowered, each on its own. -/
def capitalized : List Char → List Char
  | [] => []
  | c :: rest => Text.upperChar c ++ rest.flatMap Text.lowerChar

/-- The characters of a name in `PascalCase`. -/
def pascalChars (cs : List Char) : List Char :=
  if isShouted cs || cs.any isSeparator then
    ((cs.splitOnP isSeparator).filter (!·.isEmpty)).flatMap capitalized
  else Text.mapFirst Text.upperChar cs

/-- A `camelCase`, `SHOUTED_SNAKE` or `kebab-case` name in `PascalCase`. -/
def pascal (name : String) : String := String.ofList (pascalChars name.toList)

/-- A path with each of its parts in `PascalCase`, joined by dots. -/
def pascalPath (separator : Char) (path : String) : String :=
  ".".intercalate ((path.toList.splitOn separator).map fun part =>
    String.ofList (pascalChars part))

end ApiDocs.Name
