import ApiDocs.Json.Decoder

/-!
# Languages

The audiences that a reference can be written for.  Each has one canonical name, which tags the code
blocks of the document and stands in the record; a reader of options may use other names too.
-/

namespace ApiDocs

/-- A language whose conventions names and snippets can follow. -/
inductive Language where
  | typeScript
  | python
  | java
  | cSharp
  deriving DecidableEq

namespace Language

/-- The canonical name. -/
def name : Language → String
  | typeScript => "typescript"
  | python => "python"
  | java => "java"
  | cSharp => "csharp"

theorem name_ne_empty (l : Language) : l.name ≠ "" := by
  cases l <;> decide

/-- Every language. -/
def all : List Language := [typeScript, python, java, cSharp]

/-- The names under which a language may be asked for, in small letters. -/
def aliases : List (String × Language) :=
  [("typescript", typeScript), ("ts", typeScript), ("python", python), ("py", python),
    ("java", java), ("csharp", cSharp), ("c#", cSharp), ("cs", cSharp), ("dotnet", cSharp)]

/-- The language asked for by a name, in ASCII letters of either case. -/
def ofName? (name : String) : Option Language :=
  aliases.lookup (String.ofList (name.toList.map Char.toLower))

/-- Why a name asks for no language. -/
def unknownMessage (name : String) : String := "unsupported language `" ++ name ++ "`"

/-- The language as it stands in a record. -/
def toJson (language : Language) : Json := .text language.name

/-- Decode the canonical name. -/
def decode : Json.Decoder Language :=
  Json.Decoder.word (fun value => value matches .null) (all.map fun l => (l.name, l))

end Language

end ApiDocs
