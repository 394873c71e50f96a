/-!
# Identifiers of documented entities

An entity's identifier is the name of its anchor in the document and the `id` of its record.  It is
built from the names in the type graph, which no convention changes: a type has its full name, a
member the type's with the member's name behind it, a parameter the callable's with `parameter` and
its own name behind it.
-/

namespace ApiDocs.Name

/-- An identifier with one more part; an empty one is replaced by the part. -/
def extend (parent name : String) : String :=
  if parent.isEmpty then name else parent ++ "." ++ name

/-- The identifier of the initializer of a type. -/
def initializerId (fqn : String) : String := extend fqn "Initializer"

/-- The identifier of a parameter of a callable. -/
def parameterId (callable name : String) : String := extend (extend callable "parameter") name

end ApiDocs.Name
