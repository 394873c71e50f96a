import ApiDocs.Convention.Basic
import ApiDocs.Name.Reserved

/-!
# Java

Members keep their spelling, with an underscore behind a keyword.  Types are qualified by their
package, and records are filled through builders, in which what may be left out is commented out.
-/

namespace ApiDocs.Convention.Java

/-- The keywords and literals that are no names. -/
def reservedWords : List String :=
  ["abstract", "assert", "boolean", "break", "byte", "case", "catch", "char", "class", "const",
    "continue", "default", "do", "double", "else", "enum", "extends", "false", "final", "finally",
    "float", "for", "goto", "if", "implements", "import", "instanceof", "int", "interface", "long",
    "native", "new", "null", "package", "private", "protected", "public", "return", "short",
    "static", "strictfp", "super", "switch", "synchronized", "this", "throw", "throws",
    "transient", "true", "try", "void", "volatile", "while"]

/-- A member's name. -/
def memberName : MemberKind → String → String
  | .enumMember, name => name
  | _, name => Name.escapeReserved reservedWords name

/-- The package of an assembly that does not name one: its name without the scope mark, in small
letters, other punctuation written as dots. -/
def assemblyPackage (assembly : String) : String :=
  Text.lower (String.ofList ((assembly.toList.dropWhile (· == '@')).map fun c =>
    if c == '/' || c == '-' then '.' else c))

/-- The package of a type. -/
def packageName (identity : TypeIdentity) : String :=
  let root := identity.targets.java.getD (assemblyPackage identity.assembly)
  match identity.submodule with
  | some path => root ++ "." ++ path
  | none => root

/-- A type's name. -/
def typeName (identity : TypeIdentity) : TypeName :=
  ⟨identity.fqn, packageName identity ++ "." ++ identity.name, identity.name⟩

/-- The import of a type. -/
def importLine (identity : TypeIdentity) : String :=
  "import " ++ packageName identity ++ "." ++ identity.name ++ ";"

/-- A built-in type. -/
def primitive : Primitive → String
  | .string => "java.lang.String"
  | .number => "java.lang.Number"
  | .boolean => "java.lang.Boolean"
  | .date => "java.time.Instant"
  | .json => "com.fasterxml.jackson.databind.node.ObjectNode"
  | .any => "java.lang.Object"

/-- A list of a type. -/
def array (element : String) : String := "java.util.List<" ++ element ++ ">"

/-- A map from texts to a type. -/
def map (value : String) : String := "java.util.Map<java.lang.String, " ++ value ++ ">"

/-- One of several types, of which the language keeps nothing. -/
def union (_ : List String) : String := "java.lang.Object"

/-- A parameter as it is declared. -/
def formal (p : Formal) : String :=
  if p.isVariadic then p.type ++ "... " ++ p.name else p.type ++ " " ++ p.name

/-- A list of parameters. -/
def formals (parameters : List Formal) : String := ", ".intercalate (parameters.map formal)

/-- A new instance of a class. -/
def construction (type : TypeName) (parameters : List Formal) : Snippet :=
  whenTrailing .java parameters ("new " ++ type.short ++ "(" ++ formals parameters ++ ");")

/-- A field as a builder sets it. -/
def setter (p : Formal) : String :=
  let call := "." ++ p.name ++ "(" ++ p.type ++ ")"
  if p.isOptional then "//  " ++ call else "    " ++ call

/-- A record through its builder. -/
def population (type : TypeName) (fields : List Formal) : Snippet :=
  .ok ("\n".intercalate ((type.short ++ ".builder()") :: fields.map setter ++ ["    .build();"]))

/-- A call. -/
def invocation (type : TypeName) (method : String) (isStatic : Bool) (parameters : List Formal) :
    Snippet :=
  let call := method ++ "(" ++ formals parameters ++ ")"
  whenTrailing .java parameters (if isStatic then type.short ++ "." ++ call else call)

end Java

/-- The conventions of Java. -/
def java : Convention where
  language := .java
  memberName := Java.memberName
  typeName := Java.typeName
  importLine := Java.importLine
  primitive := Java.primitive
  array := Java.array
  map := Java.map
  union := Java.union
  construction := Java.construction
  population := Java.population
  invocation := Java.invocation

end ApiDocs.Convention
