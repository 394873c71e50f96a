import ApiDocs.Convention.Basic
import ApiDocs.Name.Pascal

/-!
# C#

Namespaces, methods, properties and enumeration members are in pascal case.  Parameters keep their
spelling, with a mark before a keyword.  Records are filled through object initializers.
-/

namespace ApiDocs.Convention.CSharp

/-- The keywords that a parameter needs a mark for. -/
def reservedWords : List String :=
  ["abstract", "as", "base", "bool", "break", "byte", "case", "catch", "char", "checked", "class",
    "const", "continue", "decimal", "default", "delegate", "do", "double", "else", "enum", "event",
    "explicit", "extern", "false", "finally", "fixed", "float", "for", "foreach", "goto", "if",
    "implicit", "in", "int", "interface", "internal", "is", "lock", "long", "namespace", "new",
    "null", "object", "operator", "out", "override", "params", "private", "protected", "public",
    "readonly", "ref", "return", "sbyte", "sealed", "short", "sizeof", "stackalloc", "static",
    "string", "struct", "switch", "this", "throw", "true", "try", "typeof", "uint", "ulong",
    "unchecked", "unsafe", "ushort", "using", "virtual", "void", "volatile", "while"]

/-- A member's name. -/
def memberName : MemberKind → String → String
  | .parameter, name => if reservedWords.contains name then "@" ++ name else name
  | _, name => Name.pascal name

/-- The namespace of an assembly that does not name one: the parts of its name, without the scope
mark, in pascal case. -/
def assemblyNamespace (assembly : String) : String :=
  Name.pascalPath '/' (String.ofList (assembly.toList.dropWhile (· == '@')))

/-- The namespace of a type. -/
def namespaceName (identity : TypeIdentity) : String :=
  let root := identity.targets.dotnet.getD (assemblyNamespace identity.assembly)
  match identity.submodule with
  | some path => root ++ "." ++ Name.pascalPath '.' path
  | none => root

/-- A type's name. -/
def typeName (identity : TypeIdentity) : TypeName :=
  ⟨identity.fqn, namespaceName identity ++ "." ++ identity.name, identity.name⟩

/-- The import of a type's namespace. -/
def importLine (identity : TypeIdentity) : String := "using " ++ namespaceName identity ++ ";"

/-- A built-in type. -/
def primitive : Primitive → String
  | .string => "string"
  | .number => "double"
  | .boolean => "bool"
  | .date => "System.DateTime"
  | .json => "System.Collections.Generic.IDictionary<string, object>"
  | .any => "object"

/-- A list of a type. -/
def array (element : String) : String := element ++ "[]"

/-- A map from texts to a type. -/
def map (value : String) : String :=
  "System.Collections.Generic.IDictionary<string, " ++ value ++ ">"

/-- One of several types, of which the language keeps nothing. -/
def union (_ : List String) : String := "object"

/-- A parameter as it is declared. -/
def formal (p : Formal) : String :=
  if p.isVariadic then "params " ++ p.type ++ "[] " ++ p.name
  else if p.isOptional then p.type ++ " " ++ p.name ++ " = null"
  else p.type ++ " " ++ p.name

/-- A list of parameters. -/
def formals (parameters : List Formal) : String := ", ".intercalate (parameters.map formal)

/-- A new instance of a class. -/
def construction (type : TypeName) (parameters : List Formal) : Snippet :=
  whenTrailing .cSharp parameters ("new " ++ type.short ++ "(" ++ formals parameters ++ ");")

/-- A field on its line. -/
def field (p : Formal) : String :=
  "    " ++ p.type ++ " " ++ p.name ++ (if p.isOptional then " = null" else "")

/-- A record with its fields in an object initializer. -/
def population (type : TypeName) (fields : List Formal) : Snippet :=
  if fields.isEmpty then .ok ("new " ++ type.short ++ " \x7b \x7d;")
  else
    .ok ("new " ++ type.short ++ " \x7b\n" ++ ",\n".intercalate (fields.map field) ++ "\n\x7d;")

/-- A call. -/
def invocation (type : TypeName) (method : String) (isStatic : Bool) (parameters : List Formal) :
    Snippet :=
  let call := method ++ "(" ++ formals parameters ++ ")"
  whenTrailing .cSharp parameters (if isStatic then type.short ++ "." ++ call else call)

end CSharp

/-- The conventions of C#. -/
def cSharp : Convention where
  language := .cSharp
  memberName := CSharp.memberName
  typeName := CSharp.typeName
  importLine := CSharp.importLine
  primitive := CSharp.primitive
  array := CSharp.array
  map := CSharp.map
  union := CSharp.union
  construction := CSharp.construction
  population := CSharp.population
  invocation := CSharp.invocation

end ApiDocs.Convention
