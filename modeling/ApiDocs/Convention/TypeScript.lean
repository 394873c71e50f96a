import ApiDocs.Convention.Basic

/-!
# TypeScript

Names stay as they are.  A type is qualified by its sub-module, since an import line for one of its
types brings the whole sub-module into scope.
-/

namespace ApiDocs.Convention.TypeScript

/-- A type's name, behind the sub-module if it has one. -/
def typeName (identity : TypeIdentity) : TypeName :=
  let name :=
    match identity.submodule with
    | some path => path ++ "." ++ identity.name
    | none => identity.name
  ⟨identity.fqn, name, name⟩

/-- The import of a type: of the outermost sub-module, or of the type where there is none. -/
def importLine (identity : TypeIdentity) : String :=
  let binding :=
    match identity.submodule with
    | some path => String.ofList (path.toList.takeWhile (· ≠ '.'))
    | none => identity.name
  "import \x7b " ++ binding ++ " \x7d from '" ++ identity.assembly ++ "'"

/-- A built-in type. -/
def primitive : Primitive → String
  | .string => "string"
  | .number => "number"
  | .boolean => "boolean"
  | .date => "Date"
  | .json => "any"
  | .any => "any"

/-- A list of a type; a type with a space in its spelling is bracketed, since the list binds
tighter. -/
def array (element : String) : String :=
  if element.toList.contains ' ' then "(" ++ element ++ ")[]" else element ++ "[]"

/-- A map from texts to a type. -/
def map (value : String) : String := "\x7b[ key: string ]: " ++ value ++ "\x7d"

/-- One of several types. -/
def union (options : List String) : String := " | ".intercalate options

/-- A parameter as it is declared. -/
def formal (p : Formal) : String :=
  if p.isVariadic then "..." ++ p.name ++ ": " ++ p.type ++ "[]"
  else if p.isOptional then p.name ++ "?: " ++ p.type
  else p.name ++ ": " ++ p.type

/-- A list of parameters. -/
def formals (parameters : List Formal) : String := ", ".intercalate (parameters.map formal)

/-- A new instance of a class. -/
def construction (type : TypeName) (parameters : List Formal) : Snippet :=
  whenTrailing .typeScript parameters ("new " ++ type.short ++ "(" ++ formals parameters ++ ")")

/-- The last part of a dotted name. -/
def lastPart (name : String) : String :=
  String.ofList (name.toList.reverse.takeWhile (· ≠ '.')).reverse

/-- A record, bound to the type's name in a small first letter. -/
def population (type : TypeName) (_ : List Formal) : Snippet :=
  .ok ("const " ++ Text.lowerFirst (lastPart type.short) ++ ": " ++ type.short ++
    " = \x7b ... \x7d")

/-- A call. -/
def invocation (type : TypeName) (method : String) (isStatic : Bool) (parameters : List Formal) :
    Snippet :=
  let call := method ++ "(" ++ formals parameters ++ ")"
  whenTrailing .typeScript parameters (if isStatic then type.short ++ "." ++ call else call)

end TypeScript

/-- The conventions of TypeScript. -/
def typeScript : Convention where
  language := .typeScript
  memberName _ name := name
  typeName := TypeScript.typeName
  importLine := TypeScript.importLine
  primitive := TypeScript.primitive
  array := TypeScript.array
  map := TypeScript.map
  union := TypeScript.union
  construction := TypeScript.construction
  population := TypeScript.population
  invocation := TypeScript.invocation

end ApiDocs.Convention
