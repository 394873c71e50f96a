import ApiDocs.Convention.Basic
import ApiDocs.Name.Reserved
import ApiDocs.Name.Snake

/-!
# Python

Members are in snake case, with an underscore behind a keyword; enumeration members stay as they
are.  A call has a line for each parameter.  Variadic parameters may stand anywhere.
-/

namespace ApiDocs.Convention.Python

/-- The keywords that are no names. -/
def reservedWords : List String :=
  ["False", "None", "True", "and", "as", "assert", "async", "await", "break", "class", "continue",
    "def", "del", "elif", "else", "except", "finally", "for", "from", "global", "if", "import",
    "in", "is", "lambda", "nonlocal", "not", "or", "pass", "raise", "return", "try", "while",
    "with", "yield"]

/-- A member's name. -/
def memberName : MemberKind → String → String
  | .enumMember, name => name
  | _, name => Name.escapeReserved reservedWords (Name.snake name)

/-- The module of an assembly that does not name one: its name without the scope mark, other
punctuation written as underscores. -/
def assemblyModule (assembly : String) : String :=
  String.ofList ((assembly.toList.dropWhile (· == '@')).map fun c =>
    if c == '/' || c == '-' then '_' else c)

/-- The module of a type. -/
def moduleName (identity : TypeIdentity) : String :=
  let root := identity.targets.python.getD (assemblyModule identity.assembly)
  match identity.submodule with
  | some path => root ++ "." ++ path
  | none => root

/-- A type's name. -/
def typeName (identity : TypeIdentity) : TypeName :=
  ⟨identity.fqn, moduleName identity ++ "." ++ identity.name, identity.name⟩

/-- The import of a type's module. -/
def importLine (identity : TypeIdentity) : String := "import " ++ moduleName identity

/-- A built-in type. -/
def primitive : Primitive → String
  | .string => "str"
  | .number => "typing.Union[int, float]"
  | .boolean => "bool"
  | .date => "datetime.datetime"
  | .json => "typing.Mapping[typing.Any, typing.Any]"
  | .any => "typing.Any"

/-- A list of a type. -/
def array (element : String) : String := "typing.List[" ++ element ++ "]"

/-- A map from texts to a type. -/
def map (value : String) : String := "typing.Mapping[str, " ++ value ++ "]"

/-- One of several types. -/
def union (options : List String) : String := "typing.Union[" ++ ", ".intercalate options ++ "]"

/-- A parameter on its line. -/
def formal (p : Formal) : String :=
  if p.isVariadic then "  *" ++ p.name ++ ": " ++ p.type
  else if p.isOptional then "  " ++ p.name ++ ": " ++ p.type ++ " = None"
  else "  " ++ p.name ++ ": " ++ p.type

/-- A call, with a line for each parameter. -/
def call (callee : String) (parameters : List Formal) : String :=
  if parameters.isEmpty then callee ++ "()"
  else callee ++ "(\n" ++ ",\n".intercalate (parameters.map formal) ++ "\n)"

/-- A call of a class, which makes an instance or fills a record. -/
def construction (type : TypeName) (parameters : List Formal) : Snippet :=
  .ok (call type.qualified parameters)

/-- A call of a method. -/
def invocation (type : TypeName) (method : String) (isStatic : Bool) (parameters : List Formal) :
    Snippet :=
  .ok (call (if isStatic then type.qualified ++ "." ++ method else method) parameters)

end Python

/-- The conventions of Python. -/
def python : Convention where
  language := .python
  memberName := Python.memberName
  typeName := Python.typeName
  importLine := Python.importLine
  primitive := Python.primitive
  array := Python.array
  map := Python.map
  union := Python.union
  construction := Python.construction
  population := Python.construction
  invocation := Python.invocation

end ApiDocs.Convention
