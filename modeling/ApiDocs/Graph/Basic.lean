import ApiDocs.Graph.Docs
import ApiDocs.Graph.TypeRef

/-!
# Type graphs

A library as its public types describe it: the types of one assembly with their members, the
sub-modules that they are divided among, and what is known of the assemblies it depends on.  The
graph is taken as it comes.  Names may be repeated or empty, references may lead nowhere, and base
classes may go in circles.
-/

namespace ApiDocs

/-- The names under which other languages know an assembly. -/
structure Targets where
  /-- The module that Python imports. -/
  python : Option String := none
  /-- The package that Java puts the types in. -/
  java : Option String := none
  /-- The namespace that C# puts the types in. -/
  dotnet : Option String := none
  deriving DecidableEq

/-! ## Members -/

/-- A parameter of a callable. -/
structure Parameter where
  name : String
  type : TypeRef
  /-- Whether callers may leave it out. -/
  isOptional : Bool := false
  /-- Whether it takes any number of arguments at the end of a call. -/
  isVariadic : Bool := false
  docs : Docs := {}

/-- How an instance of a class is made. -/
structure Initializer where
  docs : Docs := {}
  /-- Whether only subclasses may call it. -/
  isProtected : Bool := false
  /-- The parameters in their order; none if the graph fails to give them. -/
  parameters : Option (List Parameter) := none

/-- A method of an instance, or a function of the type itself. -/
structure Method where
  name : String
  docs : Docs := {}
  /-- Whether the type itself has it. -/
  isStatic : Bool := false
  /-- Whether only subclasses may call it. -/
  isProtected : Bool := false
  /-- The parameters in their order; none if the graph fails to give them. -/
  parameters : Option (List Parameter) := none
  /-- The type of the result, if there is one. -/
  returns : Option TypeRef := none

/-- A property of an instance or of the type itself. -/
structure Property where
  name : String
  docs : Docs := {}
  type : TypeRef
  /-- Whether it may be absent. -/
  isOptional : Bool := false
  /-- Whether the type itself has it. -/
  isStatic : Bool := false
  /-- Whether it cannot be assigned. -/
  isImmutable : Bool := false
  /-- Whether the graph calls it a constant. -/
  isFlaggedConstant : Bool := false
  /-- Whether only subclasses may see it. -/
  isProtected : Bool := false

/-- A constant is a property that the graph calls one, or one of the type itself that cannot be
assigned. -/
def Property.isConstant (p : Property) : Bool :=
  p.isFlaggedConstant || (p.isStatic && p.isImmutable)

/-- A member of an enumeration. -/
structure EnumMember where
  name : String
  docs : Docs := {}

/-! ## Types -/

/-- What a class declares. -/
structure ClassBody where
  /-- The full name of its base class. -/
  base : Option String := none
  /-- The full names of the interfaces that it implements. -/
  interfaces : List String := []
  initializer : Option Initializer := none
  methods : List Method := []
  properties : List Property := []

/-- What an interface declares. -/
structure InterfaceBody where
  /-- Whether it is a record of data, without behaviour. -/
  isDatatype : Bool := false
  /-- The full names of the interfaces that it extends. -/
  interfaces : List String := []
  methods : List Method := []
  properties : List Property := []

/-- What an enumeration declares. -/
structure EnumBody where
  members : List EnumMember := []

/-- What a type declares, by its kind. -/
inductive TypeBody where
  | ofClass (body : ClassBody)
  | ofInterface (body : InterfaceBody)
  | ofEnum (body : EnumBody)

/-- A type. -/
structure TypeDecl where
  /-- The full name. -/
  fqn : String
  /-- The simple name. -/
  name : String
  /-- The sub-module that it belongs to; none at the root. -/
  submodule : Option String := none
  docs : Docs := {}
  body : TypeBody

namespace TypeDecl

/-- The interfaces that a class implements or an interface extends. -/
def interfaces (t : TypeDecl) : List String :=
  match t.body with
  | .ofClass body => body.interfaces
  | .ofInterface body => body.interfaces
  | .ofEnum _ => []

/-- The full name of the base class, if the type is a class that has one. -/
def base? (t : TypeDecl) : Option String :=
  match t.body with
  | .ofClass body => body.base
  | _ => none

end TypeDecl

/-! ## Libraries -/

/-- A part of an assembly. -/
structure Submodule where
  name : String
  readme : Option String := none

/-- Another assembly that the graph refers to. -/
structure Dependency where
  name : String
  targets : Targets := {}
  types : List TypeDecl := []

/-- The public types of an assembly. -/
structure Graph where
  name : String
  version : Option String := none
  readme : Option String := none
  targets : Targets := {}
  submodules : List Submodule := []
  types : List TypeDecl := []
  dependencies : List Dependency := []

end ApiDocs
