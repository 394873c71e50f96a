import ApiDocs.Graph.Docs
import ApiDocs.Language

/-!
# Records

The reference as data, for programs that read it.  There is a record for each section of the
document that has an identifier, and it has the same one.
-/

namespace ApiDocs

/-- The documentation texts of an entity. -/
structure DocsRecord where
  summary : String := ""
  remarks : Option String := none
  see : Option String := none
  sample : Option String := none
  deriving DecidableEq

/-- Whether an entity is deprecated, and why. -/
structure Deprecation where
  isDeprecated : Bool := false
  reason : Option String := none
  deriving DecidableEq

/-- The documentation texts that a record keeps. -/
def Docs.record (docs : Docs) : DocsRecord :=
  ⟨docs.summary, docs.remarks, docs.see, docs.sample⟩

/-- The deprecation that a record keeps. -/
def Docs.deprecation (docs : Docs) : Deprecation := ⟨docs.isDeprecated, docs.deprecated⟩

/-- A type that another one refers to. -/
structure TypeLink where
  /-- The full name in the graph. -/
  fqn : String
  /-- The full name in the language. -/
  displayName : String
  deriving DecidableEq

/-- A parameter. -/
structure ParameterRecord where
  id : String
  displayName : String
  /-- The type in the language, by full names. -/
  type : String
  isOptional : Bool
  isVariadic : Bool
  default : Option String
  docs : DocsRecord
  deprecation : Deprecation
  deriving DecidableEq

/-- How an instance of a class is made, or a record filled. -/
structure InitializerRecord where
  id : String
  /-- The import and the snippet; none where the language cannot express it. -/
  snippet : Option String
  parameters : List ParameterRecord
  deriving DecidableEq

/-- A method of an instance or a function of the type itself. -/
structure CallableRecord where
  id : String
  displayName : String
  snippet : Option String
  /-- The type of the result in the language, by full names. -/
  returns : Option String
  parameters : List ParameterRecord
  docs : DocsRecord
  deprecation : Deprecation
  deriving DecidableEq

/-- A property or a constant. -/
structure PropertyRecord where
  id : String
  displayName : String
  type : String
  isOptional : Bool
  default : Option String
  docs : DocsRecord
  deprecation : Deprecation
  deriving DecidableEq

/-- A class. -/
structure ClassRecord where
  id : String
  /-- The full name in the language. -/
  fqn : String
  /-- The short name in the language. -/
  displayName : String
  interfaces : List TypeLink
  docs : DocsRecord
  deprecation : Deprecation
  initializer : Option InitializerRecord
  instanceMethods : List CallableRecord
  staticFunctions : List CallableRecord
  properties : List PropertyRecord
  constants : List PropertyRecord
  deriving DecidableEq

/-- An interface without behaviour. -/
structure StructRecord where
  id : String
  fqn : String
  displayName : String
  docs : DocsRecord
  deprecation : Deprecation
  initializer : InitializerRecord
  properties : List PropertyRecord
  deriving DecidableEq

/-- An interface. -/
structure InterfaceRecord where
  id : String
  fqn : String
  displayName : String
  interfaces : List TypeLink
  implementations : List TypeLink
  docs : DocsRecord
  deprecation : Deprecation
  instanceMethods : List CallableRecord
  properties : List PropertyRecord
  deriving DecidableEq

/-- A member of an enumeration. -/
structure EnumMemberRecord where
  id : String
  displayName : String
  docs : DocsRecord
  deprecation : Deprecation
  deriving DecidableEq

/-- An enumeration. -/
structure EnumRecord where
  id : String
  fqn : String
  displayName : String
  docs : DocsRecord
  deprecation : Deprecation
  members : List EnumMemberRecord
  deriving DecidableEq

/-- The reference of one module. -/
structure ReferenceRecord where
  constructs : List ClassRecord := []
  classes : List ClassRecord := []
  structs : List StructRecord := []
  interfaces : List InterfaceRecord := []
  enums : List EnumRecord := []
  deriving DecidableEq

/-- What a record is about: the assembly, and the sub-module that was asked for. -/
structure Coordinates where
  package : String
  version : Option String
  submodule : Option String
  deriving DecidableEq

/-- The reference of one module with what it is about. -/
structure DocumentationRecord where
  language : Language
  coordinates : Coordinates
  reference : ReferenceRecord
  deriving DecidableEq

end ApiDocs
