import ApiDocs.Json.Writer
import ApiDocs.Record.Basic

/-!
# Records as JSON

The fields of a record are written in a fixed order.  Absent texts, an empty summary and flags that
do not hold are left out, the flag of an optional parameter or property excepted, and deprecation is
written among the fields of its owner.
-/

namespace ApiDocs

open Json (field flag? textField?)

/-- The version of the format. -/
def recordVersion : String := "0.1"

/-- Documentation texts as they are written. -/
def DocsRecord.toJson (r : DocsRecord) : Json :=
  .record
    [textField? "summary" (if r.summary.isEmpty then none else some r.summary),
      textField? "remarks" r.remarks,
      textField? "see" r.see,
      textField? "example" r.sample]

/-- Deprecation as fields of its owner. -/
def Deprecation.fields (r : Deprecation) : List (Option (String × Json)) :=
  [flag? "deprecated" r.isDeprecated, textField? "deprecationReason" r.reason]

/-- Deprecation on its own. -/
def Deprecation.toJson (r : Deprecation) : Json := .record r.fields

/-- A type that another one refers to, as it is written. -/
def TypeLink.toJson (r : TypeLink) : Json :=
  .record [field "fqn" (.text r.fqn), field "displayName" (.text r.displayName)]

/-- A parameter as it is written. -/
def ParameterRecord.toJson (r : ParameterRecord) : Json :=
  .record <|
    [field "id" (.text r.id),
      field "displayName" (.text r.displayName),
      field "type" (.text r.type),
      field "optional" (.bool r.isOptional),
      flag? "variadic" r.isVariadic,
      textField? "default" r.default,
      field "docs" r.docs.toJson] ++ r.deprecation.fields

/-- An initializer as it is written. -/
def InitializerRecord.toJson (r : InitializerRecord) : Json :=
  .record
    [field "id" (.text r.id),
      textField? "snippet" r.snippet,
      field "parameters" (.array (r.parameters.map (·.toJson)))]

/-- A callable as it is written. -/
def CallableRecord.toJson (r : CallableRecord) : Json :=
  .record <|
    [field "id" (.text r.id),
      field "displayName" (.text r.displayName),
      textField? "snippet" r.snippet,
      textField? "returns" r.returns,
      field "parameters" (.array (r.parameters.map (·.toJson))),
      field "docs" r.docs.toJson] ++ r.deprecation.fields

/-- A property as it is written. -/
def PropertyRecord.toJson (r : PropertyRecord) : Json :=
  .record <|
    [field "id" (.text r.id),
      field "displayName" (.text r.displayName),
      field "type" (.text r.type),
      field "optional" (.bool r.isOptional),
      textField? "default" r.default,
      field "docs" r.docs.toJson] ++ r.deprecation.fields

/-- A class as it is written. -/
def ClassRecord.toJson (r : ClassRecord) : Json :=
  .record <|
    [field "id" (.text r.id),
      field "fqn" (.text r.fqn),
      field "displayName" (.text r.displayName),
      field "interfaces" (.array (r.interfaces.map (·.toJson))),
      field "docs" r.docs.toJson] ++ r.deprecation.fields ++
    [r.initializer.map fun i => ("initializer", i.toJson),
      field "instanceMethods" (.array (r.instanceMethods.map (·.toJson))),
      field "staticFunctions" (.array (r.staticFunctions.map (·.toJson))),
      field "properties" (.array (r.properties.map (·.toJson))),
      field "constants" (.array (r.constants.map (·.toJson)))]

/-- A struct as it is written. -/
def StructRecord.toJson (r : StructRecord) : Json :=
  .record <|
    [field "id" (.text r.id),
      field "fqn" (.text r.fqn),
      field "displayName" (.text r.displayName),
      field "docs" r.docs.toJson] ++ r.deprecation.fields ++
    [field "initializer" r.initializer.toJson,
      field "properties" (.array (r.properties.map (·.toJson)))]

/-- An interface as it is written. -/
def InterfaceRecord.toJson (r : InterfaceRecord) : Json :=
  .record <|
    [field "id" (.text r.id),
      field "fqn" (.text r.fqn),
      field "displayName" (.text r.displayName),
      field "interfaces" (.array (r.interfaces.map (·.toJson))),
      field "implementations" (.array (r.implementations.map (·.toJson))),
      field "docs" r.docs.toJson] ++ r.deprecation.fields ++
    [field "instanceMethods" (.array (r.instanceMethods.map (·.toJson))),
      field "properties" (.array (r.properties.map (·.toJson)))]

/-- A member of an enumeration as it is written. -/
def EnumMemberRecord.toJson (r : EnumMemberRecord) : Json :=
  .record <|
    [field "id" (.text r.id),
      field "displayName" (.text r.displayName),
      field "docs" r.docs.toJson] ++ r.deprecation.fields

/-- An enumeration as it is written. -/
def EnumRecord.toJson (r : EnumRecord) : Json :=
  .record <|
    [field "id" (.text r.id),
      field "fqn" (.text r.fqn),
      field "displayName" (.text r.displayName),
      field "docs" r.docs.toJson] ++ r.deprecation.fields ++
    [field "members" (.array (r.members.map (·.toJson)))]

/-- A reference as it is written. -/
def ReferenceRecord.toJson (r : ReferenceRecord) : Json :=
  .record
    [field "constructs" (.array (r.constructs.map (·.toJson))),
      field "classes" (.array (r.classes.map (·.toJson))),
      field "structs" (.array (r.structs.map (·.toJson))),
      field "interfaces" (.array (r.interfaces.map (·.toJson))),
      field "enums" (.array (r.enums.map (·.toJson)))]

/-- What a record is about, as it is written. -/
def Coordinates.toJson (r : Coordinates) : Json :=
  .record
    [field "packageName" (.text r.package),
      textField? "packageVersion" r.version,
      textField? "submodule" r.submodule]

namespace DocumentationRecord

/-- A reference with what it is about, as it is written. -/
def toJson (r : DocumentationRecord) : Json :=
  .record
    [field "version" (.text recordVersion),
      field "language" r.language.toJson,
      field "metadata" r.coordinates.toJson,
      field "apiReference" r.reference.toJson]

/-- The record as text, a field or item to a line. -/
def toText (r : DocumentationRecord) : String := r.toJson.pretty

/-- The identifiers in the reference, the fields of each record taken in the order of their keys. -/
def identifiers (r : DocumentationRecord) : List String :=
  r.reference.toJson.canonical.identifiers

end DocumentationRecord

end ApiDocs
