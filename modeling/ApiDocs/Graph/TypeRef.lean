import ApiDocs.Json.Decoder

/-!
# Type references

How a member says of which type it is: a built-in type, a type of some library by its full name, or
a list, a map from texts or a union of such references.
-/

namespace ApiDocs

/-- A built-in type. -/
inductive Primitive where
  | string
  | number
  | boolean
  /-- A point in time. -/
  | date
  /-- Any JSON document. -/
  | json
  /-- Anything at all. -/
  | any
  deriving DecidableEq

namespace Primitive

/-- The name of a built-in type in a type graph. -/
def name : Primitive → String
  | string => "string"
  | number => "number"
  | boolean => "boolean"
  | date => "date"
  | json => "json"
  | any => "any"

/-- Every built-in type. -/
def all : List Primitive := [string, number, boolean, date, json, any]

end Primitive

/-- A reference to a type. -/
inductive TypeRef where
  | primitive (p : Primitive)
  | named (fqn : String)
  | array (element : TypeRef)
  /-- A map from texts to values of a type. -/
  | map (value : TypeRef)
  | union (options : List TypeRef)

namespace TypeRef

/-! ## Named types -/

mutual

/-- The full names in a reference, from left to right. -/
def names : TypeRef → List String
  | primitive _ => []
  | named fqn => [fqn]
  | array element => element.names
  | map value => value.names
  | union options => optionNames options

/-- The full names in the options of a union. -/
def optionNames : List TypeRef → List String
  | [] => []
  | option :: rest => option.names ++ optionNames rest

end

end TypeRef

/-! ## Decoding

A built-in type is written as its name, or as an object with its name as the only key.  The value
under such a key says nothing: it is null, and inside a type of a graph it may be an empty object as
well. -/

/-- Where a part of a type is decoded: on its own, or inside a type of a graph. -/
inductive Setting where
  | alone
  | inGraph
  deriving DecidableEq

/-- Whether a value says nothing. -/
def Setting.isVoid : Setting → Json.Reading → Bool
  | _, .null => true
  | .inGraph, .object [] none => true
  | _, _ => false

/-- Decode a built-in type. -/
def Primitive.decode (setting : Setting) : Json.Decoder Primitive :=
  Json.Decoder.word setting.isVoid (all.map fun p => (p.name, p))

mutual

/-- Decode a reference: an object whose only key says which kind of reference it is. -/
def TypeRef.decode (setting : Setting) : Json.Decoder TypeRef
  | .object [(.ok key, value)] none =>
    if key = "primitive" then .primitive <$> Primitive.decode setting value
    else if key = "named" then .named <$> Json.Decoder.text value
    else if key = "array" then .array <$> TypeRef.decode setting value
    else if key = "map" then .map <$> TypeRef.decode setting value
    else if key = "union" then
      match value with
      | .array options none => .union <$> TypeRef.decodeOptions setting options
      | other => .error other.mismatch
    else .error .misshapen
  | other => .error other.mismatch

/-- Decode the options of a union. -/
def TypeRef.decodeOptions (setting : Setting) :
    List Json.Reading → Except Json.Fault (List TypeRef)
  | [] => .ok []
  | option :: rest => do
    return (← TypeRef.decode setting option) :: (← TypeRef.decodeOptions setting rest)

end

/-! ## Writing -/

mutual

/-- A reference as it is written in a type graph. -/
def TypeRef.toJson : TypeRef → Json
  | primitive p => .object [("primitive", .text p.name)]
  | named fqn => .object [("named", .text fqn)]
  | array element => .object [("array", element.toJson)]
  | map value => .object [("map", value.toJson)]
  | union options => .object [("union", .array (TypeRef.optionsToJson options))]

/-- The options of a union as they are written. -/
def TypeRef.optionsToJson : List TypeRef → List Json
  | [] => []
  | option :: rest => option.toJson :: TypeRef.optionsToJson rest

end

end ApiDocs
