import ApiDocs.Graph.Basic

/-!
# Decoding type graphs

Each part of a graph is a record in the sense of `ApiDocs.Json.Decoder`, with one exception.  A
*type* is always an object, and only its name, place and documentation are decoded as they are met;
the fields of its body depend on its kind, which may come last.  So everything else in the object is
first read as a whole, known or not, and decoded when the object has ended.  By then the text is
known to be in order, and any fault of the body is one of shape.
-/

namespace ApiDocs

open Json (Decoder Fault Parts Reading Slot)

/-! ## Members -/

/-- Decode the names of an assembly in other languages. -/
def Targets.decode : Decoder Targets :=
  Decoder.record ["python", "java", "dotnet"] fun parts =>
    Targets.mk <$> parts.optional "python" .text
      <*> parts.optional "java" .text
      <*> parts.optional "dotnet" .text

/-- Decode a parameter. -/
def Parameter.decode (setting : Setting) : Decoder Parameter :=
  Decoder.record ["name", "type", "optional", "variadic", "docs"] fun parts =>
    Parameter.mk <$> parts.required "name" .text
      <*> parts.required "type" (TypeRef.decode setting)
      <*> parts.flag "optional"
      <*> parts.flag "variadic"
      <*> parts.withDefault "docs" Docs.decode {}

/-- Decode the initializer of a class. -/
def Initializer.decode (setting : Setting) : Decoder Initializer :=
  Decoder.record ["docs", "protected", "parameters"] fun parts =>
    Initializer.mk <$> parts.withDefault "docs" Docs.decode {}
      <*> parts.flag "protected"
      <*> parts.optional "parameters" (Parameter.decode setting).list

/-- Decode a method. -/
def Method.decode (setting : Setting) : Decoder Method :=
  Decoder.record ["name", "docs", "static", "protected", "parameters", "returns"] fun parts =>
    Method.mk <$> parts.required "name" .text
      <*> parts.withDefault "docs" Docs.decode {}
      <*> parts.flag "static"
      <*> parts.flag "protected"
      <*> parts.optional "parameters" (Parameter.decode setting).list
      <*> parts.optional "returns" (TypeRef.decode setting)

/-- Decode a property. -/
def Property.decode (setting : Setting) : Decoder Property :=
  Decoder.record ["name", "docs", "type", "optional", "static", "immutable", "const", "protected"]
    fun parts =>
      Property.mk <$> parts.required "name" .text
        <*> parts.withDefault "docs" Docs.decode {}
        <*> parts.required "type" (TypeRef.decode setting)
        <*> parts.flag "optional"
        <*> parts.flag "static"
        <*> parts.flag "immutable"
        <*> parts.flag "const"
        <*> parts.flag "protected"

/-- Decode a member of an enumeration. -/
def EnumMember.decode : Decoder EnumMember :=
  Decoder.record ["name", "docs"] fun parts =>
    EnumMember.mk <$> parts.required "name" .text <*> parts.withDefault "docs" Docs.decode {}

/-! ## Types -/

/-- The body of a class among the fields of its type. -/
def ClassBody.ofParts (parts : Parts) : Slot ClassBody :=
  ClassBody.mk <$> parts.optional "base" .text
    <*> parts.list "interfaces" .text
    <*> parts.optional "initializer" (Initializer.decode .inGraph)
    <*> parts.list "methods" (Method.decode .inGraph)
    <*> parts.list "properties" (Property.decode .inGraph)

/-- The body of an interface among the fields of its type. -/
def InterfaceBody.ofParts (parts : Parts) : Slot InterfaceBody :=
  InterfaceBody.mk <$> parts.flag "datatype"
    <*> parts.list "interfaces" .text
    <*> parts.list "methods" (Method.decode .inGraph)
    <*> parts.list "properties" (Property.decode .inGraph)

/-- The body of an enumeration among the fields of its type. -/
def EnumBody.ofParts (parts : Parts) : Slot EnumBody :=
  EnumBody.mk <$> parts.list "members" EnumMember.decode

/-- The kinds of types, by name or by number. -/
inductive TypeKind where
  | classKind
  | interfaceKind
  | enumKind

/-- Decode the kind of a type. -/
def TypeKind.decode : Decoder TypeKind
  | .text (.ok "class") | .number (.ok "0") => .ok .classKind
  | .text (.ok "interface") | .number (.ok "1") => .ok .interfaceKind
  | .text (.ok "enum") | .number (.ok "2") => .ok .enumKind
  | other => .error other.mismatch

/-- The body of a type, of the kind that its fields tell. -/
def TypeBody.ofParts (parts : Parts) : Slot TypeBody :=
  match parts.required "kind" TypeKind.decode with
  | .ok .classKind => .ofClass <$> ClassBody.ofParts parts
  | .ok .interfaceKind => .ofInterface <$> InterfaceBody.ofParts parts
  | .ok .enumKind => .ofEnum <$> EnumBody.ofParts parts
  | .error e => .error e

/-- The fault in a value that is read as a whole. -/
def wholeFault? (reading : Reading) : Option Fault :=
  match reading.whole with
  | .ok _ => none
  | .error fault => some fault

/-- The body of a type, decoded behind the closing brace, where only its shape can be wrong. -/
def TypeBody.behind (parts : Parts) : Slot TypeBody :=
  match TypeBody.ofParts parts with
  | .ok body => .ok body
  | .error _ => .error (parts.size + 2, .misshapen)

/-- Decode a type. -/
def TypeDecl.decode : Decoder TypeDecl
  | .object fields ended =>
    let parts : Parts := ⟨["fqn", "name", "namespace", "docs"], .named fields ended⟩
    let slot : Slot TypeDecl :=
      TypeDecl.mk <$> parts.required "fqn" .text
        <*> parts.required "name" .text
        <*> parts.optional "namespace" .text
        <*> parts.withDefault "docs" Docs.decode {}
        <*> TypeBody.behind parts
    (slot <* parts.closed wholeFault?).value
  | .buried .curly _ => .error .malformed
  | other => .error other.mismatch

/-! ## Libraries -/

/-- Decode a sub-module. -/
def Submodule.decode : Decoder Submodule :=
  Decoder.record ["name", "readme"] fun parts =>
    Submodule.mk <$> parts.required "name" .text <*> parts.optional "readme" .text

/-- Decode a dependency. -/
def Dependency.decode : Decoder Dependency :=
  Decoder.record ["name", "targets", "types"] fun parts =>
    Dependency.mk <$> parts.required "name" .text
      <*> parts.withDefault "targets" Targets.decode {}
      <*> parts.list "types" TypeDecl.decode

/-- Decode a graph. -/
def Graph.decode : Decoder Graph :=
  Decoder.record ["name", "version", "readme", "targets", "submodules", "types", "dependencies"]
    fun parts =>
      Graph.mk <$> parts.required "name" .text
        <*> parts.optional "version" .text
        <*> parts.optional "readme" .text
        <*> parts.withDefault "targets" Targets.decode {}
        <*> parts.list "submodules" Submodule.decode
        <*> parts.list "types" TypeDecl.decode
        <*> parts.list "dependencies" Dependency.decode

/-- The graph that a text describes, or the first fault in the text. -/
def Graph.ofText (s : String) : Except Fault Graph := Decoder.ofText Graph.decode s

end ApiDocs
