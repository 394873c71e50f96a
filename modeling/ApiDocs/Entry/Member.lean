import ApiDocs.Entry.Heading

/-!
# Parameters, properties and enumeration members

The entries that have no other entries in them.
-/

namespace ApiDocs

/-! ## Parameters -/

/-- What a parameter shows. -/
structure ParameterEntry where
  id : String
  displayName : String
  /-- The type as the document has it. -/
  typeText : String
  /-- The type by full names. -/
  type : String
  isOptional : Bool
  isVariadic : Bool
  docs : Docs

namespace ParameterEntry

/-- The entry of a parameter of the callable with the identifier. -/
def of (ctx : Context) (callable : String) (p : Parameter) : ParameterEntry where
  id := Name.parameterId callable p.name
  displayName := ctx.memberName .parameter p.name
  typeText := ctx.typeText p.type
  type := ctx.displayType p.type
  isOptional := p.isOptional
  isVariadic := p.isVariadic
  docs := p.docs

/-- The section of a parameter. -/
def toSection (e : ParameterEntry) : Section :=
  entitySection e.displayName true e.id e.docs <|
    labelled "Type:" e.typeText ::
      (mark? "Optional" e.isOptional ++ mark? "Variadic" e.isVariadic ++
        labelled? "Default:" e.docs.default ++ docsBlocks e.docs)

/-- The record of a parameter. -/
def toRecord (e : ParameterEntry) : ParameterRecord where
  id := e.id
  displayName := e.displayName
  type := e.type
  isOptional := e.isOptional
  isVariadic := e.isVariadic
  default := e.docs.default
  docs := e.docs.record
  deprecation := e.docs.deprecation

end ParameterEntry

/-! ## Properties -/

/-- What a property or constant shows. -/
structure PropertyEntry where
  id : String
  /-- The name in the graph, by which properties are sorted. -/
  name : String
  displayName : String
  typeText : String
  type : String
  /-- The type by short names. -/
  signatureType : String
  isOptional : Bool
  docs : Docs

namespace PropertyEntry

/-- The entry of a property of the type of a full name. -/
def of (ctx : Context) (fqn : String) (p : Property) : PropertyEntry where
  id := Name.extend fqn p.name
  name := p.name
  displayName := ctx.memberName .property p.name
  typeText := ctx.typeText p.type
  type := ctx.displayType p.type
  signatureType := ctx.signatureType p.type
  isOptional := p.isOptional
  docs := p.docs

/-- The entries of the properties that satisfy a condition, by name. -/
def sorted (ctx : Context) (fqn : String) (keep : Property → Bool) (properties : List Property) :
    List PropertyEntry :=
  Name.sortOn name ((properties.filter keep).map (of ctx fqn))

/-- The properties that are shown as such: neither protected nor constant. -/
def properties (ctx : Context) (fqn : String) (all : List Property) : List PropertyEntry :=
  sorted ctx fqn (fun p => !p.isProtected && !p.isConstant) all

/-- The properties that are shown as constants: constant and not protected. -/
def constants (ctx : Context) (fqn : String) (all : List Property) : List PropertyEntry :=
  sorted ctx fqn (fun p => !p.isProtected && p.isConstant) all

/-- The property as a field that a snippet fills. -/
def toFormal (e : PropertyEntry) : Formal := ⟨e.displayName, e.signatureType, e.isOptional, false⟩

/-- The section of a property. -/
def toSection (e : PropertyEntry) : Section :=
  entitySection e.displayName true e.id e.docs <|
    labelled "Type:" e.typeText ::
      (mark? "Optional" e.isOptional ++ labelled? "Default:" e.docs.default ++ docsBlocks e.docs)

/-- The record of a property. -/
def toRecord (e : PropertyEntry) : PropertyRecord where
  id := e.id
  displayName := e.displayName
  type := e.type
  isOptional := e.isOptional
  default := e.docs.default
  docs := e.docs.record
  deprecation := e.docs.deprecation

end PropertyEntry

/-! ## Enumeration members -/

/-- What a member of an enumeration shows. -/
structure EnumMemberEntry where
  id : String
  /-- The name in the graph, by which members are sorted. -/
  name : String
  displayName : String
  docs : Docs

namespace EnumMemberEntry

/-- The entry of a member of the enumeration of a full name. -/
def of (ctx : Context) (fqn : String) (m : EnumMember) : EnumMemberEntry where
  id := Name.extend fqn m.name
  name := m.name
  displayName := ctx.memberName .enumMember m.name
  docs := m.docs

/-- The section of an enumeration member. -/
def toSection (e : EnumMemberEntry) : Section :=
  entitySection e.displayName true e.id e.docs (docsBlocks e.docs)

/-- The record of an enumeration member. -/
def toRecord (e : EnumMemberEntry) : EnumMemberRecord where
  id := e.id
  displayName := e.displayName
  docs := e.docs.record
  deprecation := e.docs.deprecation

end EnumMemberEntry

end ApiDocs
