import ApiDocs.Entry.Callable

/-!
# Classes, structs, interfaces and enumerations

The entries of types.  Members are sorted by the names that they have in the graph, so their order
is the same in every language; parameters keep their places.  Titled groups hold the members in the
document, and a group without members is left out.
-/

namespace ApiDocs

/-! ## Classes -/

/-- What a class shows. -/
structure ClassEntry where
  id : String
  fqn : String
  displayName : String
  interfaces : List Linked
  docs : Docs
  initializer : Option InitializerEntry
  instanceMethods : List CallableEntry
  staticFunctions : List CallableEntry
  properties : List PropertyEntry
  constants : List PropertyEntry

namespace ClassEntry

/-- Build the entry of the initializer of a class, unless it is protected or there is none. -/
def buildInitializer (ctx : Context) (fqn : String) :
    Option Initializer → Build (Option InitializerEntry)
  | some i => if i.isProtected then pure none else some <$> InitializerEntry.build ctx fqn i
  | none => pure none

/-- Build the entry of a class. -/
def build (ctx : Context) (t : TypeDecl) (body : ClassBody) : Build ClassEntry := do
  let name := ctx.typeName t.fqn
  let initializer ← buildInitializer ctx t.fqn body.initializer
  let instanceMethods ← CallableEntry.instanceMethods ctx t.fqn body.methods
  let staticFunctions ← CallableEntry.staticFunctions ctx t.fqn body.methods
  return {
    id := t.fqn
    fqn := name.qualified
    displayName := name.short
    interfaces := body.interfaces.map ctx.linked
    docs := t.docs
    initializer := initializer
    instanceMethods := instanceMethods
    staticFunctions := staticFunctions
    properties := PropertyEntry.properties ctx t.fqn body.properties
    constants := PropertyEntry.constants ctx t.fqn body.properties }

/-- The section of a class. -/
def toSection (e : ClassEntry) : Section :=
  entitySection e.displayName false e.id e.docs <|
    linkedBlocks "Implements:" e.interfaces ++ docsBlocks e.docs ++
      e.initializer.toList.flatMap (·.toSection.asBlocks) ++
      (group "Methods" (e.instanceMethods.map (·.toSection))).asBlocks ++
      (group "Static Functions" (e.staticFunctions.map (·.toSection))).asBlocks ++
      (group "Properties" (e.properties.map (·.toSection))).asBlocks ++
      (group "Constants" (e.constants.map (·.toSection))).asBlocks

/-- The record of a class. -/
def toRecord (e : ClassEntry) : ClassRecord where
  id := e.id
  fqn := e.fqn
  displayName := e.displayName
  interfaces := e.interfaces.map (·.link)
  docs := e.docs.record
  deprecation := e.docs.deprecation
  initializer := e.initializer.map (·.toRecord)
  instanceMethods := e.instanceMethods.map (·.toRecord)
  staticFunctions := e.staticFunctions.map (·.toRecord)
  properties := e.properties.map (·.toRecord)
  constants := e.constants.map (·.toRecord)

end ClassEntry

/-! ## Structs -/

/-- What an interface without behaviour shows: how a record of it is filled, and its fields. -/
structure StructEntry where
  id : String
  fqn : String
  displayName : String
  docs : Docs
  initializerId : String
  language : Language
  snippet : Option String
  properties : List PropertyEntry

namespace StructEntry

/-- Build the entry of a struct. -/
def build (ctx : Context) (t : TypeDecl) (body : InterfaceBody) : Build StructEntry := do
  let name := ctx.typeName t.fqn
  let properties := PropertyEntry.properties ctx t.fqn body.properties
  let initializerId := Name.initializerId t.fqn
  let snippet ← Build.snippet initializerId
    (ctx.convention.population name (properties.map (·.toFormal)))
  return {
    id := t.fqn
    fqn := name.qualified
    displayName := name.short
    docs := t.docs
    initializerId := initializerId
    language := ctx.options.language
    snippet := snippet.map (ctx.withImport t.fqn)
    properties := properties }

/-- The section that shows how a record is filled. -/
def initializerSection (e : StructEntry) : Section :=
  { id := some e.initializerId
    header := some { title := "Initializer" }
    blocks := snippetBlocks e.language e.snippet }

/-- The section of a struct. -/
def toSection (e : StructEntry) : Section :=
  entitySection e.displayName false e.id e.docs <|
    docsBlocks e.docs ++ e.initializerSection.asBlocks ++
      (group "Properties" (e.properties.map (·.toSection))).asBlocks

/-- The record of a struct. -/
def toRecord (e : StructEntry) : StructRecord where
  id := e.id
  fqn := e.fqn
  displayName := e.displayName
  docs := e.docs.record
  deprecation := e.docs.deprecation
  initializer := ⟨e.initializerId, e.snippet, []⟩
  properties := e.properties.map (·.toRecord)

end StructEntry

/-! ## Interfaces -/

/-- What an interface shows. -/
structure InterfaceEntry where
  id : String
  fqn : String
  displayName : String
  interfaces : List Linked
  implementations : List Linked
  docs : Docs
  instanceMethods : List CallableEntry
  properties : List PropertyEntry

namespace InterfaceEntry

/-- The types that implement or extend an interface, by simple name. -/
def implementors (ctx : Context) (fqn : String) : List Linked :=
  (Name.sortOn TypeDecl.name (ctx.graph.implementationsOf fqn)).map fun t => ctx.linked t.fqn

/-- Build the entry of an interface. -/
def build (ctx : Context) (t : TypeDecl) (body : InterfaceBody) : Build InterfaceEntry := do
  let name := ctx.typeName t.fqn
  let instanceMethods ← CallableEntry.instanceMethods ctx t.fqn body.methods
  return {
    id := t.fqn
    fqn := name.qualified
    displayName := name.short
    interfaces := body.interfaces.map ctx.linked
    implementations := implementors ctx t.fqn
    docs := t.docs
    instanceMethods := instanceMethods
    properties := PropertyEntry.properties ctx t.fqn body.properties }

/-- The section of an interface. -/
def toSection (e : InterfaceEntry) : Section :=
  entitySection e.displayName false e.id e.docs <|
    linkedBlocks "Extends:" e.interfaces ++ linkedBlocks "Implemented By:" e.implementations ++
      docsBlocks e.docs ++ (group "Methods" (e.instanceMethods.map (·.toSection))).asBlocks ++
      (group "Properties" (e.properties.map (·.toSection))).asBlocks

/-- The record of an interface. -/
def toRecord (e : InterfaceEntry) : InterfaceRecord where
  id := e.id
  fqn := e.fqn
  displayName := e.displayName
  interfaces := e.interfaces.map (·.link)
  implementations := e.implementations.map (·.link)
  docs := e.docs.record
  deprecation := e.docs.deprecation
  instanceMethods := e.instanceMethods.map (·.toRecord)
  properties := e.properties.map (·.toRecord)

end InterfaceEntry

/-! ## Enumerations -/

/-- What an enumeration shows. -/
structure EnumEntry where
  id : String
  fqn : String
  displayName : String
  docs : Docs
  members : List EnumMemberEntry

namespace EnumEntry

/-- The entry of an enumeration. -/
def of (ctx : Context) (t : TypeDecl) (body : EnumBody) : EnumEntry :=
  let name := ctx.typeName t.fqn
  { id := t.fqn
    fqn := name.qualified
    displayName := name.short
    docs := t.docs
    members := Name.sortOn EnumMemberEntry.name (body.members.map (EnumMemberEntry.of ctx t.fqn)) }

/-- The section of an enumeration. -/
def toSection (e : EnumEntry) : Section :=
  entitySection e.displayName false e.id e.docs <|
    docsBlocks e.docs ++ (group "Members" (e.members.map (·.toSection))).asBlocks

/-- The record of an enumeration. -/
def toRecord (e : EnumEntry) : EnumRecord where
  id := e.id
  fqn := e.fqn
  displayName := e.displayName
  docs := e.docs.record
  deprecation := e.docs.deprecation
  members := e.members.map (·.toRecord)

end EnumEntry

end ApiDocs
