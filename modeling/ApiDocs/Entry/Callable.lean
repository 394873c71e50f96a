import ApiDocs.Entry.Member

/-!
# Initializers, methods and functions

The entries that show a snippet.  A snippet that has to stand on its own, because it names a type,
comes under the line that imports the type; a call on an instance does not.  Where the convention
cannot express the snippet the entry goes without and a diagnostic says why.
-/

namespace ApiDocs

/-- A snippet under the import of the type that it names. -/
def Context.withImport (ctx : Context) (fqn snippet : String) : String :=
  ctx.importLine fqn ++ "\n\n" ++ snippet

/-! ## Initializers -/

/-- What the initializer of a class shows. -/
structure InitializerEntry where
  id : String
  language : Language
  snippet : Option String
  parameters : List ParameterEntry
  docs : Docs

namespace InitializerEntry

/-- Build the entry of the initializer of the class of a full name. -/
def build (ctx : Context) (fqn : String) (i : Initializer) : Build InitializerEntry := do
  let id := Name.initializerId fqn
  let parameters ← Build.requireParameters fqn "Initializer" i.parameters
  let snippet ← Build.snippet id
    (ctx.convention.construction (ctx.typeName fqn) (ctx.formals parameters))
  return {
    id := id
    language := ctx.options.language
    snippet := snippet.map (ctx.withImport fqn)
    parameters := parameters.map (ParameterEntry.of ctx id)
    docs := i.docs }

/-- The section of an initializer, whose title is the same for all. -/
def toSection (e : InitializerEntry) : Section :=
  { id := some e.id
    header := some { title := "Initializer" }
    blocks := snippetBlocks e.language e.snippet ++ docsBlocks e.docs ++
      e.parameters.flatMap (·.toSection.asBlocks) }

/-- The record of an initializer. -/
def toRecord (e : InitializerEntry) : InitializerRecord :=
  ⟨e.id, e.snippet, e.parameters.map (·.toRecord)⟩

end InitializerEntry

/-! ## Methods and functions -/

/-- What a method of an instance or a function of the type itself shows. -/
structure CallableEntry where
  id : String
  /-- The name in the graph, by which callables are sorted. -/
  name : String
  displayName : String
  language : Language
  snippet : Option String
  /-- The type of the result, as the document has it and by full names. -/
  returns : Option (String × String)
  parameters : List ParameterEntry
  docs : Docs

namespace CallableEntry

/-- Build the entry of a method of the type of a full name. -/
def build (ctx : Context) (fqn : String) (m : Method) : Build CallableEntry := do
  let id := Name.extend fqn m.name
  let parameters ← Build.requireParameters fqn m.name m.parameters
  let displayName := ctx.memberName .method m.name
  let snippet ← Build.snippet id
    (ctx.convention.invocation (ctx.typeName fqn) displayName m.isStatic (ctx.formals parameters))
  return {
    id := id
    name := m.name
    displayName := displayName
    language := ctx.options.language
    snippet := if m.isStatic then snippet.map (ctx.withImport fqn) else snippet
    returns := m.returns.map fun type => (ctx.typeText type, ctx.displayType type)
    parameters := parameters.map (ParameterEntry.of ctx id)
    docs := m.docs }

/-- Build the entries of the methods that satisfy a condition, by name.  They are built in the order
of the graph and sorted afterwards. -/
def buildSorted (ctx : Context) (fqn : String) (keep : Method → Bool) (methods : List Method) :
    Build (List CallableEntry) := do
  let entries ← (methods.filter keep).mapM (build ctx fqn)
  return Name.sortOn name entries

/-- The methods of instances that are not protected. -/
def instanceMethods (ctx : Context) (fqn : String) (methods : List Method) :
    Build (List CallableEntry) :=
  buildSorted ctx fqn (fun m => !m.isProtected && !m.isStatic) methods

/-- The functions of the type itself that are not protected. -/
def staticFunctions (ctx : Context) (fqn : String) (methods : List Method) :
    Build (List CallableEntry) :=
  buildSorted ctx fqn (fun m => !m.isProtected && m.isStatic) methods

/-- The section of a callable. -/
def toSection (e : CallableEntry) : Section :=
  entitySection e.displayName true e.id e.docs <|
    snippetBlocks e.language e.snippet ++ labelled? "Returns:" (e.returns.map (·.1)) ++
      docsBlocks e.docs ++ e.parameters.flatMap (·.toSection.asBlocks)

/-- The record of a callable. -/
def toRecord (e : CallableEntry) : CallableRecord where
  id := e.id
  displayName := e.displayName
  snippet := e.snippet
  returns := e.returns.map (·.2)
  parameters := e.parameters.map (·.toRecord)
  docs := e.docs.record
  deprecation := e.docs.deprecation

end CallableEntry

end ApiDocs
