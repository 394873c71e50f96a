import ApiDocs.Convention.Choice
import ApiDocs.Document.Section
import ApiDocs.Name.Identifier
import ApiDocs.Record.Basic

/-!
# What an entry is built from

A `Context` is the graph together with what the reader of the reference asked for.  It answers how a
type is named, spelled and linked.  Nothing in it changes while a reference is built.

What does change is the list of diagnostics.  `Build` carries it along, and it also carries the one
failure that can stop a build.  A diagnostic that was recorded before the failure stays recorded.
-/

namespace ApiDocs

/-- What the reader of a reference asks for. -/
structure Options where
  language : Language := .typeScript
  /-- The sub-module to show in place of the root. -/
  submodule : Option String := none
  /-- Whether the readme stands before the reference. -/
  showsReadme : Bool := false
  /-- The title of the reference. -/
  title : String := "API Reference"
  /-- The targets of links to the assembly's own types, if not their anchors. -/
  linkTarget? : Option (TypeName → String) := none

/-- The target of a link to one of the assembly's own types. -/
def Options.linkTarget (o : Options) (name : TypeName) : String :=
  match o.linkTarget? with
  | some target => target name
  | none => "#" ++ name.source

/-- A graph and what the reader asks of it. -/
structure Context where
  graph : Graph
  options : Options

namespace Context

/-- The convention that names and snippets follow. -/
def convention (ctx : Context) : Convention := ctx.options.language.convention

/-! ## Naming -/

/-- The type of a full name, as the convention names it. -/
def typeName (ctx : Context) (fqn : String) : TypeName :=
  ctx.convention.typeName (ctx.graph.identity fqn)

/-- The import of the type of a full name. -/
def importLine (ctx : Context) (fqn : String) : String :=
  ctx.convention.importLine (ctx.graph.identity fqn)

/-- A member's name. -/
def memberName (ctx : Context) (kind : MemberKind) (name : String) : String :=
  ctx.convention.memberName kind name

/-! ## Spelling -/

/-- A reference by short names, as a snippet has it. -/
def signatureType (ctx : Context) (reference : TypeRef) : String :=
  ctx.convention.spell (fun fqn => (ctx.typeName fqn).short) reference

/-- A reference by full names. -/
def displayType (ctx : Context) (reference : TypeRef) : String :=
  ctx.convention.spell (fun fqn => (ctx.typeName fqn).qualified) reference

/-- A reference with each named type as `link` writes it, which is told whether the assembly itself
declares the type. -/
def linkedType (ctx : Context) (link : TypeName → Bool → String) (reference : TypeRef) : String :=
  ctx.convention.spell (fun fqn => link (ctx.typeName fqn) (ctx.graph.isLocal fqn)) reference

/-- The parameters of a callable as a snippet shows them. -/
def formals (ctx : Context) (parameters : List Parameter) : List Formal :=
  parameters.map fun p =>
    ⟨ctx.memberName .parameter p.name, ctx.signatureType p.type, p.isOptional, p.isVariadic⟩

/-! ## Linking -/

/-- A type's name, which links to the type if the assembly itself declares it. -/
def link (ctx : Context) (name : TypeName) (isLocal : Bool) : String :=
  let text := Inline.code name.qualified
  if isLocal then Inline.link text (ctx.options.linkTarget name) else text

/-- The type of a full name, linked if the assembly itself declares it. -/
def linkTo (ctx : Context) (fqn : String) : String :=
  ctx.link (ctx.typeName fqn) (ctx.graph.isLocal fqn)

/-- A reference as the document has it: its named types linked, or as code where it names none. -/
def typeText (ctx : Context) (reference : TypeRef) : String :=
  if reference.names.isEmpty then Inline.code (ctx.displayType reference)
  else ctx.linkedType ctx.link reference

end Context

/-! ## Building -/

/-- The snippets that were left out so far, in the order in which they were met. -/
abbrev Diagnostics := List Diagnostic

/-- A step in building a reference. -/
abbrev Build := ExceptT RenderError (StateM Diagnostics)

namespace Build

/-- Run a build after the given diagnostics. -/
def runFrom (build : Build α) (diagnostics : Diagnostics) : Except RenderError α × Diagnostics :=
  StateT.run (ExceptT.run build) diagnostics

/-- Keep a snippet, or record why the entity of the identifier has none. -/
def snippet (id : String) : Snippet → Build (Option String)
  | .ok text => pure (some text)
  | .error u => do
    modify (· ++ [Diagnostic.ofUnsupported id u])
    return none

/-- The parameters of a callable, which the graph has to give. -/
def requireParameters (fqn member : String) : Option (List Parameter) → Build (List Parameter)
  | some parameters => pure parameters
  | none => throw (.missingParameters fqn member)

/-! ## What a step does -/

section

variable (diagnostics : Diagnostics)

@[simp] theorem runFrom_pure (a : α) :
    (pure a : Build α).runFrom diagnostics = (.ok a, diagnostics) := rfl

@[simp] theorem runFrom_throw (e : RenderError) :
    (throw e : Build α).runFrom diagnostics = (.error e, diagnostics) := rfl

theorem runFrom_bind (x : Build α) (f : α → Build β) :
    (x >>= f).runFrom diagnostics =
      match x.runFrom diagnostics with
      | (.ok a, recorded) => (f a).runFrom recorded
      | (.error e, recorded) => (.error e, recorded) := by
  simp only [runFrom, ExceptT.run_bind, StateT.run_bind]
  rcases StateT.run (ExceptT.run x) diagnostics with ⟨_ | _, _⟩ <;> rfl

@[simp] theorem runFrom_snippet_ok (id text : String) :
    (snippet id (.ok text)).runFrom diagnostics = (.ok (some text), diagnostics) := rfl

@[simp] theorem runFrom_snippet_error (id : String) (u : Unsupported) :
    (snippet id (.error u)).runFrom diagnostics =
      (.ok none, diagnostics ++ [Diagnostic.ofUnsupported id u]) := rfl

end

end Build

end ApiDocs
