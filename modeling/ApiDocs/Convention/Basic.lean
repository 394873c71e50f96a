import ApiDocs.Graph.Lookup

/-!
# Conventions

How one language names things and writes them down: a member's name, a type's name, an import, the
built-in types and what is built from them, and three kinds of snippet.  A `Convention` is a record
of such rules and knows nothing of documents; whoever writes a document takes one and never asks
whose it is.

Spelling a type reference is the one rule that all conventions share.  It goes through the reference
from left to right, leaves each named type to a caller, and builds the text from what the caller
answers.  The caller may keep a state, so `spellM` runs in any monad.
-/

namespace ApiDocs

/-- What a member's name stands for. -/
inductive MemberKind where
  | method
  | property
  | parameter
  | enumMember
  deriving DecidableEq

/-- A type as a convention names it. -/
structure TypeName where
  /-- The full name in the graph. -/
  source : String
  /-- The full name in the language. -/
  qualified : String
  /-- The name under which an imported type is used. -/
  short : String
  deriving DecidableEq

/-- A parameter or field as a snippet shows it. -/
structure Formal where
  name : String
  type : String
  isOptional : Bool := false
  isVariadic : Bool := false
  deriving DecidableEq

/-- A snippet, or the construct that the language cannot express. -/
abbrev Snippet := Except Unsupported String

/-- The rules of a language. -/
structure Convention where
  language : Language
  /-- A member's name. -/
  memberName : MemberKind → String → String
  /-- A type's name. -/
  typeName : TypeIdentity → TypeName
  /-- The line that imports a type. -/
  importLine : TypeIdentity → String
  /-- A built-in type. -/
  primitive : Primitive → String
  /-- A list of a type. -/
  array : String → String
  /-- A map from texts to a type. -/
  map : String → String
  /-- One of several types. -/
  union : List String → String
  /-- How an instance of a class is made. -/
  construction : TypeName → List Formal → Snippet
  /-- How a record is filled. -/
  population : TypeName → List Formal → Snippet
  /-- How a method is called; one of the type itself is called through the type. -/
  invocation : TypeName → String → Bool → List Formal → Snippet

namespace Convention

/-! ## Type references -/

mutual

/-- A reference in the convention, each named type as the caller writes it. -/
def spellM [Monad m] (c : Convention) (named : String → m String) : TypeRef → m String
  | .primitive p => pure (c.primitive p)
  | .named fqn => named fqn
  | .array element => do return c.array (← spellM c named element)
  | .map value => do return c.map (← spellM c named value)
  | .union options => do return c.union (← spellOptionsM c named options)

/-- The options of a union in the convention. -/
def spellOptionsM [Monad m] (c : Convention) (named : String → m String) :
    List TypeRef → m (List String)
  | [] => pure []
  | option :: rest => do
    let spelled ← spellM c named option
    return spelled :: (← spellOptionsM c named rest)

end

/-- A reference in the convention, each named type under a fixed text. -/
def spell (c : Convention) (named : String → String) (reference : TypeRef) : String :=
  Id.run (c.spellM (fun fqn => pure (named fqn)) reference)

section

variable (c : Convention) (named : String → String)

@[simp] theorem spell_primitive (p : Primitive) :
    c.spell named (.primitive p) = c.primitive p := by
  simp [spell, spellM]

@[simp] theorem spell_named (fqn : String) : c.spell named (.named fqn) = named fqn := by
  simp [spell, spellM]

@[simp] theorem spell_array (element : TypeRef) :
    c.spell named (.array element) = c.array (c.spell named element) := by
  simp [spell, spellM]

@[simp] theorem spell_map (value : TypeRef) :
    c.spell named (.map value) = c.map (c.spell named value) := by
  simp [spell, spellM]

theorem run_spellOptionsM (options : List TypeRef) :
    Id.run (c.spellOptionsM (fun fqn => pure (named fqn)) options) =
      options.map (c.spell named) := by
  induction options with
  | nil => simp [spellOptionsM]
  | cons option rest ih => simp [spellOptionsM, ih, spell]

@[simp] theorem spell_union (options : List TypeRef) :
    c.spell named (.union options) = c.union (options.map (c.spell named)) := by
  simp [spell, spellM, run_spellOptionsM]

end

end Convention

/-! ## Variadic parameters -/

/-- The first variadic parameter that has others behind it. -/
def earlyVariadic? (parameters : List Formal) : Option Formal :=
  parameters.dropLast.find? (·.isVariadic)

/-- A snippet in a language that wants variadic parameters last. -/
def whenTrailing (language : Language) (parameters : List Formal) (snippet : String) : Snippet :=
  match earlyVariadic? parameters with
  | some p => .error (.earlyVariadic language p.name)
  | none => .ok snippet

end ApiDocs
