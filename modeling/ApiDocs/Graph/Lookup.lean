import ApiDocs.Error
import ApiDocs.Graph.Basic
import ApiDocs.Name.Order

/-!
# Looking things up in a graph

A full name is resolved in three steps: among the assembly's own types, then among those of its
dependencies in their order, and where no graph describes the type, from the name itself.  Of types
that share a name the first one counts.
-/

namespace ApiDocs

/-! ## Identities -/

/-- All that is needed to name a type and to import it. -/
structure TypeIdentity where
  /-- The full name. -/
  fqn : String
  /-- The simple name. -/
  name : String
  /-- The assembly that declares it. -/
  assembly : String
  /-- The dotted path of its sub-module, if any. -/
  submodule : Option String := none
  /-- The names of the assembly in other languages. -/
  targets : Targets := {}
  deriving DecidableEq

/-- The identity that a full name shows by itself: its first part is the assembly, its last part the
simple name, and what stands between them the sub-module. -/
def TypeIdentity.ofFqn (fqn : String) : TypeIdentity :=
  let parts := (fqn.toList.splitOn '.').map String.ofList
  { fqn := fqn
    name := parts.getLastD fqn
    assembly := parts.headD fqn
    submodule := if 2 < parts.length then some (".".intercalate parts.tail.dropLast) else none }

/-- The identity of a type that an assembly declares. -/
def TypeDecl.identity (t : TypeDecl) (assembly : String) (targets : Targets) : TypeIdentity :=
  ⟨t.fqn, t.name, assembly, t.submodule, targets⟩

/-- The identity of the type of a full name in a dependency. -/
def Dependency.identity? (d : Dependency) (fqn : String) : Option TypeIdentity :=
  (d.types.find? (·.fqn == fqn)).map (·.identity d.name d.targets)

namespace Graph

/-! ## Types -/

/-- The assembly's own type of a full name. -/
def local? (g : Graph) (fqn : String) : Option TypeDecl := g.types.find? (·.fqn == fqn)

/-- The types of the dependencies, in their order. -/
def foreignTypes (g : Graph) : List TypeDecl := g.dependencies.flatMap (·.types)

/-- Every type that the graph describes. -/
def allTypes (g : Graph) : List TypeDecl := g.types ++ g.foreignTypes

/-- The type of a full name. -/
def find? (g : Graph) (fqn : String) : Option TypeDecl :=
  (g.local? fqn).or (g.foreignTypes.find? (·.fqn == fqn))

/-- Whether the assembly itself declares a type of the full name. -/
def isLocal (g : Graph) (fqn : String) : Bool := g.types.any (·.fqn == fqn)

/-- The identity that a full name shows by itself, with the targets of the dependency that its
assembly names. -/
def foreignIdentity (g : Graph) (fqn : String) : TypeIdentity :=
  let identity := TypeIdentity.ofFqn fqn
  match g.dependencies.find? (·.name == identity.assembly) with
  | some d => { identity with targets := d.targets }
  | none => identity

/-- The identity of the type of a full name. -/
def identity (g : Graph) (fqn : String) : TypeIdentity :=
  match g.local? fqn with
  | some t => t.identity g.name g.targets
  | none => (g.dependencies.findSome? (·.identity? fqn)).getD (g.foreignIdentity fqn)

/-! ## What is found under a name -/

theorem isLocal_eq_isSome_local? (g : Graph) (fqn : String) :
    g.isLocal fqn = (g.local? fqn).isSome := by
  simp [isLocal, local?, List.isSome_find?]

theorem find?_eq_find?_allTypes (g : Graph) (fqn : String) :
    g.find? fqn = g.allTypes.find? (·.fqn == fqn) := by
  simp [find?, local?, allTypes, List.find?_append]

/-- What is found under a full name has that name. -/
theorem fqn_of_find? {g : Graph} {fqn : String} {t : TypeDecl} (h : g.find? fqn = some t) :
    t.fqn = fqn := by
  rw [find?_eq_find?_allTypes] at h
  simpa using List.find?_some h

/-- An identity keeps the full name that it was asked for, whichever step has found it. -/
theorem fqn_identity (g : Graph) (fqn : String) : (g.identity fqn).fqn = fqn := by
  unfold identity
  split
  · next t h =>
    have : t.fqn = fqn := by simpa using List.find?_some h
    exact this
  · cases h : g.dependencies.findSome? (·.identity? fqn) with
    | none =>
      simp only [Option.getD_none, foreignIdentity]
      split <;> rfl
    | some i =>
      obtain ⟨d, _, hd⟩ := List.exists_of_findSome?_eq_some h
      obtain ⟨t, ht, rfl⟩ := Option.map_eq_some_iff.1 hd
      have : t.fqn = fqn := by simpa using List.find?_some ht
      exact this

/-! ## Interfaces -/

/-- The assembly's own types that implement or extend an interface, in the order of the graph. -/
def implementationsOf (g : Graph) (fqn : String) : List TypeDecl :=
  g.types.filter (·.interfaces.contains fqn)

/-! ## Modules -/

/-- Whether a sub-module of the name is declared or used. -/
def hasSubmodule (g : Graph) (name : String) : Bool :=
  g.submodules.any (·.name == name) || g.types.any (·.submodule == some name)

/-- The types of a sub-module, or those of the root. -/
def moduleTypes (g : Graph) (submodule : Option String) : Except RenderError (List TypeDecl) :=
  let types := g.types.filter (·.submodule == submodule)
  match submodule with
  | some name =>
    if g.hasSubmodule name then .ok types else .error (.unknownSubmodule g.name name)
  | none => .ok types

/-- The readme of a sub-module, or that of the assembly. -/
def readmeFor (g : Graph) : Option String → Option String
  | none => g.readme
  | some name => (g.submodules.find? (·.name == name)).bind (·.readme)

end Graph

end ApiDocs
