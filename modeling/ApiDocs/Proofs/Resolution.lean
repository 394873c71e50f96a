import ApiDocs.Graph.Lookup
import ApiDocs.Proofs.Lists

/-!
# Where a full name leads

Three questions are asked about a full name: which type has it, whether the assembly itself declares
that type, and under which identity the type is written down.  Each is answered by a search of its
own.  The type is searched for among the types of all dependencies as one list, the identity
dependency by dependency.  Nothing keeps a graph from declaring a name twice, so the answers fit
together only because all searches stop at the same type.  Outside the assembly that is the first
one in the first dependency that declares the name (`Graph.declaring?`).

A name that no graph describes is its own description: it is taken apart at its dots, and put
together again it is the name (`TypeIdentity.ofFqn_cases`).  Parts may be empty, as in `a..b`.
-/

namespace ApiDocs

/-! ## What an identity tells -/

/-- Whether a dependency declares a type of a full name. -/
def Dependency.declares (d : Dependency) (fqn : String) : Bool := d.types.any (·.fqn == fqn)

/-- The first dependency that declares a type of a full name. -/
def Graph.declaring? (g : Graph) (fqn : String) : Option Dependency :=
  g.dependencies.find? (·.declares fqn)

namespace TypeIdentity

/-- An identity joined by dots: the assembly, the sub-module if there is one, and the name. -/
def dotted (i : TypeIdentity) : String :=
  ".".intercalate (i.assembly :: (i.submodule.toList ++ [i.name]))

/-- An identity tells of a type what the type's declaration and its assembly say. -/
structure IsOf (i : TypeIdentity) (t : TypeDecl) (assembly : String) (targets : Targets) :
    Prop where
  name : i.name = t.name
  submodule : i.submodule = t.submodule
  assembly : i.assembly = assembly
  targets : i.targets = targets

/-- An identity tells what can be read off a full name.  One with dots falls into an assembly and a
name without dots and a sub-module that may have some; one without dots is both assembly and
name. -/
structure IsReadOff (i : TypeIdentity) (fqn : String) : Prop where
  dotted : '.' ∈ fqn.toList → i.dotted = fqn
  plain : '.' ∉ fqn.toList → i.assembly = fqn ∧ i.name = fqn ∧ i.submodule = none
  assembly : '.' ∉ i.assembly.toList
  name : '.' ∉ i.name.toList

lemma isOf_identity (t : TypeDecl) (assembly : String) (targets : Targets) :
    (t.identity assembly targets).IsOf t assembly targets :=
  ⟨rfl, rfl, rfl, rfl⟩

end TypeIdentity

/-! ## Types of dependencies -/

section

variable (g : Graph) (fqn : String)

lemma Dependency.declares_eq_isSome (d : Dependency) :
    d.declares fqn = (d.types.find? (·.fqn == fqn)).isSome := by
  rw [declares, List.isSome_find?]

lemma Dependency.declares_eq_isSome_identity? (d : Dependency) :
    d.declares fqn = (d.identity? fqn).isSome := by
  rw [declares_eq_isSome, identity?, Option.isSome_map]

/-- The type that is found in the dependencies is one of the first that declares the name. -/
lemma Graph.find?_foreignTypes :
    g.foreignTypes.find? (·.fqn == fqn) =
      (g.declaring? fqn).bind fun d => d.types.find? (·.fqn == fqn) := by
  rw [foreignTypes, List.find?_flatMap, findSome?_eq_bind, declaring?]
  simp only [Dependency.declares_eq_isSome]

/-- The identity that is found in the dependencies is the one that the same dependency gives. -/
lemma Graph.findSome?_identity? :
    g.dependencies.findSome? (·.identity? fqn) =
      (g.declaring? fqn).bind fun d => d.identity? fqn := by
  rw [findSome?_eq_bind, declaring?]
  simp only [Dependency.declares_eq_isSome_identity?]

end

/-! ## Names that no graph describes -/

/-- A full name is read in one of two ways.  Without a dot it is assembly and name at once.  With
dots it is an assembly and a name, and a sub-module if anything stands between them. -/
lemma TypeIdentity.ofFqn_cases (fqn : String) :
    ('.' ∉ fqn.toList ∧ ofFqn fqn = ⟨fqn, fqn, fqn, none, {}⟩) ∨
    ∃ assembly middle name, '.' ∉ assembly.toList ∧ '.' ∉ name.toList ∧
      ".".intercalate (assembly :: (middle ++ [name])) = fqn ∧
      ofFqn fqn =
        ⟨fqn, name, assembly, if middle = [] then none else some (".".intercalate middle), {}⟩ := by
  by_cases hdot : '.' ∈ fqn.toList
  · right
    obtain ⟨first, rest, hfqn, hfirst⟩ := List.eq_append_cons_of_mem hdot
    have hparts : fqn.toList.splitOn '.' = first :: rest.splitOn '.' := by
      rw [hfqn, List.splitOn_append_cons_self_of_not_mem hfirst]
    obtain ⟨middle, last, hrest⟩ : ∃ middle last, rest.splitOn '.' = middle ++ [last] :=
      ⟨_, _, (List.dropLast_append_getLast (List.splitOn_ne_nil '.' rest)).symm⟩
    rw [hrest] at hparts
    have hlast : '.' ∉ last := not_mem_of_mem_splitOn rest last (by simp [hrest])
    have hjoined : ['.'].intercalate (first :: (middle ++ [last])) = fqn.toList := by
      rw [← hparts, List.intercalate_splitOn]
    refine ⟨String.ofList first, middle.map String.ofList, String.ofList last, ?_, ?_, ?_, ?_⟩
    · simpa using hfirst
    · simpa using hlast
    · rw [← String.toList_inj, ← hjoined]
      simp [Function.comp_def]
    · have hname : ((first :: (middle ++ [last])).map String.ofList).getLastD fqn =
          String.ofList last := by
        rw [List.map_cons, List.map_append, ← List.cons_append]
        exact List.getLastD_concat
      have hlength : 2 < ((first :: (middle ++ [last])).map String.ofList).length ↔
          middle.map String.ofList ≠ [] := by
        rw [← List.length_pos_iff]
        simp
      rw [ofFqn, hparts, hname]
      simp only [hlength]
      simp
  · left
    refine ⟨hdot, ?_⟩
    rw [ofFqn, List.splitOn_eq_singleton hdot]
    simp

lemma TypeIdentity.isReadOff_ofFqn (fqn : String) : (ofFqn fqn).IsReadOff fqn := by
  obtain ⟨hdot, hread⟩ | ⟨assembly, middle, name, hassembly, hname, hjoined, hread⟩ :=
    ofFqn_cases fqn
  · rw [hread]
    exact ⟨fun h => absurd h hdot, fun _ => ⟨rfl, rfl, rfl⟩, hdot, hdot⟩
  · rw [hread]
    refine ⟨fun _ => ?_, fun hdot => ?_, hassembly, hname⟩
    · cases middle with
      | nil => exact hjoined
      | cons first rest =>
        have hregrouped := intercalate_intercalate (List.cons_ne_nil first rest)
        exact (hregrouped "." _ _).trans hjoined
    · -- joining two parts leaves a dot
      refine absurd ?_ hdot
      rw [← hjoined, String.intercalate_cons_of_ne_nil (by simp)]
      simp

/-! ## The three answers -/

namespace Graph

variable (g : Graph) (fqn : String)

/-- The three ways in which a full name is resolved. -/
lemma resolution_cases :
    (∃ t ∈ g.types, g.isLocal fqn = true ∧ g.find? fqn = some t ∧
      g.identity fqn = t.identity g.name g.targets) ∨
    (∃ d, g.declaring? fqn = some d ∧ ∃ t ∈ d.types, g.isLocal fqn = false ∧
      g.find? fqn = some t ∧ g.identity fqn = t.identity d.name d.targets) ∨
    (g.isLocal fqn = false ∧ g.find? fqn = none ∧ g.identity fqn = g.foreignIdentity fqn) := by
  rw [isLocal_eq_isSome_local?, find?, identity]
  cases hlocal : g.local? fqn with
  | some t => exact .inl ⟨t, List.mem_of_find?_eq_some hlocal, rfl, rfl, rfl⟩
  | none =>
    simp only [Option.none_or, find?_foreignTypes, findSome?_identity?]
    cases hdeclaring : g.declaring? fqn with
    | none => exact .inr (.inr ⟨rfl, rfl, rfl⟩)
    | some d =>
      have hdeclares : d.declares fqn = true := by
        simpa using List.find?_some hdeclaring
      rw [Dependency.declares_eq_isSome, Option.isSome_iff_exists] at hdeclares
      obtain ⟨t, ht⟩ := hdeclares
      refine .inr (.inl ⟨d, rfl, t, List.mem_of_find?_eq_some ht, rfl, ht, ?_⟩)
      rw [Option.bind_some, Dependency.identity?, ht]
      rfl

lemma isReadOff_foreignIdentity :
    (g.foreignIdentity fqn).IsReadOff fqn ∧
      (g.foreignIdentity fqn).targets =
        ((g.dependencies.find? (·.name == (g.foreignIdentity fqn).assembly)).map
          (·.targets)).getD {} := by
  have hread := TypeIdentity.isReadOff_ofFqn fqn
  have hassembly : (g.foreignIdentity fqn).assembly = (TypeIdentity.ofFqn fqn).assembly := by
    simp only [foreignIdentity]
    split <;> rfl
  rw [hassembly]
  simp only [foreignIdentity]
  cases h : g.dependencies.find? (·.name == (TypeIdentity.ofFqn fqn).assembly) with
  | none => exact ⟨hread, rfl⟩
  | some d => exact ⟨⟨hread.dotted, hread.plain, hread.assembly, hread.name⟩, rfl⟩

/-- The answers about a full name fit together, however often it is declared.  The identity keeps
the name.  If a type is found under it, the identity is that of the type in the assembly that
declares it: in the graph itself if the name is declared there, and otherwise in the first
dependency that declares it.  If none is found, the identity is read off the name, with the targets
of the first dependency that has the name of its assembly. -/
theorem identity_coherent :
    (g.identity fqn).fqn = fqn ∧
    (g.isLocal fqn = true → ∃ t ∈ g.types, g.find? fqn = some t) ∧
    (∀ t, g.find? fqn = some t →
      (g.isLocal fqn = true → (g.identity fqn).IsOf t g.name g.targets) ∧
      (g.isLocal fqn = false → ∃ d, g.declaring? fqn = some d ∧ t ∈ d.types ∧
        (g.identity fqn).IsOf t d.name d.targets)) ∧
    (g.find? fqn = none →
      (g.identity fqn).IsReadOff fqn ∧
      (g.identity fqn).targets =
        ((g.dependencies.find? (·.name == (g.identity fqn).assembly)).map (·.targets)).getD
          {}) := by
  refine ⟨fqn_identity g fqn, ?_⟩
  obtain ⟨t, ht, hlocal, hfind, hidentity⟩ |
      ⟨d, hdeclaring, t, ht, hforeign, hfind, hidentity⟩ | ⟨hforeign, hfind, hidentity⟩ :=
    resolution_cases g fqn
  · rw [hidentity, hfind, hlocal]
    refine ⟨fun _ => ⟨t, ht, rfl⟩, fun u hu => ⟨fun _ => ?_, nofun⟩, nofun⟩
    obtain rfl := Option.some.inj hu
    exact TypeIdentity.isOf_identity t g.name g.targets
  · rw [hidentity, hfind, hforeign]
    refine ⟨nofun, fun u hu => ⟨nofun, fun _ => ⟨d, hdeclaring, ?_⟩⟩, nofun⟩
    obtain rfl := Option.some.inj hu
    exact ⟨ht, TypeIdentity.isOf_identity t d.name d.targets⟩
  · rw [hidentity, hfind, hforeign]
    exact ⟨nofun, fun t ht => absurd ht (Option.some_ne_none t).symm,
      fun _ => isReadOff_foreignIdentity g fqn⟩

/-- The first of two dependencies that declare a bolt. -/
def bolts : Dependency where
  name := "parts"
  targets := { python := some "bolts" }
  types :=
    [{ fqn := "lib.Store", name := "Shop", body := .ofInterface {} },
      { fqn := "parts.Bolt", name := "Bolt", submodule := some "metal", body := .ofClass {} }]

/-- A library that declares a store, as one of its dependencies does too. -/
def bazaar : Graph where
  name := "lib"
  types := [{ fqn := "lib.Store", name := "Store", body := .ofClass {} }]
  dependencies :=
    [bolts,
      { name := "parts"
        targets := { python := some "screws" }
        types := [{ fqn := "parts.Bolt", name := "Screw", body := .ofEnum {} }] }]

/-- The store of the bazaar is its own, the bolt is that of the first dependency, and a nut that
nobody declares has an assembly and a sub-module by its name. -/
theorem identity_coherent_bazaar :
    (bazaar.isLocal "lib.Store" = true ∧ ∃ t ∈ bazaar.types,
      bazaar.find? "lib.Store" = some t ∧ (bazaar.identity "lib.Store").IsOf t "lib" {}) ∧
    (bazaar.isLocal "parts.Bolt" = false ∧ ∃ t ∈ bolts.types,
      bazaar.find? "parts.Bolt" = some t ∧
        (bazaar.identity "parts.Bolt").IsOf t "parts" { python := some "bolts" }) ∧
    (bazaar.find? "parts.inner.Nut" = none ∧
      (bazaar.identity "parts.inner.Nut").dotted = "parts.inner.Nut" ∧
      (bazaar.identity "parts.inner.Nut").targets = { python := some "bolts" }) := by
  have hlocal : bazaar.isLocal "lib.Store" = true := by decide
  have hforeign : bazaar.isLocal "parts.Bolt" = false := by decide
  have hunknown : bazaar.find? "parts.inner.Nut" = none := by rfl
  refine ⟨⟨hlocal, ?_⟩, ⟨hforeign, ?_⟩, hunknown, ?_⟩
  · obtain ⟨-, hown, hfound, -⟩ := identity_coherent bazaar "lib.Store"
    obtain ⟨t, ht, hfind⟩ := hown hlocal
    exact ⟨t, ht, hfind, (hfound t hfind).1 hlocal⟩
  · obtain ⟨-, -, hfound, -⟩ := identity_coherent bazaar "parts.Bolt"
    obtain ⟨t, hfind⟩ : ∃ t, bazaar.find? "parts.Bolt" = some t := ⟨_, rfl⟩
    obtain ⟨d, hfirst, ht, hidentity⟩ := (hfound t hfind).2 hforeign
    obtain rfl : bolts = d := Option.some.inj hfirst
    exact ⟨t, ht, hfind, hidentity⟩
  · obtain ⟨-, -, -, hread⟩ := identity_coherent bazaar "parts.inner.Nut"
    obtain ⟨hdotted, htargets⟩ := hread hunknown
    refine ⟨hdotted.dotted (by decide), htargets.trans ?_⟩
    decide

end Graph

end ApiDocs
