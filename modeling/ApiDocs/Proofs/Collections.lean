import ApiDocs.Proofs.Faults
import ApiDocs.Proofs.Lists

/-!
# The collections of a record

A record has five collections, and every type of the module belongs in one of them.
`Graph.collection` says in which one, without building an entry: the kind of the type decides, for a
class whether it is a construct, and for an interface whether it is data.

The collections of a render hold the types of its module, each once and where it belongs.  Since a
type belongs to one module, and that module exists, the references of all modules together hold each
type of the assembly once (`Graph.collections_of_render`).  Types that share a full name are counted
as often as they occur, so this is said of lists up to order and not of sets of names.
-/

namespace ApiDocs

/-! ## Where a type belongs -/

/-- A collection of a record. -/
inductive Collection where
  | constructs
  | classes
  | structs
  | interfaces
  | enums
  deriving DecidableEq

/-- The collections, in the order in which a record has them. -/
def Collection.all : List Collection := [constructs, classes, structs, interfaces, enums]

/-- The collection in which a type belongs. -/
def Graph.collection (g : Graph) (t : TypeDecl) : Collection :=
  match t.body with
  | .ofClass _ => if g.isConstruct t then .constructs else .classes
  | .ofInterface body => if body.isDatatype then .structs else .interfaces
  | .ofEnum _ => .enums

/-- The identifiers of the types in a collection of a record. -/
def ReferenceRecord.typeIds (r : ReferenceRecord) : Collection → List String
  | .constructs => r.constructs.map (·.id)
  | .classes => r.classes.map (·.id)
  | .structs => r.structs.map (·.id)
  | .interfaces => r.interfaces.map (·.id)
  | .enums => r.enums.map (·.id)

/-- The identifiers of the types in all collections of a record. -/
def ReferenceRecord.allTypeIds (r : ReferenceRecord) : List String :=
  Collection.all.flatMap r.typeIds

lemma Collection.mem_all (c : Collection) : c ∈ all := by
  cases c <;> decide

lemma Collection.nodup_all : all.Nodup := by
  decide

/-! ## The collections of a reference -/

namespace TypeEntry

/-- The identifier of the entry of a type. -/
def id : TypeEntry → String
  | ofConstruct e => e.id
  | ofClass e => e.id
  | ofStruct e => e.id
  | ofInterface e => e.id
  | ofEnum e => e.id

/-- The collection that holds the entry of a type. -/
def collection : TypeEntry → Collection
  | ofConstruct _ => .constructs
  | ofClass _ => .classes
  | ofStruct _ => .structs
  | ofInterface _ => .interfaces
  | ofEnum _ => .enums

lemma id_of (ctx : Context) (t : TypeDecl) : (of ctx t).id = t.fqn := by
  unfold of
  cases ctx.graph.category t <;> rfl

lemma collection_of (ctx : Context) (t : TypeDecl) :
    (of ctx t).collection = ctx.graph.collection t := by
  unfold of Graph.category Graph.collection
  cases t.body with
  | ofClass body => cases ctx.graph.isConstruct t <;> rfl
  | ofInterface body =>
    dsimp only
    cases body.isDatatype <;> rfl
  | ofEnum body => rfl

end TypeEntry

/-- A collection of the record holds the entries that belong in it. -/
lemma ReferenceEntry.typeIds_toRecord (e : ReferenceEntry) (c : Collection) :
    e.toRecord.typeIds c = (e.types.filter fun entry => entry.collection = c).map (·.id) := by
  obtain ⟨title, types⟩ := e
  induction types with
  | nil => cases c <;> rfl
  | cons entry rest ih =>
    rw [List.filter_cons]
    cases c <;> cases entry <;> first | exact ih | exact congrArg (_ :: ·) ih

lemma ReferenceEntry.typeIds_toRecord_of (ctx : Context) (types : List TypeDecl) (c : Collection) :
    (of ctx types).toRecord.typeIds c =
      ((Name.sortOn TypeDecl.name types).filter fun t => ctx.graph.collection t = c).map
        (·.fqn) := by
  rw [typeIds_toRecord, of, List.filter_map, List.map_map]
  simp only [Function.comp_def, TypeEntry.collection_of, TypeEntry.id_of]

/-! ## Renders -/

namespace Graph

variable {g : Graph} {o : Options} {out : Output}

lemma typeIds_of_render (h : g.render o = .ok out) (c : Collection) :
    out.record.reference.typeIds c =
      ((Name.sortOn TypeDecl.name (g.selectedTypes o)).filter fun t => g.collection t = c).map
        (·.fqn) := by
  obtain ⟨-, rfl⟩ := render_eq_ok_iff.1 h
  exact ReferenceEntry.typeIds_toRecord_of ⟨g, o⟩ (g.selectedTypes o) c

lemma allTypeIds_of_render (h : g.render o = .ok out) :
    out.record.reference.allTypeIds.Perm ((g.selectedTypes o).map (·.fqn)) := by
  have hshared : (Collection.all.flatMap fun c =>
      (Name.sortOn TypeDecl.name (g.selectedTypes o)).filter fun t => g.collection t = c).Perm
        (Name.sortOn TypeDecl.name (g.selectedTypes o)) :=
    flatMap_filter_perm Collection.nodup_all fun t _ => Collection.mem_all _
  have hsorted := hshared.trans (Name.sortOn_perm TypeDecl.name (g.selectedTypes o))
  rw [ReferenceRecord.allTypeIds, funext (typeIds_of_render h), ← List.map_flatMap]
  exact hsorted.map _

lemma hasModule_submodule {t : TypeDecl} (ht : t ∈ g.types) : g.HasModule t.submodule := by
  cases hsubmodule : t.submodule with
  | none => exact trivial
  | some name => exact .inr ⟨t, ht, hsubmodule⟩

/-- The module of a type exists, and the type is in it. -/
lemma exists_moduleTypes {t : TypeDecl} (ht : t ∈ g.types) :
    ∃ types, g.moduleTypes t.submodule = .ok types ∧ t ∈ types := by
  have htypes := moduleTypes_eq_ok (o := { submodule := t.submodule }) (hasModule_submodule ht)
  have hmem : t ∈ g.selectedTypes { submodule := t.submodule } := by simp [selectedTypes, ht]
  exact ⟨_, htypes, hmem⟩

/-- The collections of all modules together hold the types of the assembly. -/
lemma allTypeIds_of_renders {modules : List (Option String)} {outs : Option String → Output}
    (hmodules : modules.Nodup) (hcover : ∀ t ∈ g.types, t.submodule ∈ modules)
    (h : ∀ m ∈ modules, g.render { o with submodule := m } = .ok (outs m)) :
    (modules.flatMap fun m => (outs m).record.reference.allTypeIds).Perm (g.types.map (·.fqn)) := by
  have hmodule : ∀ m ∈ modules, (outs m).record.reference.allTypeIds.Perm
      ((g.types.filter fun t => t.submodule = m).map (·.fqn)) := by
    intro m hm
    simpa [selectedTypes, beq_eq_decide] using allTypeIds_of_render (h m hm)
  have hshared := (flatMap_filter_perm hmodules hcover).map (·.fqn)
  rw [List.map_flatMap] at hshared
  exact (List.Perm.flatMap_left modules hmodule).trans hshared

/-- No type is lost or shown twice.  The collections of a render together hold the full names of the
types of its module; each collection holds those of the types that belong in it, in the stable order
of the simple names.  The module of every type exists, so where all modules can be rendered, their
collections together hold the full names of all types of the assembly. -/
theorem collections_of_render (g : Graph) (o : Options) :
    (∀ out, g.render o = .ok out →
      out.record.reference.allTypeIds.Perm
          ((g.types.filter fun t => t.submodule = o.submodule).map (·.fqn)) ∧
        ∀ c, ∃ types, Name.StableSort TypeDecl.name
            (g.types.filter fun t => t.submodule = o.submodule ∧ g.collection t = c) types ∧
          out.record.reference.typeIds c = types.map (·.fqn)) ∧
    (∀ t ∈ g.types, ∃ types, g.moduleTypes t.submodule = .ok types ∧ t ∈ types) ∧
    ∀ (modules : List (Option String)) (outs : Option String → Output), modules.Nodup →
      (∀ t ∈ g.types, t.submodule ∈ modules) →
      (∀ m ∈ modules, g.render { o with submodule := m } = .ok (outs m)) →
      (modules.flatMap fun m => (outs m).record.reference.allTypeIds).Perm
        (g.types.map (·.fqn)) := by
  refine ⟨fun out h => ⟨?_, fun c => ?_⟩, fun t => exists_moduleTypes,
    fun modules outs => allTypeIds_of_renders⟩
  · simpa [selectedTypes, beq_eq_decide] using allTypeIds_of_render h
  · have hsorted := (Name.stableSort_sortOn TypeDecl.name (g.selectedTypes o)).filter
      fun t => g.collection t = c
    rw [selectedTypes, List.filter_filter] at hsorted
    refine ⟨_, ?_, typeIds_of_render h c⟩
    simpa [selectedTypes, beq_eq_decide, Bool.and_comm] using hsorted

/-- The depot has a class at its root and an interface in its only sub-module. -/
theorem collections_of_render_depot :
    ∃ root parts, depot.render {} = .ok root ∧
      depot.render { submodule := some "parts" } = .ok parts ∧
      root.record.reference.allTypeIds.Perm ["lib.Store"] ∧
      root.record.reference.typeIds .classes = ["lib.Store"] ∧
      (root.record.reference.allTypeIds ++ parts.record.reference.allTypeIds).Perm
        ["lib.Store", "lib.parts.Keeper"] := by
  obtain ⟨root, hroot⟩ := exists_render_depot
  obtain ⟨parts, hparts⟩ : ∃ out, depot.render { submodule := some "parts" } = .ok out :=
    exists_render_of_isOk (by decide +kernel)
  have hclasses : (depot.render {}).toOption.map (·.record.reference.typeIds .classes) =
      some ["lib.Store"] := by
    decide +kernel
  rw [hroot] at hclasses
  obtain ⟨hrender, -, htogether⟩ := collections_of_render depot {}
  have hall := htogether [none, some "parts"] (fun m => if m = none then root else parts)
    (by decide) (by decide) (by simp [hroot, hparts])
  exact ⟨root, parts, hroot, hparts, (hrender root hroot).1, Option.some.inj hclasses,
    by simpa [depot] using hall⟩

end Graph

end ApiDocs
