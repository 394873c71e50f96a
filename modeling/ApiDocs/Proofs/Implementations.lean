import ApiDocs.Proofs.MemberLists

/-!
# Interfaces and what implements them

A class says which interfaces it implements and an interface which ones it extends; both lists stand
in the graph as they are declared.  The other direction, what implements an interface, is not
declared anywhere.  It is found by going through all types of the assembly, those of other modules
among them, and sorted by their names.

The two directions are converse where full names are not repeated
(`Graph.implementations_of_render`).  With repeated names they need not be: records know types by
their names only, so of two types that share one, either could be the one that implements the
interface.
-/

namespace ApiDocs

/-! ## Links in records and documents -/

namespace EntityRecord

/-- The interfaces in the record of a class or interface. -/
def interfaces? : EntityRecord → Option (List TypeLink)
  | ofClass r => some r.interfaces
  | ofInterface r => some r.interfaces
  | _ => none

/-- The lists of types that a record links to, each with its label. -/
def relations : EntityRecord → List (String × List TypeLink)
  | ofClass r => [("Implements:", r.interfaces)]
  | ofInterface r => [("Extends:", r.interfaces), ("Implemented By:", r.implementations)]
  | _ => []

end EntityRecord

/-- The bullet that shows a list of linked types under its label, if there are any. -/
def Context.relationBlocks (ctx : Context) (relation : String × List TypeLink) : List Block :=
  if relation.2.isEmpty then []
  else [labelled relation.1 (", ".intercalate (relation.2.map fun link => ctx.linkTo link.fqn))]

lemma linkedBlocks_map_linked (ctx : Context) (label : String) (fqns : List String) :
    linkedBlocks label (fqns.map ctx.linked) =
      ctx.relationBlocks (label, (fqns.map ctx.linked).map (·.link)) := by
  simp [linkedBlocks, Context.relationBlocks, Context.linked, Function.comp_def]

lemma map_fqn_link_linked (ctx : Context) (fqns : List String) :
    ((fqns.map ctx.linked).map (·.link)).map (·.fqn) = fqns := by
  simp [Context.linked, Function.comp_def]

/-! ## Types and their entities -/

section

variable {ctx : Context} {t : TypeDecl} {e : Entity}

lemma InterfaceEntry.implementors_eq_map (ctx : Context) (fqn : String) :
    implementors ctx fqn =
      ((Name.sortOn TypeDecl.name (ctx.graph.implementationsOf fqn)).map (·.fqn)).map
        ctx.linked := by
  rw [implementors, List.map_map]
  rfl

/-- A class or interface has the interfaces that its type declares. -/
lemma Declaration.ShownBy.map_fqn_interfaces (h : ShownBy ctx (.ofType t) e)
    {links : List TypeLink} (hlinks : e.toRecord.interfaces? = some links) :
    links.map (·.fqn) = t.interfaces := by
  unfold TypeDecl.interfaces
  cases h with
  | ofClass isClass built =>
    cases hlinks
    rw [isClass, ClassEntry.toRecord, built.interfaces]
    exact map_fqn_link_linked ctx _
  | ofInterface isInterface isDatatype built =>
    cases hlinks
    rw [isInterface, InterfaceEntry.toRecord, built.interfaces]
    exact map_fqn_link_linked ctx _
  | ofStruct => cases hlinks
  | ofEnum => cases hlinks

/-- An interface has the types that declare it, by their names. -/
lemma Declaration.ShownBy.map_fqn_implementations (h : ShownBy ctx (.ofType t) e)
    {r : InterfaceRecord} (hr : e.toRecord = .ofInterface r) :
    r.implementations.map (·.fqn) =
      (Name.sortOn TypeDecl.name (ctx.graph.implementationsOf t.fqn)).map (·.fqn) := by
  cases h with
  | ofInterface isInterface isDatatype built =>
    cases hr
    rw [InterfaceEntry.toRecord, built.implementations, InterfaceEntry.implementors_eq_map]
    exact map_fqn_link_linked ctx _
  | ofClass => cases hr
  | ofStruct => cases hr
  | ofEnum => cases hr

/-- The bullets of a type's section show the lists of its record. -/
lemma Declaration.ShownBy.leaves_eq (h : ShownBy ctx (.ofType t) e) :
    e.toSection.leaves = e.toRecord.relations.flatMap ctx.relationBlocks ++ docsBlocks t.docs := by
  rw [Entity.leaves_toSection]
  cases h with
  | @ofClass _ body e isClass built =>
    show linkedBlocks "Implements:" e.interfaces ++ docsBlocks e.docs =
      [("Implements:", e.interfaces.map (·.link))].flatMap ctx.relationBlocks ++ docsBlocks t.docs
    rw [built.docs, built.interfaces, linkedBlocks_map_linked, List.flatMap_singleton]
  | @ofInterface _ body e isInterface isDatatype built =>
    show linkedBlocks "Extends:" e.interfaces ++
        linkedBlocks "Implemented By:" e.implementations ++ docsBlocks e.docs =
      [("Extends:", e.interfaces.map (·.link)),
        ("Implemented By:", e.implementations.map (·.link))].flatMap ctx.relationBlocks ++
          docsBlocks t.docs
    rw [built.docs, built.interfaces, built.implementations, InterfaceEntry.implementors_eq_map,
      linkedBlocks_map_linked, linkedBlocks_map_linked, List.flatMap_cons, List.flatMap_singleton]
  | @ofStruct _ body e isInterface isDatatype built =>
    show docsBlocks e.docs = docsBlocks t.docs
    rw [built.docs]
  | ofEnum isEnum => rfl

end

/-! ## Renders -/

namespace Graph

variable {g : Graph} {o : Options} {out : Output}

/-- The record of a type was built from a type of the module. -/
lemma exists_type_of_mem_typeRecords (h : g.render o = .ok out) {r : EntityRecord}
    (hr : r ∈ out.record.reference.typeRecords) :
    ∃ t ∈ g.types, ∃ e : Entity, Declaration.ShownBy ⟨g, o⟩ (.ofType t) e ∧ e.toRecord = r := by
  rw [typeRecords_of_render h, List.map_map] at hr
  obtain ⟨t, ht, rfl⟩ := List.mem_map.1 hr
  have hselected := (Name.mem_sortOn.1 ((g.documentTypes_perm o).mem_iff.1 ht))
  exact ⟨t, List.mem_of_mem_filter hselected, g.typeEntity o t, shownBy_typeEntity h ht, rfl⟩

lemma mem_typeRecords_of_mem_interfaces {r : ReferenceRecord} {i : InterfaceRecord}
    (hi : i ∈ r.interfaces) : .ofInterface i ∈ r.typeRecords := by
  simp [ReferenceRecord.typeRecords, hi]

lemma mem_implementationsOf_iff {t : TypeDecl} {fqn : String} :
    t ∈ g.implementationsOf fqn ↔ t ∈ g.types ∧ fqn ∈ t.interfaces := by
  simp [implementationsOf]

/-- Where full names are not repeated, what implements an interface is the converse of what its
record and those of the others declare.  An interface lists the types of the whole assembly that
declare it, each once, in the order of their names; a class or interface of the same render is in
the list exactly if the interface is in its own.  The document shows these lists as bullets, in the
same order and with each type as it is linked. -/
theorem implementations_of_render (hfqns : (g.types.map (·.fqn)).Nodup)
    (h : g.render o = .ok out) :
    (∀ i ∈ out.record.reference.interfaces,
      (∃ implementors, Name.StableSort TypeDecl.name
          (g.types.filter fun t => i.id ∈ t.interfaces) implementors ∧
        i.implementations.map (·.fqn) = implementors.map (·.fqn) ∧
        (i.implementations.map (·.fqn)).Nodup) ∧
      ∀ r ∈ out.record.reference.typeRecords, ∀ links, r.interfaces? = some links →
        (r.id ∈ i.implementations.map (·.fqn) ↔ i.id ∈ links.map (·.fqn))) ∧
    List.Forall₂ (fun s r => ∃ docs,
        s.leaves = r.relations.flatMap (Context.relationBlocks ⟨g, o⟩) ++ docsBlocks docs)
      out.document.typeSections out.record.reference.typeRecords := by
  refine ⟨fun i hi => ?_, ?_⟩
  · obtain ⟨t, ht, e, hshown, he⟩ :=
      exists_type_of_mem_typeRecords h (mem_typeRecords_of_mem_interfaces hi)
    have hid : t.fqn = i.id := hshown.id_eq.trans (congrArg EntityRecord.id he)
    have himplementations := hshown.map_fqn_implementations he
    rw [hid] at himplementations
    refine ⟨⟨Name.sortOn TypeDecl.name (g.implementationsOf i.id), ?_, himplementations, ?_⟩, ?_⟩
    · have hsorted := Name.stableSort_sortOn TypeDecl.name (g.implementationsOf i.id)
      simpa [implementationsOf, List.contains_eq_mem] using hsorted
    · rw [himplementations,
        ((Name.sortOn_perm TypeDecl.name (g.implementationsOf i.id)).map _).nodup_iff]
      exact hfqns.sublist (List.filter_sublist.map _)
    · intro r hr links hlinks
      obtain ⟨t', ht', e', hshown', rfl⟩ := exists_type_of_mem_typeRecords h hr
      have hid' : t'.fqn = e'.toRecord.id := hshown'.id_eq
      rw [himplementations, hshown'.map_fqn_interfaces hlinks, ← hid', List.mem_map]
      constructor
      · rintro ⟨u, hu, hfqn⟩
        obtain ⟨hu, hinterface⟩ := mem_implementationsOf_iff.1 (Name.mem_sortOn.1 hu)
        -- the names are not repeated, so the type of the name is the one that was shown
        obtain rfl := List.inj_on_of_nodup_map hfqns hu ht' hfqn
        exact hinterface
      · intro hinterface
        exact ⟨t', Name.mem_sortOn.2 (mem_implementationsOf_iff.2 ⟨ht', hinterface⟩), rfl⟩
  · rw [typeSections_of_render h, typeRecords_of_render h, List.forall₂_map_left_iff,
      List.forall₂_map_right_iff, List.forall₂_map_left_iff, List.forall₂_map_right_iff,
      List.forall₂_same]
    exact fun t ht => ⟨t.docs, (shownBy_typeEntity h ht).leaves_eq⟩

/-- The keeper of the depot's sub-module is implemented by the store, which belongs to the root. -/
theorem implementations_of_render_depot :
    (depot.types.map (·.fqn)).Nodup ∧
      ∃ out, depot.render { submodule := some "parts" } = .ok out ∧
        (out.record.reference.interfaces.map fun i =>
          (i.id, i.implementations.map (·.fqn))) = [("lib.parts.Keeper", ["lib.Store"])] ∧
        ∀ i ∈ out.record.reference.interfaces,
          ∃ implementors, Name.StableSort TypeDecl.name
              (depot.types.filter fun t => i.id ∈ t.interfaces) implementors ∧
            i.implementations.map (·.fqn) = implementors.map (·.fqn) := by
  have hfqns : (depot.types.map (·.fqn)).Nodup := by decide
  obtain ⟨out, h⟩ : ∃ out, depot.render { submodule := some "parts" } = .ok out :=
    exists_render_of_isOk (by decide +kernel)
  have hlisted : ((depot.render { submodule := some "parts" }).toOption.map fun out =>
      out.record.reference.interfaces.map fun i => (i.id, i.implementations.map (·.fqn))) =
        some [("lib.parts.Keeper", ["lib.Store"])] := by
    decide +kernel
  rw [h] at hlisted
  refine ⟨hfqns, out, h, Option.some.inj hlisted, fun i hi => ?_⟩
  obtain ⟨implementors, hsorted, himplementations, -⟩ :=
    ((implementations_of_render hfqns h).1 i hi).1
  exact ⟨implementors, hsorted, himplementations⟩

end Graph

end ApiDocs
