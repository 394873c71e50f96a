import ApiDocs.Proofs.Collections
import ApiDocs.Proofs.Likeness

/-!
# The order of a document

A document shows its types collection by collection, those of a collection by their simple names,
and the members of a type by the names that they have in the graph.  This is the order of
`Graph.documentDeclarations`, a list that follows from the graph and the module that is asked for
without building anything.

The entities of a render show these declarations one by one and in this order, so the identifiers of
a document and what authors wrote about its entities can be read off the list
(`Graph.map_label_entities`).  Declarations are built in another order, that of
`Graph.builtDeclarations`.
-/

namespace ApiDocs

/-! ## Types in the order of a document -/

/-- What a type declares, with members of a kind in the order of their names. -/
def TypeBody.byName : TypeBody → TypeBody
  | .ofClass body => .ofClass { body with
      methods := Name.sortOn Method.name body.methods
      properties := Name.sortOn Property.name body.properties }
  | .ofInterface body => .ofInterface { body with
      methods := Name.sortOn Method.name body.methods
      properties := Name.sortOn Property.name body.properties }
  | .ofEnum body => .ofEnum { body with members := Name.sortOn EnumMember.name body.members }

/-- A type with members of a kind in the order of their names. -/
def TypeDecl.byName (t : TypeDecl) : TypeDecl := { t with body := t.body.byName }

/-- The collections, in the order in which a document shows them. -/
def Collection.documentOrder : List Collection := [constructs, structs, classes, interfaces, enums]

lemma Collection.mem_documentOrder (c : Collection) : c ∈ documentOrder := by
  cases c <;> decide

lemma Collection.nodup_documentOrder : documentOrder.Nodup := by
  decide

namespace Graph

variable (g : Graph) (o : Options)

/-- The types of the module that is asked for, in the order of the document. -/
def documentTypes : List TypeDecl :=
  Collection.documentOrder.flatMap fun c =>
    (Name.sortOn TypeDecl.name (g.selectedTypes o)).filter fun t => g.collection t = c

/-- The declarations that a render shows, in the order of the document. -/
def documentDeclarations : List Declaration :=
  (g.documentTypes o).flatMap fun t => t.byName.declarations

lemma documentTypes_perm :
    (g.documentTypes o).Perm (Name.sortOn TypeDecl.name (g.selectedTypes o)) :=
  flatMap_filter_perm Collection.nodup_documentOrder fun _ _ => Collection.mem_documentOrder _

end Graph

/-! ## Labels

What an entity has of its declaration in every language: its identifier, and what the authors wrote
about it. -/

/-- The identifier of an entity and its documentation. -/
def Entity.label (e : Entity) : String × Docs := (e.toRecord.id, e.docs)

/-- The identifier of a declaration and its documentation. -/
def Declaration.label (d : Declaration) : String × Docs := (d.id, d.docs)

section

variable {ctx : Context} {t : TypeDecl}

lemma InitializerEntry.map_label_entities_of (i : Initializer) :
    (of ctx t.fqn i).entities.map Entity.label = (i.declarations t).map Declaration.label := by
  simp [entities, of, Initializer.declarations, Entity.label, Declaration.label, Function.comp_def,
    Entity.toRecord, EntityRecord.id, toRecord, Entity.docs, Declaration.id, Declaration.docs,
    ParameterEntry.toRecord, ParameterEntry.of]

lemma CallableEntry.map_label_entities_of (m : Method) :
    (of ctx t.fqn m).entities.map Entity.label = (m.declarations t).map Declaration.label := by
  simp [entities, of, Method.declarations, Entity.label, Declaration.label, Function.comp_def,
    Entity.toRecord, EntityRecord.id, toRecord, Entity.docs, Declaration.id, Declaration.docs,
    ParameterEntry.toRecord, ParameterEntry.of]

lemma CallableEntry.map_label_entities_sorted (keep : Method → Bool) (methods : List Method) :
    ((sorted ctx t.fqn keep methods).flatMap (·.entities)).map Entity.label =
      (((Name.sortOn Method.name methods).filter keep).flatMap (Method.declarations t)).map
        Declaration.label := by
  rw [sorted_eq_map, Name.sortOn_filter, List.flatMap_map, List.map_flatMap, List.map_flatMap]
  exact List.flatMap_congr fun m _ => map_label_entities_of m

lemma PropertyEntry.map_label_sorted (keep : Property → Bool) (properties : List Property) :
    ((sorted ctx t.fqn keep properties).map Entity.ofProperty).map Entity.label =
      (((Name.sortOn Property.name properties).filter keep).map (.ofProperty t)).map
        Declaration.label := by
  rw [sorted_eq_map, Name.sortOn_filter, List.map_map, List.map_map, List.map_map]
  rfl

lemma ClassEntry.map_label_initializer (i : Option Initializer) :
    ((i.map (InitializerEntry.of ctx t.fqn)).toList.flatMap (·.entities)).map Entity.label =
      (i.toList.flatMap (Initializer.declarations t)).map Declaration.label := by
  cases i with
  | none => rfl
  | some i => simpa using InitializerEntry.map_label_entities_of i

lemma ClassEntry.map_label_entities_of {body : ClassBody} (hbody : t.body = .ofClass body) :
    (of ctx t body).entities.map Entity.label = t.byName.declarations.map Declaration.label := by
  have hbyName : t.byName.body = TypeBody.byName (.ofClass body) := congrArg TypeBody.byName hbody
  have hfqn : t.fqn = t.byName.fqn := rfl
  rw [entities, TypeDecl.declarations, TypeDecl.memberDeclarations, hbyName]
  simp only [TypeBody.byName, of, List.map_cons, List.map_append, PropertyEntry.properties,
    PropertyEntry.constants]
  rw [hfqn, map_label_initializer, CallableEntry.map_label_entities_sorted,
    CallableEntry.map_label_entities_sorted, PropertyEntry.map_label_sorted,
    PropertyEntry.map_label_sorted]
  rfl

lemma StructEntry.map_label_entities_of {body : InterfaceBody}
    (hbody : t.body = .ofInterface body) (hdatatype : body.isDatatype = true) :
    (of ctx t body).entities.map Entity.label = t.byName.declarations.map Declaration.label := by
  have hbyName : t.byName.body = TypeBody.byName (.ofInterface body) :=
    congrArg TypeBody.byName hbody
  have hfqn : t.fqn = t.byName.fqn := rfl
  rw [entities, TypeDecl.declarations, TypeDecl.memberDeclarations, hbyName]
  simp only [TypeBody.byName, of, List.map_cons, PropertyEntry.properties, hdatatype, if_true]
  rw [hfqn, PropertyEntry.map_label_sorted]
  rfl

lemma InterfaceEntry.map_label_entities_of {body : InterfaceBody}
    (hbody : t.body = .ofInterface body) (hdatatype : body.isDatatype = false) :
    (of ctx t body).entities.map Entity.label = t.byName.declarations.map Declaration.label := by
  have hbyName : t.byName.body = TypeBody.byName (.ofInterface body) :=
    congrArg TypeBody.byName hbody
  have hfqn : t.fqn = t.byName.fqn := rfl
  rw [entities, TypeDecl.declarations, TypeDecl.memberDeclarations, hbyName]
  simp only [TypeBody.byName, of, List.map_cons, List.map_append, PropertyEntry.properties,
    hdatatype, Bool.false_eq_true, if_false]
  rw [hfqn, CallableEntry.map_label_entities_sorted, PropertyEntry.map_label_sorted]
  rfl

lemma EnumEntry.map_label_entities_of {body : EnumBody} (hbody : t.body = .ofEnum body) :
    (of ctx t body).entities.map Entity.label = t.byName.declarations.map Declaration.label := by
  have hbyName : t.byName.body = TypeBody.byName (.ofEnum body) := congrArg TypeBody.byName hbody
  rw [entities, TypeDecl.declarations, TypeDecl.memberDeclarations, hbyName]
  simp only [TypeBody.byName, of, List.map_cons, EnumMemberEntry.sortOn_map_of, List.map_map]
  rfl

/-- The entities of a type show the type and its members by name. -/
lemma TypeEntry.map_label_entities_of (t : TypeDecl) :
    (of ctx t).entities.map Entity.label = t.byName.declarations.map Declaration.label := by
  have hbody := ctx.graph.body_of_category t
  unfold of
  cases hcategory : ctx.graph.category t with
  | ofConstruct body =>
    rw [hcategory] at hbody
    exact ClassEntry.map_label_entities_of hbody
  | ofClass body =>
    rw [hcategory] at hbody
    exact ClassEntry.map_label_entities_of hbody
  | ofStruct body =>
    rw [hcategory] at hbody
    exact StructEntry.map_label_entities_of hbody.1 hbody.2
  | ofInterface body =>
    rw [hcategory] at hbody
    exact InterfaceEntry.map_label_entities_of hbody.1 hbody.2
  | ofEnum body =>
    rw [hcategory] at hbody
    exact EnumEntry.map_label_entities_of hbody

end

/-! ## References and renders -/

namespace ReferenceEntry

/-- The entities of the types in one collection. -/
def entitiesIn (e : ReferenceEntry) : Collection → List Entity
  | .constructs => e.constructs.flatMap (·.entities)
  | .classes => e.classes.flatMap (·.entities)
  | .structs => e.structs.flatMap (·.entities)
  | .interfaces => e.interfaces.flatMap (·.entities)
  | .enums => e.enums.flatMap (·.entities)

lemma flatMap_filter_collection (e : ReferenceEntry) (c : Collection) :
    (e.types.filter fun entry => entry.collection = c).flatMap (·.entities) = e.entitiesIn c := by
  obtain ⟨title, types⟩ := e
  induction types with
  | nil => cases c <;> rfl
  | cons entry rest ih =>
    rw [List.filter_cons]
    cases c <;> cases entry <;> first | exact ih | exact congrArg (_ ++ ·) ih

/-- The entities of a reference are those of its types, collection by collection. -/
lemma entities_eq_flatMap (e : ReferenceEntry) :
    e.entities = Collection.documentOrder.flatMap fun c =>
      (e.types.filter fun entry => entry.collection = c).flatMap (·.entities) := by
  simp [Collection.documentOrder, flatMap_filter_collection, entities, entitiesIn]

end ReferenceEntry

namespace Graph

variable {g : Graph} {o : Options} {out : Output}

/-- A render shows the entities of the reference. -/
lemma entities_of_render (h : g.render o = .ok out) : g.entities o = (g.reference o).entities := by
  obtain ⟨reference, hrun, hentities, -, -⟩ := exists_reference_of_render h
  have hbuild : (ReferenceEntry.build ⟨g, o⟩ (g.selectedTypes o)).ComesTo ⟨g, o⟩
      (g.builtDeclarations o) (g.reference o) := ReferenceEntry.build_comesTo _
  cases hfault : (g.builtDeclarations o).findSome? Declaration.fault? with
  | some e =>
    have hfails := hbuild.fails e hfault []
    rw [hrun] at hfails
    cases hfails
  | none =>
    have hends := hbuild.ends hfault []
    rw [hrun] at hends
    rw [hentities, Except.ok.inj (Prod.mk.inj hends).1]

/-- The entities of a reference show the declarations of the module in the order of the document. -/
lemma map_label_entities (g : Graph) (o : Options) :
    (g.reference o).entities.map Entity.label =
      (g.documentDeclarations o).map Declaration.label := by
  rw [ReferenceEntry.entities_eq_flatMap, documentDeclarations, documentTypes, List.flatMap_assoc,
    List.map_flatMap, List.map_flatMap]
  refine List.flatMap_congr fun c _ => ?_
  rw [reference, ReferenceEntry.of, List.filter_map, List.flatMap_map, List.map_flatMap,
    List.map_flatMap]
  simp only [Function.comp_def, TypeEntry.collection_of, TypeEntry.map_label_entities_of]

/-- The identifiers of a document are those of the declarations, in the order of the document. -/
lemma identifiers_eq_map_documentDeclarations (h : g.render o = .ok out) :
    out.document.identifiers = (g.documentDeclarations o).map Declaration.id := by
  have hlabels := congrArg (List.map Prod.fst) (map_label_entities g o)
  rw [List.map_map, List.map_map] at hlabels
  rw [identifiers_eq_map_entities h, entities_of_render h]
  exact hlabels

end Graph

end ApiDocs
