import ApiDocs.Proofs.Diagnostics
import ApiDocs.Proofs.DocumentOrder
import ApiDocs.Proofs.Reordering
import ApiDocs.Proofs.SectionTree

/-!
# The members that a type lists

A type lists its members by kind: a class has lists of methods, static functions, properties and
constants, an interface of methods and properties, a struct of properties, and an enumeration of its
members.  `TypeDecl.declared` says which members of the graph belong in which list.  Documents have
a list as a titled group and records as a field; both show the members that belong there, in the
order of the names that they have in the graph, and members of one name in the order of the graph
(`Graph.memberLists_of_render`).

The display names play no part in this, although they are all that a reader sees.  What ties a shown
member to its declaration is therefore not a name but that its entry was built from it
(`Declaration.ShownInFull`).
-/

namespace ApiDocs

/-! ## Lists of members -/

/-- A list of members that types have. -/
inductive MemberList where
  | methods
  | staticFunctions
  | properties
  | constants
  | members
  deriving DecidableEq

namespace MemberList

/-- The lists, in the order in which a type shows them. -/
def all : List MemberList := [methods, staticFunctions, properties, constants, members]

/-- The title of the group that shows a list. -/
def title : MemberList → String
  | methods => "Methods"
  | staticFunctions => "Static Functions"
  | properties => "Properties"
  | constants => "Constants"
  | members => "Members"

end MemberList

/-- The members that a class declares for a list. -/
def ClassBody.declared (t : TypeDecl) (body : ClassBody) : MemberList → List Declaration
  | .methods => (body.methods.filter fun m => !m.isProtected && !m.isStatic).map (.ofMethod t)
  | .staticFunctions =>
    (body.methods.filter fun m => !m.isProtected && m.isStatic).map (.ofMethod t)
  | .properties =>
    (body.properties.filter fun p =>
      !p.isProtected && !(p.isFlaggedConstant || (p.isStatic && p.isImmutable))).map (.ofProperty t)
  | .constants =>
    (body.properties.filter fun p =>
      !p.isProtected && (p.isFlaggedConstant || (p.isStatic && p.isImmutable))).map (.ofProperty t)
  | .members => []

/-- The members that an interface declares for a list; as a struct it has no methods. -/
def InterfaceBody.declared (t : TypeDecl) (body : InterfaceBody) : MemberList → List Declaration
  | .methods =>
    if body.isDatatype then []
    else (body.methods.filter fun m => !m.isProtected && !m.isStatic).map (.ofMethod t)
  | .properties =>
    (body.properties.filter fun p =>
      !p.isProtected && !(p.isFlaggedConstant || (p.isStatic && p.isImmutable))).map (.ofProperty t)
  | _ => []

/-- The members that an enumeration declares for a list. -/
def EnumBody.declared (t : TypeDecl) (body : EnumBody) : MemberList → List Declaration
  | .members => body.members.map (.ofEnumMember t)
  | _ => []

/-- The members that a type declares for a list, in the order of the graph. -/
def TypeDecl.declared (t : TypeDecl) (l : MemberList) : List Declaration :=
  match t.body with
  | .ofClass body => body.declared t l
  | .ofInterface body => body.declared t l
  | .ofEnum body => body.declared t l

/-- The initializers that a type shows: that of a class unless it is protected, and for a struct how
it is filled. -/
def TypeDecl.initializers (t : TypeDecl) : List Declaration :=
  match t.body with
  | .ofClass body => body.shownInitializer?.toList.map (.ofInitializer t)
  | .ofInterface body => if body.isDatatype then [.ofPopulation t] else []
  | .ofEnum _ => []

/-- The name of a declaration in the graph; an initializer has none. -/
def Declaration.name : Declaration → String
  | ofType t => t.name
  | ofPopulation _ => ""
  | ofInitializer _ _ => ""
  | ofMethod _ m => m.name
  | ofProperty _ p => p.name
  | ofParameter _ p => p.name
  | ofEnumMember _ m => m.name

/-! ## Lists in records and documents -/

namespace EntityRecord

/-- The records in a list of a type's record. -/
def memberList : EntityRecord → MemberList → List EntityRecord
  | ofClass r, .methods => r.instanceMethods.map .ofCallable
  | ofClass r, .staticFunctions => r.staticFunctions.map .ofCallable
  | ofClass r, .properties => r.properties.map .ofProperty
  | ofClass r, .constants => r.constants.map .ofProperty
  | ofStruct r, .properties => r.properties.map .ofProperty
  | ofInterface r, .methods => r.instanceMethods.map .ofCallable
  | ofInterface r, .properties => r.properties.map .ofProperty
  | ofEnum r, .members => r.members.map .ofEnumMember
  | _, _ => []

/-- The record of a type's initializer, if it has one. -/
def initializers : EntityRecord → List EntityRecord
  | ofClass r => r.initializer.toList.map .ofInitializer
  | ofStruct r => [.ofInitializer r.initializer]
  | _ => []

end EntityRecord

/-- The records of the types of a reference: constructs, structs, classes, interfaces,
enumerations. -/
def ReferenceRecord.typeRecords (r : ReferenceRecord) : List EntityRecord :=
  r.constructs.map .ofClass ++ r.structs.map .ofStruct ++ r.classes.map .ofClass ++
    r.interfaces.map .ofInterface ++ r.enums.map .ofEnum

/-- The sections of the types of a document, which hang in the groups of its reference. -/
def Section.typeSections (s : Section) : List Section :=
  s.children.flatMap fun reference => reference.children.flatMap children

namespace Entity

/-- The entities in a list of a type. -/
def memberList : Entity → MemberList → List Entity
  | ofClass e, .methods => e.instanceMethods.map .ofCallable
  | ofClass e, .staticFunctions => e.staticFunctions.map .ofCallable
  | ofClass e, .properties => e.properties.map .ofProperty
  | ofClass e, .constants => e.constants.map .ofProperty
  | ofStruct e, .properties => e.properties.map .ofProperty
  | ofInterface e, .methods => e.instanceMethods.map .ofCallable
  | ofInterface e, .properties => e.properties.map .ofProperty
  | ofEnum e, .members => e.members.map .ofEnumMember
  | _, _ => []

/-- The initializer of a type, if it has one to show. -/
def initializers : Entity → List Entity
  | ofClass e => e.initializer.toList.map .ofInitializer
  | ofStruct e => [.ofPopulation e]
  | _ => []

/-- The entities of the parameters of a callable. -/
def parameters : Entity → List Entity
  | ofInitializer e => e.parameters.map .ofParameter
  | ofCallable e => e.parameters.map .ofParameter
  | _ => []

lemma isSome_id_toSection (e : Entity) : e.toSection.id.isSome = true := by
  rw [id_toSection]
  rfl

lemma isSome_id_of_mem_map {es : List Entity} {s : Section} (h : s ∈ es.map toSection) :
    s.id.isSome = true := by
  obtain ⟨e, -, rfl⟩ := List.mem_map.1 h
  exact e.isSome_id_toSection

lemma memberList_toRecord (e : Entity) (l : MemberList) :
    e.toRecord.memberList l = (e.memberList l).map toRecord := by
  cases e <;> cases l <;>
    simp [toRecord, memberList, EntityRecord.memberList, ClassEntry.toRecord, StructEntry.toRecord,
      InterfaceEntry.toRecord, EnumEntry.toRecord, Function.comp_def]

lemma initializers_toRecord (e : Entity) :
    e.toRecord.initializers = e.initializers.map toRecord := by
  cases e with
  | ofClass e =>
    cases he : e.initializer <;>
      simp [toRecord, initializers, EntityRecord.initializers, ClassEntry.toRecord, he]
  | _ => rfl

lemma parameters_toRecord (e : Entity) :
    e.toRecord.parameters.map .ofParameter = e.parameters.map toRecord := by
  cases e <;>
    simp [toRecord, parameters, EntityRecord.parameters, InitializerEntry.toRecord,
      CallableEntry.toRecord, StructEntry.toRecord, Function.comp_def]

/-! ## What hangs in the section of an entity -/

/-- The group that shows a list of an entity, if the list has members. -/
def listGroup (e : Entity) (l : MemberList) : Section :=
  group l.title ((e.memberList l).map toSection)

/-- What hangs in the section of an entity: parameters, initializers, and a group for each list. -/
lemma nestedBlocks_eq (e : Entity) :
    e.nestedBlocks = (e.parameters.map toSection).flatMap Section.asBlocks ++
      (e.initializers.map toSection).flatMap Section.asBlocks ++
      MemberList.all.flatMap fun l => (e.listGroup l).asBlocks := by
  have hempty (title : String) : (group title []).asBlocks = [] := rfl
  cases e <;>
    simp [nestedBlocks, parameters, initializers, MemberList.all, listGroup, memberList,
      MemberList.title, hempty, toSection, List.flatMap_map, Function.comp_def]

/-- The sections that hang in the section of an entity. -/
lemma children_toSection (e : Entity) :
    e.toSection.children = (e.parameters ++ e.initializers).map toSection ++
      MemberList.all.flatMap fun l => blocksSections (e.listGroup l).asBlocks := by
  have hhung (es : List Entity) :
      blocksSections ((es.map toSection).flatMap Section.asBlocks) = es.map toSection :=
    blocksSections_flatMap_asBlocks fun s => isSome_id_of_mem_map
  rw [Section.children, blocks_toSection, blocksSections_append,
    blocksSections_of_leaves fun b => isLeaf_of_mem_ownBlocks, nestedBlocks_eq,
    blocksSections_append, blocksSections_append, hhung, hhung, List.nil_append, List.map_append,
    blocksSections, List.filterMap_flatMap]
  rfl

/-- The group of a list shows the members of the list, and no other group does. -/
lemma under_toSection (e : Entity) (l : MemberList) :
    e.toSection.under l.title = (e.memberList l).map toSection := by
  have hgroup (l' : MemberList) : blocksUnder l.title (e.listGroup l').asBlocks =
      if l'.title = l.title then (e.memberList l').map toSection else [] :=
    blocksUnder_group _ _ fun s => isSome_id_of_mem_map
  rw [Section.under, blocks_toSection, blocksUnder_append, nestedBlocks_eq, blocksUnder_append,
    blocksUnder_append, blocksUnder_of_leaves _ fun b => isLeaf_of_mem_ownBlocks,
    blocksUnder_flatMap_asBlocks _ fun s => isSome_id_of_mem_map,
    blocksUnder_flatMap_asBlocks _ fun s => isSome_id_of_mem_map]
  simp only [MemberList.all, List.flatMap_cons, List.flatMap_nil, blocksUnder_append, hgroup]
  cases l <;> simp [MemberList.title, blocksUnder]

/-- In the section of a member hang its parameters only. -/
lemma children_toSection_of_member {e : Entity} (hinitializers : e.initializers = [])
    (hlists : ∀ l, e.memberList l = []) : e.toSection.children = e.parameters.map toSection := by
  have hgroups :
      (MemberList.all.flatMap fun l => blocksSections (e.listGroup l).asBlocks) = [] := by
    rw [List.flatMap_eq_nil_iff]
    intro l _
    rw [listGroup, hlists l]
    rfl
  rw [children_toSection, hgroups, hinitializers, List.append_nil, List.append_nil]

/-- The children of a type's section that have an identifier are its initializers. -/
lemma filter_children_toSection {e : Entity} (hparameters : e.parameters = []) :
    (e.toSection.children.filter fun s => s.id.isSome) = e.initializers.map toSection := by
  have hgroups : ((MemberList.all.flatMap fun l => blocksSections (e.listGroup l).asBlocks).filter
      fun s => s.id.isSome) = [] := by
    rw [List.filter_eq_nil_iff]
    intro s hs
    obtain ⟨l, -, hs⟩ := List.mem_flatMap.1 hs
    rw [listGroup, blocksSections_group] at hs
    split at hs
    · cases hs
    · rw [List.mem_singleton.1 hs]
      exact Bool.false_ne_true
  rw [children_toSection, List.filter_append, hgroups, List.append_nil, hparameters,
    List.nil_append, List.filter_eq_self]
  exact fun s => isSome_id_of_mem_map

end Entity

/-! ## Members and what shows them -/

/-- An entity shows a declaration with its parameters, in the record and in the document, each
parameter in its place. -/
structure Declaration.ShownInFull (ctx : Context) (d : Declaration) (e : Entity) : Prop where
  shown : ShownBy ctx d e
  parameters : ∃ parameters,
    List.Forall₂ (ShownBy ctx) (d.parameters.map (.ofParameter d.id)) parameters ∧
    e.toRecord.parameters.map .ofParameter = parameters.map Entity.toRecord ∧
    e.toSection.children = parameters.map Entity.toSection

section

variable {ctx : Context} {t : TypeDecl}

lemma Declaration.ShownInFull.of_parameters {d : Declaration} {e : Entity} (h : ShownBy ctx d e)
    (hinitializers : e.initializers = []) (hlists : ∀ l, e.memberList l = [])
    (hparameters : e.parameters =
      (d.parameters.map (ParameterEntry.of ctx d.id)).map .ofParameter) : ShownInFull ctx d e := by
  refine ⟨h, e.parameters, ?_, e.parameters_toRecord,
    Entity.children_toSection_of_member hinitializers hlists⟩
  rw [hparameters, List.map_map, List.forall₂_map_left_iff, List.forall₂_map_right_iff,
    List.forall₂_same]
  exact fun p _ => .ofParameter d.id p

lemma InitializerEntry.shownInFull {i : Initializer} {e : InitializerEntry}
    (h : (build ctx t.fqn i).Yields e) :
    Declaration.ShownInFull ctx (.ofInitializer t i) (.ofInitializer e) := by
  refine .of_parameters (.ofInitializer h) rfl (fun _ => rfl) ?_
  obtain ⟨parameters, hparameters, rfl⟩ := eq_of_yields h
  simp [Entity.parameters, Declaration.parameters, Declaration.id, hparameters]

lemma CallableEntry.shownInFull {m : Method} {e : CallableEntry}
    (h : (build ctx t.fqn m).Yields e) :
    Declaration.ShownInFull ctx (.ofMethod t m) (.ofCallable e) := by
  refine .of_parameters (.ofCallable h) rfl (fun _ => rfl) ?_
  obtain ⟨parameters, hparameters, rfl⟩ := eq_of_yields h
  simp [Entity.parameters, Declaration.parameters, Declaration.id, hparameters]

/-! ## Sorted lists -/

lemma CallableEntry.forall₂_shownInFull {keep : Method → Bool} {methods : List Method}
    {entries : List CallableEntry} (h : (buildSorted ctx t.fqn keep methods).Yields entries) :
    List.Forall₂ (Declaration.ShownInFull ctx)
      (Name.sortOn Declaration.name ((methods.filter keep).map (.ofMethod t)))
      (entries.map .ofCallable) := by
  obtain ⟨built, hbuilt, rfl⟩ := of_yields_buildSorted h
  have hname (m : Method) (e : CallableEntry) (he : (build ctx t.fqn m).Yields e) :
      m.name = e.name := by
    obtain ⟨parameters, -, rfl⟩ := eq_of_yields he
    rfl
  rw [Name.sortOn_map, List.forall₂_map_left_iff, List.forall₂_map_right_iff]
  exact (Name.forall₂_sortOn hbuilt hname).imp fun m e => shownInFull

lemma PropertyEntry.forall₂_shownInFull (keep : Property → Bool) (properties : List Property) :
    List.Forall₂ (Declaration.ShownInFull ctx)
      (Name.sortOn Declaration.name ((properties.filter keep).map (.ofProperty t)))
      ((sorted ctx t.fqn keep properties).map .ofProperty) := by
  rw [Name.sortOn_map, sorted_eq_map, List.map_map, List.forall₂_map_left_iff,
    List.forall₂_map_right_iff]
  exact List.forall₂_same.2 fun p _ => .of_parameters (.ofProperty t p) rfl (fun _ => rfl) rfl

lemma EnumMemberEntry.forall₂_shownInFull (members : List EnumMember) :
    List.Forall₂ (Declaration.ShownInFull ctx)
      (Name.sortOn Declaration.name (members.map (.ofEnumMember t)))
      ((Name.sortOn name (members.map (of ctx t.fqn))).map .ofEnumMember) := by
  rw [Name.sortOn_map, sortOn_map_of, List.map_map, List.forall₂_map_left_iff,
    List.forall₂_map_right_iff]
  exact List.forall₂_same.2 fun m _ => .of_parameters (.ofEnumMember t m) rfl (fun _ => rfl) rfl

/-! ## Types and what shows them -/

/-- The entity of a type lists the members that the type declares for each list, in the order of
their names, and its initializer. -/
structure TypeDecl.ListedBy (ctx : Context) (t : TypeDecl) (e : Entity) : Prop where
  shown : Declaration.ShownBy ctx (.ofType t) e
  lists : ∀ l, ∃ declarations members,
    Name.StableSort Declaration.name (t.declared l) declarations ∧
    List.Forall₂ (Declaration.ShownInFull ctx) declarations members ∧
    e.toRecord.memberList l = members.map Entity.toRecord ∧
    e.toSection.under l.title = members.map Entity.toSection
  initializers : ∃ initializers,
    List.Forall₂ (Declaration.ShownInFull ctx) t.initializers initializers ∧
    e.toRecord.initializers = initializers.map Entity.toRecord ∧
    (e.toSection.children.filter fun s => s.id.isSome) = initializers.map Entity.toSection

lemma Declaration.ShownBy.forall₂_memberList {e : Entity} (h : ShownBy ctx (.ofType t) e)
    (l : MemberList) :
    List.Forall₂ (ShownInFull ctx) (Name.sortOn Declaration.name (t.declared l))
      (e.memberList l) := by
  have hnone : List.Forall₂ (ShownInFull ctx) (Name.sortOn Declaration.name []) [] := by
    rw [Name.sortOn, List.mergeSort_nil]
    exact .nil
  unfold TypeDecl.declared
  cases h with
  | ofClass isClass built =>
    rw [isClass]
    cases l with
    | methods => exact CallableEntry.forall₂_shownInFull built.instanceMethods
    | staticFunctions => exact CallableEntry.forall₂_shownInFull built.staticFunctions
    | properties =>
      rw [Entity.memberList, built.properties]
      exact PropertyEntry.forall₂_shownInFull _ _
    | constants =>
      rw [Entity.memberList, built.constants]
      exact PropertyEntry.forall₂_shownInFull _ _
    | members => exact hnone
  | ofStruct isInterface isDatatype built =>
    rw [isInterface]
    cases l with
    | methods =>
      show List.Forall₂ _ (Name.sortOn _ (if _ then _ else _)) _
      rw [if_pos isDatatype]
      exact hnone
    | properties =>
      rw [Entity.memberList, built.properties]
      exact PropertyEntry.forall₂_shownInFull _ _
    | _ => exact hnone
  | ofInterface isInterface isDatatype built =>
    rw [isInterface]
    cases l with
    | methods =>
      show List.Forall₂ _ (Name.sortOn _ (if _ then _ else _)) _
      rw [if_neg (by simp [isDatatype])]
      exact CallableEntry.forall₂_shownInFull built.instanceMethods
    | properties =>
      rw [Entity.memberList, built.properties]
      exact PropertyEntry.forall₂_shownInFull _ _
    | _ => exact hnone
  | ofEnum isEnum =>
    rw [isEnum]
    cases l with
    | members => exact EnumMemberEntry.forall₂_shownInFull _
    | _ => exact hnone

lemma Declaration.ShownBy.forall₂_initializers {e : Entity} (h : ShownBy ctx (.ofType t) e) :
    List.Forall₂ (ShownInFull ctx) t.initializers e.initializers := by
  unfold TypeDecl.initializers
  cases h with
  | @ofClass _ body e isClass built =>
    rw [isClass]
    have hinitializer := built.initializer
    show List.Forall₂ _ (body.shownInitializer?.toList.map _) (e.initializer.toList.map _)
    generalize body.shownInitializer? = declared, e.initializer = shown at hinitializer ⊢
    cases hinitializer with
    | none => exact .nil
    | some hbuilt => exact .cons (InitializerEntry.shownInFull hbuilt) .nil
  | ofStruct isInterface isDatatype built =>
    rw [isInterface]
    show List.Forall₂ _ (if _ then _ else _) _
    rw [if_pos isDatatype]
    exact .cons (.of_parameters (.ofPopulation built) rfl (fun _ => rfl) rfl) .nil
  | ofInterface isInterface isDatatype built =>
    rw [isInterface]
    show List.Forall₂ _ (if _ then _ else _) _
    rw [if_neg (by simp [isDatatype])]
    exact .nil
  | ofEnum isEnum =>
    rw [isEnum]
    exact .nil

/-- A type has no parameters of its own. -/
lemma Declaration.ShownBy.parameters_eq_nil {e : Entity} (h : ShownBy ctx (.ofType t) e) :
    e.parameters = [] := by
  cases h <;> rfl

lemma Declaration.ShownBy.listedBy {e : Entity} (h : ShownBy ctx (.ofType t) e) :
    t.ListedBy ctx e where
  shown := h
  lists l := ⟨_, e.memberList l, Name.stableSort_sortOn _ _, h.forall₂_memberList l,
    e.memberList_toRecord l, e.under_toSection l⟩
  initializers := ⟨e.initializers, h.forall₂_initializers, e.initializers_toRecord,
    Entity.filter_children_toSection h.parameters_eq_nil⟩

end

/-! ## The types of a reference -/

/-- The title of the group that shows a collection. -/
def Collection.title : Collection → String
  | constructs => "Constructs"
  | classes => "Classes"
  | structs => "Structs"
  | interfaces => "Interfaces"
  | enums => "Enums"

/-- The entity of a type, by its entry. -/
def TypeEntry.entity : TypeEntry → Entity
  | ofConstruct e => .ofClass e
  | ofClass e => .ofClass e
  | ofStruct e => .ofStruct e
  | ofInterface e => .ofInterface e
  | ofEnum e => .ofEnum e

lemma TypeEntry.Built.shownBy {ctx : Context} {t : TypeDecl} {e : TypeEntry} (h : Built ctx t e) :
    Declaration.ShownBy ctx (.ofType t) e.entity := by
  have hbody := ctx.graph.body_of_category t
  cases h with
  | ofConstruct category built =>
    rw [category] at hbody
    exact .ofClass hbody built
  | ofClass category built =>
    rw [category] at hbody
    exact .ofClass hbody built
  | ofStruct category built =>
    rw [category] at hbody
    exact .ofStruct hbody.1 hbody.2 built
  | ofInterface category built =>
    rw [category] at hbody
    exact .ofInterface hbody.1 hbody.2 built
  | ofEnum category =>
    rw [category] at hbody
    exact .ofEnum hbody

namespace ReferenceEntry

/-- The types in one collection. -/
def typesIn (e : ReferenceEntry) : Collection → List Entity
  | .constructs => e.constructs.map .ofClass
  | .classes => e.classes.map .ofClass
  | .structs => e.structs.map .ofStruct
  | .interfaces => e.interfaces.map .ofInterface
  | .enums => e.enums.map .ofEnum

lemma map_entity_filter_collection (e : ReferenceEntry) (c : Collection) :
    (e.types.filter fun entry => entry.collection = c).map TypeEntry.entity = e.typesIn c := by
  obtain ⟨title, types⟩ := e
  induction types with
  | nil => cases c <;> rfl
  | cons entry rest ih =>
    rw [List.filter_cons]
    cases c <;> cases entry <;> first | exact ih | exact congrArg (_ :: ·) ih

/-- The group that shows a collection, if the collection has types. -/
def collectionGroup (e : ReferenceEntry) (c : Collection) : Section :=
  group c.title ((e.typesIn c).map Entity.toSection)

/-- A reference holds a group for each collection. -/
lemma blocks_toSection (e : ReferenceEntry) :
    e.toSection.blocks =
      Collection.documentOrder.flatMap fun c => (e.collectionGroup c).asBlocks := by
  simp [toSection, Collection.documentOrder, collectionGroup, typesIn, Collection.title,
    Entity.toSection, Function.comp_def]

/-- In a reference hang the groups of its collections. -/
lemma children_toSection (e : ReferenceEntry) :
    e.toSection.children =
      Collection.documentOrder.flatMap fun c => blocksSections (e.collectionGroup c).asBlocks := by
  rw [Section.children, blocks_toSection, blocksSections, List.filterMap_flatMap]
  rfl

/-- The sections of the types of a reference, collection by collection. -/
lemma flatMap_children_toSection (e : ReferenceEntry) :
    e.toSection.children.flatMap Section.children =
      (Collection.documentOrder.flatMap e.typesIn).map Entity.toSection := by
  have hgroup (c : Collection) : (blocksSections (e.collectionGroup c).asBlocks).flatMap
      Section.children = (e.typesIn c).map Entity.toSection :=
    flatMap_children_group c.title fun s => Entity.isSome_id_of_mem_map
  rw [children_toSection, List.flatMap_assoc, List.map_flatMap]
  exact List.flatMap_congr fun c _ => hgroup c

lemma typeRecords_toRecord (e : ReferenceEntry) :
    e.toRecord.typeRecords =
      (Collection.documentOrder.flatMap e.typesIn).map Entity.toRecord := by
  simp [ReferenceRecord.typeRecords, toRecord, Collection.documentOrder, typesIn, Entity.toRecord,
    Function.comp_def]

end ReferenceEntry

/-! ## Renders -/

namespace Graph

variable {g : Graph} {o : Options} {out : Output}

/-- The entity that shows a type. -/
def typeEntity (g : Graph) (o : Options) (t : TypeDecl) : Entity := (TypeEntry.of ⟨g, o⟩ t).entity

/-- A collection of a reference holds the types that belong there. -/
lemma typesIn_reference (g : Graph) (o : Options) (c : Collection) :
    (g.reference o).typesIn c =
      ((Name.sortOn TypeDecl.name (g.selectedTypes o)).filter fun t => g.collection t = c).map
        (g.typeEntity o) := by
  rw [← ReferenceEntry.map_entity_filter_collection, reference, ReferenceEntry.of, List.filter_map,
    List.map_map]
  simp only [Function.comp_def, TypeEntry.collection_of]
  rfl

/-- The types of a reference are those of the module, in the order of the document. -/
lemma flatMap_typesIn_reference (g : Graph) (o : Options) :
    Collection.documentOrder.flatMap (g.reference o).typesIn =
      (g.documentTypes o).map (g.typeEntity o) := by
  rw [documentTypes, List.map_flatMap]
  exact List.flatMap_congr fun c _ => typesIn_reference g o c

lemma yields_reference (h : g.render o = .ok out) :
    (ReferenceEntry.build ⟨g, o⟩ (g.selectedTypes o)).Yields (g.reference o) := by
  obtain ⟨hfault, -⟩ := render_eq_ok_iff.1 h
  have hbuilt : (g.builtDeclarations o).findSome? Declaration.fault? = none := by
    unfold fault? at hfault
    split at hfault
    · cases hfault
    · exact hfault
  exact ⟨[], _, (ReferenceEntry.build_comesTo (g.selectedTypes o)).ends hbuilt []⟩

/-- The entity of a type shows the type. -/
lemma shownBy_typeEntity (h : g.render o = .ok out) {t : TypeDecl} (ht : t ∈ g.documentTypes o) :
    Declaration.ShownBy ⟨g, o⟩ (.ofType t) (g.typeEntity o t) := by
  have hbuilt : List.Forall₂ (TypeEntry.Built ⟨g, o⟩)
      (Name.sortOn TypeDecl.name (g.selectedTypes o))
      ((Name.sortOn TypeDecl.name (g.selectedTypes o)).map (TypeEntry.of ⟨g, o⟩)) :=
    ReferenceEntry.built_of_yields (yields_reference h)
  rw [List.forall₂_map_right_iff, List.forall₂_same] at hbuilt
  exact (hbuilt t ((g.documentTypes_perm o).mem_iff.1 ht)).shownBy

/-- A collection of a reference shows the types that belong there. -/
lemma forall₂_typesIn (h : g.render o = .ok out) (c : Collection) :
    List.Forall₂ (fun t e => Declaration.ShownBy ⟨g, o⟩ (.ofType t) e)
      ((Name.sortOn TypeDecl.name (g.selectedTypes o)).filter fun t => g.collection t = c)
      ((g.reference o).typesIn c) := by
  rw [typesIn_reference, List.forall₂_map_right_iff, List.forall₂_same]
  intro t ht
  exact shownBy_typeEntity h ((g.documentTypes_perm o).mem_iff.2 (List.mem_of_mem_filter ht))

lemma children_document (g : Graph) (o : Options) :
    (g.output o).document.children = [(g.reference o).toSection] := by
  have hreadme : blocksSections (g.readmeBlocks o) = [] := by
    unfold readmeBlocks
    by_cases hshows : o.showsReadme = true
    · rw [if_pos hshows]
      cases g.readmeFor o.submodule <;> rfl
    · rw [if_neg hshows]
      rfl
  show blocksSections (g.readmeBlocks o ++ (g.reference o).toSection.asBlocks) = _
  rw [blocksSections_append, hreadme, blocksSections_asBlocks rfl]
  rfl

lemma typeSections_of_render (h : g.render o = .ok out) :
    out.document.typeSections =
      ((g.documentTypes o).map (g.typeEntity o)).map Entity.toSection := by
  obtain ⟨-, rfl⟩ := render_eq_ok_iff.1 h
  rw [Section.typeSections, children_document, List.flatMap_singleton,
    ReferenceEntry.flatMap_children_toSection, flatMap_typesIn_reference]

lemma typeRecords_of_render (h : g.render o = .ok out) :
    out.record.reference.typeRecords =
      ((g.documentTypes o).map (g.typeEntity o)).map Entity.toRecord := by
  obtain ⟨-, rfl⟩ := render_eq_ok_iff.1 h
  show (g.reference o).toRecord.typeRecords = _
  rw [ReferenceEntry.typeRecords_toRecord, flatMap_typesIn_reference]

/-- The lists of a class share its members out, all but the protected ones. -/
lemma flatMap_declared_perm {t : TypeDecl} {body : ClassBody} (hbody : t.body = .ofClass body) :
    (MemberList.all.flatMap t.declared).Perm
      ((body.methods.filter (!·.isProtected)).map (.ofMethod t) ++
        (body.properties.filter (!·.isProtected)).map (.ofProperty t)) := by
  have hsplit {α : Type} (shown pick : α → Bool) (xs : List α) :
      ((xs.filter fun x => shown x && !pick x) ++ xs.filter fun x => shown x && pick x).Perm
        (xs.filter shown) := by
    have h := (List.perm_append_comm.trans (List.filter_append_perm pick (xs.filter shown)))
    simpa only [List.filter_filter, Bool.and_comm] using h
  have hmethods := (hsplit (fun m : Method => !m.isProtected) (·.isStatic) body.methods).map
    (Declaration.ofMethod t)
  have hproperties := (hsplit (fun p : Property => !p.isProtected)
    (fun p => p.isFlaggedConstant || (p.isStatic && p.isImmutable)) body.properties).map
      (Declaration.ofProperty t)
  rw [List.map_append] at hmethods hproperties
  have hdeclared : t.declared = body.declared t := by
    funext l
    rw [TypeDecl.declared, hbody]
  rw [hdeclared]
  simpa [MemberList.all, ClassBody.declared] using hmethods.append hproperties

/-- A type lists the members that belong in each of its lists, in the document and in the record
alike, sorted by the names in the graph with members of one name in the order of the graph; the
parameters of a member or initializer stand in their places.  Each member of a class that is not
protected belongs in one of the lists.  The order of names is total, and only a name itself is
equal to it. -/
theorem memberLists_of_render (h : g.render o = .ok out) :
    (∃ types : List Entity,
      out.document.typeSections = types.map Entity.toSection ∧
      out.record.reference.typeRecords = types.map Entity.toRecord ∧
      List.Forall₂ (TypeDecl.ListedBy ⟨g, o⟩) (g.documentTypes o) types) ∧
    (g.documentTypes o).Perm (g.types.filter fun t => t.submodule = o.submodule) ∧
    (∀ (t : TypeDecl) (body : ClassBody), t.body = .ofClass body →
      (MemberList.all.flatMap t.declared).Perm
        ((body.methods.filter (!·.isProtected)).map (.ofMethod t) ++
          (body.properties.filter (!·.isProtected)).map (.ofProperty t))) ∧
    ∀ a b c : String, (Name.order a b = .eq ↔ a = b) ∧
      Name.order b a = (Name.order a b).swap ∧
      (Name.order a b ≠ .gt → Name.order b c ≠ .gt → Name.order a c ≠ .gt) := by
  refine ⟨⟨(g.documentTypes o).map (g.typeEntity o), typeSections_of_render h,
    typeRecords_of_render h, ?_⟩, ?_, fun t body => flatMap_declared_perm, fun a b c => ?_⟩
  · rw [List.forall₂_map_right_iff, List.forall₂_same]
    exact fun t ht => (shownBy_typeEntity h ht).listedBy
  · have hsorted := (g.documentTypes_perm o).trans (Name.sortOn_perm TypeDecl.name _)
    simpa [selectedTypes, beq_eq_decide] using hsorted
  · refine ⟨Name.order_eq_eq_iff, Std.OrientedCmp.eq_swap, fun hab hbc => ?_⟩
    have htrans := @Name.precedes_trans a b c
    simp only [Name.precedes, bne_iff_ne] at htrans
    exact htrans hab hbc

/-- The store of the depot has a member in each list that a class can have. -/
theorem memberLists_of_render_depot :
    ∃ out, depot.render {} = .ok out ∧
      (∃ types : List Entity,
        out.document.typeSections = types.map Entity.toSection ∧
        out.record.reference.typeRecords = types.map Entity.toRecord ∧
        List.Forall₂ (TypeDecl.ListedBy ⟨depot, {}⟩) (depot.documentTypes {}) types) ∧
      (out.record.reference.typeRecords.map fun r =>
        MemberList.all.map fun l => (r.memberList l).map EntityRecord.id) =
        [[["lib.Store.count"], ["lib.Store.open"], ["lib.Store.keepers"], ["lib.Store.LIMIT"],
          []]] := by
  obtain ⟨out, h⟩ := exists_render_depot
  have hlists : ((depot.render {}).toOption.map fun out =>
      out.record.reference.typeRecords.map fun r =>
        MemberList.all.map fun l => (r.memberList l).map EntityRecord.id) =
        some [[["lib.Store.count"], ["lib.Store.open"], ["lib.Store.keepers"],
          ["lib.Store.LIMIT"], []]] := by
    decide +kernel
  rw [h] at hlists
  exact ⟨out, h, (memberLists_of_render h).1, Option.some.inj hlists⟩

end Graph

end ApiDocs
