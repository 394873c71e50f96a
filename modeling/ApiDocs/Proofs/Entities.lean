import ApiDocs.Proofs.Building
import ApiDocs.Proofs.Parts

/-!
# The entities of a reference

A reference shows entities of ten kinds, nested in one another.  Each has a section of its own in
the document and a record of its own in the record.  `ReferenceEntry.entities` lists the entities of
a reference in the order of the document, `ReferenceRecord.entities` lists the nested records in the
same order.

The main facts are that the identified sections of a rendered document are the sections of these
entities, and the nested records of the rendered record are their records, both in order and with
multiplicity (`identified_of_render`, `recordEntities_of_render`).  So a statement about what the
document and the record share can be made entity by entity.
-/

namespace ApiDocs

/-! ## Records of all kinds -/

/-- The record of one entity, without regard to where it is nested. -/
inductive EntityRecord where
  | ofClass (r : ClassRecord)
  | ofStruct (r : StructRecord)
  | ofInterface (r : InterfaceRecord)
  | ofEnum (r : EnumRecord)
  | ofInitializer (r : InitializerRecord)
  | ofCallable (r : CallableRecord)
  | ofProperty (r : PropertyRecord)
  | ofParameter (r : ParameterRecord)
  | ofEnumMember (r : EnumMemberRecord)

/-- The identifier of a record. -/
def EntityRecord.id : EntityRecord → String
  | ofClass r => r.id
  | ofStruct r => r.id
  | ofInterface r => r.id
  | ofEnum r => r.id
  | ofInitializer r => r.id
  | ofCallable r => r.id
  | ofProperty r => r.id
  | ofParameter r => r.id
  | ofEnumMember r => r.id

/-- An initializer, and its parameters. -/
def InitializerRecord.entities (r : InitializerRecord) : List EntityRecord :=
  .ofInitializer r :: r.parameters.map .ofParameter

/-- A callable, and its parameters. -/
def CallableRecord.entities (r : CallableRecord) : List EntityRecord :=
  .ofCallable r :: r.parameters.map .ofParameter

/-- A class, its initializer, methods, functions, properties and constants. -/
def ClassRecord.entities (r : ClassRecord) : List EntityRecord :=
  .ofClass r :: (r.initializer.toList.flatMap (·.entities) ++
    r.instanceMethods.flatMap (·.entities) ++ r.staticFunctions.flatMap (·.entities) ++
    r.properties.map .ofProperty ++ r.constants.map .ofProperty)

/-- A struct, its initializer and properties. -/
def StructRecord.entities (r : StructRecord) : List EntityRecord :=
  .ofStruct r :: (r.initializer.entities ++ r.properties.map .ofProperty)

/-- An interface, its methods and properties. -/
def InterfaceRecord.entities (r : InterfaceRecord) : List EntityRecord :=
  .ofInterface r :: (r.instanceMethods.flatMap (·.entities) ++ r.properties.map .ofProperty)

/-- An enumeration and its members. -/
def EnumRecord.entities (r : EnumRecord) : List EntityRecord :=
  .ofEnum r :: r.members.map .ofEnumMember

/-- The nested records of a reference: constructs, structs, classes, interfaces, enumerations. -/
def ReferenceRecord.entities (r : ReferenceRecord) : List EntityRecord :=
  r.constructs.flatMap (·.entities) ++ r.structs.flatMap (·.entities) ++
    r.classes.flatMap (·.entities) ++ r.interfaces.flatMap (·.entities) ++
    r.enums.flatMap (·.entities)

/-! ## Entities -/

/-- An entity that a reference shows, by its entry.  How a struct is filled has no entry of its own
and is kept with the struct. -/
inductive Entity where
  | ofClass (e : ClassEntry)
  | ofStruct (e : StructEntry)
  | ofPopulation (e : StructEntry)
  | ofInterface (e : InterfaceEntry)
  | ofEnum (e : EnumEntry)
  | ofInitializer (e : InitializerEntry)
  | ofCallable (e : CallableEntry)
  | ofProperty (e : PropertyEntry)
  | ofParameter (e : ParameterEntry)
  | ofEnumMember (e : EnumMemberEntry)

namespace Entity

/-- The section of an entity. -/
def toSection : Entity → Section
  | ofClass e => e.toSection
  | ofStruct e => e.toSection
  | ofPopulation e => e.initializerSection
  | ofInterface e => e.toSection
  | ofEnum e => e.toSection
  | ofInitializer e => e.toSection
  | ofCallable e => e.toSection
  | ofProperty e => e.toSection
  | ofParameter e => e.toSection
  | ofEnumMember e => e.toSection

/-- The record of an entity. -/
def toRecord : Entity → EntityRecord
  | ofClass e => .ofClass e.toRecord
  | ofStruct e => .ofStruct e.toRecord
  | ofPopulation e => .ofInitializer e.toRecord.initializer
  | ofInterface e => .ofInterface e.toRecord
  | ofEnum e => .ofEnum e.toRecord
  | ofInitializer e => .ofInitializer e.toRecord
  | ofCallable e => .ofCallable e.toRecord
  | ofProperty e => .ofProperty e.toRecord
  | ofParameter e => .ofParameter e.toRecord
  | ofEnumMember e => .ofEnumMember e.toRecord

/-- The section and the record of an entity have the same identifier. -/
@[simp] lemma id_toSection (e : Entity) : e.toSection.id = some e.toRecord.id := by
  cases e <;> rfl

/-! ## The blocks of an entity -/

/-- The blocks that stand in the section of an entity itself. -/
def ownBlocks : Entity → List Block
  | ofClass e => linkedBlocks "Implements:" e.interfaces ++ docsBlocks e.docs
  | ofStruct e => docsBlocks e.docs
  | ofPopulation e => snippetBlocks e.language e.snippet
  | ofInterface e =>
    linkedBlocks "Extends:" e.interfaces ++ linkedBlocks "Implemented By:" e.implementations ++
      docsBlocks e.docs
  | ofEnum e => docsBlocks e.docs
  | ofInitializer e => snippetBlocks e.language e.snippet ++ docsBlocks e.docs
  | ofCallable e =>
    snippetBlocks e.language e.snippet ++ labelled? "Returns:" (e.returns.map (·.1)) ++
      docsBlocks e.docs
  | ofProperty e =>
    labelled "Type:" e.typeText ::
      (mark? "Optional" e.isOptional ++ labelled? "Default:" e.docs.default ++ docsBlocks e.docs)
  | ofParameter e =>
    labelled "Type:" e.typeText ::
      (mark? "Optional" e.isOptional ++ mark? "Variadic" e.isVariadic ++
        labelled? "Default:" e.docs.default ++ docsBlocks e.docs)
  | ofEnumMember e => docsBlocks e.docs

/-- The sections and groups that hang in the section of an entity. -/
def nestedBlocks : Entity → List Block
  | ofClass e =>
    e.initializer.toList.flatMap (·.toSection.asBlocks) ++
      (group "Methods" (e.instanceMethods.map (·.toSection))).asBlocks ++
      (group "Static Functions" (e.staticFunctions.map (·.toSection))).asBlocks ++
      (group "Properties" (e.properties.map (·.toSection))).asBlocks ++
      (group "Constants" (e.constants.map (·.toSection))).asBlocks
  | ofStruct e =>
    e.initializerSection.asBlocks ++ (group "Properties" (e.properties.map (·.toSection))).asBlocks
  | ofInterface e =>
    (group "Methods" (e.instanceMethods.map (·.toSection))).asBlocks ++
      (group "Properties" (e.properties.map (·.toSection))).asBlocks
  | ofEnum e => (group "Members" (e.members.map (·.toSection))).asBlocks
  | ofInitializer e => e.parameters.flatMap (·.toSection.asBlocks)
  | ofCallable e => e.parameters.flatMap (·.toSection.asBlocks)
  | ofPopulation _ => []
  | ofProperty _ => []
  | ofParameter _ => []
  | ofEnumMember _ => []

lemma blocks_toSection (e : Entity) : e.toSection.blocks = e.ownBlocks ++ e.nestedBlocks := by
  cases e <;>
    simp [toSection, ownBlocks, nestedBlocks, ClassEntry.toSection, StructEntry.toSection,
      StructEntry.initializerSection, InterfaceEntry.toSection, EnumEntry.toSection,
      InitializerEntry.toSection, CallableEntry.toSection, PropertyEntry.toSection,
      ParameterEntry.toSection, EnumMemberEntry.toSection, entitySection]

lemma isLeaf_of_mem_ownBlocks {e : Entity} {b : Block} (h : b ∈ e.ownBlocks) :
    b.isLeaf = true := by
  have hlabelled (label text : String) : (labelled label text).isLeaf = true := rfl
  cases e <;> simp only [ownBlocks, List.mem_append, List.mem_cons] at h <;>
    grind [isLeaf_of_mem_labelled?, isLeaf_of_mem_mark?, isLeaf_of_mem_snippetBlocks,
      isLeaf_of_mem_linkedBlocks, isLeaf_of_mem_docsBlocks]

lemma filter_isLeaf_nestedBlocks (e : Entity) : e.nestedBlocks.filter Block.isLeaf = [] := by
  cases e <;> simp [nestedBlocks]

/-- The leaves of the section of an entity are the blocks of its own. -/
lemma leaves_toSection (e : Entity) : e.toSection.leaves = e.ownBlocks := by
  rw [Section.leaves, blocks_toSection, List.filter_append, filter_isLeaf_nestedBlocks,
    List.append_nil, List.filter_eq_self]
  exact fun b => isLeaf_of_mem_ownBlocks

/-! ## The parts of an entity -/

/-- The parts that an entity itself adds to a document. -/
def parts (e : Entity) : List Part := .opening e.toSection :: e.ownBlocks.map .leaf

lemma parts_toSection (e : Entity) : e.toSection.parts = e.parts ++ blocksParts e.nestedBlocks := by
  rw [Section.parts, Section.openingParts, if_pos (by simp), blocks_toSection, blocksParts_append,
    blocksParts_of_leaves fun b => isLeaf_of_mem_ownBlocks]
  rfl

lemma filterMap_section?_parts (e : Entity) : e.parts.filterMap Part.section? = [e.toSection] := by
  simp [parts, Part.section?, Function.comp_def]

lemma filterMap_code?_parts (e : Entity) :
    e.parts.filterMap Part.code? = e.ownBlocks.filterMap Block.code? := by
  rw [parts, List.filterMap_cons_none rfl, List.filterMap_map]
  rfl

end Entity

/-! ## The entities of each entry

The section of an entry opens with the parts of the entity itself, and the parts of the entities in
it follow.  Its record nests the records of the same entities. -/

@[simp] lemma ParameterEntry.parts_toSection (e : ParameterEntry) :
    e.toSection.parts = (Entity.ofParameter e).parts :=
  (Entity.parts_toSection (.ofParameter e)).trans (by simp [Entity.nestedBlocks])

@[simp] lemma PropertyEntry.parts_toSection (e : PropertyEntry) :
    e.toSection.parts = (Entity.ofProperty e).parts :=
  (Entity.parts_toSection (.ofProperty e)).trans (by simp [Entity.nestedBlocks])

@[simp] lemma EnumMemberEntry.parts_toSection (e : EnumMemberEntry) :
    e.toSection.parts = (Entity.ofEnumMember e).parts :=
  (Entity.parts_toSection (.ofEnumMember e)).trans (by simp [Entity.nestedBlocks])

@[simp] lemma StructEntry.parts_initializerSection (e : StructEntry) :
    e.initializerSection.parts = (Entity.ofPopulation e).parts :=
  (Entity.parts_toSection (.ofPopulation e)).trans (by simp [Entity.nestedBlocks])

/-- An initializer, and its parameters. -/
def InitializerEntry.entities (e : InitializerEntry) : List Entity :=
  .ofInitializer e :: e.parameters.map .ofParameter

@[simp] lemma InitializerEntry.parts_toSection (e : InitializerEntry) :
    e.toSection.parts = e.entities.flatMap Entity.parts :=
  (Entity.parts_toSection (.ofInitializer e)).trans
    (by simp [Entity.nestedBlocks, entities, List.flatMap_map])

@[simp] lemma InitializerEntry.entities_toRecord (e : InitializerEntry) :
    e.toRecord.entities = e.entities.map Entity.toRecord := by
  simp [InitializerRecord.entities, entities, toRecord, Entity.toRecord, Function.comp_def]

/-- A callable, and its parameters. -/
def CallableEntry.entities (e : CallableEntry) : List Entity :=
  .ofCallable e :: e.parameters.map .ofParameter

@[simp] lemma CallableEntry.parts_toSection (e : CallableEntry) :
    e.toSection.parts = e.entities.flatMap Entity.parts :=
  (Entity.parts_toSection (.ofCallable e)).trans
    (by simp [Entity.nestedBlocks, entities, List.flatMap_map])

@[simp] lemma CallableEntry.entities_toRecord (e : CallableEntry) :
    e.toRecord.entities = e.entities.map Entity.toRecord := by
  simp [CallableRecord.entities, entities, toRecord, Entity.toRecord, Function.comp_def]

/-- A class, its initializer, methods, functions, properties and constants. -/
def ClassEntry.entities (e : ClassEntry) : List Entity :=
  .ofClass e :: (e.initializer.toList.flatMap (·.entities) ++
    e.instanceMethods.flatMap (·.entities) ++ e.staticFunctions.flatMap (·.entities) ++
    e.properties.map .ofProperty ++ e.constants.map .ofProperty)

@[simp] lemma ClassEntry.parts_toSection (e : ClassEntry) :
    e.toSection.parts = e.entities.flatMap Entity.parts :=
  (Entity.parts_toSection (.ofClass e)).trans
    (by simp [Entity.nestedBlocks, entities, List.flatMap_map, List.flatMap_assoc])

@[simp] lemma ClassEntry.entities_toRecord (e : ClassEntry) :
    e.toRecord.entities = e.entities.map Entity.toRecord := by
  have hinitializer : (e.initializer.map (·.toRecord)).toList.flatMap (·.entities) =
      (e.initializer.toList.flatMap (·.entities)).map Entity.toRecord := by
    cases e.initializer <;> simp
  simp [ClassRecord.entities, entities, toRecord, Entity.toRecord, Function.comp_def,
    List.flatMap_map, List.map_flatMap, hinitializer]

/-- A struct, how it is filled, and its properties. -/
def StructEntry.entities (e : StructEntry) : List Entity :=
  .ofStruct e :: .ofPopulation e :: e.properties.map .ofProperty

@[simp] lemma StructEntry.parts_toSection (e : StructEntry) :
    e.toSection.parts = e.entities.flatMap Entity.parts :=
  (Entity.parts_toSection (.ofStruct e)).trans
    (by simp [Entity.nestedBlocks, entities, List.flatMap_map])

@[simp] lemma StructEntry.entities_toRecord (e : StructEntry) :
    e.toRecord.entities = e.entities.map Entity.toRecord := by
  simp [StructRecord.entities, InitializerRecord.entities, entities, toRecord, Entity.toRecord,
    Function.comp_def]

/-- An interface, its methods and properties. -/
def InterfaceEntry.entities (e : InterfaceEntry) : List Entity :=
  .ofInterface e :: (e.instanceMethods.flatMap (·.entities) ++ e.properties.map .ofProperty)

@[simp] lemma InterfaceEntry.parts_toSection (e : InterfaceEntry) :
    e.toSection.parts = e.entities.flatMap Entity.parts :=
  (Entity.parts_toSection (.ofInterface e)).trans
    (by simp [Entity.nestedBlocks, entities, List.flatMap_map, List.flatMap_assoc])

@[simp] lemma InterfaceEntry.entities_toRecord (e : InterfaceEntry) :
    e.toRecord.entities = e.entities.map Entity.toRecord := by
  simp [InterfaceRecord.entities, entities, toRecord, Entity.toRecord, Function.comp_def,
    List.flatMap_map, List.map_flatMap]

/-- An enumeration and its members. -/
def EnumEntry.entities (e : EnumEntry) : List Entity :=
  .ofEnum e :: e.members.map .ofEnumMember

@[simp] lemma EnumEntry.parts_toSection (e : EnumEntry) :
    e.toSection.parts = e.entities.flatMap Entity.parts :=
  (Entity.parts_toSection (.ofEnum e)).trans
    (by simp [Entity.nestedBlocks, entities, List.flatMap_map])

@[simp] lemma EnumEntry.entities_toRecord (e : EnumEntry) :
    e.toRecord.entities = e.entities.map Entity.toRecord := by
  simp [EnumRecord.entities, entities, toRecord, Entity.toRecord, Function.comp_def]

/-! ## The entities of a reference -/

/-- The entities of a type. -/
def TypeEntry.entities : TypeEntry → List Entity
  | ofConstruct e => e.entities
  | ofClass e => e.entities
  | ofStruct e => e.entities
  | ofInterface e => e.entities
  | ofEnum e => e.entities

namespace ReferenceEntry

/-- The entities of a reference, in the order of the document: constructs, structs, classes,
interfaces, enumerations. -/
def entities (e : ReferenceEntry) : List Entity :=
  e.constructs.flatMap (·.entities) ++ e.structs.flatMap (·.entities) ++
    e.classes.flatMap (·.entities) ++ e.interfaces.flatMap (·.entities) ++
    e.enums.flatMap (·.entities)

lemma parts_toSection (e : ReferenceEntry) :
    e.toSection.parts = e.entities.flatMap Entity.parts := by
  have hblocks : e.toSection.parts = blocksParts e.toSection.blocks := rfl
  rw [hblocks]
  simp [toSection, entities, List.flatMap_assoc]

lemma entities_toRecord (e : ReferenceEntry) :
    e.toRecord.entities = e.entities.map Entity.toRecord := by
  simp [ReferenceRecord.entities, toRecord, entities, List.flatMap_map, List.map_flatMap]

end ReferenceEntry

/-! ## The entities of a render -/

namespace Graph

/-- The types of the module that the reader asks for. -/
def selectedTypes (g : Graph) (o : Options) : List TypeDecl :=
  g.types.filter (·.submodule == o.submodule)

/-- The entities that a render shows, in the order of the document; none if the render fails. -/
def entities (g : Graph) (o : Options) : List Entity :=
  match ((ReferenceEntry.build ⟨g, o⟩ (g.selectedTypes o)).runFrom []).1 with
  | .ok reference => reference.entities
  | .error _ => []

lemma eq_selectedTypes_of_moduleTypes {g : Graph} {o : Options} {types : List TypeDecl}
    (h : g.moduleTypes o.submodule = .ok types) : types = g.selectedTypes o := by
  unfold moduleTypes at h
  split at h
  · split at h
    · exact (Except.ok.inj h).symm
    · cases h
  · exact (Except.ok.inj h).symm

/-- A render that ends well shows the reference that was built of the selected types. -/
lemma exists_reference_of_render {g : Graph} {o : Options} {out : Output}
    (h : g.render o = .ok out) :
    ∃ reference, (ReferenceEntry.build ⟨g, o⟩ (g.selectedTypes o)).runFrom [] =
        (.ok reference, out.diagnostics) ∧
      g.entities o = reference.entities ∧
      out.document = { blocks := g.readmeBlocks o ++ reference.toSection.asBlocks } ∧
      out.record = ⟨o.language, g.coordinates o, reference.toRecord⟩ := by
  unfold render at h
  cases htypes : g.moduleTypes o.submodule with
  | error e => rw [htypes] at h; cases h
  | ok types =>
    obtain rfl := eq_selectedTypes_of_moduleTypes htypes
    rw [htypes] at h
    rcases hrun : (ReferenceEntry.build ⟨g, o⟩ (g.selectedTypes o)).runFrom [] with
      ⟨e | reference, diagnostics⟩
    · simp [bind, Except.bind, hrun] at h
    · simp only [bind, Except.bind, hrun, pure, Except.pure, Except.ok.injEq] at h
      subst h
      exact ⟨reference, rfl, by rw [entities, hrun], rfl, rfl⟩

lemma blocksParts_readmeBlocks (g : Graph) (o : Options) :
    blocksParts (g.readmeBlocks o) = (g.readmeBlocks o).map .leaf := by
  refine blocksParts_of_leaves fun b hb => ?_
  unfold readmeBlocks at hb
  split at hb
  · obtain ⟨readme, -, rfl⟩ : ∃ readme, g.readmeFor o.submodule = some readme ∧
        Block.text (Text.trimEnd readme) = b := by
      simpa using hb
    rfl
  · simp at hb

/-- The parts of a document are the readme, if it is shown, and the parts of the entities. -/
lemma parts_of_render {g : Graph} {o : Options} {out : Output} (h : g.render o = .ok out) :
    out.document.parts = (g.readmeBlocks o).map .leaf ++ (g.entities o).flatMap Entity.parts := by
  obtain ⟨reference, -, hentities, hdocument, -⟩ := exists_reference_of_render h
  rw [hdocument, hentities, Section.parts, blocksParts_append, blocksParts_asBlocks,
    reference.parts_toSection, blocksParts_readmeBlocks]
  rfl

/-- The identified sections of a document are the sections of the entities. -/
lemma identified_of_render {g : Graph} {o : Options} {out : Output} (h : g.render o = .ok out) :
    out.document.identified = (g.entities o).map Entity.toSection := by
  have hreadme : ((g.readmeBlocks o).map Part.leaf).filterMap Part.section? = [] := by
    simp [Part.section?, Function.comp_def]
  rw [Section.identified, parts_of_render h, List.filterMap_append, hreadme, List.nil_append,
    List.filterMap_flatMap]
  simp only [Entity.filterMap_section?_parts, ← List.map_eq_flatMap]

/-- The identifiers of a document are those of the entities. -/
lemma identifiers_eq_map_entities {g : Graph} {o : Options} {out : Output}
    (h : g.render o = .ok out) :
    out.document.identifiers = (g.entities o).map fun e => e.toRecord.id := by
  rw [Section.identifiers_eq_filterMap_identified, identified_of_render h, List.filterMap_map,
    ← List.filterMap_eq_map]
  exact List.filterMap_congr fun e _ => e.id_toSection

/-- The nested records of a record are the records of the entities. -/
lemma recordEntities_of_render {g : Graph} {o : Options} {out : Output}
    (h : g.render o = .ok out) :
    out.record.reference.entities = (g.entities o).map Entity.toRecord := by
  obtain ⟨reference, -, hentities, -, hrecord⟩ := exists_reference_of_render h
  rw [hrecord, hentities, reference.entities_toRecord]

/-! ## A small graph -/

/-- A store with a member of each kind that a class can have.  It refers to an interface that
another module of the same assembly declares, and its initializer is documented and deprecated. -/
def depot : Graph where
  name := "lib"
  submodules := [{ name := "parts" }]
  types := [
    { fqn := "lib.Store"
      name := "Store"
      docs := { summary := "A place to keep parts." }
      body := .ofClass {
        interfaces := ["lib.parts.Keeper"]
        initializer := some {
          docs := { summary := "Opens a store.", deprecated := some "Use `open`." }
          parameters := some [
            { name := "keeper", type := .named "lib.parts.Keeper" },
            { name := "label", type := .primitive .string, isOptional := true }] }
        methods := [
          { name := "count"
            docs := { summary := "How many parts there are.", sample := some "store.count()" }
            parameters := some []
            returns := some (.primitive .number) },
          { name := "open"
            isStatic := true
            parameters := some []
            returns := some (.named "lib.Store") }]
        properties := [
          { name := "keepers", type := .array (.named "lib.parts.Keeper") },
          { name := "LIMIT", type := .primitive .number, isFlaggedConstant := true }] } },
    { fqn := "lib.parts.Keeper"
      name := "Keeper"
      submodule := some "parts"
      body := .ofInterface {} }]

lemma exists_render_of_isOk {g : Graph} {o : Options} (h : (g.render o).isOk = true) :
    ∃ out, g.render o = .ok out := by
  cases hrender : g.render o with
  | ok out => exact ⟨out, rfl⟩
  | error e =>
    rw [hrender] at h
    cases h

/-- The root module of the depot can be rendered. -/
lemma exists_render_depot : ∃ out, depot.render {} = .ok out :=
  exists_render_of_isOk (by decide +kernel)

end Graph

end ApiDocs
