import ApiDocs.Proofs.Faults
import ApiDocs.Proofs.Lists
import ApiDocs.Proofs.Skeletons

/-!
# Graphs that look alike

A reference shows neither what is protected nor the order in which a graph has its types and their
members.  Two graphs that differ in nothing else look alike (`Graph.Alike`), and then the document
and the record of a render are the same (`Graph.Alike.output`).

An entry is built from a type and from answers to questions about the whole graph: what a full name
stands for, whether a class is a construct, who implements an interface.  So it is shown first that
graphs that look alike answer alike, and then that types that look alike have the same entry.

Faults and diagnostics come in the order of the graph, and there likeness says nothing of them.
Both are found in the callables that a type shows, and `Declaration.FromCallables` is what the two
have in common.
-/

namespace ApiDocs

/-! ## Types that look alike -/

/-- The methods that are not protected, by name. -/
def shownMethods (methods : List Method) : List Method :=
  Name.sortOn Method.name (methods.filter (!·.isProtected))

/-- The properties and constants that are not protected, by name. -/
def shownProperties (properties : List Property) : List Property :=
  Name.sortOn Property.name (properties.filter (!·.isProtected))

/-- Two bodies show the same. -/
inductive TypeBody.Alike : TypeBody → TypeBody → Prop
  | ofClass {body body' : ClassBody} (base : body.base = body'.base)
      (interfaces : body.interfaces = body'.interfaces)
      (initializer : body.shownInitializer? = body'.shownInitializer?)
      (methods : shownMethods body.methods = shownMethods body'.methods)
      (properties : shownProperties body.properties = shownProperties body'.properties) :
      Alike (.ofClass body) (.ofClass body')
  | ofInterface {body body' : InterfaceBody} (isDatatype : body.isDatatype = body'.isDatatype)
      (interfaces : body.interfaces = body'.interfaces)
      (methods : shownMethods body.methods = shownMethods body'.methods)
      (properties : shownProperties body.properties = shownProperties body'.properties) :
      Alike (.ofInterface body) (.ofInterface body')
  | ofEnum {body body' : EnumBody}
      (members : Name.sortOn EnumMember.name body.members =
        Name.sortOn EnumMember.name body'.members) :
      Alike (.ofEnum body) (.ofEnum body')

/-- Two types show the same. -/
structure TypeDecl.Alike (t t' : TypeDecl) : Prop where
  fqn : t.fqn = t'.fqn
  name : t.name = t'.name
  submodule : t.submodule = t'.submodule
  docs : t.docs = t'.docs
  body : t.body.Alike t'.body

@[refl] lemma TypeDecl.Alike.refl (t : TypeDecl) : t.Alike t where
  fqn := rfl
  name := rfl
  submodule := rfl
  docs := rfl
  body := by
    cases t.body with
    | ofClass => exact .ofClass rfl rfl rfl rfl rfl
    | ofInterface => exact .ofInterface rfl rfl rfl rfl
    | ofEnum => exact .ofEnum rfl

namespace TypeDecl.Alike

variable {t t' : TypeDecl}

lemma interfaces (h : t.Alike t') : t.interfaces = t'.interfaces := by
  have hbody := h.body
  unfold TypeDecl.interfaces
  cases t with | mk fqn name submodule docs body =>
  cases t' with | mk fqn' name' submodule' docs' body' =>
  cases hbody with
  | ofClass _ interfaces => exact interfaces
  | ofInterface _ interfaces => exact interfaces
  | ofEnum => rfl

lemma identity (h : t.Alike t') : t.identity = t'.identity := by
  funext assembly targets
  simp only [TypeDecl.identity, h.fqn, h.name, h.submodule]

lemma base? (h : t.Alike t') : t.base? = t'.base? := by
  have hbody := h.body
  unfold TypeDecl.base?
  cases t with | mk fqn name submodule docs body =>
  cases t' with | mk fqn' name' submodule' docs' body' =>
  cases hbody with
  | ofClass base => exact base
  | ofInterface => rfl
  | ofEnum => rfl

end TypeDecl.Alike

/-- Lists of types that show the same have such types under the same full names. -/
lemma rel_find?_fqn {types types' : List TypeDecl}
    (h : List.Forall₂ TypeDecl.Alike types types') (fqn : String) :
    Option.Rel TypeDecl.Alike (types.find? (·.fqn == fqn)) (types'.find? (·.fqn == fqn)) :=
  rel_find?_of_forall₂ h fun t t' ht => by rw [ht.fqn]

/-! ## Graphs that look alike -/

/-- Two dependencies describe types that show the same, in the same order. -/
structure Dependency.Alike (d d' : Dependency) : Prop where
  name : d.name = d'.name
  targets : d.targets = d'.targets
  types : List.Forall₂ TypeDecl.Alike d.types d'.types

/-- Two graphs have types that show the same, if not in the same order, and agree otherwise. -/
structure Graph.Alike (g g' : Graph) : Prop where
  name : g.name = g'.name
  version : g.version = g'.version
  readme : g.readme = g'.readme
  targets : g.targets = g'.targets
  submodules : g.submodules = g'.submodules
  dependencies : List.Forall₂ Dependency.Alike g.dependencies g'.dependencies
  /-- By simple name the types are the same. -/
  types : List.Forall₂ TypeDecl.Alike (Name.sortOn TypeDecl.name g.types)
    (Name.sortOn TypeDecl.name g'.types)
  /-- By full name the types are the same. -/
  local? : ∀ fqn, Option.Rel TypeDecl.Alike (g.local? fqn) (g'.local? fqn)

lemma Dependency.Alike.identity? {d d' : Dependency} (h : d.Alike d') (fqn : String) :
    d.identity? fqn = d'.identity? fqn := by
  unfold Dependency.identity?
  rcases none_or_some_of_rel (rel_find?_fqn h.types fqn) with
    ⟨hnone, hnone'⟩ | ⟨t, t', hsome, hsome', ht⟩
  · rw [hnone, hnone', Option.map_none, Option.map_none]
  · rw [hsome, hsome', Option.map_some, Option.map_some, ht.identity, h.name, h.targets]

namespace Graph.Alike

variable {g g' : Graph}

/-! ### What full names stand for -/

lemma isLocal (h : g.Alike g') : g.isLocal = g'.isLocal := by
  funext fqn
  rw [isLocal_eq_isSome_local?, isLocal_eq_isSome_local?]
  rcases none_or_some_of_rel (h.local? fqn) with ⟨hnone, hnone'⟩ | ⟨t, t', hsome, hsome', -⟩
  · rw [hnone, hnone']
  · rw [hsome, hsome', Option.isSome_some, Option.isSome_some]

lemma foreignIdentity (h : g.Alike g') (fqn : String) :
    g.foreignIdentity fqn = g'.foreignIdentity fqn := by
  have hfind (assembly : String) : Option.Rel Dependency.Alike
      (g.dependencies.find? (·.name == assembly)) (g'.dependencies.find? (·.name == assembly)) :=
    rel_find?_of_forall₂ h.dependencies fun d d' hd => by rw [hd.name]
  rcases none_or_some_of_rel (hfind (TypeIdentity.ofFqn fqn).assembly) with
    ⟨hnone, hnone'⟩ | ⟨d, d', hsome, hsome', hd⟩
  · simp only [Graph.foreignIdentity, hnone, hnone']
  · simp only [Graph.foreignIdentity, hsome, hsome', hd.targets]

lemma identity (h : g.Alike g') : g.identity = g'.identity := by
  funext fqn
  have hforeign := findSome?_eq_of_forall₂ h.dependencies fun d d' hd => hd.identity? fqn
  rcases none_or_some_of_rel (h.local? fqn) with ⟨hnone, hnone'⟩ | ⟨t, t', hsome, hsome', ht⟩
  · simp only [Graph.identity, hnone, hnone', hforeign, h.foreignIdentity]
  · simp only [Graph.identity, hsome, hsome', ht.identity, h.name, h.targets]

/-! ### Constructs -/

lemma foreignTypes (h : g.Alike g') : List.Forall₂ TypeDecl.Alike g.foreignTypes g'.foreignTypes :=
  List.rel_flatMap h.dependencies fun _ _ hd => hd.types

lemma find? (h : g.Alike g') (fqn : String) :
    Option.Rel TypeDecl.Alike (g.find? fqn) (g'.find? fqn) := by
  rw [Graph.find?, Graph.find?]
  rcases none_or_some_of_rel (h.local? fqn) with ⟨hnone, hnone'⟩ | ⟨t, t', hsome, hsome', ht⟩
  · rw [hnone, hnone', Option.none_or, Option.none_or]
    exact rel_find?_fqn h.foreignTypes fqn
  · rw [hsome, hsome', Option.some_or, Option.some_or]
    exact .some ht

lemma length_allTypes (h : g.Alike g') : g.allTypes.length = g'.allTypes.length := by
  have hlocal := h.types.length_eq
  rw [(Name.sortOn_perm _ _).length_eq, (Name.sortOn_perm _ _).length_eq] at hlocal
  rw [allTypes, allTypes, List.length_append, List.length_append, hlocal, h.foreignTypes.length_eq]

/-- The walk along the base classes goes through the same names. -/
lemma descendsWithin (h : g.Alike g') (steps : Nat) (seen : List String) {t t' : TypeDecl}
    (ht : t.Alike t') : g.descendsWithin steps seen t = g'.descendsWithin steps seen t' := by
  induction steps generalizing seen t t' with
  | zero => rfl
  | succ steps ih =>
    rw [Graph.descendsWithin, Graph.descendsWithin, ht.fqn, ht.base?]
    cases t'.base? with
    | none => rfl
    | some base =>
      rcases none_or_some_of_rel (h.find? base) with
        ⟨hnone, hnone'⟩ | ⟨next, next', hsome, hsome', hnext⟩
      · simp only [hnone, hnone']
      · simp only [hsome, hsome', ih _ hnext]

lemma isConstruct (h : g.Alike g') {t t' : TypeDecl} (ht : t.Alike t') :
    g.isConstruct t = g'.isConstruct t' := by
  rw [Graph.isConstruct, Graph.isConstruct, h.length_allTypes, h.descendsWithin _ _ ht]

/-! ### Types that are listed -/

lemma implementationsOf (h : g.Alike g') (fqn : String) :
    List.Forall₂ TypeDecl.Alike (Name.sortOn TypeDecl.name (g.implementationsOf fqn))
      (Name.sortOn TypeDecl.name (g'.implementationsOf fqn)) := by
  rw [Graph.implementationsOf, Graph.implementationsOf, Name.sortOn_filter, Name.sortOn_filter]
  exact filter_forall₂ h.types fun t t' ht => by rw [ht.interfaces]

lemma selectedTypes (h : g.Alike g') (o : Options) :
    List.Forall₂ TypeDecl.Alike (Name.sortOn TypeDecl.name (g.selectedTypes o))
      (Name.sortOn TypeDecl.name (g'.selectedTypes o)) := by
  rw [Graph.selectedTypes, Graph.selectedTypes, Name.sortOn_filter, Name.sortOn_filter]
  exact filter_forall₂ h.types fun t t' ht => by rw [ht.submodule]

end Graph.Alike

/-! ## Entries -/

/-- Two contexts name and link types alike. -/
structure Context.Agrees (ctx ctx' : Context) : Prop where
  options : ctx.options = ctx'.options
  identity : ctx.graph.identity = ctx'.graph.identity
  isLocal : ctx.graph.isLocal = ctx'.graph.isLocal

namespace Context.Agrees

variable {ctx ctx' : Context}

lemma convention (h : ctx.Agrees ctx') : ctx.convention = ctx'.convention := by
  rw [Context.convention, Context.convention, h.options]

lemma typeName (h : ctx.Agrees ctx') : ctx.typeName = ctx'.typeName := by
  funext fqn
  rw [Context.typeName, Context.typeName, h.convention, h.identity]

lemma memberName (h : ctx.Agrees ctx') : ctx.memberName = ctx'.memberName := by
  funext kind name
  rw [Context.memberName, Context.memberName, h.convention]

lemma withImport (h : ctx.Agrees ctx') : ctx.withImport = ctx'.withImport := by
  funext fqn snippet
  rw [Context.withImport, Context.withImport, Context.importLine, Context.importLine,
    h.convention, h.identity]

lemma signatureType (h : ctx.Agrees ctx') : ctx.signatureType = ctx'.signatureType := by
  funext reference
  rw [Context.signatureType, Context.signatureType, h.convention, h.typeName]

lemma displayType (h : ctx.Agrees ctx') : ctx.displayType = ctx'.displayType := by
  funext reference
  rw [Context.displayType, Context.displayType, h.convention, h.typeName]

lemma formals (h : ctx.Agrees ctx') : ctx.formals = ctx'.formals := by
  funext parameters
  rw [Context.formals, Context.formals, h.memberName, h.signatureType]

lemma link (h : ctx.Agrees ctx') : ctx.link = ctx'.link := by
  funext name isLocal
  rw [Context.link, Context.link, h.options]

lemma linked (h : ctx.Agrees ctx') : ctx.linked = ctx'.linked := by
  funext fqn
  rw [Context.linked, Context.linked, Context.linkTo, Context.linkTo, h.typeName, h.link,
    h.isLocal]

lemma typeText (h : ctx.Agrees ctx') : ctx.typeText = ctx'.typeText := by
  funext reference
  rw [Context.typeText, Context.typeText, Context.linkedType, Context.linkedType, h.convention,
    h.displayType, h.link, h.typeName, h.isLocal]

/-! ### Members -/

lemma parameterEntry (h : ctx.Agrees ctx') : ParameterEntry.of ctx = ParameterEntry.of ctx' := by
  funext callable p
  rw [ParameterEntry.of, ParameterEntry.of, h.memberName, h.typeText, h.displayType]

lemma propertyEntry (h : ctx.Agrees ctx') : PropertyEntry.of ctx = PropertyEntry.of ctx' := by
  funext fqn p
  rw [PropertyEntry.of, PropertyEntry.of, h.memberName, h.typeText, h.displayType,
    h.signatureType]

lemma enumMemberEntry (h : ctx.Agrees ctx') :
    EnumMemberEntry.of ctx = EnumMemberEntry.of ctx' := by
  funext fqn m
  rw [EnumMemberEntry.of, EnumMemberEntry.of, h.memberName]

lemma initializerSnippet (h : ctx.Agrees ctx') :
    Initializer.snippet ctx = Initializer.snippet ctx' := by
  funext fqn i
  rw [Initializer.snippet, Initializer.snippet, h.convention, h.typeName, h.formals]

lemma methodSnippet (h : ctx.Agrees ctx') : Method.snippet ctx = Method.snippet ctx' := by
  funext fqn m
  rw [Method.snippet, Method.snippet, h.convention, h.typeName, h.memberName, h.formals]

lemma initializerEntry (h : ctx.Agrees ctx') :
    InitializerEntry.of ctx = InitializerEntry.of ctx' := by
  funext fqn i
  rw [InitializerEntry.of, InitializerEntry.of, h.options, h.initializerSnippet, h.withImport,
    h.parameterEntry]

lemma callableEntry (h : ctx.Agrees ctx') : CallableEntry.of ctx = CallableEntry.of ctx' := by
  funext fqn m
  rw [CallableEntry.of, CallableEntry.of, h.options, h.memberName, h.methodSnippet, h.withImport,
    h.typeText, h.displayType, h.parameterEntry]

end Context.Agrees

/-! ### Types -/

section

variable {ctx ctx' : Context} {t t' : TypeDecl}

lemma CallableEntry.sorted_congr (h : ctx.Agrees ctx') (fqn : String) {pick : Method → Bool}
    {methods methods' : List Method} (hmethods : shownMethods methods = shownMethods methods') :
    sorted ctx fqn (fun m => !m.isProtected && pick m) methods =
      sorted ctx' fqn (fun m => !m.isProtected && pick m) methods' := by
  rw [sorted_eq_map, sorted_eq_map, Name.sortOn_filter_and Method.name (!·.isProtected) pick,
    Name.sortOn_filter_and Method.name (!·.isProtected) pick, h.callableEntry]
  exact congrArg (fun shown => (shown.filter pick).map (of ctx' fqn)) hmethods

lemma PropertyEntry.sorted_congr (h : ctx.Agrees ctx') (fqn : String) {pick : Property → Bool}
    {properties properties' : List Property}
    (hproperties : shownProperties properties = shownProperties properties') :
    sorted ctx fqn (fun p => !p.isProtected && pick p) properties =
      sorted ctx' fqn (fun p => !p.isProtected && pick p) properties' := by
  rw [sorted_eq_map, sorted_eq_map, Name.sortOn_filter_and Property.name (!·.isProtected) pick,
    Name.sortOn_filter_and Property.name (!·.isProtected) pick, h.propertyEntry]
  exact congrArg (fun shown => (shown.filter pick).map (of ctx' fqn)) hproperties

lemma ClassEntry.of_congr (h : ctx.Agrees ctx') (ht : t.Alike t') {body body' : ClassBody}
    (hbody : TypeBody.Alike (.ofClass body) (.ofClass body')) :
    of ctx t body = of ctx' t' body' := by
  cases hbody with
  | ofClass _ interfaces initializer methods properties =>
    rw [of, of, ht.fqn, ht.docs, h.typeName, h.linked, h.initializerEntry, interfaces, initializer,
      CallableEntry.sorted_congr h _ methods, CallableEntry.sorted_congr h _ methods,
      PropertyEntry.properties, PropertyEntry.properties, PropertyEntry.constants,
      PropertyEntry.constants, PropertyEntry.sorted_congr h _ properties,
      PropertyEntry.sorted_congr h _ properties]

lemma StructEntry.of_congr (h : ctx.Agrees ctx') (ht : t.Alike t') {body body' : InterfaceBody}
    (hbody : TypeBody.Alike (.ofInterface body) (.ofInterface body')) :
    of ctx t body = of ctx' t' body' := by
  cases hbody with
  | ofInterface _ _ _ properties =>
    rw [of, of, ht.fqn, ht.docs, h.typeName, h.options, h.convention, h.withImport,
      PropertyEntry.properties, PropertyEntry.properties,
      PropertyEntry.sorted_congr h _ properties]

lemma InterfaceEntry.of_congr (h : ctx.Agrees ctx') (hgraph : ctx.graph.Alike ctx'.graph)
    (ht : t.Alike t') {body body' : InterfaceBody}
    (hbody : TypeBody.Alike (.ofInterface body) (.ofInterface body')) :
    of ctx t body = of ctx' t' body' := by
  have himplementors (fqn : String) : implementors ctx fqn = implementors ctx' fqn :=
    map_eq_of_forall₂ (hgraph.implementationsOf fqn) fun t t' ht => by rw [ht.fqn, h.linked]
  cases hbody with
  | ofInterface _ interfaces methods properties =>
    rw [of, of, ht.fqn, ht.docs, h.typeName, h.linked, himplementors, interfaces,
      CallableEntry.sorted_congr h _ methods, PropertyEntry.properties, PropertyEntry.properties,
      PropertyEntry.sorted_congr h _ properties]

lemma EnumEntry.of_congr (h : ctx.Agrees ctx') (ht : t.Alike t') {body body' : EnumBody}
    (hbody : TypeBody.Alike (.ofEnum body) (.ofEnum body')) :
    of ctx t body = of ctx' t' body' := by
  cases hbody with
  | ofEnum members =>
    simp only [of, ht.fqn, ht.docs, h.typeName, h.enumMemberEntry,
      EnumMemberEntry.sortOn_map_of, members]

end

namespace Graph.Alike

variable {g g' : Graph} (h : g.Alike g') (o : Options)

include h

lemma agrees : Context.Agrees ⟨g, o⟩ ⟨g', o⟩ := ⟨rfl, h.identity, h.isLocal⟩

/-- Types that look alike have the same entry. -/
lemma typeEntry {t t' : TypeDecl} (ht : t.Alike t') :
    TypeEntry.of ⟨g, o⟩ t = TypeEntry.of ⟨g', o⟩ t' := by
  have hagrees := h.agrees o
  have hbody := ht.body
  unfold TypeEntry.of Graph.category
  dsimp only
  rw [h.isConstruct ht]
  generalize t.body = body at hbody
  generalize t'.body = body' at hbody
  -- the kinds are the same, and with them the collections
  have halike := hbody
  cases hbody with
  | ofClass =>
    cases g'.isConstruct t' with
    | true => exact congrArg TypeEntry.ofConstruct (ClassEntry.of_congr hagrees ht halike)
    | false => exact congrArg TypeEntry.ofClass (ClassEntry.of_congr hagrees ht halike)
  | @ofInterface _ body' isDatatype =>
    dsimp only
    rw [isDatatype]
    cases body'.isDatatype with
    | true => exact congrArg TypeEntry.ofStruct (StructEntry.of_congr hagrees ht halike)
    | false => exact congrArg TypeEntry.ofInterface (InterfaceEntry.of_congr hagrees h ht halike)
  | ofEnum => exact congrArg TypeEntry.ofEnum (EnumEntry.of_congr hagrees ht halike)

/-! ## References -/

lemma reference : g.reference o = g'.reference o := by
  have hentries := map_eq_of_forall₂ (h.selectedTypes o) fun t t' ht => h.typeEntry o ht
  rw [Graph.reference, Graph.reference, ReferenceEntry.of, ReferenceEntry.of, hentries]

/-- The document and the record of graphs that look alike are the same. -/
lemma output : (g.output o).document = (g'.output o).document ∧
    (g.output o).record = (g'.output o).record := by
  have hreadme : g.readmeFor = g'.readmeFor := by
    funext submodule
    cases submodule with
    | none => exact h.readme
    | some name => rw [readmeFor, readmeFor, h.submodules]
  have hblocks : g.readmeBlocks o = g'.readmeBlocks o := by
    rw [readmeBlocks, readmeBlocks, hreadme]
  have hcoordinates : g.coordinates o = g'.coordinates o := by
    rw [coordinates, coordinates, h.name, h.version]
  rw [Graph.output, Graph.output, h.reference, hblocks, hcoordinates]
  exact ⟨rfl, rfl⟩

lemma hasModule (submodule : Option String) :
    g.HasModule submodule ↔ g'.HasModule submodule := by
  have hsubmodules := map_eq_of_forall₂ h.types fun t t' ht => ht.submodule
  have hused (g : Graph) (name : String) : (∃ t ∈ g.types, t.submodule = some name) ↔
      some name ∈ (Name.sortOn TypeDecl.name g.types).map (·.submodule) := by
    simp [Name.mem_sortOn]
  cases submodule with
  | none => exact Iff.rfl
  | some name =>
    rw [HasModule, HasModule, hused, hused, hsubmodules, h.submodules]

end Graph.Alike

/-! ## What callables contribute

Faults and diagnostics come from callables.  Neither depends on the type of a callable, except for
its full name, so a type contributes what the callables that it shows contribute, in their order. -/

open Declaration

/-- A function that finds nothing in declarations other than callables, and of the type of a
callable looks at the full name only. -/
structure Declaration.FromCallables (found : Declaration → List α) : Prop where
  plain : ∀ d, d.isPlain = true → found d = []
  ofInitializer : ∀ t t' i, t.fqn = t'.fqn →
    found (.ofInitializer t i) = found (.ofInitializer t' i)
  ofMethod : ∀ t t' m, t.fqn = t'.fqn → found (.ofMethod t m) = found (.ofMethod t' m)

lemma Declaration.fromCallables_leftOut (ctx : Context) : FromCallables (leftOut ctx) where
  plain d hplain := by cases d <;> simp_all [isPlain, leftOut]
  ofInitializer t t' i h := by rw [leftOut, leftOut, h]
  ofMethod t t' m h := by rw [leftOut, leftOut, h]

lemma Declaration.fromCallables_fault? : FromCallables fun d => d.fault?.toList where
  plain d hplain := by cases d <;> simp_all [isPlain, fault?]
  ofInitializer t t' i h := by rw [fault?, fault?, h]
  ofMethod t t' m h := by rw [fault?, fault?, h]

/-- What is found in the callables that a type shows: in the initializer, the methods of instances
and the functions of the type itself. -/
def TypeDecl.gather (ofInitializer : Initializer → List α) (ofMethod : Method → List α)
    (t : TypeDecl) : List α :=
  match t.body with
  | .ofClass body =>
    body.shownInitializer?.toList.flatMap ofInitializer ++
      (body.methods.filter fun m => !m.isProtected && !m.isStatic).flatMap ofMethod ++
      (body.methods.filter fun m => !m.isProtected && m.isStatic).flatMap ofMethod
  | .ofInterface body =>
    if body.isDatatype then []
    else (body.methods.filter fun m => !m.isProtected && !m.isStatic).flatMap ofMethod
  | .ofEnum _ => []

namespace Declaration.FromCallables

variable {found : Declaration → List α} (h : FromCallables found)

include h

lemma flatMap_of_plain {ds : List Declaration} (hplain : ∀ d ∈ ds, d.isPlain = true) :
    ds.flatMap found = [] :=
  List.flatMap_eq_nil_iff.2 fun d hd => h.plain d (hplain d hd)

/-- Of a callable and its parameters only the callable contributes. -/
lemma flatMap_callable (d : Declaration) (callable : String) (parameters : List Parameter) :
    (d :: parameters.map (.ofParameter callable)).flatMap found = found d := by
  rw [List.flatMap_cons, h.flatMap_of_plain fun d => isPlain_of_mem_parameters, List.append_nil]

lemma flatMap_initializer (t : TypeDecl) (is : List Initializer) :
    (is.flatMap (Initializer.declarations t)).flatMap found =
      is.flatMap fun i => found (.ofInitializer t i) := by
  rw [List.flatMap_assoc]
  exact List.flatMap_congr fun i _ => h.flatMap_callable _ _ _

lemma flatMap_methods (t : TypeDecl) (methods : List Method) :
    (methods.flatMap (Method.declarations t)).flatMap found =
      methods.flatMap fun m => found (.ofMethod t m) := by
  rw [List.flatMap_assoc]
  exact List.flatMap_congr fun m _ => h.flatMap_callable _ _ _

lemma flatMap_properties (t : TypeDecl) (keep : Property → Bool) (properties : List Property) :
    ((properties.filter keep).map (.ofProperty t)).flatMap found = [] :=
  h.flatMap_of_plain fun _ => isPlain_of_mem_properties

/-- What is found in the declarations of a type is found in its callables, in their order. -/
lemma flatMap_declarations (t : TypeDecl) :
    t.declarations.flatMap found =
      t.gather (fun i => found (.ofInitializer t i)) fun m => found (.ofMethod t m) := by
  rw [TypeDecl.declarations, List.flatMap_cons, h.plain (.ofType t) rfl, List.nil_append]
  unfold TypeDecl.memberDeclarations TypeDecl.gather instanceDeclarations staticDeclarations
    propertyDeclarations constantDeclarations
  cases t.body with
  | ofClass body =>
    simp only [List.flatMap_append, h.flatMap_initializer, h.flatMap_methods,
      h.flatMap_properties, List.append_nil]
  | ofInterface body =>
    dsimp only
    by_cases hdatatype : body.isDatatype = true
    · rw [if_pos hdatatype, if_pos hdatatype, List.flatMap_cons, h.flatMap_properties,
        h.plain (.ofPopulation t) rfl, List.nil_append]
    · rw [if_neg hdatatype, if_neg hdatatype, List.flatMap_append, h.flatMap_methods,
        h.flatMap_properties, List.append_nil]
  | ofEnum body =>
    refine h.flatMap_of_plain fun d hd => ?_
    obtain ⟨m, -, rfl⟩ := List.mem_map.1 hd
    rfl

end Declaration.FromCallables

lemma Context.Agrees.leftOut {ctx ctx' : Context} (h : ctx.Agrees ctx') :
    Declaration.leftOut ctx = Declaration.leftOut ctx' := by
  funext d
  cases d with
  | ofInitializer t i =>
    rw [Declaration.leftOut, Declaration.leftOut, h.initializerSnippet]
  | ofMethod t m =>
    rw [Declaration.leftOut, Declaration.leftOut, h.methodSnippet]
  | _ => rfl

namespace Graph

variable (g : Graph) (o : Options)

lemma flatMap_builtDeclarations (found : Declaration → List α) :
    (g.builtDeclarations o).flatMap found =
      (Name.sortOn TypeDecl.name (g.selectedTypes o)).flatMap
        fun t => t.declarations.flatMap found :=
  List.flatMap_assoc

/-- Where the module exists, the fault of a graph is the first one of its declarations. -/
lemma fault?_eq_head? {g : Graph} {o : Options} (h : g.HasModule o.submodule) :
    g.fault? o = ((g.builtDeclarations o).flatMap fun d => d.fault?.toList).head? := by
  rw [Graph.fault?, moduleTypes_eq_ok h, ← List.filterMap_eq_flatMap_toList, List.head?_filterMap]

end Graph

end ApiDocs
