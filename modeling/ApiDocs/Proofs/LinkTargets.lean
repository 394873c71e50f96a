import ApiDocs.Proofs.NamingLines

/-!
# Targets of links

Whoever asks for a reference may choose where links lead.  This module shows how little depends on
the choice: a build with other targets is the same build if the two agree on what is linked, and so
is a render (`Graph.render_withTarget`).  That what is noted along the naming lines is all that is
linked follows from it.

Each lemma follows the builder that it is about, from a line to the whole reference.
-/

namespace ApiDocs

/-! ## Choosing targets -/

/-- The options with targets of links that the caller chooses. -/
def Options.withTarget (o : Options) (target : TypeName → String) : Options :=
  { o with linkTarget? := some target }

mutual

/-- How a reference is spelled depends on how its named types are written. -/
lemma Convention.spell_congr {c : Convention} {named named' : String → String} :
    (reference : TypeRef) → (∀ fqn ∈ reference.names, named fqn = named' fqn) →
    c.spell named reference = c.spell named' reference
  | .primitive _, _ => by simp
  | .named fqn, h => by simpa [TypeRef.names] using h
  | .array element, h => by
    rw [spell_array, spell_array, spell_congr element h]
  | .map value, h => by
    rw [spell_map, spell_map, spell_congr value h]
  | .union options, h => by
    rw [spell_union, spell_union, spellOptions_congr options h]

lemma Convention.spellOptions_congr {c : Convention} {named named' : String → String} :
    (options : List TypeRef) → (∀ fqn ∈ TypeRef.optionNames options, named fqn = named' fqn) →
    options.map (c.spell named) = options.map (c.spell named')
  | [], _ => rfl
  | option :: rest, h => by
    rw [TypeRef.optionNames, List.forall_mem_append] at h
    rw [List.map_cons, List.map_cons, spell_congr option h.1, spellOptions_congr rest h.2]

end

namespace Context

/-- The context with targets of links that the caller chooses. -/
def withTarget (ctx : Context) (target : TypeName → String) : Context :=
  { ctx with options := ctx.options.withTarget target }

/-- The targets agree with those of the context on everything that the declarations link. -/
def AgreesOn (ctx : Context) (target : TypeName → String) (ds : List Declaration) : Prop :=
  ∀ d ∈ ds, ∀ fqn ∈ d.links ctx,
    target (ctx.typeName fqn) = ctx.options.linkTarget (ctx.typeName fqn)

variable {ctx : Context} {target : TypeName → String}

@[simp] lemma graph_withTarget : (ctx.withTarget target).graph = ctx.graph := rfl

@[simp] lemma language_withTarget :
    (ctx.withTarget target).options.language = ctx.options.language := rfl

@[simp] lemma convention_withTarget : (ctx.withTarget target).convention = ctx.convention := rfl

@[simp] lemma typeName_withTarget : (ctx.withTarget target).typeName = ctx.typeName := rfl

@[simp] lemma memberName_withTarget : (ctx.withTarget target).memberName = ctx.memberName := rfl

@[simp] lemma displayType_withTarget :
    (ctx.withTarget target).displayType = ctx.displayType := rfl

@[simp] lemma formals_withTarget : (ctx.withTarget target).formals = ctx.formals := rfl

@[simp] lemma withImport_withTarget : (ctx.withTarget target).withImport = ctx.withImport := rfl

lemma AgreesOn.mono {ds ds' : List Declaration} (h : ctx.AgreesOn target ds) (hsub : ds' ⊆ ds) :
    ctx.AgreesOn target ds' := fun d hd => h d (hsub hd)

lemma linkTo_withTarget {fqn : String}
    (h : ctx.graph.isLocal fqn = true →
      target (ctx.typeName fqn) = ctx.options.linkTarget (ctx.typeName fqn)) :
    (ctx.withTarget target).linkTo fqn = ctx.linkTo fqn := by
  cases hlocal : ctx.graph.isLocal fqn with
  | false => simp [linkTo, link, withTarget, hlocal, typeName, convention, Options.withTarget]
  | true =>
    simp only [linkTo, link, hlocal, withTarget, if_true, ← h hlocal]
    rfl

lemma linked_withTarget {names : List String}
    (h : ∀ fqn ∈ names.filter ctx.graph.isLocal,
      target (ctx.typeName fqn) = ctx.options.linkTarget (ctx.typeName fqn)) :
    names.map (ctx.withTarget target).linked = names.map ctx.linked := by
  refine List.map_congr_left fun fqn hfqn => ?_
  rw [linked, linked, linkTo_withTarget fun hlocal => h fqn (List.mem_filter.2 ⟨hfqn, hlocal⟩)]
  rfl

lemma typeText_withTarget {reference : TypeRef}
    (h : ∀ fqn ∈ reference.names.filter ctx.graph.isLocal,
      target (ctx.typeName fqn) = ctx.options.linkTarget (ctx.typeName fqn)) :
    (ctx.withTarget target).typeText reference = ctx.typeText reference := by
  have hspell : (ctx.withTarget target).linkedType (ctx.withTarget target).link reference =
      ctx.linkedType ctx.link reference := by
    refine Convention.spell_congr reference fun fqn hfqn => ?_
    exact linkTo_withTarget fun hlocal => h fqn (List.mem_filter.2 ⟨hfqn, hlocal⟩)
  rw [typeText, typeText, hspell]
  rfl

end Context

section

variable {ctx : Context} {target : TypeName → String} {t : TypeDecl}

lemma ParameterEntry.of_withTarget {callable : String} {p : Parameter}
    (h : ctx.AgreesOn target [.ofParameter callable p]) :
    of (ctx.withTarget target) callable p = of ctx callable p := by
  have hlinks := h _ List.mem_cons_self
  rw [Declaration.links, Declaration.run_namingLines_ofParameter] at hlinks
  rw [of, of, Context.typeText_withTarget hlinks]
  rfl

lemma PropertyEntry.of_withTarget {p : Property} (h : ctx.AgreesOn target [.ofProperty t p]) :
    of (ctx.withTarget target) t.fqn p = of ctx t.fqn p := by
  have hlinks := h _ List.mem_cons_self
  rw [Declaration.links, Declaration.run_namingLines_ofProperty] at hlinks
  rw [of, of, Context.typeText_withTarget hlinks]
  rfl

lemma PropertyEntry.sorted_withTarget {keep : Property → Bool} {properties : List Property}
    (h : ctx.AgreesOn target ((properties.filter keep).map (.ofProperty t))) :
    sorted (ctx.withTarget target) t.fqn keep properties = sorted ctx t.fqn keep properties := by
  have hentries : (properties.filter keep).map (of (ctx.withTarget target) t.fqn) =
      (properties.filter keep).map (of ctx t.fqn) := by
    refine List.map_congr_left fun p hp => of_withTarget (h.mono ?_)
    exact List.cons_subset.2 ⟨List.mem_map_of_mem hp, List.nil_subset _⟩
  rw [sorted, sorted, hentries]

lemma Build.requireParameters_bind_congr {fqn member : String} {given : Option (List Parameter)}
    {f f' : List Parameter → Build β} (h : ∀ parameters, given = some parameters →
      f parameters = f' parameters) :
    requireParameters fqn member given >>= f = requireParameters fqn member given >>= f' := by
  cases given with
  | none => rfl
  | some parameters => simp [requireParameters, h parameters rfl]

lemma ParameterEntry.map_of_withTarget {callable : String} {parameters : List Parameter}
    (h : ctx.AgreesOn target (parameters.map (.ofParameter callable))) :
    parameters.map (of (ctx.withTarget target) callable) = parameters.map (of ctx callable) := by
  refine List.map_congr_left fun p hp => of_withTarget (h.mono ?_)
  exact List.cons_subset.2 ⟨List.mem_map_of_mem hp, List.nil_subset _⟩

lemma InitializerEntry.build_withTarget {i : Initializer}
    (h : ctx.AgreesOn target (i.declarations t)) :
    build (ctx.withTarget target) t.fqn i = build ctx t.fqn i := by
  refine Build.requireParameters_bind_congr fun parameters hgiven => ?_
  rw [Initializer.declarations, hgiven, Option.getD_some] at h
  simp [ParameterEntry.map_of_withTarget (h.mono (List.subset_cons_self _ _))]

lemma CallableEntry.build_withTarget {m : Method}
    (h : ctx.AgreesOn target (m.declarations t)) :
    build (ctx.withTarget target) t.fqn m = build ctx t.fqn m := by
  refine Build.requireParameters_bind_congr fun parameters hgiven => ?_
  rw [Method.declarations, hgiven, Option.getD_some] at h
  have hlinks := h _ List.mem_cons_self
  rw [Declaration.links, Declaration.run_namingLines_ofMethod] at hlinks
  have hreturns (type : TypeRef) (htype : m.returns = some type) :
      (ctx.withTarget target).typeText type = ctx.typeText type := by
    rw [htype, Option.toList_some, List.flatMap_singleton] at hlinks
    exact Context.typeText_withTarget hlinks
  have hentries := ParameterEntry.map_of_withTarget (h.mono (List.subset_cons_self _ _))
  cases hresult : m.returns with
  | none => simp [hentries]
  | some type => simp [hentries, hreturns type hresult]

lemma Build.mapM_congr {f f' : α → Build β} {xs : List α} (h : ∀ x ∈ xs, f x = f' x) :
    xs.mapM f = xs.mapM f' := by
  induction xs with
  | nil => rfl
  | cons x rest ih =>
    rw [List.forall_mem_cons] at h
    rw [List.mapM_cons, List.mapM_cons, h.1, ih h.2]

lemma CallableEntry.buildSorted_withTarget {keep : Method → Bool} {methods : List Method}
    (h : ctx.AgreesOn target ((methods.filter keep).flatMap (Method.declarations t))) :
    buildSorted (ctx.withTarget target) t.fqn keep methods =
      buildSorted ctx t.fqn keep methods := by
  have hentries : (methods.filter keep).mapM (build (ctx.withTarget target) t.fqn) =
      (methods.filter keep).mapM (build ctx t.fqn) := by
    refine Build.mapM_congr fun m hm => build_withTarget (h.mono fun d hd => ?_)
    exact List.mem_flatMap.2 ⟨m, hm, hd⟩
  rw [buildSorted, buildSorted, hentries]

lemma ClassEntry.buildInitializer_withTarget {body : ClassBody}
    (h : ctx.AgreesOn target
      (body.shownInitializer?.toList.flatMap (Initializer.declarations t))) :
    buildInitializer (ctx.withTarget target) t.fqn body.initializer =
      buildInitializer ctx t.fqn body.initializer := by
  cases hi : body.initializer with
  | none => rfl
  | some i =>
    cases hprotected : i.isProtected with
    | true => simp [buildInitializer, hprotected]
    | false =>
      have hdeclarations : ctx.AgreesOn target (i.declarations t) := by
        simpa [ClassBody.shownInitializer?, hi, hprotected, Option.filter] using h
      simp [buildInitializer, hprotected, InitializerEntry.build_withTarget hdeclarations]

lemma ClassEntry.build_withTarget {body : ClassBody} (hbody : t.body = .ofClass body)
    (h : ctx.AgreesOn target t.declarations) :
    build (ctx.withTarget target) t body = build ctx t body := by
  have hlinks := h _ List.mem_cons_self
  rw [Declaration.links, Declaration.run_namingLines_ofClass hbody] at hlinks
  rw [TypeDecl.declarations, TypeDecl.memberDeclarations, hbody] at h
  have hmembers := h.mono (List.subset_cons_self _ _)
  have hinitializer : buildInitializer (ctx.withTarget target) t.fqn body.initializer =
      buildInitializer ctx t.fqn body.initializer :=
    buildInitializer_withTarget (hmembers.mono fun d hd => by simp [hd])
  have hinstance : CallableEntry.instanceMethods (ctx.withTarget target) t.fqn body.methods =
      CallableEntry.instanceMethods ctx t.fqn body.methods :=
    CallableEntry.buildSorted_withTarget (hmembers.mono fun d hd => by
      simp [instanceDeclarations, hd])
  have hstatic : CallableEntry.staticFunctions (ctx.withTarget target) t.fqn body.methods =
      CallableEntry.staticFunctions ctx t.fqn body.methods :=
    CallableEntry.buildSorted_withTarget (hmembers.mono fun d hd => by
      simp [staticDeclarations, hd])
  have hproperties : PropertyEntry.properties (ctx.withTarget target) t.fqn body.properties =
      PropertyEntry.properties ctx t.fqn body.properties :=
    PropertyEntry.sorted_withTarget (hmembers.mono fun d hd => by
      simp [propertyDeclarations, hd])
  have hconstants : PropertyEntry.constants (ctx.withTarget target) t.fqn body.properties =
      PropertyEntry.constants ctx t.fqn body.properties :=
    PropertyEntry.sorted_withTarget (hmembers.mono fun d hd => by
      simp [constantDeclarations, hd])
  simp only [build, hinitializer, hinstance, hstatic, hproperties, hconstants,
    Context.linked_withTarget hlinks, Context.typeName_withTarget]

lemma StructEntry.build_withTarget {body : InterfaceBody} (hbody : t.body = .ofInterface body)
    (hdatatype : body.isDatatype = true) (h : ctx.AgreesOn target t.declarations) :
    build (ctx.withTarget target) t body = build ctx t body := by
  rw [TypeDecl.declarations, TypeDecl.memberDeclarations, hbody] at h
  have hproperties : PropertyEntry.properties (ctx.withTarget target) t.fqn body.properties =
      PropertyEntry.properties ctx t.fqn body.properties :=
    PropertyEntry.sorted_withTarget (h.mono fun d hd => by
      simp [hdatatype, propertyDeclarations, hd])
  simp only [build, hproperties, Context.typeName_withTarget, Context.convention_withTarget,
    Context.withImport_withTarget, Context.language_withTarget]

lemma InterfaceEntry.build_withTarget {body : InterfaceBody} (hbody : t.body = .ofInterface body)
    (hdatatype : body.isDatatype = false) (h : ctx.AgreesOn target t.declarations) :
    build (ctx.withTarget target) t body = build ctx t body := by
  have hlinks := h _ List.mem_cons_self
  rw [Declaration.links, Declaration.run_namingLines_ofInterface hbody hdatatype] at hlinks
  obtain ⟨hinterfaces, himplementors⟩ := List.forall_mem_append.1 hlinks
  rw [TypeDecl.declarations, TypeDecl.memberDeclarations, hbody] at h
  have hmethods : CallableEntry.instanceMethods (ctx.withTarget target) t.fqn body.methods =
      CallableEntry.instanceMethods ctx t.fqn body.methods :=
    CallableEntry.buildSorted_withTarget (h.mono fun d hd => by
      simp [hdatatype, instanceDeclarations, hd])
  have hproperties : PropertyEntry.properties (ctx.withTarget target) t.fqn body.properties =
      PropertyEntry.properties ctx t.fqn body.properties :=
    PropertyEntry.sorted_withTarget (h.mono fun d hd => by
      simp [hdatatype, propertyDeclarations, hd])
  have himplementations : implementors (ctx.withTarget target) t.fqn =
      implementors ctx t.fqn := by
    have hlinked := Context.linked_withTarget himplementors
    rwa [List.map_map, List.map_map] at hlinked
  simp only [build, hmethods, hproperties, himplementations,
    Context.linked_withTarget hinterfaces, Context.typeName_withTarget]

lemma TypeEntry.build_withTarget (h : ctx.AgreesOn target t.declarations) :
    build (ctx.withTarget target) t = build ctx t := by
  have hbody := ctx.graph.body_of_category t
  unfold build
  rw [Context.graph_withTarget]
  cases hcategory : ctx.graph.category t with
  | ofConstruct body =>
    rw [hcategory] at hbody
    simp only [ClassEntry.build_withTarget hbody h]
  | ofClass body =>
    rw [hcategory] at hbody
    simp only [ClassEntry.build_withTarget hbody h]
  | ofStruct body =>
    rw [hcategory] at hbody
    simp only [StructEntry.build_withTarget hbody.1 hbody.2 h]
  | ofInterface body =>
    rw [hcategory] at hbody
    simp only [InterfaceEntry.build_withTarget hbody.1 hbody.2 h]
  | ofEnum body => rfl

lemma ReferenceEntry.build_withTarget {types : List TypeDecl}
    (h : ctx.AgreesOn target (types.flatMap (·.declarations))) :
    build (ctx.withTarget target) types = build ctx types := by
  have hentries : (Name.sortOn TypeDecl.name types).mapM
        (TypeEntry.build (ctx.withTarget target)) =
      (Name.sortOn TypeDecl.name types).mapM (TypeEntry.build ctx) := by
    refine Build.mapM_congr fun t ht => TypeEntry.build_withTarget (h.mono fun d hd => ?_)
    exact List.mem_flatMap.2 ⟨t, Name.mem_sortOn.1 ht, hd⟩
  rw [build, build, hentries]
  rfl

end

/-! ## Renders -/

namespace Graph

variable {g : Graph} {o : Options}

/-- The full names that a document links. -/
def links (g : Graph) (o : Options) : List String :=
  (g.declarations o).flatMap (·.links ⟨g, o⟩)

/-- What a render links is all that the targets of links can change. -/
lemma render_withTarget {target : TypeName → String}
    (h : ∀ fqn ∈ g.links o, target (Context.typeName ⟨g, o⟩ fqn) =
      o.linkTarget (Context.typeName ⟨g, o⟩ fqn)) :
    g.render (o.withTarget target) = g.render o := by
  have hagrees : Context.AgreesOn ⟨g, o⟩ target (g.declarations o) :=
    fun d hd fqn hfqn => h fqn (List.mem_flatMap.2 ⟨d, hd, hfqn⟩)
  have hsubmodule : (o.withTarget target).submodule = o.submodule := rfl
  have hlanguage : (o.withTarget target).language = o.language := rfl
  have hreadme : g.readmeBlocks (o.withTarget target) = g.readmeBlocks o := rfl
  have hcoordinates : g.coordinates (o.withTarget target) = g.coordinates o := rfl
  have hcontext : (⟨g, o.withTarget target⟩ : Context) = Context.withTarget ⟨g, o⟩ target := rfl
  unfold render
  rw [hsubmodule, hlanguage, hreadme, hcoordinates, hcontext]
  cases htypes : g.moduleTypes o.submodule with
  | error e => simp only [bind, Except.bind]
  | ok types =>
    obtain rfl := eq_selectedTypes_of_moduleTypes htypes
    have hbuild : ReferenceEntry.build (Context.withTarget ⟨g, o⟩ target) (g.selectedTypes o) =
        ReferenceEntry.build ⟨g, o⟩ (g.selectedTypes o) :=
      ReferenceEntry.build_withTarget hagrees
    simp only [bind, Except.bind, hbuild]

end Graph

end ApiDocs
