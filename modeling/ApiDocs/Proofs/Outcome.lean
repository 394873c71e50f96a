import ApiDocs.Proofs.Declarations

/-!
# What a render comes to

Whether a build fails is seen on the graph alone: it fails at the first declaration, in the order in
which entries are built, that is a callable without parameters.  Where none is, the result is a
function of the graph and the options, and so are the diagnostics that the build leaves behind.

`Build.ComesTo` says so of one build and the declarations that it goes through, and every builder
has a lemma with the declarations and the result that are its own.  For a whole render this gives a
closed form (`Graph.render_eq`): the fault of the graph, if there is one, and the output of the
graph otherwise.  What is said of two renders, or of the cases in which a render fails, starts from
there and never runs a build again.
-/

namespace ApiDocs

/-! ## Faults and omissions of a declaration -/

/-- The diagnostics of the entity of an identifier whose snippet this is. -/
def Snippet.leftOut (id : String) : Snippet → Diagnostics
  | .ok _ => []
  | .error u => [.ofUnsupported id u]

section

variable (ctx : Context) (fqn : String)

/-- How an instance is made through an initializer. -/
def Initializer.snippet (i : Initializer) : Snippet :=
  ctx.convention.construction (ctx.typeName fqn) (ctx.formals (i.parameters.getD []))

/-- How a method is called. -/
def Method.snippet (m : Method) : Snippet :=
  ctx.convention.invocation (ctx.typeName fqn) (ctx.memberName .method m.name) m.isStatic
    (ctx.formals (m.parameters.getD []))

end

namespace Declaration

/-- The fault of a declaration: it is a callable, and the graph does not give its parameters. -/
def fault? : Declaration → Option RenderError
  | ofInitializer t i =>
    if i.parameters.isNone then some (.missingParameters t.fqn "Initializer") else none
  | ofMethod t m => if m.parameters.isNone then some (.missingParameters t.fqn m.name) else none
  | _ => none

/-- The diagnostics of a declaration: it is a callable, and its snippet is left out. -/
def leftOut (ctx : Context) : Declaration → Diagnostics
  | ofInitializer t i => (i.snippet ctx t.fqn).leftOut (Name.initializerId t.fqn)
  | ofMethod t m => (m.snippet ctx t.fqn).leftOut (Name.extend t.fqn m.name)
  | _ => []

/-- A declaration that no build can fail at, and that has no snippet of its own to leave out. -/
def isPlain : Declaration → Bool
  | ofInitializer .. => false
  | ofMethod .. => false
  | _ => true

/-- The declarations before the first that is at fault, or all of them if none is. -/
def untilFault (ds : List Declaration) : List Declaration := ds.takeWhile (·.fault?.isNone)

variable {ds : List Declaration}

lemma untilFault_append_of_fault {e : RenderError} (h : ds.findSome? fault? = some e)
    (after : List Declaration) : untilFault (ds ++ after) = untilFault ds := by
  induction ds with
  | nil => cases h
  | cons d rest ih =>
    rw [List.findSome?_cons] at h
    cases hd : d.fault? with
    | some _ => simp [untilFault, hd]
    | none =>
      rw [hd] at h
      simpa [untilFault, hd] using ih h

lemma untilFault_append_of_faultless (h : ds.findSome? fault? = none) (after : List Declaration) :
    untilFault (ds ++ after) = ds ++ untilFault after :=
  List.takeWhile_append_of_pos fun d hd => by simp [List.findSome?_eq_none_iff.1 h d hd]

lemma untilFault_eq_self (h : ds.findSome? fault? = none) : untilFault ds = ds := by
  simpa [untilFault] using untilFault_append_of_faultless h []

lemma findSome?_fault?_of_plain (h : ∀ d ∈ ds, d.isPlain = true) : ds.findSome? fault? = none := by
  rw [List.findSome?_eq_none_iff]
  intro d hd
  have hplain := h d hd
  cases d <;> simp_all [isPlain, fault?]

lemma flatMap_leftOut_of_plain (ctx : Context) (h : ∀ d ∈ ds, d.isPlain = true) :
    ds.flatMap (leftOut ctx) = [] := by
  rw [List.flatMap_eq_nil_iff]
  intro d hd
  have hplain := h d hd
  cases d <;> simp_all [isPlain, leftOut]

end Declaration

open Declaration

/-! ## Builds -/

namespace Build

/-- A build goes through the declarations: it fails at the first that is at fault, and if none is,
it ends with the result and records what is left out of them.  What is left out of the declarations
before a fault is recorded too. -/
structure ComesTo (ctx : Context) (build : Build α) (ds : List Declaration) (a : α) : Prop where
  fails : ∀ e, ds.findSome? fault? = some e → ∀ before, (build.runFrom before).1 = .error e
  ends : ds.findSome? fault? = none →
    ∀ before, build.runFrom before = (.ok a, before ++ ds.flatMap (leftOut ctx))
  records : ∀ before,
    (build.runFrom before).2 = before ++ (untilFault ds).flatMap (leftOut ctx)

variable {ctx : Context}

lemma comesTo_pure (a : α) : (pure a : Build α).ComesTo ctx [] a where
  fails e he := by cases he
  ends _ before := by simp
  records before := by simp [untilFault]

lemma runFrom_snippet (id : String) (s : Snippet) (before : Diagnostics) :
    (snippet id s).runFrom before = (.ok s.toOption, before ++ s.leftOut id) := by
  cases s with
  | ok text => simp [Snippet.leftOut, Except.toOption]
  | error u => rfl

/-- A callable asks for its parameters, and then keeps its snippet or records why it has none. -/
lemma comesTo_callable {d : Declaration} {fqn member id : String}
    {given : Option (List Parameter)} {call : List Parameter → Snippet}
    {entry : List Parameter → Option String → α}
    (hfault : d.fault? = if given.isNone then some (.missingParameters fqn member) else none)
    (hleftOut : d.leftOut ctx = (call (given.getD [])).leftOut id) :
    (do
      let parameters ← requireParameters fqn member given
      let kept ← snippet id (call parameters)
      return entry parameters kept).ComesTo ctx [d]
        (entry (given.getD []) (call (given.getD [])).toOption) := by
  cases given with
  | none =>
    constructor
    · intro e he before
      rw [List.findSome?_singleton, hfault] at he
      cases he
      rfl
    · intro hnone
      rw [List.findSome?_singleton, hfault] at hnone
      cases hnone
    · intro before
      have hfaulty : untilFault [d] = [] := by simp [untilFault, hfault]
      rw [hfaulty, List.flatMap_nil, List.append_nil]
      rfl
  | some parameters =>
    constructor
    · intro e he
      rw [List.findSome?_singleton, hfault] at he
      cases he
    · intro _ before
      rw [requireParameters, pure_bind, runFrom_bind, runFrom_snippet, List.flatMap_singleton,
        hleftOut]
      rfl
    · intro before
      have hfaultless : untilFault [d] = [d] := by simp [untilFault, hfault]
      rw [requireParameters, pure_bind, runFrom_bind, runFrom_snippet, hfaultless,
        List.flatMap_singleton, hleftOut]
      rfl

/-- A snippet that the language can express is kept. -/
lemma comesTo_snippet {id text : String} {s : Snippet} (hs : s = .ok text) :
    (snippet id s).ComesTo ctx [] s.toOption := by
  subst hs
  exact comesTo_pure (some text)

/-- Where the first of two builds fails, the second one is not run. -/
lemma ComesTo.bind {x : Build α} {f : α → Build β} {ds ds' : List Declaration} {a : α} {b : β}
    (hx : x.ComesTo ctx ds a) (hf : (f a).ComesTo ctx ds' b) :
    (x >>= f).ComesTo ctx (ds ++ ds') b where
  fails e he before := by
    rw [List.findSome?_append] at he
    rw [runFrom_bind]
    cases hds : ds.findSome? fault? with
    | some e' =>
      rw [hds, Option.some_or] at he
      cases he
      have hfirst := hx.fails e hds before
      rcases hrun : x.runFrom before with ⟨result, recorded⟩
      rw [hrun] at hfirst
      cases hfirst
      rfl
    | none =>
      rw [hds, Option.none_or] at he
      rw [hx.ends hds before]
      exact hf.fails e he _
  ends hnone before := by
    rw [List.findSome?_append, Option.or_eq_none_iff] at hnone
    rw [runFrom_bind, hx.ends hnone.1 before, List.flatMap_append, ← List.append_assoc]
    exact hf.ends hnone.2 _
  records before := by
    rw [runFrom_bind]
    cases hds : ds.findSome? fault? with
    | some e =>
      have hfirst := hx.fails e hds before
      have hrecorded := hx.records before
      rcases hrun : x.runFrom before with ⟨result, recorded⟩
      rw [hrun] at hfirst hrecorded
      cases hfirst
      rw [untilFault_append_of_fault hds]
      exact hrecorded
    | none =>
      rw [hx.ends hds before, untilFault_append_of_faultless hds, List.flatMap_append,
        ← List.append_assoc]
      exact hf.records _

lemma ComesTo.map {x : Build α} {ds : List Declaration} {a : α} (hx : x.ComesTo ctx ds a)
    (f : α → β) : (f <$> x).ComesTo ctx ds (f a) := by
  rw [map_eq_pure_bind, ← List.append_nil ds]
  exact hx.bind (comesTo_pure (f a))

/-- Along a list, a build goes through the declarations of one member after the other. -/
lemma ComesTo.mapM {f : α → Build β} {ds : α → List Declaration} {g : α → β} {xs : List α}
    (h : ∀ x ∈ xs, (f x).ComesTo ctx (ds x) (g x)) :
    (xs.mapM f).ComesTo ctx (xs.flatMap ds) (xs.map g) := by
  induction xs with
  | nil => exact comesTo_pure []
  | cons x rest ih =>
    have hrest := ih fun y hy => h y (List.mem_cons_of_mem x hy)
    rw [List.mapM_cons, List.flatMap_cons, List.map_cons, ← List.append_nil (rest.flatMap ds)]
    exact (h x List.mem_cons_self).bind (hrest.bind (comesTo_pure (g x :: rest.map g)))

/-- Plain declarations make no difference to a build. -/
lemma ComesTo.between_plain {x : Build α} {before ds after : List Declaration} {a : α}
    (hx : x.ComesTo ctx ds a) (hbefore : ∀ d ∈ before, d.isPlain = true)
    (hafter : ∀ d ∈ after, d.isPlain = true) : x.ComesTo ctx (before ++ ds ++ after) a := by
  have hfault : (before ++ ds ++ after).findSome? fault? = ds.findSome? fault? := by
    rw [List.findSome?_append, List.findSome?_append, findSome?_fault?_of_plain hbefore,
      findSome?_fault?_of_plain hafter, Option.none_or, Option.or_none]
  have hleftOut : (before ++ ds ++ after).flatMap (leftOut ctx) = ds.flatMap (leftOut ctx) := by
    rw [List.flatMap_append, List.flatMap_append, flatMap_leftOut_of_plain ctx hbefore,
      flatMap_leftOut_of_plain ctx hafter, List.nil_append, List.append_nil]
  have hrecorded : (untilFault (before ++ ds ++ after)).flatMap (leftOut ctx) =
      (untilFault ds).flatMap (leftOut ctx) := by
    rw [List.append_assoc, untilFault_append_of_faultless (findSome?_fault?_of_plain hbefore),
      List.flatMap_append, flatMap_leftOut_of_plain ctx hbefore, List.nil_append]
    cases hds : ds.findSome? fault? with
    | some e => rw [untilFault_append_of_fault hds]
    | none =>
      rw [untilFault_append_of_faultless hds,
        untilFault_eq_self (findSome?_fault?_of_plain hafter), untilFault_eq_self hds,
        List.flatMap_append, flatMap_leftOut_of_plain ctx hafter, List.append_nil]
  constructor
  · rw [hfault]
    exact hx.fails
  · rw [hfault, hleftOut]
    exact hx.ends
  · rw [hrecorded]
    exact hx.records

/-- A result is ready where there are only plain declarations to go through. -/
lemma comesTo_plain {ds : List Declaration} (a : α) (hds : ∀ d ∈ ds, d.isPlain = true) :
    (pure a : Build α).ComesTo ctx ds a := by
  simpa using (comesTo_pure a).between_plain (List.forall_mem_nil _) hds

end Build

/-! ## Entries

What each entry holds where its callables give their parameters. -/

/-- The entry of an initializer. -/
def InitializerEntry.of (ctx : Context) (fqn : String) (i : Initializer) : InitializerEntry where
  id := Name.initializerId fqn
  language := ctx.options.language
  snippet := (i.snippet ctx fqn).toOption.map (ctx.withImport fqn)
  parameters := (i.parameters.getD []).map (ParameterEntry.of ctx (Name.initializerId fqn))
  docs := i.docs

/-- The entry of a callable. -/
def CallableEntry.of (ctx : Context) (fqn : String) (m : Method) : CallableEntry where
  id := Name.extend fqn m.name
  name := m.name
  displayName := ctx.memberName .method m.name
  language := ctx.options.language
  snippet :=
    let call := (m.snippet ctx fqn).toOption
    if m.isStatic then call.map (ctx.withImport fqn) else call
  returns := m.returns.map fun type => (ctx.typeText type, ctx.displayType type)
  parameters := (m.parameters.getD []).map (ParameterEntry.of ctx (Name.extend fqn m.name))
  docs := m.docs

/-- The entries of the methods that satisfy a condition, by name. -/
def CallableEntry.sorted (ctx : Context) (fqn : String) (keep : Method → Bool)
    (methods : List Method) : List CallableEntry :=
  Name.sortOn name ((methods.filter keep).map (of ctx fqn))

/-- The entry of a class. -/
def ClassEntry.of (ctx : Context) (t : TypeDecl) (body : ClassBody) : ClassEntry where
  id := t.fqn
  fqn := (ctx.typeName t.fqn).qualified
  displayName := (ctx.typeName t.fqn).short
  interfaces := body.interfaces.map ctx.linked
  docs := t.docs
  initializer := body.shownInitializer?.map (.of ctx t.fqn)
  instanceMethods :=
    CallableEntry.sorted ctx t.fqn (fun m => !m.isProtected && !m.isStatic) body.methods
  staticFunctions :=
    CallableEntry.sorted ctx t.fqn (fun m => !m.isProtected && m.isStatic) body.methods
  properties := PropertyEntry.properties ctx t.fqn body.properties
  constants := PropertyEntry.constants ctx t.fqn body.properties

/-- The entry of a struct. -/
def StructEntry.of (ctx : Context) (t : TypeDecl) (body : InterfaceBody) : StructEntry where
  id := t.fqn
  fqn := (ctx.typeName t.fqn).qualified
  displayName := (ctx.typeName t.fqn).short
  docs := t.docs
  initializerId := Name.initializerId t.fqn
  language := ctx.options.language
  snippet := (ctx.convention.population (ctx.typeName t.fqn)
    ((PropertyEntry.properties ctx t.fqn body.properties).map (·.toFormal))).toOption.map
      (ctx.withImport t.fqn)
  properties := PropertyEntry.properties ctx t.fqn body.properties

/-- The entry of an interface. -/
def InterfaceEntry.of (ctx : Context) (t : TypeDecl) (body : InterfaceBody) : InterfaceEntry where
  id := t.fqn
  fqn := (ctx.typeName t.fqn).qualified
  displayName := (ctx.typeName t.fqn).short
  interfaces := body.interfaces.map ctx.linked
  implementations := implementors ctx t.fqn
  docs := t.docs
  instanceMethods :=
    CallableEntry.sorted ctx t.fqn (fun m => !m.isProtected && !m.isStatic) body.methods
  properties := PropertyEntry.properties ctx t.fqn body.properties

/-- The entry of a type, in its collection. -/
def TypeEntry.of (ctx : Context) (t : TypeDecl) : TypeEntry :=
  match ctx.graph.category t with
  | .ofConstruct body => .ofConstruct (.of ctx t body)
  | .ofClass body => .ofClass (.of ctx t body)
  | .ofStruct body => .ofStruct (.of ctx t body)
  | .ofInterface body => .ofInterface (.of ctx t body)
  | .ofEnum body => .ofEnum (.of ctx t body)

/-- What the reference of some types shows. -/
def ReferenceEntry.of (ctx : Context) (types : List TypeDecl) : ReferenceEntry :=
  ⟨ctx.options.title, (Name.sortOn TypeDecl.name types).map (TypeEntry.of ctx)⟩

/-! ## What the builders come to -/

section

variable {ctx : Context} {t : TypeDecl}

lemma Declaration.isPlain_of_mem_parameters {callable : String} {parameters : List Parameter}
    {d : Declaration} (h : d ∈ parameters.map (.ofParameter callable)) : d.isPlain = true := by
  obtain ⟨p, -, rfl⟩ := List.mem_map.1 h
  rfl

lemma Declaration.isPlain_of_mem_properties {keep : Property → Bool} {properties : List Property}
    {d : Declaration} (h : d ∈ (properties.filter keep).map (.ofProperty t)) :
    d.isPlain = true := by
  obtain ⟨p, -, rfl⟩ := List.mem_map.1 h
  rfl

lemma InitializerEntry.build_comesTo (i : Initializer) :
    (build ctx t.fqn i).ComesTo ctx (i.declarations t) (of ctx t.fqn i) := by
  have hcallable : (build ctx t.fqn i).ComesTo ctx [.ofInitializer t i] (of ctx t.fqn i) :=
    Build.comesTo_callable rfl rfl
  exact hcallable.between_plain (List.forall_mem_nil _) fun d => isPlain_of_mem_parameters

lemma CallableEntry.build_comesTo (m : Method) :
    (build ctx t.fqn m).ComesTo ctx (m.declarations t) (of ctx t.fqn m) := by
  have hcallable : (build ctx t.fqn m).ComesTo ctx [.ofMethod t m] (of ctx t.fqn m) :=
    Build.comesTo_callable rfl rfl
  exact hcallable.between_plain (List.forall_mem_nil _) fun d => isPlain_of_mem_parameters

lemma CallableEntry.buildSorted_comesTo (keep : Method → Bool) (methods : List Method) :
    (buildSorted ctx t.fqn keep methods).ComesTo ctx
      ((methods.filter keep).flatMap (Method.declarations t)) (sorted ctx t.fqn keep methods) := by
  have hbuilt : ((methods.filter keep).mapM (build ctx t.fqn)).ComesTo ctx
      ((methods.filter keep).flatMap (Method.declarations t))
      ((methods.filter keep).map (of ctx t.fqn)) := .mapM fun m _ => build_comesTo m
  exact hbuilt.map (Name.sortOn name)

lemma ClassEntry.buildInitializer_comesTo (body : ClassBody) :
    (buildInitializer ctx t.fqn body.initializer).ComesTo ctx
      (body.shownInitializer?.toList.flatMap (Initializer.declarations t))
      (body.shownInitializer?.map (.of ctx t.fqn)) := by
  unfold ClassBody.shownInitializer?
  cases body.initializer with
  | none => exact Build.comesTo_pure none
  | some i =>
    rw [buildInitializer]
    by_cases hprotected : i.isProtected = true
    · rw [if_pos hprotected, Option.filter_some_neg (by simpa using hprotected)]
      exact Build.comesTo_pure none
    · rw [if_neg hprotected, Option.filter_some_pos (by simpa using hprotected)]
      simpa using (InitializerEntry.build_comesTo i).map some

lemma ClassEntry.build_comesTo {body : ClassBody} (hbody : t.body = .ofClass body) :
    (build ctx t body).ComesTo ctx t.declarations (of ctx t body) := by
  have hbuild : (build ctx t body).ComesTo ctx
      (body.shownInitializer?.toList.flatMap (Initializer.declarations t) ++
        (instanceDeclarations t body.methods ++ (staticDeclarations t body.methods ++ [])))
      (of ctx t body) :=
    (buildInitializer_comesTo body).bind
      ((CallableEntry.buildSorted_comesTo _ body.methods).bind
        ((CallableEntry.buildSorted_comesTo _ body.methods).bind (Build.comesTo_pure _)))
  have hproperties : ∀ d ∈ propertyDeclarations t body.properties ++
      constantDeclarations t body.properties, d.isPlain = true :=
    List.forall_mem_append.2
      ⟨fun d => isPlain_of_mem_properties, fun d => isPlain_of_mem_properties⟩
  have htype : ∀ d ∈ [ofType t], d.isPlain = true := List.forall_mem_singleton.2 rfl
  simpa [TypeDecl.declarations, TypeDecl.memberDeclarations, hbody] using
    hbuild.between_plain htype hproperties

/-- Every language can fill a record. -/
lemma Language.exists_population (l : Language) (name : TypeName) (fields : List Formal) :
    ∃ text, l.convention.population name fields = .ok text := by
  cases l with
  | cSharp =>
    by_cases hfields : fields.isEmpty = true
    · exact ⟨_, if_pos hfields⟩
    · exact ⟨_, if_neg hfields⟩
  | _ => exact ⟨_, rfl⟩

lemma StructEntry.build_comesTo {body : InterfaceBody} (hbody : t.body = .ofInterface body)
    (hdatatype : body.isDatatype = true) :
    (build ctx t body).ComesTo ctx t.declarations (of ctx t body) := by
  obtain ⟨text, htext⟩ := ctx.options.language.exists_population (ctx.typeName t.fqn)
    ((PropertyEntry.properties ctx t.fqn body.properties).map (·.toFormal))
  have hbuild : (build ctx t body).ComesTo ctx ([] ++ []) (of ctx t body) :=
    (Build.comesTo_snippet htext).bind (Build.comesTo_pure _)
  have hplain : ∀ d ∈ ofType t :: ofPopulation t :: propertyDeclarations t body.properties,
      d.isPlain = true :=
    List.forall_mem_cons.2 ⟨rfl, List.forall_mem_cons.2 ⟨rfl, fun d => isPlain_of_mem_properties⟩⟩
  simpa [TypeDecl.declarations, TypeDecl.memberDeclarations, hbody, hdatatype] using
    hbuild.between_plain (List.forall_mem_nil _) hplain

lemma InterfaceEntry.build_comesTo {body : InterfaceBody} (hbody : t.body = .ofInterface body)
    (hdatatype : body.isDatatype = false) :
    (build ctx t body).ComesTo ctx t.declarations (of ctx t body) := by
  have hbuild : (build ctx t body).ComesTo ctx (instanceDeclarations t body.methods ++ [])
      (of ctx t body) :=
    (CallableEntry.buildSorted_comesTo _ body.methods).bind (Build.comesTo_pure _)
  have htype : ∀ d ∈ [ofType t], d.isPlain = true := List.forall_mem_singleton.2 rfl
  simpa [TypeDecl.declarations, TypeDecl.memberDeclarations, hbody, hdatatype] using
    hbuild.between_plain htype fun d (hd : d ∈ propertyDeclarations t body.properties) =>
      isPlain_of_mem_properties hd

lemma EnumEntry.of_comesTo {body : EnumBody} (hbody : t.body = .ofEnum body) :
    (pure (of ctx t body) : Build EnumEntry).ComesTo ctx t.declarations (of ctx t body) := by
  have hplain : ∀ d ∈ t.declarations, d.isPlain = true := by
    simp [TypeDecl.declarations, TypeDecl.memberDeclarations, hbody, isPlain]
  exact Build.comesTo_plain _ hplain

lemma TypeEntry.build_comesTo (t : TypeDecl) :
    (build ctx t).ComesTo ctx t.declarations (of ctx t) := by
  have hbody := ctx.graph.body_of_category t
  unfold build of
  cases hcategory : ctx.graph.category t with
  | ofConstruct body =>
    rw [hcategory] at hbody
    exact (ClassEntry.build_comesTo hbody).map _
  | ofClass body =>
    rw [hcategory] at hbody
    exact (ClassEntry.build_comesTo hbody).map _
  | ofStruct body =>
    rw [hcategory] at hbody
    exact (StructEntry.build_comesTo hbody.1 hbody.2).map _
  | ofInterface body =>
    rw [hcategory] at hbody
    exact (InterfaceEntry.build_comesTo hbody.1 hbody.2).map _
  | ofEnum body =>
    rw [hcategory] at hbody
    exact (EnumEntry.of_comesTo hbody).map _

lemma ReferenceEntry.build_comesTo (types : List TypeDecl) :
    (build ctx types).ComesTo ctx ((Name.sortOn TypeDecl.name types).flatMap (·.declarations))
      (of ctx types) := by
  have hentries : ((Name.sortOn TypeDecl.name types).mapM (TypeEntry.build ctx)).ComesTo ctx
      ((Name.sortOn TypeDecl.name types).flatMap (·.declarations))
      ((Name.sortOn TypeDecl.name types).map (TypeEntry.of ctx)) :=
    .mapM fun t _ => TypeEntry.build_comesTo t
  exact hentries.map (ReferenceEntry.mk ctx.options.title)

end

/-! ## Renders -/

namespace Graph

variable (g : Graph) (o : Options)

/-- The declarations that a render shows, in the order in which their entries are built. -/
def builtDeclarations : List Declaration :=
  (Name.sortOn TypeDecl.name (g.selectedTypes o)).flatMap (·.declarations)

/-- The fault of a graph for which no reference can be written: the module that is asked for does
not exist, or the first of the declarations to be built that is at fault. -/
def fault? : Option RenderError :=
  match g.moduleTypes o.submodule with
  | .error e => some e
  | .ok _ => (g.builtDeclarations o).findSome? Declaration.fault?

/-- What the reference of the module that is asked for shows. -/
def reference : ReferenceEntry := .of ⟨g, o⟩ (g.selectedTypes o)

/-- What is written of a graph without fault. -/
def output : Output where
  document := { blocks := g.readmeBlocks o ++ (g.reference o).toSection.asBlocks }
  record := ⟨o.language, g.coordinates o, (g.reference o).toRecord⟩
  diagnostics := (g.builtDeclarations o).flatMap (Declaration.leftOut ⟨g, o⟩)

/-- A render in closed form. -/
theorem render_eq : g.render o =
    match g.fault? o with
    | some e => .error e
    | none => .ok (g.output o) := by
  unfold render fault?
  cases htypes : g.moduleTypes o.submodule with
  | error e => rfl
  | ok types =>
    obtain rfl := eq_selectedTypes_of_moduleTypes htypes
    have hbuild : (ReferenceEntry.build ⟨g, o⟩ (g.selectedTypes o)).ComesTo ⟨g, o⟩
        (g.builtDeclarations o) (g.reference o) := ReferenceEntry.build_comesTo _
    simp only [bind, Except.bind]
    cases hfault : (g.builtDeclarations o).findSome? Declaration.fault? with
    | some e =>
      have hfails := hbuild.fails e hfault []
      rcases hrun : (ReferenceEntry.build ⟨g, o⟩ (g.selectedTypes o)).runFrom [] with ⟨result, _⟩
      rw [hrun] at hfails
      cases hfails
      rfl
    | none =>
      rw [hbuild.ends hfault []]
      rfl

theorem render_eq_ok_iff {g : Graph} {o : Options} {out : Output} :
    g.render o = .ok out ↔ g.fault? o = none ∧ g.output o = out := by
  rw [render_eq]
  cases g.fault? o <;> simp

theorem render_eq_error_iff {g : Graph} {o : Options} {e : RenderError} :
    g.render o = .error e ↔ g.fault? o = some e := by
  rw [render_eq]
  cases g.fault? o <;> simp

end Graph

end ApiDocs
