import Mathlib.Data.List.Forall2
import Mathlib.Tactic.Lemma
import ApiDocs.Rendering

/-!
# What a build yields

A build ends in a result or in the one failure, and leaves diagnostics behind.  This module keeps
to the results.  `Build.Yields` says that some run of a build ends well with a result; what the
steps of a build yield is said once for each step, and from that what each entry holds once it is
built.

The statements about entries go in one direction: from an entry that was built to the graph that it
was built from.  For the entries of types they are structures and inductive relations, so a proof
takes out the field it needs and never opens a build again.
-/

namespace ApiDocs

namespace Build

/-- Some run of the build ends well, with the result. -/
def Yields (build : Build α) (a : α) : Prop :=
  ∃ before after, build.runFrom before = (.ok a, after)

/-! ## Steps -/

@[simp] lemma yields_pure {a b : α} : (pure a : Build α).Yields b ↔ a = b := by
  simp [Yields]

@[simp] lemma not_yields_throw {e : RenderError} {a : α} : ¬ (throw e : Build α).Yields a := by
  simp [Yields]

/-- What a sequence of two builds yields, the second one yields of a result of the first. -/
lemma Yields.of_bind {x : Build α} {f : α → Build β} {b : β} (h : (x >>= f).Yields b) :
    ∃ a, x.Yields a ∧ (f a).Yields b := by
  obtain ⟨before, after, h⟩ := h
  rw [runFrom_bind] at h
  rcases hx : x.runFrom before with ⟨_ | a, recorded⟩
  · simp [hx] at h
  · simp only [hx] at h
    exact ⟨a, ⟨before, recorded, hx⟩, ⟨recorded, after, h⟩⟩

lemma yields_map {f : α → β} {x : Build α} {b : β} :
    (f <$> x).Yields b ↔ ∃ a, x.Yields a ∧ f a = b := by
  rw [map_eq_pure_bind]
  constructor
  · intro h
    obtain ⟨a, hx, hb⟩ := h.of_bind
    exact ⟨a, hx, yields_pure.1 hb⟩
  · rintro ⟨a, ⟨before, after, hx⟩, rfl⟩
    refine ⟨before, after, ?_⟩
    rw [runFrom_bind, hx]
    rfl

/-- Building along a list yields a list, member by member. -/
lemma Yields.of_mapM {f : α → Build β} {xs : List α} {ys : List β} (h : (xs.mapM f).Yields ys) :
    List.Forall₂ (fun x y => (f x).Yields y) xs ys := by
  induction xs generalizing ys with
  | nil =>
    rw [List.mapM_nil, yields_pure] at h
    subst h
    exact .nil
  | cons x rest ih =>
    rw [List.mapM_cons] at h
    obtain ⟨y, hy, h⟩ := h.of_bind
    obtain ⟨tail, htail, h⟩ := h.of_bind
    rw [yields_pure] at h
    subst h
    exact .cons hy (ih htail)

@[simp] lemma yields_snippet {id : String} {s : Snippet} {kept : Option String} :
    (snippet id s).Yields kept ↔ s.toOption = kept := by
  cases s <;> simp [Yields, Except.toOption]

@[simp] lemma yields_requireParameters {fqn member : String} {given : Option (List Parameter)}
    {parameters : List Parameter} :
    (requireParameters fqn member given).Yields parameters ↔ given = some parameters := by
  cases given <;> simp [requireParameters]

end Build

/-! ## Initializers and callables -/

/-- The entry of an initializer is built from the parameters that the graph gives. -/
lemma InitializerEntry.eq_of_yields {ctx : Context} {fqn : String} {i : Initializer}
    {e : InitializerEntry} (h : (build ctx fqn i).Yields e) :
    ∃ parameters, i.parameters = some parameters ∧
      e = {
        id := Name.initializerId fqn
        language := ctx.options.language
        snippet := (ctx.convention.construction (ctx.typeName fqn)
          (ctx.formals parameters)).toOption.map (ctx.withImport fqn)
        parameters := parameters.map (ParameterEntry.of ctx (Name.initializerId fqn))
        docs := i.docs } := by
  obtain ⟨parameters, hparameters, h⟩ := h.of_bind
  obtain ⟨snippet, hsnippet, h⟩ := h.of_bind
  rw [Build.yields_requireParameters] at hparameters
  rw [Build.yields_snippet] at hsnippet
  rw [Build.yields_pure] at h
  exact ⟨parameters, hparameters, by rw [← h, hsnippet]⟩

/-- The entry of a callable is built from the parameters that the graph gives. -/
lemma CallableEntry.eq_of_yields {ctx : Context} {fqn : String} {m : Method} {e : CallableEntry}
    (h : (build ctx fqn m).Yields e) :
    ∃ parameters, m.parameters = some parameters ∧
      e = {
        id := Name.extend fqn m.name
        name := m.name
        displayName := ctx.memberName .method m.name
        language := ctx.options.language
        snippet :=
          let call := (ctx.convention.invocation (ctx.typeName fqn)
            (ctx.memberName .method m.name) m.isStatic (ctx.formals parameters)).toOption
          if m.isStatic then call.map (ctx.withImport fqn) else call
        returns := m.returns.map fun type => (ctx.typeText type, ctx.displayType type)
        parameters := parameters.map (ParameterEntry.of ctx (Name.extend fqn m.name))
        docs := m.docs } := by
  obtain ⟨parameters, hparameters, h⟩ := h.of_bind
  obtain ⟨snippet, hsnippet, h⟩ := h.of_bind
  rw [Build.yields_requireParameters] at hparameters
  rw [Build.yields_snippet] at hsnippet
  rw [Build.yields_pure] at h
  exact ⟨parameters, hparameters, by rw [← h, hsnippet]⟩

/-- A sorted list of callables is built member by member before it is sorted. -/
lemma CallableEntry.of_yields_buildSorted {ctx : Context} {fqn : String} {keep : Method → Bool}
    {methods : List Method} {entries : List CallableEntry}
    (h : (buildSorted ctx fqn keep methods).Yields entries) :
    ∃ built, List.Forall₂ (fun m e => (build ctx fqn m).Yields e) (methods.filter keep) built ∧
      entries = Name.sortOn name built := by
  obtain ⟨built, hbuilt, h⟩ := h.of_bind
  rw [Build.yields_pure] at h
  exact ⟨built, hbuilt.of_mapM, h.symm⟩

/-! ## Types -/

/-- A class has an initializer to show if it declares one that is not protected. -/
def ClassBody.shownInitializer? (body : ClassBody) : Option Initializer :=
  body.initializer.filter (!·.isProtected)

/-- What the entry of a class holds. -/
structure ClassEntry.Built (ctx : Context) (t : TypeDecl) (body : ClassBody) (e : ClassEntry) :
    Prop where
  id : e.id = t.fqn
  fqn : e.fqn = (ctx.typeName t.fqn).qualified
  displayName : e.displayName = (ctx.typeName t.fqn).short
  interfaces : e.interfaces = body.interfaces.map ctx.linked
  docs : e.docs = t.docs
  initializer : Option.Rel (fun i e => (InitializerEntry.build ctx t.fqn i).Yields e)
    body.shownInitializer? e.initializer
  instanceMethods :
    (CallableEntry.instanceMethods ctx t.fqn body.methods).Yields e.instanceMethods
  staticFunctions :
    (CallableEntry.staticFunctions ctx t.fqn body.methods).Yields e.staticFunctions
  properties : e.properties = PropertyEntry.properties ctx t.fqn body.properties
  constants : e.constants = PropertyEntry.constants ctx t.fqn body.properties

lemma ClassEntry.rel_of_yields_buildInitializer {ctx : Context} {fqn : String} {body : ClassBody}
    {e : Option InitializerEntry} (h : (buildInitializer ctx fqn body.initializer).Yields e) :
    Option.Rel (fun i e => (InitializerEntry.build ctx fqn i).Yields e)
      body.shownInitializer? e := by
  unfold ClassBody.shownInitializer?
  cases hi : body.initializer with
  | none =>
    rw [hi, buildInitializer, Build.yields_pure] at h
    subst h
    exact .none
  | some i =>
    rw [hi, buildInitializer] at h
    cases hp : i.isProtected with
    | true =>
      rw [if_pos hp, Build.yields_pure] at h
      subst h
      simp [Option.filter, hp]
    | false =>
      rw [if_neg (by simp [hp]), Build.yields_map] at h
      obtain ⟨entry, hentry, rfl⟩ := h
      simpa [Option.filter, hp] using Option.Rel.some hentry

lemma ClassEntry.built_of_yields {ctx : Context} {t : TypeDecl} {body : ClassBody}
    {e : ClassEntry} (h : (build ctx t body).Yields e) : Built ctx t body e := by
  obtain ⟨initializer, hinitializer, h⟩ := h.of_bind
  obtain ⟨instanceMethods, hinstance, h⟩ := h.of_bind
  obtain ⟨staticFunctions, hstatic, h⟩ := h.of_bind
  rw [Build.yields_pure] at h
  subst h
  exact {
    id := rfl, fqn := rfl, displayName := rfl, interfaces := rfl, docs := rfl
    initializer := rel_of_yields_buildInitializer hinitializer
    instanceMethods := hinstance
    staticFunctions := hstatic
    properties := rfl, constants := rfl }

/-- What the entry of a struct holds. -/
structure StructEntry.Built (ctx : Context) (t : TypeDecl) (body : InterfaceBody)
    (e : StructEntry) : Prop where
  id : e.id = t.fqn
  fqn : e.fqn = (ctx.typeName t.fqn).qualified
  displayName : e.displayName = (ctx.typeName t.fqn).short
  docs : e.docs = t.docs
  initializerId : e.initializerId = Name.initializerId t.fqn
  language : e.language = ctx.options.language
  snippet : e.snippet = (ctx.convention.population (ctx.typeName t.fqn)
    (e.properties.map (·.toFormal))).toOption.map (ctx.withImport t.fqn)
  properties : e.properties = PropertyEntry.properties ctx t.fqn body.properties

lemma StructEntry.built_of_yields {ctx : Context} {t : TypeDecl} {body : InterfaceBody}
    {e : StructEntry} (h : (build ctx t body).Yields e) : Built ctx t body e := by
  obtain ⟨snippet, hsnippet, h⟩ := h.of_bind
  rw [Build.yields_snippet] at hsnippet
  rw [Build.yields_pure] at h
  subst h hsnippet
  exact {
    id := rfl, fqn := rfl, displayName := rfl, docs := rfl, initializerId := rfl, language := rfl
    snippet := rfl, properties := rfl }

/-- What the entry of an interface holds. -/
structure InterfaceEntry.Built (ctx : Context) (t : TypeDecl) (body : InterfaceBody)
    (e : InterfaceEntry) : Prop where
  id : e.id = t.fqn
  fqn : e.fqn = (ctx.typeName t.fqn).qualified
  displayName : e.displayName = (ctx.typeName t.fqn).short
  interfaces : e.interfaces = body.interfaces.map ctx.linked
  implementations : e.implementations = implementors ctx t.fqn
  docs : e.docs = t.docs
  instanceMethods :
    (CallableEntry.instanceMethods ctx t.fqn body.methods).Yields e.instanceMethods
  properties : e.properties = PropertyEntry.properties ctx t.fqn body.properties

lemma InterfaceEntry.built_of_yields {ctx : Context} {t : TypeDecl} {body : InterfaceBody}
    {e : InterfaceEntry} (h : (build ctx t body).Yields e) : Built ctx t body e := by
  obtain ⟨instanceMethods, hinstance, h⟩ := h.of_bind
  rw [Build.yields_pure] at h
  subst h
  exact {
    id := rfl, fqn := rfl, displayName := rfl, interfaces := rfl, implementations := rfl
    docs := rfl, instanceMethods := hinstance, properties := rfl }

/-- The entry of a type stands in the collection of the type's category, and holds what the entries
of that collection hold. -/
inductive TypeEntry.Built (ctx : Context) (t : TypeDecl) : TypeEntry → Prop
  | ofConstruct {body : ClassBody} {e : ClassEntry}
      (category : ctx.graph.category t = .ofConstruct body) (built : e.Built ctx t body) :
      Built ctx t (.ofConstruct e)
  | ofClass {body : ClassBody} {e : ClassEntry}
      (category : ctx.graph.category t = .ofClass body) (built : e.Built ctx t body) :
      Built ctx t (.ofClass e)
  | ofStruct {body : InterfaceBody} {e : StructEntry}
      (category : ctx.graph.category t = .ofStruct body) (built : e.Built ctx t body) :
      Built ctx t (.ofStruct e)
  | ofInterface {body : InterfaceBody} {e : InterfaceEntry}
      (category : ctx.graph.category t = .ofInterface body) (built : e.Built ctx t body) :
      Built ctx t (.ofInterface e)
  | ofEnum {body : EnumBody} (category : ctx.graph.category t = .ofEnum body) :
      Built ctx t (.ofEnum (EnumEntry.of ctx t body))

lemma TypeEntry.built_of_yields {ctx : Context} {t : TypeDecl} {e : TypeEntry}
    (h : (build ctx t).Yields e) : Built ctx t e := by
  unfold build at h
  split at h
  case h_1 body hcategory =>
    obtain ⟨entry, hentry, rfl⟩ := Build.yields_map.1 h
    exact .ofConstruct hcategory (ClassEntry.built_of_yields hentry)
  case h_2 body hcategory =>
    obtain ⟨entry, hentry, rfl⟩ := Build.yields_map.1 h
    exact .ofClass hcategory (ClassEntry.built_of_yields hentry)
  case h_3 body hcategory =>
    obtain ⟨entry, hentry, rfl⟩ := Build.yields_map.1 h
    exact .ofStruct hcategory (StructEntry.built_of_yields hentry)
  case h_4 body hcategory =>
    obtain ⟨entry, hentry, rfl⟩ := Build.yields_map.1 h
    exact .ofInterface hcategory (InterfaceEntry.built_of_yields hentry)
  case h_5 body hcategory =>
    rw [Build.yields_pure] at h
    subst h
    exact .ofEnum hcategory

/-! ## Whole references -/

/-- The entries of a reference are those of its types, by simple name. -/
lemma ReferenceEntry.built_of_yields {ctx : Context} {types : List TypeDecl} {e : ReferenceEntry}
    (h : (build ctx types).Yields e) :
    List.Forall₂ (TypeEntry.Built ctx) (Name.sortOn TypeDecl.name types) e.types := by
  obtain ⟨entries, hentries, h⟩ := h.of_bind
  rw [Build.yields_pure] at h
  subst h
  exact hentries.of_mapM.imp fun _ _ => TypeEntry.built_of_yields

end ApiDocs
