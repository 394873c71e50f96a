import Mathlib.Data.Multiset.Bind
import Mathlib.Tactic.Abel
import ApiDocs.Proofs.Entities

/-!
# What a reference shows of a graph

A reference shows the types of one module with their members.  What is protected it leaves out, and
of a struct it shows the properties only.  `TypeDecl.declarations` says which declarations these are
without building anything, and `Declaration.ShownBy` says what the entity that shows a declaration
has taken from it.

The main fact is that the entities of a render show the declarations of its module, one each
(`shown_of_render`).  Entities are sorted and declarations are not, so it holds up to order.
-/

namespace ApiDocs

/-! ## Declarations -/

/-- What a graph declares and a reference shows.  How a struct is filled follows from the struct,
and is shown as if it were declared with it. -/
inductive Declaration where
  | ofType (t : TypeDecl)
  | ofPopulation (t : TypeDecl)
  | ofInitializer (t : TypeDecl) (i : Initializer)
  | ofMethod (t : TypeDecl) (m : Method)
  | ofProperty (t : TypeDecl) (p : Property)
  | ofParameter (callable : String) (p : Parameter)
  | ofEnumMember (t : TypeDecl) (m : EnumMember)

namespace Declaration

/-- The identifier of a declaration. -/
def id : Declaration → String
  | ofType t => t.fqn
  | ofPopulation t => Name.initializerId t.fqn
  | ofInitializer t _ => Name.initializerId t.fqn
  | ofMethod t m => Name.extend t.fqn m.name
  | ofProperty t p => Name.extend t.fqn p.name
  | ofParameter callable p => Name.parameterId callable p.name
  | ofEnumMember t m => Name.extend t.fqn m.name

/-- What the authors wrote about a declaration. -/
def docs : Declaration → Docs
  | ofType t => t.docs
  | ofPopulation _ => {}
  | ofInitializer _ i => i.docs
  | ofMethod _ m => m.docs
  | ofProperty _ p => p.docs
  | ofParameter _ p => p.docs
  | ofEnumMember _ m => m.docs

end Declaration

/-- An initializer, and its parameters. -/
def Initializer.declarations (t : TypeDecl) (i : Initializer) : List Declaration :=
  .ofInitializer t i :: (i.parameters.getD []).map (.ofParameter (Name.initializerId t.fqn))

/-- A method, and its parameters. -/
def Method.declarations (t : TypeDecl) (m : Method) : List Declaration :=
  .ofMethod t m :: (m.parameters.getD []).map (.ofParameter (Name.extend t.fqn m.name))

/-- The methods of instances that are shown. -/
def instanceDeclarations (t : TypeDecl) (methods : List Method) : List Declaration :=
  (methods.filter fun m => !m.isProtected && !m.isStatic).flatMap (Method.declarations t)

/-- The functions of the type itself that are shown. -/
def staticDeclarations (t : TypeDecl) (methods : List Method) : List Declaration :=
  (methods.filter fun m => !m.isProtected && m.isStatic).flatMap (Method.declarations t)

/-- The properties that are shown. -/
def propertyDeclarations (t : TypeDecl) (properties : List Property) : List Declaration :=
  (properties.filter fun p => !p.isProtected && !p.isConstant).map (.ofProperty t)

/-- The constants that are shown. -/
def constantDeclarations (t : TypeDecl) (properties : List Property) : List Declaration :=
  (properties.filter fun p => !p.isProtected && p.isConstant).map (.ofProperty t)

namespace TypeDecl

/-- The members of a type that are shown. -/
def memberDeclarations (t : TypeDecl) : List Declaration :=
  match t.body with
  | .ofClass body =>
    body.shownInitializer?.toList.flatMap (Initializer.declarations t) ++
      instanceDeclarations t body.methods ++ staticDeclarations t body.methods ++
      propertyDeclarations t body.properties ++ constantDeclarations t body.properties
  | .ofInterface body =>
    if body.isDatatype then .ofPopulation t :: propertyDeclarations t body.properties
    else instanceDeclarations t body.methods ++ propertyDeclarations t body.properties
  | .ofEnum body => body.members.map (.ofEnumMember t)

/-- A type and the members that are shown. -/
def declarations (t : TypeDecl) : List Declaration := .ofType t :: t.memberDeclarations

end TypeDecl

/-! ## Showing a declaration -/

/-- What the authors wrote about an entity. -/
def Entity.docs : Entity → Docs
  | ofClass e => e.docs
  | ofStruct e => e.docs
  | ofPopulation _ => {}
  | ofInterface e => e.docs
  | ofEnum e => e.docs
  | ofInitializer e => e.docs
  | ofCallable e => e.docs
  | ofProperty e => e.docs
  | ofParameter e => e.docs
  | ofEnumMember e => e.docs

namespace Declaration

/-- An entity shows a declaration: it was built from it. -/
inductive ShownBy (ctx : Context) : Declaration → Entity → Prop
  | ofClass {t : TypeDecl} {body : ClassBody} {e : ClassEntry}
      (isClass : t.body = .ofClass body) (built : e.Built ctx t body) :
      ShownBy ctx (.ofType t) (.ofClass e)
  | ofStruct {t : TypeDecl} {body : InterfaceBody} {e : StructEntry}
      (isInterface : t.body = .ofInterface body) (isDatatype : body.isDatatype = true)
      (built : e.Built ctx t body) :
      ShownBy ctx (.ofType t) (.ofStruct e)
  | ofPopulation {t : TypeDecl} {body : InterfaceBody} {e : StructEntry}
      (built : e.Built ctx t body) :
      ShownBy ctx (.ofPopulation t) (.ofPopulation e)
  | ofInterface {t : TypeDecl} {body : InterfaceBody} {e : InterfaceEntry}
      (isInterface : t.body = .ofInterface body) (isDatatype : body.isDatatype = false)
      (built : e.Built ctx t body) :
      ShownBy ctx (.ofType t) (.ofInterface e)
  | ofEnum {t : TypeDecl} {body : EnumBody} (isEnum : t.body = .ofEnum body) :
      ShownBy ctx (.ofType t) (.ofEnum (.of ctx t body))
  | ofInitializer {t : TypeDecl} {i : Initializer} {e : InitializerEntry}
      (built : (InitializerEntry.build ctx t.fqn i).Yields e) :
      ShownBy ctx (.ofInitializer t i) (.ofInitializer e)
  | ofCallable {t : TypeDecl} {m : Method} {e : CallableEntry}
      (built : (CallableEntry.build ctx t.fqn m).Yields e) :
      ShownBy ctx (.ofMethod t m) (.ofCallable e)
  | ofProperty (t : TypeDecl) (p : Property) :
      ShownBy ctx (.ofProperty t p) (.ofProperty (.of ctx t.fqn p))
  | ofParameter (callable : String) (p : Parameter) :
      ShownBy ctx (.ofParameter callable p) (.ofParameter (.of ctx callable p))
  | ofEnumMember (t : TypeDecl) (m : EnumMember) :
      ShownBy ctx (.ofEnumMember t m) (.ofEnumMember (.of ctx t.fqn m))

variable {ctx : Context} {d : Declaration} {e : Entity}

lemma ShownBy.id_eq (h : ShownBy ctx d e) : d.id = e.toRecord.id := by
  cases h with
  | ofClass _ built => exact built.id.symm
  | ofStruct _ _ built => exact built.id.symm
  | ofPopulation built => exact built.initializerId.symm
  | ofInterface _ _ built => exact built.id.symm
  | ofInitializer built =>
    obtain ⟨parameters, -, rfl⟩ := InitializerEntry.eq_of_yields built
    rfl
  | ofCallable built =>
    obtain ⟨parameters, -, rfl⟩ := CallableEntry.eq_of_yields built
    rfl
  | ofEnum => rfl
  | ofProperty => rfl
  | ofParameter => rfl
  | ofEnumMember => rfl

lemma ShownBy.docs_eq (h : ShownBy ctx d e) : d.docs = e.docs := by
  cases h with
  | ofClass _ built => exact built.docs.symm
  | ofStruct _ _ built => exact built.docs.symm
  | ofPopulation => rfl
  | ofInterface _ _ built => exact built.docs.symm
  | ofInitializer built =>
    obtain ⟨parameters, -, rfl⟩ := InitializerEntry.eq_of_yields built
    rfl
  | ofCallable built =>
    obtain ⟨parameters, -, rfl⟩ := CallableEntry.eq_of_yields built
    rfl
  | ofEnum => rfl
  | ofProperty => rfl
  | ofParameter => rfl
  | ofEnumMember => rfl

end Declaration

open Declaration

/-- The entities show the declarations, one each, in whatever order. -/
def Shown (ctx : Context) (ds : List Declaration) (es : List Entity) : Prop :=
  Multiset.Rel (ShownBy ctx) ds es

namespace Shown

variable {ctx : Context} {ds ds' : List Declaration} {es es' : List Entity}

lemma nil : Shown ctx [] [] := .zero

lemma cons {d : Declaration} {e : Entity} (hd : ShownBy ctx d e) (h : Shown ctx ds es) :
    Shown ctx (d :: ds) (e :: es) := Multiset.Rel.cons hd h

lemma append (h : Shown ctx ds es) (h' : Shown ctx ds' es') :
    Shown ctx (ds ++ ds') (es ++ es') := by
  rw [Shown, ← Multiset.coe_add, ← Multiset.coe_add]
  exact Multiset.Rel.add h h'

lemma perm (h : Shown ctx ds es) (hperm : es.Perm es') : Shown ctx ds es' := by
  rwa [Shown, ← Multiset.coe_eq_coe.2 hperm]

lemma flatMap {xs : List α} {ys : List β} {f : α → List Declaration} {g : β → List Entity}
    (h : List.Forall₂ (fun x y => Shown ctx (f x) (g y)) xs ys) :
    Shown ctx (xs.flatMap f) (ys.flatMap g) := by
  induction h with
  | nil => exact nil
  | cons hxy _ ih => exact hxy.append ih

lemma map (xs : List α) {f : α → Declaration} {g : α → Entity}
    (h : ∀ x, ShownBy ctx (f x) (g x)) : Shown ctx (xs.map f) (xs.map g) := by
  induction xs with
  | nil => exact nil
  | cons x rest ih => exact cons (h x) ih

/-- Every entity shows some declaration. -/
lemma exists_declaration (h : Shown ctx ds es) {e : Entity} (he : e ∈ es) :
    ∃ d ∈ ds, ShownBy ctx d e := by
  have hflip : Multiset.Rel (flip (ShownBy ctx)) (es : Multiset Entity) ds :=
    Multiset.rel_flip.2 h
  simpa [flip] using Multiset.exists_mem_of_rel_of_mem hflip (Multiset.mem_coe.2 he)

/-- Every declaration is shown by some entity. -/
lemma exists_entity (h : Shown ctx ds es) {d : Declaration} (hd : d ∈ ds) :
    ∃ e ∈ es, ShownBy ctx d e := by
  simpa using Multiset.exists_mem_of_rel_of_mem h (Multiset.mem_coe.2 hd)

/-- What an entity has of its declaration, the entities have of the declarations together. -/
lemma map_perm (h : Shown ctx ds es) {f : Declaration → α} {g : Entity → α}
    (hfg : ∀ d e, ShownBy ctx d e → f d = g e) : (ds.map f).Perm (es.map g) := by
  have hrel : Multiset.Rel (fun d e => f d = g e) (ds : Multiset Declaration) es :=
    h.mono fun d _ e _ => hfg d e
  rw [← Multiset.coe_eq_coe, ← Multiset.map_coe, ← Multiset.map_coe]
  exact Multiset.rel_eq.1 (Multiset.rel_map.2 hrel)

end Shown

/-! ## Members -/

section

variable {ctx : Context} {t : TypeDecl}

lemma ParameterEntry.shown (callable : String) (parameters : List Parameter) :
    Shown ctx (parameters.map (.ofParameter callable))
      ((parameters.map (of ctx callable)).map .ofParameter) := by
  rw [List.map_map]
  exact .map parameters fun p => .ofParameter callable p

lemma InitializerEntry.shown {i : Initializer} {e : InitializerEntry}
    (h : (build ctx t.fqn i).Yields e) : Shown ctx (i.declarations t) e.entities := by
  refine .cons (.ofInitializer h) ?_
  obtain ⟨parameters, hparameters, rfl⟩ := eq_of_yields h
  rw [hparameters, Option.getD_some]
  exact ParameterEntry.shown _ parameters

lemma CallableEntry.shown {m : Method} {e : CallableEntry} (h : (build ctx t.fqn m).Yields e) :
    Shown ctx (m.declarations t) e.entities := by
  refine .cons (.ofCallable h) ?_
  obtain ⟨parameters, hparameters, rfl⟩ := eq_of_yields h
  rw [hparameters, Option.getD_some]
  exact ParameterEntry.shown _ parameters

lemma CallableEntry.shown_of_buildSorted {keep : Method → Bool} {methods : List Method}
    {entries : List CallableEntry} (h : (buildSorted ctx t.fqn keep methods).Yields entries) :
    Shown ctx ((methods.filter keep).flatMap (Method.declarations t))
      (entries.flatMap (·.entities)) := by
  obtain ⟨built, hbuilt, rfl⟩ := of_yields_buildSorted h
  have hshown : Shown ctx ((methods.filter keep).flatMap (Method.declarations t))
      (built.flatMap (·.entities)) := .flatMap (hbuilt.imp fun _ _ => shown)
  exact hshown.perm ((Name.sortOn_perm name built).symm.flatMap_right _)

lemma PropertyEntry.shown_sorted (keep : Property → Bool) (properties : List Property) :
    Shown ctx ((properties.filter keep).map (.ofProperty t))
      ((sorted ctx t.fqn keep properties).map .ofProperty) := by
  have hshown : Shown ctx ((properties.filter keep).map (.ofProperty t))
      (((properties.filter keep).map (of ctx t.fqn)).map .ofProperty) := by
    rw [List.map_map]
    exact .map _ fun p => .ofProperty t p
  exact hshown.perm ((Name.sortOn_perm name _).symm.map _)

end

/-! ## Types -/

/-- The collection that shows a type tells what the type declares. -/
lemma Graph.body_of_category (g : Graph) (t : TypeDecl) :
    match g.category t with
    | .ofConstruct body => t.body = .ofClass body
    | .ofClass body => t.body = .ofClass body
    | .ofStruct body => t.body = .ofInterface body ∧ body.isDatatype = true
    | .ofInterface body => t.body = .ofInterface body ∧ body.isDatatype = false
    | .ofEnum body => t.body = .ofEnum body := by
  unfold category
  cases hbody : t.body with
  | ofClass body => cases hconstruct : g.isConstruct t <;> rfl
  | ofInterface body => cases hdatatype : body.isDatatype <;> simp [hdatatype]
  | ofEnum body => rfl

section

variable {ctx : Context} {t : TypeDecl}

lemma ClassEntry.shown_initializer {i : Option Initializer} {e : Option InitializerEntry}
    (h : Option.Rel (fun i e => (InitializerEntry.build ctx t.fqn i).Yields e) i e) :
    Shown ctx (i.toList.flatMap (Initializer.declarations t)) (e.toList.flatMap (·.entities)) := by
  cases h with
  | none => exact .nil
  | some h => exact .flatMap (.cons (InitializerEntry.shown h) .nil)

lemma ClassEntry.shown {body : ClassBody} {e : ClassEntry} (hbody : t.body = .ofClass body)
    (h : e.Built ctx t body) : Shown ctx t.declarations e.entities := by
  refine .cons (.ofClass hbody h) ?_
  rw [TypeDecl.memberDeclarations, hbody, h.properties, h.constants]
  exact ((((shown_initializer h.initializer).append
    (CallableEntry.shown_of_buildSorted h.instanceMethods)).append
    (CallableEntry.shown_of_buildSorted h.staticFunctions)).append
    (PropertyEntry.shown_sorted _ body.properties)).append
    (PropertyEntry.shown_sorted _ body.properties)

lemma StructEntry.shown {body : InterfaceBody} {e : StructEntry}
    (hbody : t.body = .ofInterface body) (hdatatype : body.isDatatype = true)
    (h : e.Built ctx t body) : Shown ctx t.declarations e.entities := by
  refine .cons (.ofStruct hbody hdatatype h) ?_
  rw [TypeDecl.memberDeclarations, hbody, h.properties]
  simp only [hdatatype, if_true]
  exact .cons (.ofPopulation h) (PropertyEntry.shown_sorted _ body.properties)

lemma InterfaceEntry.shown {body : InterfaceBody} {e : InterfaceEntry}
    (hbody : t.body = .ofInterface body) (hdatatype : body.isDatatype = false)
    (h : e.Built ctx t body) : Shown ctx t.declarations e.entities := by
  refine .cons (.ofInterface hbody hdatatype h) ?_
  rw [TypeDecl.memberDeclarations, hbody, h.properties]
  simp only [hdatatype, Bool.false_eq_true, if_false]
  exact (CallableEntry.shown_of_buildSorted h.instanceMethods).append
    (PropertyEntry.shown_sorted _ body.properties)

lemma EnumEntry.shown {body : EnumBody} (hbody : t.body = .ofEnum body) :
    Shown ctx t.declarations (EnumEntry.of ctx t body).entities := by
  refine .cons (.ofEnum hbody) ?_
  rw [TypeDecl.memberDeclarations, hbody]
  have hshown : Shown ctx (body.members.map (.ofEnumMember t))
      ((body.members.map (EnumMemberEntry.of ctx t.fqn)).map .ofEnumMember) := by
    rw [List.map_map]
    exact .map _ fun m => .ofEnumMember t m
  exact hshown.perm ((Name.sortOn_perm EnumMemberEntry.name _).symm.map _)

lemma TypeEntry.shown {e : TypeEntry} (h : Built ctx t e) :
    Shown ctx t.declarations e.entities := by
  have hbody := ctx.graph.body_of_category t
  cases h with
  | ofConstruct category built =>
    rw [category] at hbody
    exact ClassEntry.shown hbody built
  | ofClass category built =>
    rw [category] at hbody
    exact ClassEntry.shown hbody built
  | ofStruct category built =>
    rw [category] at hbody
    exact StructEntry.shown hbody.1 hbody.2 built
  | ofInterface category built =>
    rw [category] at hbody
    exact InterfaceEntry.shown hbody.1 hbody.2 built
  | ofEnum category =>
    rw [category] at hbody
    exact EnumEntry.shown hbody

end

/-! ## References and renders -/

/-- The collections share the types of a reference out among them. -/
lemma ReferenceEntry.entities_perm (e : ReferenceEntry) :
    e.entities.Perm (e.types.flatMap (·.entities)) := by
  obtain ⟨title, types⟩ := e
  induction types with
  | nil => rfl
  | cons entry rest ih =>
    rw [List.flatMap_cons, ← Multiset.coe_eq_coe, ← Multiset.coe_add, ← Multiset.coe_eq_coe.2 ih]
    cases entry <;>
      simp only [entities, constructs, structs, classes, interfaces, enums, TypeEntry.entities,
        List.filterMap_cons, List.flatMap_cons, ← Multiset.coe_add] <;> abel

namespace Graph

/-- The declarations that a render shows. -/
def declarations (g : Graph) (o : Options) : List Declaration :=
  (g.selectedTypes o).flatMap (·.declarations)

/-- The entities of a render show the declarations of its module, one each. -/
lemma shown_of_render {g : Graph} {o : Options} {out : Output} (h : g.render o = .ok out) :
    Shown ⟨g, o⟩ (g.declarations o) (g.entities o) := by
  obtain ⟨reference, hrun, hentities, -, -⟩ := exists_reference_of_render h
  have hbuilt := ReferenceEntry.built_of_yields ⟨[], out.diagnostics, hrun⟩
  have hshown := Shown.flatMap (hbuilt.imp fun _ _ => TypeEntry.shown)
  have hsorted : ((Name.sortOn TypeDecl.name (g.selectedTypes o)).flatMap (·.declarations)).Perm
      (g.declarations o) := (Name.sortOn_perm TypeDecl.name _).flatMap_right _
  rw [Shown, ← Multiset.coe_eq_coe.2 hsorted, hentities]
  exact hshown.perm reference.entities_perm.symm

end Graph

end ApiDocs
