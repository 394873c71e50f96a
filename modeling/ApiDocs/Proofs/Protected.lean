import ApiDocs.Proofs.Likeness

/-!
# Protected members

Nothing in the result of a render depends on a protected method, property or initializer
(`Graph.render_withoutProtected`): neither what is written, nor whether the render fails and at
which callable, nor what is left out.  It makes no difference what a protected member is like.  It
may come without parameters or with such as no language can express, and it may be a constant.

A graph looks like the graph without what is protected, which settles the document and the record.
That leaves the two things which the order of members has a part in: the first fault, and the order
of the diagnostics.
-/

namespace ApiDocs

/-! ## Graphs without protected members -/

/-- What a class declares, less what is protected. -/
def ClassBody.withoutProtected (body : ClassBody) : ClassBody :=
  { body with
    initializer := body.initializer.filter (!·.isProtected)
    methods := body.methods.filter (!·.isProtected)
    properties := body.properties.filter (!·.isProtected) }

/-- What an interface declares, less what is protected. -/
def InterfaceBody.withoutProtected (body : InterfaceBody) : InterfaceBody :=
  { body with
    methods := body.methods.filter (!·.isProtected)
    properties := body.properties.filter (!·.isProtected) }

/-- What a type declares, less what is protected. -/
def TypeBody.withoutProtected : TypeBody → TypeBody
  | ofClass body => .ofClass body.withoutProtected
  | ofInterface body => .ofInterface body.withoutProtected
  | ofEnum body => .ofEnum body

/-- A type without its protected members. -/
def TypeDecl.withoutProtected (t : TypeDecl) : TypeDecl :=
  { t with body := t.body.withoutProtected }

/-- A graph without the protected members of its types and of those of its dependencies. -/
def Graph.withoutProtected (g : Graph) : Graph :=
  { g with
    types := g.types.map (·.withoutProtected)
    dependencies := g.dependencies.map fun d =>
      { d with types := d.types.map (·.withoutProtected) } }

/-! ## Types -/

lemma sortOn_filter_filter (name : α → String) (keep : α → Bool) (xs : List α) :
    Name.sortOn name ((xs.filter keep).filter keep) = Name.sortOn name (xs.filter keep) := by
  rw [filter_filter_of_imp fun x h => h]

lemma shownInitializer?_withoutProtected (body : ClassBody) :
    body.withoutProtected.shownInitializer? = body.shownInitializer? := by
  simp only [ClassBody.shownInitializer?, ClassBody.withoutProtected, Option.filter_filter,
    Bool.and_self]

lemma filter_shown_filter (pick : Method → Bool) (methods : List Method) :
    (methods.filter (!·.isProtected)).filter (fun m => !m.isProtected && pick m) =
      methods.filter fun m => !m.isProtected && pick m :=
  filter_filter_of_imp (fun _ h => (Bool.and_eq_true_iff.1 h).1) methods

namespace TypeDecl

variable (t : TypeDecl)

lemma withoutProtected_alike : t.withoutProtected.Alike t where
  fqn := rfl
  name := rfl
  submodule := rfl
  docs := rfl
  body := by
    rw [withoutProtected]
    cases t.body with
    | ofClass body =>
      exact .ofClass rfl rfl (shownInitializer?_withoutProtected body)
        (sortOn_filter_filter _ _ body.methods) (sortOn_filter_filter _ _ body.properties)
    | ofInterface body =>
      exact .ofInterface rfl rfl (sortOn_filter_filter _ _ body.methods)
        (sortOn_filter_filter _ _ body.properties)
    | ofEnum => exact .ofEnum rfl

/-- The callables that a type shows are not protected. -/
lemma gather_withoutProtected (ofInitializer : Initializer → List α)
    (ofMethod : Method → List α) :
    t.withoutProtected.gather ofInitializer ofMethod = t.gather ofInitializer ofMethod := by
  rw [withoutProtected, gather, gather]
  cases t.body with
  | ofClass body =>
    have hinstance := filter_shown_filter (!·.isStatic) body.methods
    have hstatic := filter_shown_filter (·.isStatic) body.methods
    rw [TypeBody.withoutProtected]
    simp only [shownInitializer?_withoutProtected]
    rw [ClassBody.withoutProtected, hinstance, hstatic]
  | ofInterface body =>
    have hinstance := filter_shown_filter (!·.isStatic) body.methods
    rw [TypeBody.withoutProtected, InterfaceBody.withoutProtected]
    dsimp only
    rw [hinstance]
  | ofEnum => rfl

lemma flatMap_declarations_withoutProtected {found : Declaration → List α}
    (h : Declaration.FromCallables found) :
    t.withoutProtected.declarations.flatMap found = t.declarations.flatMap found := by
  have hinitializers (i : Initializer) :=
    h.ofInitializer t.withoutProtected t i rfl
  have hmethods (m : Method) := h.ofMethod t.withoutProtected t m rfl
  rw [h.flatMap_declarations, h.flatMap_declarations, gather_withoutProtected]
  simp only [hinitializers, hmethods]

end TypeDecl

/-! ## Renders -/

namespace Graph

variable (g : Graph) (o : Options)

lemma withoutProtected_alike : g.withoutProtected.Alike g where
  name := rfl
  version := rfl
  readme := rfl
  targets := rfl
  submodules := rfl
  dependencies := by
    rw [withoutProtected, List.forall₂_map_left_iff, List.forall₂_same]
    refine fun d _ => ⟨rfl, rfl, ?_⟩
    rw [List.forall₂_map_left_iff, List.forall₂_same]
    exact fun t _ => t.withoutProtected_alike
  types := by
    rw [withoutProtected, Name.sortOn_map, List.forall₂_map_left_iff]
    exact List.forall₂_same.2 fun t _ => t.withoutProtected_alike
  local? := by
    intro fqn
    rw [local?, local?, withoutProtected]
    refine rel_find?_fqn ?_ fqn
    rw [List.forall₂_map_left_iff, List.forall₂_same]
    exact fun t _ => t.withoutProtected_alike

lemma sortOn_selectedTypes_withoutProtected :
    Name.sortOn TypeDecl.name (g.withoutProtected.selectedTypes o) =
      (Name.sortOn TypeDecl.name (g.selectedTypes o)).map (·.withoutProtected) := by
  rw [selectedTypes, withoutProtected, List.filter_map, Name.sortOn_map]
  rfl

/-- What callables contribute to a render, they contribute in the same order. -/
lemma flatMap_builtDeclarations_withoutProtected {found : Declaration → List α}
    (h : Declaration.FromCallables found) :
    (g.withoutProtected.builtDeclarations o).flatMap found =
      (g.builtDeclarations o).flatMap found := by
  rw [flatMap_builtDeclarations, flatMap_builtDeclarations, sortOn_selectedTypes_withoutProtected,
    List.flatMap_map]
  exact List.flatMap_congr fun t _ => t.flatMap_declarations_withoutProtected h

lemma fault?_withoutProtected : g.withoutProtected.fault? o = g.fault? o := by
  have hmodule := g.withoutProtected_alike.hasModule o.submodule
  by_cases h : g.HasModule o.submodule
  · rw [fault?_eq_head? h, fault?_eq_head? (hmodule.2 h),
      g.flatMap_builtDeclarations_withoutProtected o Declaration.fromCallables_fault?]
  · obtain ⟨name, hname, hfault⟩ := fault?_of_not_hasModule h
    obtain ⟨name', hname', hfault'⟩ := fault?_of_not_hasModule fun h' => h (hmodule.1 h')
    rw [hname, Option.some.injEq] at hname'
    rw [hfault, hfault', hname']
    rfl

lemma diagnostics_withoutProtected :
    (g.withoutProtected.output o).diagnostics = (g.output o).diagnostics := by
  have hagrees := g.withoutProtected_alike.agrees o
  rw [output, output, hagrees.leftOut]
  exact g.flatMap_builtDeclarations_withoutProtected o (Declaration.fromCallables_leftOut _)

/-- Without its protected members, and without protected initializers, a graph has the same result
in a render: the same error, or the same document, record and diagnostics. -/
theorem render_withoutProtected : g.withoutProtected.render o = g.render o := by
  obtain ⟨hdocument, hrecord⟩ := g.withoutProtected_alike.output o
  have hdiagnostics := g.diagnostics_withoutProtected o
  have houtput : g.withoutProtected.output o = g.output o :=
    (Output.mk.injEq ..).mpr ⟨hdocument, hrecord, hdiagnostics⟩
  rw [render_eq, render_eq, fault?_withoutProtected, houtput]

/-- A protected method is not asked for its parameters. -/
example :
    (render {
      name := "lib"
      types := [{
        fqn := "lib.Store"
        name := "Store"
        body := .ofClass { methods := [{ name := "open", isProtected := true }] } }] } {}).isOk =
      true := by decide +kernel

end Graph

end ApiDocs
