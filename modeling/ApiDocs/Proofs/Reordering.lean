import ApiDocs.Proofs.Likeness

/-!
# The order of declarations

The order in which a graph has its types, and a type its methods, properties or enumeration members,
does not matter, as long as names tell them apart: the same renders succeed, with the same document
and record, and the same snippets are left out (`Graph.render_reordered`).

Names decide because lists are sorted by them, and two lists of the same items are sorted alike if
no name is repeated (`Name.sortOn_eq_of_perm`).  Full names have to be different too, since a type
is looked up by its full name and the first one found counts.  With that, a graph looks like the
graph in another order.  Whether a callable without parameters is shown does not depend on the order
either, and the diagnostics of a type come in the order of its members, so they are the same up to
order.
-/

namespace ApiDocs

/-! ## Reordered graphs -/

/-- The second body has the members of the first in some order. -/
inductive TypeBody.Reordered : TypeBody → TypeBody → Prop
  | ofClass {body : ClassBody} {methods : List Method} {properties : List Property}
      (hmethods : methods.Perm body.methods) (hproperties : properties.Perm body.properties) :
      Reordered (.ofClass body)
        (.ofClass { body with methods := methods, properties := properties })
  | ofInterface {body : InterfaceBody} {methods : List Method} {properties : List Property}
      (hmethods : methods.Perm body.methods) (hproperties : properties.Perm body.properties) :
      Reordered (.ofInterface body)
        (.ofInterface { body with methods := methods, properties := properties })
  | ofEnum {body : EnumBody} {members : List EnumMember} (hmembers : members.Perm body.members) :
      Reordered (.ofEnum body) (.ofEnum { body with members := members })

/-- The second type has the members of the first in some order and is like it otherwise. -/
structure TypeDecl.Reordered (t t' : TypeDecl) : Prop where
  body : t.body.Reordered t'.body
  rest : t' = { t with body := t'.body }

/-- The second graph has the types of the first in some order, each with its members in some order,
and is like it otherwise. -/
structure Graph.Reordered (g g' : Graph) : Prop where
  types : ∃ types, List.Forall₂ TypeDecl.Reordered g.types types ∧ g'.types.Perm types
  rest : g' = { g with types := g'.types }

/-- The members of each kind have different names. -/
def TypeBody.HasDistinctMembers : TypeBody → Prop
  | ofClass body => (body.methods.map (·.name)).Nodup ∧ (body.properties.map (·.name)).Nodup
  | ofInterface body => (body.methods.map (·.name)).Nodup ∧ (body.properties.map (·.name)).Nodup
  | ofEnum body => (body.members.map (·.name)).Nodup

instance : DecidablePred TypeBody.HasDistinctMembers
  | .ofClass _ => inferInstanceAs (Decidable (_ ∧ _))
  | .ofInterface _ => inferInstanceAs (Decidable (_ ∧ _))
  | .ofEnum _ => inferInstanceAs (Decidable (List.Nodup _))

/-- Names tell the types of a graph apart, and the members of each. -/
structure Graph.HasDistinctNames (g : Graph) : Prop where
  fqns : (g.types.map (·.fqn)).Nodup
  names : (g.types.map (·.name)).Nodup
  members : ∀ t ∈ g.types, t.body.HasDistinctMembers

/-! ## Types -/

namespace TypeDecl.Reordered

variable {t t' : TypeDecl}

lemma fqn (h : t.Reordered t') : t'.fqn = t.fqn := by rw [h.rest]

lemma name (h : t.Reordered t') : t'.name = t.name := by rw [h.rest]

lemma submodule (h : t.Reordered t') : t'.submodule = t.submodule := by rw [h.rest]

lemma docs (h : t.Reordered t') : t'.docs = t.docs := by rw [h.rest]

/-- A type looks like the type with its members in another order. -/
lemma alike (h : t.Reordered t') (hnames : t.body.HasDistinctMembers) : t.Alike t' where
  fqn := h.fqn.symm
  name := h.name.symm
  submodule := h.submodule.symm
  docs := h.docs.symm
  body := by
    have hbody := h.body
    revert hbody hnames
    generalize t.body = body
    generalize t'.body = body'
    rintro hnames (⟨hmethods, hproperties⟩ | ⟨hmethods, hproperties⟩ | ⟨hmembers⟩)
    · exact .ofClass rfl rfl rfl (Name.sortOn_filter_eq_of_perm hmethods hnames.1 _)
        (Name.sortOn_filter_eq_of_perm hproperties hnames.2 _)
    · exact .ofInterface rfl rfl (Name.sortOn_filter_eq_of_perm hmethods hnames.1 _)
        (Name.sortOn_filter_eq_of_perm hproperties hnames.2 _)
    · exact .ofEnum (Name.sortOn_eq_of_perm hmembers hnames).symm

/-- A type in another order shows the same callables in another order. -/
lemma gather_perm (h : t.Reordered t') (ofInitializer : Initializer → List α)
    (ofMethod : Method → List α) :
    (t'.gather ofInitializer ofMethod).Perm (t.gather ofInitializer ofMethod) := by
  have hbody := h.body
  rw [gather, gather]
  revert hbody
  generalize t.body = body
  generalize t'.body = body'
  rintro (⟨hmethods, -⟩ | ⟨hmethods, -⟩ | -)
  · exact ((List.Perm.refl _).append ((hmethods.filter _).flatMap_right _)).append
      ((hmethods.filter _).flatMap_right _)
  · dsimp only
    split_ifs
    · rfl
    · exact (hmethods.filter _).flatMap_right _
  · rfl

lemma flatMap_declarations_perm (h : t.Reordered t') {found : Declaration → List α}
    (hfound : Declaration.FromCallables found) :
    (t'.declarations.flatMap found).Perm (t.declarations.flatMap found) := by
  have hinitializers (i : Initializer) := hfound.ofInitializer t' t i h.fqn
  have hmethods (m : Method) := hfound.ofMethod t' t m h.fqn
  rw [hfound.flatMap_declarations, hfound.flatMap_declarations]
  simp only [hinitializers, hmethods]
  exact h.gather_perm _ _

end TypeDecl.Reordered

/-! ## Renders -/

namespace Graph.Reordered

variable {g g' : Graph} (h : g.Reordered g') (hnames : g.HasDistinctNames) (o : Options)

include h hnames

/-- By simple name the types of both graphs correspond. -/
lemma types_sorted : List.Forall₂ TypeDecl.Reordered (Name.sortOn TypeDecl.name g.types)
    (Name.sortOn TypeDecl.name g'.types) := by
  obtain ⟨types, htypes, hperm⟩ := h.types
  have hsame : types.map (·.name) = g.types.map (·.name) :=
    (map_eq_of_forall₂ htypes fun t t' ht => ht.name.symm).symm
  rw [Name.sortOn_eq_of_perm hperm (hsame ▸ hnames.names)]
  exact Name.forall₂_sortOn htypes fun t t' ht => ht.name.symm

lemma selectedTypes_sorted :
    List.Forall₂ TypeDecl.Reordered (Name.sortOn TypeDecl.name (g.selectedTypes o))
      (Name.sortOn TypeDecl.name (g'.selectedTypes o)) := by
  rw [selectedTypes, selectedTypes, Name.sortOn_filter, Name.sortOn_filter]
  exact filter_forall₂ (h.types_sorted hnames) fun t t' ht => by rw [ht.submodule]

/-- A graph looks like the graph in another order. -/
lemma alike : g.Alike g' := by
  have hsorted := (List.forall₂_and_left _ _).2
    ⟨fun t ht => hnames.members t (Name.mem_sortOn.1 ht), h.types_sorted hnames⟩
  obtain ⟨types, htypes, hperm⟩ := h.types
  have halike := ((List.forall₂_and_left _ _).2 ⟨hnames.members, htypes⟩).imp
    fun t t' ht => ht.2.alike ht.1
  have hsame : types.map (·.fqn) = g.types.map (·.fqn) :=
    (map_eq_of_forall₂ htypes fun t t' ht => ht.fqn.symm).symm
  rw [h.rest]
  exact {
    name := rfl, version := rfl, readme := rfl, targets := rfl, submodules := rfl
    dependencies := List.forall₂_same.2 fun d _ =>
      ⟨rfl, rfl, List.forall₂_same.2 fun t _ => .refl t⟩
    types := hsorted.imp fun t t' ht => ht.2.alike ht.1
    local? := by
      intro fqn
      have hfind := find?_eq_of_perm hperm (hsame ▸ hnames.fqns) fqn
      rw [local?, local?]
      dsimp only
      rw [hfind]
      exact rel_find?_fqn halike fqn }

/-- What callables contribute to a render, they contribute in another order. -/
lemma flatMap_builtDeclarations_perm {found : Declaration → List α}
    (hfound : Declaration.FromCallables found) :
    ((g'.builtDeclarations o).flatMap found).Perm ((g.builtDeclarations o).flatMap found) := by
  rw [flatMap_builtDeclarations, flatMap_builtDeclarations]
  exact flatMap_perm_of_forall₂ (h.selectedTypes_sorted hnames o) fun t t' ht =>
    ht.flatMap_declarations_perm hfound

lemma diagnostics_perm : (g'.output o).diagnostics.Perm (g.output o).diagnostics := by
  have hagrees := (h.alike hnames).agrees o
  rw [output, output, hagrees.leftOut]
  exact h.flatMap_builtDeclarations_perm hnames o (Declaration.fromCallables_leftOut _)

lemma fault?_eq_none_iff : g'.fault? o = none ↔ g.fault? o = none := by
  have hmodule := (h.alike hnames).hasModule o.submodule
  by_cases hexists : g.HasModule o.submodule
  · have hperm := h.flatMap_builtDeclarations_perm hnames o Declaration.fromCallables_fault?
    rw [fault?_eq_head? hexists, fault?_eq_head? (hmodule.1 hexists), List.head?_eq_none_iff,
      List.head?_eq_none_iff]
    constructor
    · intro hnil
      exact (hnil ▸ hperm).symm.eq_nil
    · intro hnil
      exact (hnil ▸ hperm).eq_nil
  · obtain ⟨name, -, hfault⟩ := fault?_of_not_hasModule hexists
    obtain ⟨name', -, hfault'⟩ := fault?_of_not_hasModule fun h' => hexists (hmodule.2 h')
    rw [hfault, hfault']
    simp

end Graph.Reordered

namespace Graph

/-- Of a graph whose names tell its types and their members apart, and the same graph in another
order, the same renders succeed, with the same document and record, and the same diagnostics up to
order. -/
theorem render_reordered {g g' : Graph} (hnames : g.HasDistinctNames) (h : g.Reordered g')
    (o : Options) :
    ((∃ out, g'.render o = .ok out) ↔ ∃ out, g.render o = .ok out) ∧
      ∀ out out', g.render o = .ok out → g'.render o = .ok out' →
        out'.document = out.document ∧ out'.record = out.record ∧
          out'.diagnostics.Perm out.diagnostics := by
  constructor
  · simp only [render_eq_ok_iff, exists_and_left, exists_eq', and_true]
    exact h.fault?_eq_none_iff hnames o
  · intro out out' hrender hrender'
    obtain ⟨-, rfl⟩ := render_eq_ok_iff.1 hrender
    obtain ⟨-, rfl⟩ := render_eq_ok_iff.1 hrender'
    obtain ⟨hdocument, hrecord⟩ := (h.alike hnames).output o
    exact ⟨hdocument.symm, hrecord.symm, h.diagnostics_perm hnames o⟩

end Graph

/-! ## A graph from its end -/

/-- What a type declares, its members from the last to the first. -/
def TypeBody.reversed : TypeBody → TypeBody
  | ofClass body =>
    .ofClass { body with methods := body.methods.reverse, properties := body.properties.reverse }
  | ofInterface body =>
    .ofInterface
      { body with methods := body.methods.reverse, properties := body.properties.reverse }
  | ofEnum body => .ofEnum { body with members := body.members.reverse }

/-- A graph with its types, and their members, from the last to the first. -/
def Graph.reversed (g : Graph) : Graph :=
  { g with types := (g.types.map fun t => { t with body := t.body.reversed }).reverse }

lemma TypeBody.reordered_reversed (body : TypeBody) : body.Reordered body.reversed := by
  cases body with
  | ofClass body => exact .ofClass (List.reverse_perm _) (List.reverse_perm _)
  | ofInterface body => exact .ofInterface (List.reverse_perm _) (List.reverse_perm _)
  | ofEnum body => exact .ofEnum (List.reverse_perm _)

namespace Graph

lemma reordered_reversed (g : Graph) : g.Reordered g.reversed where
  types := by
    refine ⟨_, ?_, List.reverse_perm _⟩
    rw [List.forall₂_map_right_iff, List.forall₂_same]
    exact fun t _ => ⟨t.body.reordered_reversed, rfl⟩
  rest := rfl

lemma hasDistinctNames_depot : depot.HasDistinctNames where
  fqns := by decide
  names := by decide
  members := by decide

/-- The depot is documented the same from its end. -/
theorem render_reordered_depot :
    depot.HasDistinctNames ∧ depot.Reordered depot.reversed ∧
      depot.reversed.types.map (·.fqn) = ["lib.parts.Keeper", "lib.Store"] ∧
      ∃ out out', depot.render {} = .ok out ∧ depot.reversed.render {} = .ok out' ∧
        out'.document = out.document ∧ out'.record = out.record ∧
          out'.diagnostics.Perm out.diagnostics := by
  obtain ⟨out, h⟩ := exists_render_depot
  obtain ⟨hsucceeds, hsame⟩ :=
    render_reordered hasDistinctNames_depot depot.reordered_reversed {}
  obtain ⟨out', h'⟩ := hsucceeds.2 ⟨out, h⟩
  exact ⟨hasDistinctNames_depot, depot.reordered_reversed, rfl, out, out', h, h',
    hsame out out' h h'⟩

end Graph

end ApiDocs
