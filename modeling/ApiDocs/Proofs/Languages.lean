import ApiDocs.Proofs.Listing
import ApiDocs.Proofs.Skeletons

/-!
# One graph in two languages

The language of a render decides how things are spelled and nothing else.  Two renders that differ
in it alone fail for the same reason, or show the same entities in the same places: their documents
have one skeleton, and document and record give the same identifiers in the same order.

They may differ in the snippets that are left out, since Python takes variadic parameters anywhere.
The other three languages leave out the same ones, those of callables with a variadic parameter that
has others behind it.
-/

namespace ApiDocs

/-! ## Records -/

section

variable (ctx : Context) (l : Language)

lemma InitializerEntry.listing_of (fqn : String) (i : Initializer) :
    (of ctx fqn i).toRecord.listing = (of (ctx.inLanguage l) fqn i).toRecord.listing := by
  simp [InitializerRecord.listing, toRecord, of, ParameterEntry.toRecord, ParameterEntry.of]

lemma CallableEntry.listing_of (fqn : String) (m : Method) :
    (of ctx fqn m).toRecord.listing = (of (ctx.inLanguage l) fqn m).toRecord.listing := by
  simp [CallableRecord.listing, toRecord, of, ParameterEntry.toRecord, ParameterEntry.of]

lemma CallableEntry.listing_sorted (fqn : String) (keep : Method → Bool) (methods : List Method) :
    ((sorted ctx fqn keep methods).map (·.toRecord)).flatMap (·.listing) =
      ((sorted (ctx.inLanguage l) fqn keep methods).map (·.toRecord)).flatMap (·.listing) := by
  simp [sorted_eq_map, List.flatMap_map, listing_of ctx l]

lemma PropertyEntry.ids_sorted (fqn : String) (keep : Property → Bool)
    (properties : List Property) :
    ((sorted ctx fqn keep properties).map (·.toRecord)).map (·.id) =
      ((sorted (ctx.inLanguage l) fqn keep properties).map (·.toRecord)).map (·.id) := by
  simp [sorted_eq_map, toRecord, of]

lemma ClassEntry.listing_of (t : TypeDecl) (body : ClassBody) :
    (of ctx t body).toRecord.listing = (of (ctx.inLanguage l) t body).toRecord.listing := by
  have hinitializer : ((body.shownInitializer?.map (InitializerEntry.of ctx t.fqn)).map
      (·.toRecord)).toList.flatMap (·.listing) =
        ((body.shownInitializer?.map (InitializerEntry.of (ctx.inLanguage l) t.fqn)).map
          (·.toRecord)).toList.flatMap (·.listing) := by
    cases body.shownInitializer? <;> simp [InitializerEntry.listing_of ctx l]
  simp only [ClassRecord.listing, toRecord, of, PropertyEntry.properties, PropertyEntry.constants,
    CallableEntry.listing_sorted ctx l, PropertyEntry.ids_sorted ctx l, hinitializer]

lemma StructEntry.listing_of (t : TypeDecl) (body : InterfaceBody) :
    (of ctx t body).toRecord.listing = (of (ctx.inLanguage l) t body).toRecord.listing := by
  simp only [StructRecord.listing, InitializerRecord.listing, toRecord, of,
    PropertyEntry.properties, PropertyEntry.ids_sorted ctx l]

lemma InterfaceEntry.listing_of (t : TypeDecl) (body : InterfaceBody) :
    (of ctx t body).toRecord.listing = (of (ctx.inLanguage l) t body).toRecord.listing := by
  simp only [InterfaceRecord.listing, toRecord, of, PropertyEntry.properties,
    CallableEntry.listing_sorted ctx l, PropertyEntry.ids_sorted ctx l]

lemma EnumEntry.listing_of (t : TypeDecl) (body : EnumBody) :
    (of ctx t body).toRecord.listing = (of (ctx.inLanguage l) t body).toRecord.listing := by
  simp [EnumRecord.listing, toRecord, of, EnumMemberEntry.sortOn_map_of, EnumMemberEntry.toRecord,
    EnumMemberEntry.of]

lemma ReferenceEntry.listing_of (types : List TypeDecl) :
    (of ctx types).toRecord.listing = (of (ctx.inLanguage l) types).toRecord.listing := by
  have hgraph : (ctx.inLanguage l).graph = ctx.graph := rfl
  obtain ⟨hconstructs, hclasses, hstructs, hinterfaces, henums⟩ :=
    collections_congr hgraph (fun _ e => e.toRecord.listing) (fun _ e => e.toRecord.listing)
      (fun _ e => e.toRecord.listing) (fun _ e => e.toRecord.listing)
      (ClassEntry.listing_of ctx l) (StructEntry.listing_of ctx l)
      (InterfaceEntry.listing_of ctx l) (EnumEntry.listing_of ctx l) types
  simp only [ReferenceRecord.listing, toRecord, List.flatMap_def, List.map_map, Function.comp_def,
    hconstructs, hclasses, hstructs, hinterfaces, henums]

end

/-! ## Snippets that are left out -/

/-- Whether a variadic parameter has others behind it. -/
def hasEarlyVariadic (parameters : List Parameter) : Bool :=
  parameters.dropLast.any (·.isVariadic)

/-- Whether a declaration is a callable with a variadic parameter that has others behind it. -/
def Declaration.isEarlyVariadic : Declaration → Bool
  | ofInitializer _ i => hasEarlyVariadic (i.parameters.getD [])
  | ofMethod _ m => hasEarlyVariadic (m.parameters.getD [])
  | _ => false

/-- The languages that take a variadic parameter at the end of a call only. -/
def Language.trailing : List Language := [typeScript, java, cSharp]

lemma Language.mem_trailing_iff {l : Language} : l ∈ trailing ↔ l ≠ .python := by
  cases l <;> decide

section

variable {ctx : Context} {l : Language}

lemma Language.exists_construction (h : l ∈ trailing) (name : TypeName) (formals : List Formal) :
    ∃ text, l.convention.construction name formals = whenTrailing l formals text := by
  cases l with
  | python => exact absurd h (by decide)
  | _ => exact ⟨_, rfl⟩

lemma Language.exists_invocation (h : l ∈ trailing) (name : TypeName) (method : String)
    (isStatic : Bool) (formals : List Formal) :
    ∃ text, l.convention.invocation name method isStatic formals = whenTrailing l formals text := by
  cases l with
  | python => exact absurd h (by decide)
  | _ => exact ⟨_, rfl⟩

lemma Context.isSome_earlyVariadic?_formals (parameters : List Parameter) :
    (earlyVariadic? (ctx.formals parameters)).isSome = hasEarlyVariadic parameters := by
  rw [earlyVariadic?, List.isSome_find?, formals, ← List.map_dropLast, List.any_map]
  rfl

lemma Snippet.ids_leftOut {s : Snippet} {parameters : List Parameter}
    (h : ∃ text, s = whenTrailing l (ctx.formals parameters) text) (id : String) :
    (s.leftOut id).map (·.id) = if hasEarlyVariadic parameters then [id] else [] := by
  obtain ⟨text, rfl⟩ := h
  rw [← ctx.isSome_earlyVariadic?_formals]
  unfold whenTrailing
  cases earlyVariadic? (ctx.formals parameters) <;> rfl

/-- What such a language leaves out of a declaration does not depend on which one it is. -/
lemma Declaration.ids_leftOut (h : ctx.options.language ∈ Language.trailing) (d : Declaration) :
    (d.leftOut ctx).map (·.id) = if d.isEarlyVariadic then [d.id] else [] := by
  cases d with
  | ofInitializer t i =>
    have hsnippet : ∃ text, i.snippet ctx t.fqn =
        whenTrailing ctx.options.language (ctx.formals (i.parameters.getD [])) text :=
      Language.exists_construction h _ _
    exact Snippet.ids_leftOut hsnippet _
  | ofMethod t m =>
    have hsnippet : ∃ text, m.snippet ctx t.fqn =
        whenTrailing ctx.options.language (ctx.formals (m.parameters.getD [])) text :=
      Language.exists_invocation h _ _ _ _
    exact Snippet.ids_leftOut hsnippet _
  | _ => rfl

end

/-! ## Renders -/

namespace Graph

variable (g : Graph) (o : Options) (l : Language)

lemma fault?_inLanguage : g.fault? (o.inLanguage l) = g.fault? o := rfl

lemma identifiers_output_inLanguage :
    (g.output o).document.identifiers = (g.output (o.inLanguage l)).document.identifiers := by
  rw [← Section.identifiers_skeleton o.language, skeleton_output g o l,
    Section.identifiers_skeleton]

lemma recordIdentifiers_output_inLanguage :
    (g.output o).record.identifiers = (g.output (o.inLanguage l)).record.identifiers := by
  rw [DocumentationRecord.identifiers_eq_listing, DocumentationRecord.identifiers_eq_listing]
  exact ReferenceEntry.listing_of ⟨g, o⟩ l (g.selectedTypes o)

/-- Where variadic parameters come last, snippets are left out of the callables that do not comply,
in the order in which they are built. -/
lemma ids_diagnostics_output {o : Options} (h : o.language ∈ Language.trailing) :
    (g.output o).diagnostics.map (·.id) =
      ((g.builtDeclarations o).filter (·.isEarlyVariadic)).map (·.id) := by
  rw [output, List.map_flatMap]
  induction g.builtDeclarations o with
  | nil => rfl
  | cons d rest ih =>
    have hd : (d.leftOut ⟨g, o⟩).map (·.id) = if d.isEarlyVariadic then [d.id] else [] :=
      d.ids_leftOut h
    rw [List.flatMap_cons, ih, hd, List.filter_cons]
    by_cases hearly : d.isEarlyVariadic = true
    · rw [if_pos hearly, if_pos hearly]
      rfl
    · rw [if_neg hearly, if_neg hearly]
      rfl

/-- Renders that differ in their languages fail alike or show the same: the identifiers of the
document, its skeleton, and the identifiers of the record.  Two languages that take variadic
parameters at the end only leave out the snippets of the same entities. -/
theorem render_inLanguage :
    (∃ e, g.render o = .error e ∧ g.render (o.inLanguage l) = .error e) ∨
      ∃ out out', g.render o = .ok out ∧ g.render (o.inLanguage l) = .ok out' ∧
        out.document.identifiers = out'.document.identifiers ∧
        out.document.skeleton o.language = out'.document.skeleton l ∧
        out.record.identifiers = out'.record.identifiers ∧
        (o.language ∈ Language.trailing → l ∈ Language.trailing →
          out.diagnostics.map (·.id) = out'.diagnostics.map (·.id)) := by
  have hfault := g.fault?_inLanguage o l
  cases herror : g.fault? o with
  | some e =>
    rw [herror] at hfault
    exact .inl ⟨e, render_eq_error_iff.2 herror, render_eq_error_iff.2 hfault⟩
  | none =>
    rw [herror] at hfault
    refine .inr ⟨g.output o, g.output (o.inLanguage l), render_eq_ok_iff.2 ⟨herror, rfl⟩,
      render_eq_ok_iff.2 ⟨hfault, rfl⟩, identifiers_output_inLanguage g o l,
      skeleton_output g o l, recordIdentifiers_output_inLanguage g o l, fun h h' => ?_⟩
    have hbuilt : g.builtDeclarations (o.inLanguage l) = g.builtDeclarations o := rfl
    have hids : (g.output (o.inLanguage l)).diagnostics.map (·.id) =
        ((g.builtDeclarations (o.inLanguage l)).filter (·.isEarlyVariadic)).map (·.id) :=
      ids_diagnostics_output g h'
    rw [ids_diagnostics_output g h, hids, hbuilt]

/-- In TypeScript and Java the depot has different code in the same places. -/
theorem render_inLanguage_depot :
    ∃ out out', depot.render {} = .ok out ∧ depot.render { language := .java } = .ok out' ∧
      out.document.codeBlocks ≠ out'.document.codeBlocks ∧
      out.document.skeleton .typeScript = out'.document.skeleton .java ∧
      out.record.identifiers = out'.record.identifiers ∧
      out.diagnostics.map (·.id) = out'.diagnostics.map (·.id) := by
  obtain ⟨out, h⟩ := exists_render_depot
  have hcode : (depot.render {}).toOption.map (·.document.codeBlocks) ≠
      (depot.render { language := .java }).toOption.map (·.document.codeBlocks) := by
    decide +kernel
  rcases render_inLanguage depot {} .java with
    ⟨e, herror, -⟩ | ⟨root, root', hroot, hroot', -, hskeleton, hrecord, hdiagnostics⟩
  · rw [h] at herror
    cases herror
  · have hjava : depot.render { language := .java } = .ok root' := hroot'
    rw [hroot, hjava] at hcode
    refine ⟨root, root', hroot, hjava, fun heq => hcode ?_, hskeleton, hrecord,
      hdiagnostics (by decide) (by decide)⟩
    exact congrArg some heq

end Graph

end ApiDocs
