import ApiDocs.Proofs.DocumentOrder
import ApiDocs.Proofs.Passages
import ApiDocs.Proofs.Snippets

/-!
# What presentation does not touch

A reader chooses the title of a reference, whether the readme stands before it, and where links
lead.  None of this decides about content: renders that differ in nothing else fail for the same
reason, or they have the same record and diagnostics, and documents with the same identifiers and
the same code.

Links are written into an entry next to what its record has, so the record is compared entry by
entry.  The document need not be: its identifiers are those of the record, and its code can be read
off the record and the declarations (`Graph.codes_eq_flatMap_zip`).

The readme is put before the reference as it is, without the blank space at its end.  The text of
the reference has a heading, so nothing of the readme is trimmed with the end of the document.
-/

namespace ApiDocs

/-! ## Another presentation -/

/-- What a reader chooses about the presentation of a reference. -/
structure Presentation where
  title : String
  showsReadme : Bool
  linkTarget? : Option (TypeName → String)

/-- The options with another presentation. -/
def Options.presented (o : Options) (p : Presentation) : Options :=
  { o with title := p.title, showsReadme := p.showsReadme, linkTarget? := p.linkTarget? }

/-- Options for the same language and sub-module differ in their presentation alone. -/
lemma Options.exists_presented_eq {o o' : Options} (hlanguage : o.language = o'.language)
    (hsubmodule : o.submodule = o'.submodule) : ∃ p, o.presented p = o' := by
  refine ⟨⟨o'.title, o'.showsReadme, o'.linkTarget?⟩, ?_⟩
  rw [presented, hlanguage, hsubmodule]

/-- The context with another presentation. -/
def Context.presented (ctx : Context) (p : Presentation) : Context :=
  ⟨ctx.graph, ctx.options.presented p⟩

/-! ## Records

A record has types by their full names and no links, so the entries of every kind have the same
record in another presentation. -/

section

variable (ctx : Context) (p : Presentation)

lemma InitializerEntry.toRecord_presented (fqn : String) (i : Initializer) :
    (of (ctx.presented p) fqn i).toRecord = (of ctx fqn i).toRecord := by
  have hsnippet : (of (ctx.presented p) fqn i).snippet = (of ctx fqn i).snippet := rfl
  rw [toRecord, toRecord, hsnippet, of, of, List.map_map, List.map_map]
  rfl

lemma CallableEntry.toRecord_presented (fqn : String) (m : Method) :
    (of (ctx.presented p) fqn m).toRecord = (of ctx fqn m).toRecord := by
  have hsnippet : (of (ctx.presented p) fqn m).snippet = (of ctx fqn m).snippet := rfl
  rw [toRecord, toRecord, hsnippet, of, of]
  simp only [List.map_map, Option.map_map]
  rfl

lemma CallableEntry.map_toRecord_sorted_presented (fqn : String) (keep : Method → Bool)
    (methods : List Method) :
    (sorted (ctx.presented p) fqn keep methods).map (·.toRecord) =
      (sorted ctx fqn keep methods).map (·.toRecord) := by
  rw [sorted_eq_map, sorted_eq_map, List.map_map, List.map_map]
  exact List.map_congr_left fun m _ => toRecord_presented ctx p fqn m

lemma PropertyEntry.map_toRecord_sorted_presented (fqn : String) (keep : Property → Bool)
    (properties : List Property) :
    (sorted (ctx.presented p) fqn keep properties).map (·.toRecord) =
      (sorted ctx fqn keep properties).map (·.toRecord) := by
  rw [sorted_eq_map, sorted_eq_map, List.map_map, List.map_map]
  rfl

lemma PropertyEntry.map_toFormal_sorted_presented (fqn : String) (keep : Property → Bool)
    (properties : List Property) :
    (sorted (ctx.presented p) fqn keep properties).map (·.toFormal) =
      (sorted ctx fqn keep properties).map (·.toFormal) := by
  rw [sorted_eq_map, sorted_eq_map, List.map_map, List.map_map]
  rfl

/-- The types that an entity refers to have the same records, wherever their links lead. -/
lemma map_link_linked_presented (fqns : List String) :
    (fqns.map (ctx.presented p).linked).map (·.link) = (fqns.map ctx.linked).map (·.link) := by
  rw [List.map_map, List.map_map]
  rfl

lemma ClassEntry.toRecord_presented (t : TypeDecl) (body : ClassBody) :
    (of (ctx.presented p) t body).toRecord = (of ctx t body).toRecord := by
  have hinitializer : (body.shownInitializer?.map (InitializerEntry.of (ctx.presented p) t.fqn)).map
      (·.toRecord) = (body.shownInitializer?.map (InitializerEntry.of ctx t.fqn)).map
        (·.toRecord) := by
    rw [Option.map_map, Option.map_map]
    exact Option.map_congr fun i _ => InitializerEntry.toRecord_presented ctx p t.fqn i
  simp only [toRecord, of, hinitializer, map_link_linked_presented, PropertyEntry.properties,
    PropertyEntry.constants, CallableEntry.map_toRecord_sorted_presented,
    PropertyEntry.map_toRecord_sorted_presented]
  rfl

lemma StructEntry.toRecord_presented (t : TypeDecl) (body : InterfaceBody) :
    (of (ctx.presented p) t body).toRecord = (of ctx t body).toRecord := by
  simp only [toRecord, of, PropertyEntry.properties, PropertyEntry.map_toRecord_sorted_presented,
    PropertyEntry.map_toFormal_sorted_presented]
  rfl

lemma InterfaceEntry.toRecord_presented (t : TypeDecl) (body : InterfaceBody) :
    (of (ctx.presented p) t body).toRecord = (of ctx t body).toRecord := by
  have himplementors : (implementors (ctx.presented p) t.fqn).map (·.link) =
      (implementors ctx t.fqn).map (·.link) := by
    rw [implementors, implementors, List.map_map, List.map_map]
    rfl
  simp only [toRecord, of, himplementors, map_link_linked_presented, PropertyEntry.properties,
    CallableEntry.map_toRecord_sorted_presented, PropertyEntry.map_toRecord_sorted_presented]
  rfl

lemma EnumEntry.toRecord_presented (t : TypeDecl) (body : EnumBody) :
    (of (ctx.presented p) t body).toRecord = (of ctx t body).toRecord := rfl

lemma ReferenceEntry.toRecord_presented (types : List TypeDecl) :
    (of (ctx.presented p) types).toRecord = (of ctx types).toRecord := by
  have hgraph : ctx.graph = (ctx.presented p).graph := rfl
  obtain ⟨hconstructs, hclasses, hstructs, hinterfaces, henums⟩ :=
    collections_congr hgraph (fun _ e => e.toRecord) (fun _ e => e.toRecord)
      (fun _ e => e.toRecord) (fun _ e => e.toRecord) (ClassEntry.toRecord_presented ctx p)
      (StructEntry.toRecord_presented ctx p) (InterfaceEntry.toRecord_presented ctx p)
      (EnumEntry.toRecord_presented ctx p) types
  simp only [toRecord, hconstructs, hclasses, hstructs, hinterfaces, henums]

end

/-! ## Outputs -/

/-- Two outputs with the same content: they differ in the text of their documents at most, and not
in the code in it. -/
structure Output.SameContent (out out' : Output) : Prop where
  record : out.record = out'.record
  diagnostics : out.diagnostics = out'.diagnostics
  identifiers : out.document.identifiers = out'.document.identifiers
  codes : out.document.codes = out'.document.codes

namespace Graph

variable {g : Graph} {o : Options} {out : Output}

/-- The identifiers of a document are those of its record, entity by entity. -/
lemma identifiers_eq_map_id (h : g.render o = .ok out) :
    out.document.identifiers = out.record.reference.entities.map (·.id) := by
  rw [identifiers_eq_map_entities h, recordEntities_of_render h, List.map_map]
  rfl

/-- The code of a document follows from its record and from what the authors wrote about the
declarations: an entity shows the snippet of its record and the sample of its declaration. -/
lemma codes_eq_flatMap_zip (h : g.render o = .ok out) :
    out.document.codes =
      (out.record.reference.entities.zip ((g.documentDeclarations o).map (·.docs))).flatMap
        fun x => x.1.snippet?.toList.map (o.language.name, ·) ++
          x.2.sample.toList.map ("", ·) := by
  have hdocs := congrArg (List.map Prod.snd) (map_label_entities g o)
  rw [List.map_map, List.map_map, ← entities_of_render h] at hdocs
  have hpairs : out.record.reference.entities.zip ((g.documentDeclarations o).map (·.docs)) =
      (g.entities o).map fun e => (e.toRecord, e.docs) := by
    rw [recordEntities_of_render h, ← List.zip_map']
    exact congrArg _ hdocs.symm
  rw [hpairs, codes_eq_flatMap_ownCodes h, List.flatMap_map]
  refine List.flatMap_congr fun e he => ?_
  obtain ⟨d, -, hshows⟩ := (shown_of_render h).exists_declaration he
  rw [hshows.ownCodes, hshows.docs_eq]

variable (g o) (p : Presentation)

lemma fault?_presented : g.fault? (o.presented p) = g.fault? o := rfl

lemma record_output_presented : (g.output (o.presented p)).record = (g.output o).record := by
  have hrecord : (g.reference (o.presented p)).toRecord = (g.reference o).toRecord :=
    ReferenceEntry.toRecord_presented ⟨g, o⟩ p (g.selectedTypes o)
  rw [output, output, hrecord]
  rfl

lemma diagnostics_output_presented :
    (g.output (o.presented p)).diagnostics = (g.output o).diagnostics := by
  have hleftOut : Declaration.leftOut ⟨g, o.presented p⟩ = Declaration.leftOut ⟨g, o⟩ := by
    funext d
    cases d <;> rfl
  rw [output, output, hleftOut]
  rfl

lemma sameContent_output_presented (h : g.fault? o = none) :
    (g.output o).SameContent (g.output (o.presented p)) := by
  have hrender : g.render o = .ok (g.output o) := render_eq_ok_iff.2 ⟨h, rfl⟩
  have hrender' : g.render (o.presented p) = .ok (g.output (o.presented p)) :=
    render_eq_ok_iff.2 ⟨h, rfl⟩
  have hrecord := g.record_output_presented o p
  refine ⟨hrecord.symm, (g.diagnostics_output_presented o p).symm, ?_, ?_⟩
  · rw [identifiers_eq_map_id hrender, identifiers_eq_map_id hrender', hrecord]
  · rw [codes_eq_flatMap_zip hrender, codes_eq_flatMap_zip hrender', hrecord]
    rfl

end Graph

/-! ## The readme

A block of text is written with a blank line behind it.  What is blank at the end of a document is
behind its last visible character, so a text in front stays as it is if anything visible follows. -/

/-- A document with a text in front is that text, a blank line, and the document. -/
lemma Section.toText_text_cons (content : String) {blocks : List Block}
    (hvisible : ∃ c ∈ (blocksWritten 1 blocks).toList, Text.isBlank c = false) :
    toText { blocks := .text content :: blocks } =
      content ++ "\n\n" ++ toText { blocks := blocks } := by
  obtain ⟨c, hc, hblank⟩ := hvisible
  obtain ⟨front, behind, hblocks⟩ := List.append_of_mem hc
  have hwritten : (writtenAt 1 { blocks := blocks }).toList = front ++ c :: behind := by
    simp [writtenAt, openingLines, innerLevel, hblocks]
  have hcons : (writtenAt 1 { blocks := .text content :: blocks }).toList =
      (content ++ "\n\n").toList ++ front ++ c :: behind := by
    simp [writtenAt, openingLines, innerLevel, blocksWritten, Block.written, hblocks]
  apply String.toList_inj.1
  simp only [toText, String.toList_append, Text.toList_trimEnd, hwritten, hcons,
    rdropWhile_append_cons hblank]
  simp only [List.append_assoc]

/-- The heading of a reference is visible. -/
lemma ReferenceEntry.exists_visible (e : ReferenceEntry) :
    ∃ c ∈ (blocksWritten 1 e.toSection.asBlocks).toList, Text.isBlank c = false :=
  ⟨'#', by simp [toSection, Section.asBlocks, Section.isEmpty, blocksWritten, Block.written,
    openingLines, headerMarks], by decide⟩

namespace Graph

variable {g : Graph} {o : Options}

/-- Only the blocks of the readme depend on whether it is asked for. -/
lemma output_showsReadme (g : Graph) (o : Options) :
    g.output { o with showsReadme := true } =
      { g.output { o with showsReadme := false } with
        document := { blocks := g.readmeBlocks { o with showsReadme := true } ++
          (g.reference { o with showsReadme := false }).toSection.asBlocks } } := rfl

lemma render_showsReadme_of_readmeFor_eq_some {readme : String}
    (hreadme : g.readmeFor o.submodule = some readme) :
    (g.render { o with showsReadme := true }).map (·.documentText) =
      (g.render { o with showsReadme := false }).map fun out =>
        Text.trimEnd readme ++ "\n\n" ++ out.documentText := by
  have hblocks : g.readmeBlocks { o with showsReadme := true } =
      [.text (Text.trimEnd readme)] := by
    simp [readmeBlocks, hreadme]
  have htext : (g.output { o with showsReadme := true }).documentText =
      Text.trimEnd readme ++ "\n\n" ++
        (g.output { o with showsReadme := false }).documentText := by
    rw [output_showsReadme, hblocks]
    exact Section.toText_text_cons _ (ReferenceEntry.exists_visible _)
  have hfault : g.fault? { o with showsReadme := true } =
      g.fault? { o with showsReadme := false } := rfl
  rw [render_eq, render_eq, hfault]
  cases g.fault? { o with showsReadme := false } with
  | some e => simp only [Except.map]
  | none => simp only [Except.map, htext]

lemma render_showsReadme_of_readmeFor_eq_none (hreadme : g.readmeFor o.submodule = none) :
    g.render { o with showsReadme := true } = g.render { o with showsReadme := false } := by
  have hblocks : g.readmeBlocks { o with showsReadme := true } = [] := by
    simp [readmeBlocks, hreadme]
  have hfault : g.fault? { o with showsReadme := true } =
      g.fault? { o with showsReadme := false } := rfl
  have houtput : g.output { o with showsReadme := true } =
      g.output { o with showsReadme := false } := by
    rw [output_showsReadme, hblocks]
    rfl
  rw [render_eq, render_eq, hfault, houtput]

/-- Renders for the same language and the same module differ in nothing but the presentation, and
the readme that one of them may show is put in front of the text. -/
theorem render_presentation (g : Graph) {o o' : Options} (hlanguage : o.language = o'.language)
    (hsubmodule : o.submodule = o'.submodule) :
    ((∃ e, g.render o = .error e ∧ g.render o' = .error e) ∨
      ∃ out out', g.render o = .ok out ∧ g.render o' = .ok out' ∧ out.SameContent out') ∧
    (∀ readme, g.readmeFor o.submodule = some readme →
      (g.render { o with showsReadme := true }).map (·.documentText) =
        (g.render { o with showsReadme := false }).map fun out =>
          Text.trimEnd readme ++ "\n\n" ++ out.documentText) ∧
    (g.readmeFor o.submodule = none →
      g.render { o with showsReadme := true } = g.render { o with showsReadme := false }) := by
  refine ⟨?_, fun readme => render_showsReadme_of_readmeFor_eq_some,
    render_showsReadme_of_readmeFor_eq_none⟩
  obtain ⟨p, rfl⟩ := Options.exists_presented_eq hlanguage hsubmodule
  have hfault := g.fault?_presented o p
  cases herror : g.fault? o with
  | some e =>
    rw [herror] at hfault
    exact .inl ⟨e, render_eq_error_iff.2 herror, render_eq_error_iff.2 hfault⟩
  | none =>
    rw [herror] at hfault
    exact .inr ⟨_, _, render_eq_ok_iff.2 ⟨herror, rfl⟩, render_eq_ok_iff.2 ⟨hfault, rfl⟩,
      sameContent_output_presented g o p herror⟩

/-- The depot with a readme that ends in blank lines. -/
def depotWithReadme : Graph := { depot with readme := some "Parts are kept here.\n\n" }

/-- What another reader asks for: another title, the readme, and links into a site. -/
def siteOptions : Options where
  showsReadme := true
  title := "Manual"
  linkTarget? := some fun name => "/api/" ++ name.source

/-- The two readers have different texts with the same content. -/
theorem render_presentation_depotWithReadme :
    ∃ out out', depotWithReadme.render {} = .ok out ∧
      depotWithReadme.render siteOptions = .ok out' ∧
      ({} : Options).language = siteOptions.language ∧
      ({} : Options).submodule = siteOptions.submodule ∧
      out.SameContent out' ∧ out.document ≠ out'.document ∧
      (depotWithReadme.render { showsReadme := true }).map (·.documentText) =
        .ok ("Parts are kept here." ++ "\n\n" ++ out.documentText) := by
  have hdiffer : (depotWithReadme.render {}).toOption.map (·.document.blocks.length) ≠
      (depotWithReadme.render siteOptions).toOption.map (·.document.blocks.length) := by
    decide +kernel
  obtain ⟨hcontent, hreadme, -⟩ := @render_presentation depotWithReadme {} siteOptions rfl rfl
  obtain ⟨out, h⟩ : ∃ out, depotWithReadme.render {} = .ok out :=
    exists_render_of_isOk (by decide +kernel)
  rcases hcontent with ⟨e, herror, -⟩ | ⟨root, root', hroot, hroot', hsame⟩
  · rw [h] at herror
    cases herror
  · obtain rfl : out = root := Except.ok.inj (h.symm.trans hroot)
    refine ⟨out, root', h, hroot', rfl, rfl, hsame, fun heq => hdiffer ?_, ?_⟩
    · rw [hroot, hroot']
      exact congrArg (fun document => some document.blocks.length) heq
    · have htrim : Text.trimEnd "Parts are kept here.\n\n" = "Parts are kept here." := by
        rw [← String.toList_inj, Text.toList_trimEnd]
        decide
      have hwithout : depotWithReadme.render { showsReadme := false } = .ok out := h
      rw [hreadme _ rfl, hwithout, htrim]
      rfl

end Graph

end ApiDocs
