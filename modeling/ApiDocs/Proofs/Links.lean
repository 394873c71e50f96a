import ApiDocs.Proofs.LinkTargets

/-!
# Links in a document

Whether a type is linked is decided by the whole assembly, and which identifiers a document has is
decided by the module that is shown.  The main statement brings the two together.  It lists the
links of a document, and says that they all lead to identifiers of the document exactly if they are
to types of the module that is shown.  A link to a type of another module of the assembly leads
nowhere.
-/

namespace ApiDocs

/-- A type's name keeps the full name in the graph, in every convention. -/
lemma Context.source_typeName (ctx : Context) (fqn : String) : (ctx.typeName fqn).source = fqn := by
  have hidentity := ctx.graph.fqn_identity fqn
  unfold typeName convention
  cases ctx.options.language <;> exact hidentity

namespace Graph

variable {g : Graph} {o : Options} {out : Output}

/-- Only the assembly's own types are linked. -/
lemma isLocal_of_mem_links {fqn : String} (h : fqn ∈ g.links o) : g.isLocal fqn = true := by
  obtain ⟨d, -, hfqn⟩ := List.mem_flatMap.1 h
  exact Declaration.isLocal_of_mem_links hfqn

/-- The identifiers of a document are those of the types of its module and of their members. -/
lemma mem_identifiers_iff (h : g.render o = .ok out) {id : String} :
    id ∈ out.document.identifiers ↔
      ∃ t ∈ g.selectedTypes o, t.fqn = id ∨ ∃ d ∈ t.memberDeclarations, d.id = id := by
  have hperm := (shown_of_render h).map_perm fun d e hde => hde.id_eq
  rw [identifiers_eq_map_entities h, ← hperm.mem_iff, List.mem_map]
  constructor
  · rintro ⟨d, hd, rfl⟩
    obtain ⟨t, ht, hd⟩ := List.mem_flatMap.1 hd
    rcases List.mem_cons.1 hd with rfl | hd
    · exact ⟨t, ht, .inl rfl⟩
    · exact ⟨t, ht, .inr ⟨d, hd, rfl⟩⟩
  · rintro ⟨t, ht, rfl | ⟨d, hd, rfl⟩⟩
    · exact ⟨.ofType t, List.mem_flatMap.2 ⟨t, ht, List.mem_cons_self⟩, rfl⟩
    · exact ⟨d, List.mem_flatMap.2 ⟨t, ht, List.mem_cons_of_mem _ hd⟩, rfl⟩

/-- Without targets that the caller chooses, a link leads to the full name in the document. -/
lemma linkTo_eq_anchor {fqn : String} (hanchors : o.linkTarget? = none)
    (hlocal : g.isLocal fqn = true) :
    Context.linkTo ⟨g, o⟩ fqn =
      Inline.link (Inline.code (Context.typeName ⟨g, o⟩ fqn).qualified) ("#" ++ fqn) := by
  simp only [Context.linkTo, Context.link, hlocal, if_true, Options.linkTarget, hanchors,
    Context.source_typeName]

/-- Every line that names types stands, as it was written with notes, in the identified section of
its declaration.  What is noted is a link to the full name, and nothing else in the render is a
link to a type: a choice of other targets that keeps to these full names leaves the render as it
is.  All of these links lead to identifiers of the document exactly if each linked full name is
that of a type in the module that is shown, or happens to be the identifier of a member there. -/
theorem links_of_render (h : g.render o = .ok out) (hanchors : o.linkTarget? = none) :
    (∀ d ∈ g.declarations o, ∃ s ∈ out.document.identified,
        s.id = some d.id ∧ (d.lines ⟨g, o⟩).Sublist s.leaves) ∧
      (∀ fqn ∈ g.links o, Context.linkTo ⟨g, o⟩ fqn =
        Inline.link (Inline.code (Context.typeName ⟨g, o⟩ fqn).qualified) ("#" ++ fqn)) ∧
      (∀ target, (∀ fqn ∈ g.links o, target (Context.typeName ⟨g, o⟩ fqn) = "#" ++ fqn) →
        g.render (o.withTarget target) = .ok out) ∧
      ((∀ fqn ∈ g.links o, fqn ∈ out.document.identifiers) ↔
        ∀ fqn ∈ g.links o, ∃ t ∈ g.selectedTypes o,
          t.fqn = fqn ∨ ∃ d ∈ t.memberDeclarations, d.id = fqn) := by
  refine ⟨fun d hd => ?_, fun fqn hfqn => ?_, fun target htarget => ?_, ?_⟩
  · obtain ⟨e, he, hshows⟩ := (shown_of_render h).exists_entity hd
    refine ⟨e.toSection, ?_, ?_, hshows.lines_sublist⟩
    · rw [identified_of_render h]
      exact List.mem_map_of_mem he
    · rw [e.id_toSection, hshows.id_eq]
  · exact linkTo_eq_anchor hanchors (isLocal_of_mem_links hfqn)
  · have hagrees (fqn : String) (hfqn : fqn ∈ g.links o) :
        target (Context.typeName ⟨g, o⟩ fqn) = o.linkTarget (Context.typeName ⟨g, o⟩ fqn) := by
      rw [htarget fqn hfqn, Options.linkTarget, hanchors]
      simp only [Context.source_typeName]
    rw [render_withTarget hagrees, h]
  · simp only [mem_identifiers_iff h]

/-- The render of the depot, whose default options choose no targets. -/
theorem links_of_render_depot :
    ∃ out, depot.render {} = .ok out ∧ ({} : Options).linkTarget? = none ∧
      (∀ d ∈ depot.declarations {}, ∃ s ∈ out.document.identified,
        s.id = some d.id ∧ (d.lines ⟨depot, {}⟩).Sublist s.leaves) ∧
      ((∀ fqn ∈ depot.links {}, fqn ∈ out.document.identifiers) ↔
        ∀ fqn ∈ depot.links {}, ∃ t ∈ depot.selectedTypes {},
          t.fqn = fqn ∨ ∃ d ∈ t.memberDeclarations, d.id = fqn) := by
  obtain ⟨out, h⟩ := exists_render_depot
  obtain ⟨hlines, -, -, hiff⟩ := links_of_render h rfl
  exact ⟨out, h, rfl, hlines, hiff⟩

/-- In the root module of the depot the store links the interface of the other module, and the
document has no identifier for it. -/
theorem dangling_link_depot :
    ∃ out, depot.render {} = .ok out ∧ "lib.parts.Keeper" ∈ depot.links {} ∧
      Context.linkTo ⟨depot, {}⟩ "lib.parts.Keeper" = "[`parts.Keeper`](#lib.parts.Keeper)" ∧
      "lib.parts.Keeper" ∉ out.document.identifiers := by
  obtain ⟨out, h⟩ := exists_render_depot
  have hdocument : (depot.render {}).toOption.map
      (·.document.identifiers.contains "lib.parts.Keeper") = some false := by
    decide +kernel
  rw [h] at hdocument
  refine ⟨out, h, by decide +kernel, by decide +kernel, fun hmem => ?_⟩
  have hcontains : out.document.identifiers.contains "lib.parts.Keeper" = false :=
    Option.some.inj hdocument
  rw [List.contains_iff_mem.2 hmem] at hcontains
  cases hcontains

end Graph

end ApiDocs