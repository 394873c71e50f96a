import ApiDocs.Proofs.Declarations

/-!
# Documentation in the two outputs

What authors wrote about an entity reaches the document as blocks of the entity's section: a text,
a line that leads to further reading, a sample, and the reason of a deprecation.
`Section.documentation` takes these blocks out of a section, whoever put them there.  In the record
the same things are fields.

The main statement is an equivalence.  What the document shows of an entity the record carries, for
every entity of a render, exactly if no initializer that is shown has any documentation: the section
of an initializer shows its documentation, and the record of one has no field for it.
-/

namespace ApiDocs

/-! ## Documentation in a section -/

/-- How the reason of a deprecation begins. -/
def deprecationMark : String := Inline.emphasis "Deprecated:" ++ " "

/-- Whether a block is documentation: a text, a sample, or the reason of a deprecation. -/
def Block.isDocumentation : Block → Bool
  | .text _ => true
  | .code language _ => language == ""
  | .bullet content => deprecationMark.toList.isPrefixOf content.toList
  | .nested .. => false

/-- The documentation that stands in a section itself. -/
def Section.documentation (s : Section) : List Block := s.blocks.filter Block.isDocumentation

/-- Neither text is the beginning of the other, so no two texts that begin with them are equal. -/
def Apart (a b : String) : Prop := ¬ a.toList <+: b.toList ∧ ¬ b.toList <+: a.toList

instance (a b : String) : Decidable (Apart a b) := inferInstanceAs (Decidable (_ ∧ _))

section

variable {label : String}

/-- A bullet begins with one label only, so no other label makes it the reason of a deprecation. -/
lemma isDocumentation_bullet_append (rest : String) (h : Apart deprecationMark label) :
    (Block.bullet (label ++ rest)).isDocumentation = false := by
  rw [Block.isDocumentation, String.toList_append, ← Bool.not_eq_true, List.isPrefixOf_iff_prefix]
  intro hmark
  rcases List.prefix_or_prefix_of_prefix hmark (List.prefix_append label.toList rest.toList) with
    hlabel | hlabel
  · exact h.1 hlabel
  · exact h.2 hlabel

lemma isDocumentation_labelled (content : String)
    (h : Apart deprecationMark (Inline.emphasis label)) :
    (labelled label content).isDocumentation = false := by
  rw [labelled, String.append_assoc]
  exact isDocumentation_bullet_append _ h

lemma filter_isDocumentation_labelled? (content : Option String)
    (h : Apart deprecationMark (Inline.emphasis label)) :
    (labelled? label content).filter Block.isDocumentation = [] := by
  cases content with
  | none => rfl
  | some text => simp [labelled?, isDocumentation_labelled text h]

lemma filter_isDocumentation_mark? (holds : Bool)
    (h : Apart deprecationMark (Inline.emphasis label)) :
    (mark? label holds).filter Block.isDocumentation = [] := by
  have hbullet := isDocumentation_bullet_append "" h
  rw [String.append_empty] at hbullet
  cases holds <;> simp [mark?, hbullet]

lemma filter_isDocumentation_linkedBlocks (types : List Linked)
    (h : Apart deprecationMark (Inline.emphasis label)) :
    (linkedBlocks label types).filter Block.isDocumentation = [] := by
  unfold linkedBlocks
  split
  · rfl
  · simp [isDocumentation_labelled _ h]

end

@[simp] lemma filter_isDocumentation_snippetBlocks (language : Language)
    (snippet : Option String) :
    (snippetBlocks language snippet).filter Block.isDocumentation = [] := by
  cases snippet with
  | none => rfl
  | some text => cases language <;> rfl

@[simp] lemma filter_isDocumentation_docsBlocks (docs : Docs) :
    (docsBlocks docs).filter Block.isDocumentation = docsBlocks docs := by
  have hreason : (labelled? "Deprecated:" docs.deprecated).filter Block.isDocumentation =
      labelled? "Deprecated:" docs.deprecated := by
    cases docs.deprecated with
    | none => rfl
    | some reason =>
      have hmark : (labelled "Deprecated:" reason).isDocumentation = true := by
        rw [labelled, Block.isDocumentation, String.toList_append, List.isPrefixOf_iff_prefix]
        exact List.prefix_append _ _
      simp [labelled?, hmark]
  have htexts : docs.blocks.filter Block.isDocumentation = docs.blocks := by
    rw [Docs.blocks]
    cases docs.see <;> cases docs.sample <;> split <;> simp [Block.isDocumentation]
  rw [docsBlocks, List.filter_append, hreason, htexts]

namespace Entity

@[simp] lemma filter_isDocumentation_nestedBlocks (e : Entity) :
    e.nestedBlocks.filter Block.isDocumentation = [] := by
  refine List.filter_eq_nil_iff.2 fun b hb hdoc => ?_
  have hleaf : b ∉ e.nestedBlocks.filter Block.isLeaf := by
    rw [filter_isLeaf_nestedBlocks]
    exact List.not_mem_nil
  cases b with
  | nested => cases hdoc
  | _ => exact hleaf (List.mem_filter.2 ⟨hb, rfl⟩)

/-- The documentation in the section of an entity is what was written about the entity. -/
lemma documentation_toSection (e : Entity) : e.toSection.documentation = docsBlocks e.docs := by
  rw [Section.documentation, blocks_toSection, List.filter_append,
    filter_isDocumentation_nestedBlocks, List.append_nil]
  cases e with
  | ofPopulation e =>
    rw [ownBlocks, filter_isDocumentation_snippetBlocks]
    rfl
  | _ =>
    -- evaluation tells the other labels that a section has apart from that of a deprecation
    simp (disch := decide +kernel) [ownBlocks, docs, List.filter_cons, isDocumentation_labelled,
      filter_isDocumentation_labelled?, filter_isDocumentation_mark?,
      filter_isDocumentation_linkedBlocks]

end Entity

/-! ## Documentation in a record -/

namespace EntityRecord

/-- The documentation texts of a record; the record of an initializer has no field for them. -/
def docs? : EntityRecord → Option DocsRecord
  | ofClass r => some r.docs
  | ofStruct r => some r.docs
  | ofInterface r => some r.docs
  | ofEnum r => some r.docs
  | ofInitializer _ => none
  | ofCallable r => some r.docs
  | ofProperty r => some r.docs
  | ofParameter r => some r.docs
  | ofEnumMember r => some r.docs

/-- Whether and why the entity is deprecated; the record of an initializer has no field for it. -/
def deprecation? : EntityRecord → Option Deprecation
  | ofClass r => some r.deprecation
  | ofStruct r => some r.deprecation
  | ofInterface r => some r.deprecation
  | ofEnum r => some r.deprecation
  | ofInitializer _ => none
  | ofCallable r => some r.deprecation
  | ofProperty r => some r.deprecation
  | ofParameter r => some r.deprecation
  | ofEnumMember r => some r.deprecation

/-- A record carries documentation: it has each of the texts, and the reason of the deprecation. -/
structure Carries (r : EntityRecord) (docs : Docs) : Prop where
  texts : r.docs? = some ⟨docs.summary, docs.remarks, docs.see, docs.sample⟩
  reason : r.deprecation?.map (·.reason) = some docs.deprecated

/-- Whether a record is of an initializer. -/
def isInitializer : EntityRecord → Bool
  | ofInitializer _ => true
  | _ => false

end EntityRecord

/-- Initializers are the one kind of entity whose record does not carry what was written. -/
lemma Entity.carries_toRecord_iff (e : Entity) :
    e.toRecord.Carries e.docs ↔ e.toRecord.isInitializer = false := by
  cases e with
  | ofPopulation e => exact ⟨fun h => (nomatch h.texts), nofun⟩
  | ofInitializer e => exact ⟨fun h => (nomatch h.texts), nofun⟩
  | _ => exact ⟨fun _ => rfl, fun _ => ⟨rfl, rfl⟩⟩

/-- What is written about an initializer stands in its section, and its record does not carry it. -/
lemma Declaration.ShownBy.not_carries {ctx : Context} {t : TypeDecl} {i : Initializer} {e : Entity}
    (h : ShownBy ctx (.ofInitializer t i) e) :
    e.toSection.documentation = docsBlocks i.docs ∧ ¬ e.toRecord.Carries e.docs := by
  have hinitializer : e.toRecord.isInitializer = true := by
    cases h
    rfl
  refine ⟨?_, fun hcarries => ?_⟩
  · rw [e.documentation_toSection, ← h.docs_eq]
    rfl
  · rw [e.carries_toRecord_iff, hinitializer] at hcarries
    cases hcarries

/-- Whether a declaration is an initializer with documentation to show. -/
def Declaration.isDocumentedInitializer : Declaration → Bool
  | ofInitializer _ i => !(docsBlocks i.docs).isEmpty
  | _ => false

/-! ## Renders -/

namespace Graph

variable {g : Graph} {o : Options} {out : Output}

/-- What the section of an entity shows of the entity's documentation is all that was written, and
the record of an entity carries it, unless the entity is an initializer.  So what the document shows
the record carries, for all entities of a render, exactly if the initializers that are shown have no
documentation to show. -/
theorem documentation_of_render (h : g.render o = .ok out) :
    out.document.identified = (g.entities o).map Entity.toSection ∧
      out.record.reference.entities = (g.entities o).map Entity.toRecord ∧
      (∀ e ∈ g.entities o, e.toSection.documentation = docsBlocks e.docs ∧
        (e.toRecord.isInitializer = false → e.toRecord.Carries e.docs)) ∧
      ((∀ e ∈ g.entities o, e.toSection.documentation ≠ [] → e.toRecord.Carries e.docs) ↔
        ∀ t i, Declaration.ofInitializer t i ∈ g.declarations o → docsBlocks i.docs = []) := by
  have hshown := shown_of_render h
  refine ⟨identified_of_render h, recordEntities_of_render h,
    fun e _ => ⟨e.documentation_toSection, e.carries_toRecord_iff.2⟩, ?_, ?_⟩
  · intro hcarries t i hi
    obtain ⟨e, he, hshows⟩ := hshown.exists_entity hi
    obtain ⟨hdocumentation, hnot⟩ := hshows.not_carries
    by_contra hsome
    exact hnot (hcarries e he (hdocumentation ▸ hsome))
  · intro hnone e he hsome
    obtain ⟨d, hd, hshows⟩ := hshown.exists_declaration he
    rw [e.documentation_toSection, ← hshows.docs_eq] at hsome
    rw [e.carries_toRecord_iff]
    -- An entity with the record of an initializer has nothing to show: how a struct is filled is
    -- never documented, and the initializers of classes are not by assumption.
    cases hshows with
    | ofPopulation => exact absurd rfl hsome
    | @ofInitializer t i entry built => exact absurd (hnone t i hd) hsome
    | _ => rfl

/-- The render of the depot, whose store has a documented initializer. -/
theorem documentation_of_render_depot :
    ∃ out, depot.render {} = .ok out ∧
      out.document.identified = (depot.entities {}).map Entity.toSection ∧
      out.record.reference.entities = (depot.entities {}).map Entity.toRecord ∧
      (∀ e ∈ depot.entities {}, e.toSection.documentation = docsBlocks e.docs ∧
        (e.toRecord.isInitializer = false → e.toRecord.Carries e.docs)) ∧
      ((∀ e ∈ depot.entities {}, e.toSection.documentation ≠ [] → e.toRecord.Carries e.docs) ↔
        ∀ t i, Declaration.ofInitializer t i ∈ depot.declarations {} →
          docsBlocks i.docs = []) := by
  obtain ⟨out, h⟩ := exists_render_depot
  exact ⟨out, h, documentation_of_render h⟩

/-- The document of the depot says why the initializer of the store is deprecated, and the record
does not. -/
theorem documentation_lost_depot :
    ∃ out, depot.render {} = .ok out ∧
      out.document.identified = (depot.entities {}).map Entity.toSection ∧
      ∃ e ∈ depot.entities {}, e.toSection.documentation ≠ [] ∧ ¬ e.toRecord.Carries e.docs := by
  obtain ⟨out, h⟩ := exists_render_depot
  have hany : (depot.declarations {}).any Declaration.isDocumentedInitializer = true := by
    decide +kernel
  obtain ⟨d, hd, hdocumented⟩ := List.any_eq_true.1 hany
  obtain ⟨e, he, hshows⟩ := (shown_of_render h).exists_entity hd
  cases d with
  | ofInitializer t i =>
    obtain ⟨hdocumentation, hnot⟩ := hshows.not_carries
    refine ⟨out, h, identified_of_render h, e, he, ?_, hnot⟩
    simpa [hdocumentation, Declaration.isDocumentedInitializer] using hdocumented
  | _ => cases hdocumented

end Graph

end ApiDocs
