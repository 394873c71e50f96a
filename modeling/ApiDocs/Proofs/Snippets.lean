import ApiDocs.Proofs.Declarations

/-!
# Snippets in the two outputs

The document has two kinds of code: snippets, tagged with the language of the render, and the
samples that authors wrote, which have no tag.  The record has the snippets as fields.

The main statement is that the tagged code of a document and the snippets of its record are the same
texts in the same order, and that they also agree section by section: the code that stands in an
identified section itself is the snippet of its record, if there is one.  All other code comes from
the samples in the documentation of what is shown.
-/

namespace ApiDocs

/-! ## The snippets of a record -/

/-- The snippets of a class: of its initializer, its methods and its functions. -/
def ClassRecord.snippets (r : ClassRecord) : List String :=
  r.initializer.toList.filterMap (·.snippet) ++ r.instanceMethods.filterMap (·.snippet) ++
    r.staticFunctions.filterMap (·.snippet)

/-- The snippet that fills a struct. -/
def StructRecord.snippets (r : StructRecord) : List String := r.initializer.snippet.toList

/-- The snippets of the methods of an interface. -/
def InterfaceRecord.snippets (r : InterfaceRecord) : List String :=
  r.instanceMethods.filterMap (·.snippet)

/-- The snippets of a reference: of its constructs, structs, classes and interfaces. -/
def ReferenceRecord.snippets (r : ReferenceRecord) : List String :=
  r.constructs.flatMap (·.snippets) ++ r.structs.flatMap (·.snippets) ++
    r.classes.flatMap (·.snippets) ++ r.interfaces.flatMap (·.snippets)

/-- The snippet that a record itself carries. -/
def EntityRecord.snippet? : EntityRecord → Option String
  | ofInitializer r => r.snippet
  | ofCallable r => r.snippet
  | _ => none

section

open EntityRecord (snippet?)

@[simp] lemma InitializerRecord.filterMap_snippet?_entities (r : InitializerRecord) :
    r.entities.filterMap snippet? = r.snippet.toList := by
  cases h : r.snippet <;> simp [entities, snippet?, h]

@[simp] lemma CallableRecord.filterMap_snippet?_entities (rs : List CallableRecord) :
    (rs.flatMap (·.entities)).filterMap snippet? = rs.filterMap (·.snippet) := by
  induction rs with
  | nil => rfl
  | cons r rest ih =>
    rw [List.flatMap_cons, List.filterMap_append, ih]
    cases h : r.snippet <;> simp [entities, snippet?, h]

lemma ClassRecord.snippets_eq_filterMap_entities (r : ClassRecord) :
    r.snippets = r.entities.filterMap snippet? := by
  have hinitializer : (r.initializer.toList.flatMap (·.entities)).filterMap snippet? =
      r.initializer.toList.filterMap (·.snippet) := by
    cases r.initializer with
    | none => rfl
    | some i => cases h : i.snippet <;> simp [h]
  simp [snippets, entities, List.filterMap_cons, snippet?, hinitializer]

lemma StructRecord.snippets_eq_filterMap_entities (r : StructRecord) :
    r.snippets = r.entities.filterMap snippet? := by
  simp [snippets, entities, List.filterMap_cons, snippet?]

lemma InterfaceRecord.snippets_eq_filterMap_entities (r : InterfaceRecord) :
    r.snippets = r.entities.filterMap snippet? := by
  simp [snippets, entities, List.filterMap_cons, snippet?]

lemma EnumRecord.filterMap_snippet?_entities (r : EnumRecord) :
    r.entities.filterMap snippet? = [] := by
  simp [entities, snippet?]

/-- The snippets of a reference are those of its entities, in their order. -/
lemma ReferenceRecord.snippets_eq_filterMap_entities (r : ReferenceRecord) :
    r.snippets = r.entities.filterMap snippet? := by
  simp [snippets, entities, List.filterMap_flatMap, ClassRecord.snippets_eq_filterMap_entities,
    StructRecord.snippets_eq_filterMap_entities, InterfaceRecord.snippets_eq_filterMap_entities,
    EnumRecord.filterMap_snippet?_entities]

end

/-! ## The code of an entity -/

@[simp] lemma filterMap_code?_labelled? (label : String) (content : Option String) :
    (labelled? label content).filterMap Block.code? = [] := by
  cases content <;> rfl

@[simp] lemma filterMap_code?_mark? (label : String) (holds : Bool) :
    (mark? label holds).filterMap Block.code? = [] := by
  cases holds <;> rfl

@[simp] lemma filterMap_code?_linkedBlocks (label : String) (types : List Linked) :
    (linkedBlocks label types).filterMap Block.code? = [] := by
  unfold linkedBlocks
  split <;> rfl

@[simp] lemma filterMap_code?_snippetBlocks (language : Language) (snippet : Option String) :
    (snippetBlocks language snippet).filterMap Block.code? =
      snippet.toList.map (language.name, ·) := by
  cases snippet <;> rfl

/-- Of documentation texts only the sample is code. -/
@[simp] lemma filterMap_code?_docsBlocks (docs : Docs) :
    (docsBlocks docs).filterMap Block.code? = docs.sample.toList.map ("", ·) := by
  have htext : (if docs.text.isEmpty then [] else [Block.text docs.text]).filterMap Block.code? =
      [] := by
    split <;> rfl
  have hsee : (docs.see.map fun see => Block.text ("> " ++ Inline.link see see)).toList.filterMap
      Block.code? = [] := by
    cases docs.see <;> rfl
  rw [docsBlocks, List.filterMap_append, filterMap_code?_labelled?, Docs.blocks,
    List.filterMap_append, List.filterMap_append, htext, hsee]
  cases docs.sample <;> rfl

/-- The code in the section of an entity itself: the snippet that its record carries, and the sample
in its documentation. -/
lemma Declaration.ShownBy.ownCodes {ctx : Context} {d : Declaration} {e : Entity}
    (h : ShownBy ctx d e) :
    e.toSection.ownCodes = e.toRecord.snippet?.toList.map (ctx.options.language.name, ·) ++
      d.docs.sample.toList.map ("", ·) := by
  rw [Section.ownCodes, e.leaves_toSection, h.docs_eq]
  cases h with
  | ofPopulation built =>
    rw [← built.language]
    simp [Entity.ownBlocks, Entity.docs, Entity.toRecord, EntityRecord.snippet?,
      StructEntry.toRecord]
  | ofInitializer built =>
    obtain ⟨parameters, -, rfl⟩ := InitializerEntry.eq_of_yields built
    simp [Entity.ownBlocks, Entity.docs, Entity.toRecord, EntityRecord.snippet?,
      InitializerEntry.toRecord]
  | ofCallable built =>
    obtain ⟨parameters, -, rfl⟩ := CallableEntry.eq_of_yields built
    simp [Entity.ownBlocks, Entity.docs, Entity.toRecord, EntityRecord.snippet?,
      CallableEntry.toRecord]
  | _ =>
    simp [Entity.ownBlocks, Entity.docs, Entity.toRecord, EntityRecord.snippet?, labelled,
      List.filterMap_cons, Block.code?]

/-! ## Tagged and untagged code -/

/-- The pieces of code with the tag of a language. -/
def codesIn (language : Language) (codes : List (String × String)) : List String :=
  (codes.filter fun code => code.1 = language.name).map (·.2)

/-- The pieces of code without the tag of a language. -/
def codesOutside (language : Language) (codes : List (String × String)) : List (String × String) :=
  codes.filter fun code => code.1 ≠ language.name

section

variable (language : Language)

lemma codesIn_flatMap (xs : List α) (f : α → List (String × String)) :
    codesIn language (xs.flatMap f) = xs.flatMap fun x => codesIn language (f x) := by
  rw [codesIn, List.filter_flatMap, List.map_flatMap]
  rfl

lemma codesOutside_flatMap (xs : List α) (f : α → List (String × String)) :
    codesOutside language (xs.flatMap f) = xs.flatMap fun x => codesOutside language (f x) :=
  List.filter_flatMap

lemma codesIn_snippet_sample (snippet sample : Option String) :
    codesIn language (snippet.toList.map (language.name, ·) ++ sample.toList.map ("", ·)) =
      snippet.toList := by
  cases snippet <;> cases sample <;> simp [codesIn, language.name_ne_empty.symm]

lemma codesOutside_snippet_sample (snippet sample : Option String) :
    codesOutside language (snippet.toList.map (language.name, ·) ++ sample.toList.map ("", ·)) =
      sample.toList.map ("", ·) := by
  cases snippet <;> cases sample <;> simp [codesOutside, language.name_ne_empty.symm]

end

/-! ## Renders -/

namespace Graph

variable {g : Graph} {o : Options} {out : Output}

/-- The code of a document is the code in the sections of its entities. -/
lemma codes_eq_flatMap_ownCodes (h : g.render o = .ok out) :
    out.document.codes = (g.entities o).flatMap fun e => e.toSection.ownCodes := by
  have hreadme : ((g.readmeBlocks o).map Part.leaf).filterMap Part.code? = [] := by
    unfold readmeBlocks
    split
    · cases g.readmeFor o.submodule <;> rfl
    · rfl
  rw [Section.codes_eq_filterMap_parts, parts_of_render h, List.filterMap_append, hreadme,
    List.nil_append, List.filterMap_flatMap]
  simp only [Entity.filterMap_code?_parts, Section.ownCodes, Entity.leaves_toSection]

/-- In the section of an entity itself, the tagged code is the snippet of the entity's record, and
the other code is the sample in its documentation. -/
lemma codes_of_mem_entities (h : g.render o = .ok out) {e : Entity} (he : e ∈ g.entities o) :
    codesIn o.language e.toSection.ownCodes = e.toRecord.snippet?.toList ∧
      codesOutside o.language e.toSection.ownCodes = e.docs.sample.toList.map ("", ·) := by
  obtain ⟨d, -, hshows⟩ := (shown_of_render h).exists_declaration he
  rw [hshows.ownCodes, ← hshows.docs_eq]
  exact ⟨codesIn_snippet_sample _ _ _, codesOutside_snippet_sample _ _ _⟩

/-- The tagged code of a document are the snippets of its record, in order.  Section by section,
the tagged code in a section itself is the snippet of the record with its identifier.  All other
code has no tag and is a sample from the documentation of a declaration that is shown. -/
theorem codes_of_render (h : g.render o = .ok out) :
    codesIn o.language out.document.codes = out.record.reference.snippets ∧
      List.Forall₂ (fun s r => s.id = some r.id ∧ codesIn o.language s.ownCodes = r.snippet?.toList)
        out.document.identified out.record.reference.entities ∧
      (codesOutside o.language out.document.codes).Perm
        (((g.declarations o).filterMap (·.docs.sample)).map ("", ·)) := by
  refine ⟨?_, ?_, ?_⟩
  · rw [codes_eq_flatMap_ownCodes h, codesIn_flatMap,
      ReferenceRecord.snippets_eq_filterMap_entities, recordEntities_of_render h,
      List.filterMap_map, List.filterMap_eq_flatMap_toList]
    exact List.flatMap_congr fun e he => (codes_of_mem_entities h he).1
  · rw [identified_of_render h, recordEntities_of_render h, List.forall₂_map_left_iff,
      List.forall₂_map_right_iff, List.forall₂_same]
    exact fun e he => ⟨e.id_toSection, (codes_of_mem_entities h he).1⟩
  · -- the samples come in the order of the entities, that of the declarations up to sorting
    have hsamples : codesOutside o.language out.document.codes =
        (((g.entities o).map (·.docs.sample)).filterMap id).map ("", ·) := by
      rw [codes_eq_flatMap_ownCodes h, codesOutside_flatMap, List.filterMap_map,
        List.filterMap_eq_flatMap_toList, List.map_flatMap]
      exact List.flatMap_congr fun e he => (codes_of_mem_entities h he).2
    have hperm : ((g.declarations o).map (·.docs.sample)).Perm
        ((g.entities o).map (·.docs.sample)) :=
      (shown_of_render h).map_perm fun d e hshows => by rw [hshows.docs_eq]
    rw [hsamples]
    simpa [List.filterMap_map] using ((hperm.filterMap id).map (("", ·))).symm

/-- The depot has three snippets, and one sample beside them. -/
theorem codes_of_render_depot :
    ∃ out, depot.render {} = .ok out ∧
      (codesIn .typeScript out.document.codes = out.record.reference.snippets ∧
        List.Forall₂
          (fun s r => s.id = some r.id ∧ codesIn .typeScript s.ownCodes = r.snippet?.toList)
          out.document.identified out.record.reference.entities ∧
        (codesOutside .typeScript out.document.codes).Perm
          (((depot.declarations {}).filterMap (·.docs.sample)).map ("", ·))) ∧
      out.record.reference.snippets.length = 3 ∧
      (depot.declarations {}).filterMap (·.docs.sample) = ["store.count()"] := by
  obtain ⟨out, h⟩ := exists_render_depot
  have hsnippets : (depot.render {}).toOption.map (·.record.reference.snippets.length) =
      some 3 := by
    decide +kernel
  rw [h] at hsnippets
  exact ⟨out, h, codes_of_render h, Option.some.inj hsnippets, by decide +kernel⟩

end Graph

end ApiDocs
