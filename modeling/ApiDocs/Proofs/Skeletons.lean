import ApiDocs.Proofs.Outcome

/-!
# What a document keeps in every language

The skeleton of a document is what is left when the texts that follow a convention are taken out of
it: the titles of identified sections, the texts of bullets, and the code in the language of the
document.  Sections keep their identifiers, their places and the way in which their titles are set;
groups keep their titles; paragraphs and samples stay as they are; and a bullet still stands where
it stood.

The entry of a thing looks different in each language, but the skeleton of its section does not
(`ReferenceEntry.bones_of`): nothing that decides about a section, its blocks or their order looks
at a name or a text that a convention has made.
-/

namespace ApiDocs

/-! ## Skeletons -/

/-- The header of a section without its title, if the section has an identifier. -/
def Header.skeleton (id : Option String) (h : Header) : Header :=
  if id.isSome then { h with title := "" } else h

mutual

/-- What a block keeps in every language. -/
def Block.skeleton (l : Language) : Block → List Block
  | .text content => [.text content]
  | .bullet _ => [.bullet ""]
  | .code language content => if language = l.name then [] else [.code language content]
  | .nested id header blocks =>
    [.nested id (header.map (Header.skeleton id)) (blocksSkeleton l blocks)]

/-- What a list of blocks keeps in every language. -/
def blocksSkeleton (l : Language) : List Block → List Block
  | [] => []
  | block :: rest => block.skeleton l ++ blocksSkeleton l rest

end

namespace Section

/-- What a section keeps in every language. -/
def skeleton (l : Language) (s : Section) : Section :=
  ⟨s.id, s.header.map (Header.skeleton s.id), blocksSkeleton l s.blocks⟩

/-- What a section that hangs in another one keeps in every language. -/
def bones (l : Language) (s : Section) : List Block := blocksSkeleton l s.asBlocks

end Section

section

variable (l : Language)

@[simp] lemma blocksSkeleton_nil : blocksSkeleton l [] = [] := rfl

@[simp] lemma blocksSkeleton_cons (b : Block) (rest : List Block) :
    blocksSkeleton l (b :: rest) = b.skeleton l ++ blocksSkeleton l rest := rfl

@[simp] lemma blocksSkeleton_append (xs ys : List Block) :
    blocksSkeleton l (xs ++ ys) = blocksSkeleton l xs ++ blocksSkeleton l ys := by
  induction xs with
  | nil => rfl
  | cons b rest ih => simp [ih]

@[simp] lemma blocksSkeleton_asBlocks (s : Section) : blocksSkeleton l s.asBlocks = s.bones l := rfl

@[simp] lemma blocksSkeleton_flatMap_asBlocks (xs : List α) (f : α → Section) :
    blocksSkeleton l (xs.flatMap fun x => (f x).asBlocks) = xs.flatMap fun x => (f x).bones l := by
  induction xs with
  | nil => rfl
  | cons x rest ih => simp [ih]

mutual

/-- The skeleton of a block has the identifiers of the block. -/
lemma identifiers_skeleton : (b : Block) → blocksIdentifiers (b.skeleton l) = b.identifiers
  | .text _ => rfl
  | .bullet _ => rfl
  | .code language content => by
    rw [Block.skeleton]
    split <;> rfl
  | .nested id header blocks => by
    rw [Block.skeleton, blocksIdentifiers, Block.identifiers, blocksIdentifiers_skeleton blocks]
    exact List.append_nil _

lemma blocksIdentifiers_skeleton : (blocks : List Block) →
    blocksIdentifiers (blocksSkeleton l blocks) = blocksIdentifiers blocks
  | [] => rfl
  | block :: rest => by
    rw [blocksSkeleton_cons, blocksIdentifiers_append, identifiers_skeleton block,
      blocksIdentifiers_skeleton rest, blocksIdentifiers]

end

/-- A document has the identifiers of its skeleton. -/
lemma Section.identifiers_skeleton (s : Section) :
    (s.skeleton l).identifiers = s.identifiers := by
  rw [identifiers, skeleton, blocksIdentifiers_skeleton, identifiers]

/-! ## The blocks that entries share -/

@[simp] lemma skeleton_labelled (label content : String) :
    (labelled label content).skeleton l = [.bullet ""] := rfl

@[simp] lemma blocksSkeleton_labelled? (label : String) (content : Option String) :
    blocksSkeleton l (labelled? label content) = (content.map fun _ => Block.bullet "").toList := by
  cases content <;> rfl

@[simp] lemma blocksSkeleton_mark? (label : String) (holds : Bool) :
    blocksSkeleton l (mark? label holds) = if holds then [.bullet ""] else [] := by
  cases holds <;> rfl

/-- Snippets are tagged with the language, so nothing is left of them. -/
@[simp] lemma blocksSkeleton_snippetBlocks (snippet : Option String) :
    blocksSkeleton l (snippetBlocks l snippet) = [] := by
  cases snippet <;> simp [snippetBlocks, Block.skeleton]

@[simp] lemma blocksSkeleton_linkedBlocks (label : String) (types : List Linked) :
    blocksSkeleton l (linkedBlocks label types) =
      if types.isEmpty then [] else [.bullet ""] := by
  unfold linkedBlocks
  split <;> rfl

/-- Paragraphs and samples stay as they are. -/
@[simp] lemma blocksSkeleton_docs_blocks (docs : Docs) :
    blocksSkeleton l docs.blocks = docs.blocks := by
  have htext : blocksSkeleton l (if docs.text.isEmpty then [] else [.text docs.text]) =
      if docs.text.isEmpty then [] else [.text docs.text] := by
    split <;> rfl
  have hsee : blocksSkeleton l (docs.see.map fun see =>
      Block.text ("> " ++ Inline.link see see)).toList =
        (docs.see.map fun see => Block.text ("> " ++ Inline.link see see)).toList := by
    cases docs.see <;> rfl
  rw [Docs.blocks, blocksSkeleton_append, blocksSkeleton_append, htext, hsee]
  -- a sample has no tag, which is not the name of a language
  cases docs.sample <;> simp [Block.skeleton, l.name_ne_empty.symm]

@[simp] lemma blocksSkeleton_docsBlocks (docs : Docs) :
    blocksSkeleton l (docsBlocks docs) =
      (docs.deprecated.map fun _ => Block.bullet "").toList ++ docs.blocks := by
  simp [docsBlocks]

@[simp] lemma bones_mk (id : Option String) (h : Header) (blocks : List Block) :
    (Section.mk id (some h) blocks).bones l =
      [.nested id (some (h.skeleton id)) (blocksSkeleton l blocks)] := by
  have hempty : ¬ (Section.mk id (some h) blocks).isEmpty = true := by simp [Section.isEmpty]
  rw [Section.bones, Section.asBlocks, if_neg hempty]
  rfl

@[simp] lemma bones_entitySection (title : String) (isCode : Bool) (id : String) (docs : Docs)
    (blocks : List Block) :
    (entitySection title isCode id docs blocks).bones l =
      [.nested (some id) (some ⟨"", isCode, docs.isDeprecated⟩) (blocksSkeleton l blocks)] := by
  rw [entitySection, bones_mk]
  rfl

/-- A group keeps its title and the skeletons of its members. -/
@[simp] lemma bones_group (title : String) (xs : List α) (f : α → Section) :
    (group title (xs.map f)).bones l =
      if xs.isEmpty then []
      else [.nested none (some { title }) (xs.flatMap fun x => (f x).bones l)] := by
  cases xs with
  | nil => rfl
  | cons x rest =>
    -- a group has no identifier, so its title stays
    rw [group, if_neg (by simp), bones_mk, List.flatMap_map, blocksSkeleton_flatMap_asBlocks,
      if_neg (by simp)]
    rfl

/-- Groups have the same skeleton if the skeletons of their members are the same. -/
lemma bones_group_congr {l' : Language} (title : String) {xs : List α} {f : α → Section}
    {ys : List β} {f' : β → Section}
    (h : (xs.map fun x => (f x).bones l) = ys.map fun y => (f' y).bones l') :
    (group title (xs.map f)).bones l = (group title (ys.map f')).bones l' := by
  have hempty : xs.isEmpty = ys.isEmpty := by simpa using congrArg List.isEmpty h
  have hmembers := congrArg List.flatten h
  rw [← List.flatMap_def, ← List.flatMap_def] at hmembers
  rw [bones_group, bones_group, hempty, hmembers]

end

/-! ## Another language

Lists are sorted by names of the graph, so what is sorted can be named after it is sorted. -/

/-- The options with another language. -/
def Options.inLanguage (o : Options) (l : Language) : Options := { o with language := l }

/-- The context with another language. -/
def Context.inLanguage (ctx : Context) (l : Language) : Context :=
  ⟨ctx.graph, ctx.options.inLanguage l⟩

section

variable (ctx : Context) (l : Language)

lemma CallableEntry.sorted_eq_map (fqn : String) (keep : Method → Bool) (methods : List Method) :
    sorted ctx fqn keep methods =
      (Name.sortOn Method.name (methods.filter keep)).map (of ctx fqn) :=
  Name.sortOn_map name (of ctx fqn) _

lemma PropertyEntry.sorted_eq_map (fqn : String) (keep : Property → Bool)
    (properties : List Property) :
    sorted ctx fqn keep properties =
      (Name.sortOn Property.name (properties.filter keep)).map (of ctx fqn) :=
  Name.sortOn_map name (of ctx fqn) _

lemma EnumMemberEntry.sortOn_map_of (fqn : String) (members : List EnumMember) :
    Name.sortOn name (members.map (of ctx fqn)) =
      (Name.sortOn EnumMember.name members).map (of ctx fqn) :=
  Name.sortOn_map name (of ctx fqn) members

/-! ### Members -/

lemma ParameterEntry.bones_of (callable : String) (p : Parameter) :
    (of ctx callable p).toSection.bones ctx.options.language =
      (of (ctx.inLanguage l) callable p).toSection.bones l := by
  simp [toSection, of]

lemma PropertyEntry.bones_of (fqn : String) (p : Property) :
    (of ctx fqn p).toSection.bones ctx.options.language =
      (of (ctx.inLanguage l) fqn p).toSection.bones l := by
  simp [toSection, of]

lemma EnumMemberEntry.bones_of (fqn : String) (m : EnumMember) :
    (of ctx fqn m).toSection.bones ctx.options.language =
      (of (ctx.inLanguage l) fqn m).toSection.bones l := by
  simp [toSection, of]

lemma InitializerEntry.bones_of (fqn : String) (i : Initializer) :
    (of ctx fqn i).toSection.bones ctx.options.language =
      (of (ctx.inLanguage l) fqn i).toSection.bones l := by
  have hlanguage : (ctx.inLanguage l).options.language = l := rfl
  simp [toSection, of, List.flatMap_map, ParameterEntry.bones_of ctx l, hlanguage]

lemma CallableEntry.bones_of (fqn : String) (m : Method) :
    (of ctx fqn m).toSection.bones ctx.options.language =
      (of (ctx.inLanguage l) fqn m).toSection.bones l := by
  have hlanguage : (ctx.inLanguage l).options.language = l := rfl
  simp [toSection, of, List.flatMap_map, ParameterEntry.bones_of ctx l, hlanguage,
    Function.comp_def]

/-! ### Types -/

lemma ClassEntry.bones_of (t : TypeDecl) (body : ClassBody) :
    (of ctx t body).toSection.bones ctx.options.language =
      (of (ctx.inLanguage l) t body).toSection.bones l := by
  have hinitializer : (body.shownInitializer?.map (InitializerEntry.of ctx t.fqn)).toList.flatMap
      (fun e => e.toSection.bones ctx.options.language) =
        (body.shownInitializer?.map (InitializerEntry.of (ctx.inLanguage l) t.fqn)).toList.flatMap
          fun e => e.toSection.bones l := by
    cases body.shownInitializer? <;> simp [InitializerEntry.bones_of ctx l]
  simp [toSection, of, PropertyEntry.properties, PropertyEntry.constants,
    CallableEntry.sorted_eq_map, PropertyEntry.sorted_eq_map, CallableEntry.bones_of ctx l,
    PropertyEntry.bones_of ctx l, hinitializer]

lemma StructEntry.bones_of (t : TypeDecl) (body : InterfaceBody) :
    (of ctx t body).toSection.bones ctx.options.language =
      (of (ctx.inLanguage l) t body).toSection.bones l := by
  have hlanguage : (ctx.inLanguage l).options.language = l := rfl
  simp [toSection, initializerSection, of, PropertyEntry.properties, PropertyEntry.sorted_eq_map,
    PropertyEntry.bones_of ctx l, hlanguage]

lemma InterfaceEntry.bones_of (t : TypeDecl) (body : InterfaceBody) :
    (of ctx t body).toSection.bones ctx.options.language =
      (of (ctx.inLanguage l) t body).toSection.bones l := by
  have himplementors : (implementors ctx t.fqn).isEmpty =
      (implementors (ctx.inLanguage l) t.fqn).isEmpty := by
    simp [implementors, Context.inLanguage]
  simp [toSection, of, PropertyEntry.properties, CallableEntry.sorted_eq_map,
    PropertyEntry.sorted_eq_map, CallableEntry.bones_of ctx l, PropertyEntry.bones_of ctx l,
    himplementors]

lemma EnumEntry.bones_of (t : TypeDecl) (body : EnumBody) :
    (of ctx t body).toSection.bones ctx.options.language =
      (of (ctx.inLanguage l) t body).toSection.bones l := by
  simp [toSection, of, EnumMemberEntry.sortOn_map_of, EnumMemberEntry.bones_of ctx l]

end

/-! ## References

A collection holds the entries of the same types, whatever the reader asks for. -/

namespace ReferenceEntry

/-- What the entries of all types have in common for two readers, those in a collection have. -/
lemma map_filterMap_congr {ctx ctx' : Context} {pick : TypeEntry → Option α} {f f' : α → β}
    (h : ∀ t, (pick (.of ctx t)).map f = (pick (.of ctx' t)).map f') (types : List TypeDecl) :
    ((of ctx types).types.filterMap pick).map f =
      ((of ctx' types).types.filterMap pick).map f' := by
  rw [of, of, List.map_filterMap, List.map_filterMap, List.filterMap_map, List.filterMap_map]
  exact List.filterMap_congr fun t _ => h t

/-- What is the same for two readers of a graph in the entries of each kind is so in the
collections. -/
lemma collections_congr {ctx ctx' : Context} (hgraph : ctx'.graph = ctx.graph)
    (ofClass : Context → ClassEntry → β) (ofStruct : Context → StructEntry → γ)
    (ofInterface : Context → InterfaceEntry → δ) (ofEnum : Context → EnumEntry → ε)
    (hclass : ∀ t body, ofClass ctx (.of ctx t body) = ofClass ctx' (.of ctx' t body))
    (hstruct : ∀ t body, ofStruct ctx (.of ctx t body) = ofStruct ctx' (.of ctx' t body))
    (hinterface : ∀ t body,
      ofInterface ctx (.of ctx t body) = ofInterface ctx' (.of ctx' t body))
    (henum : ∀ t body, ofEnum ctx (.of ctx t body) = ofEnum ctx' (.of ctx' t body))
    (types : List TypeDecl) :
    (of ctx types).constructs.map (ofClass ctx) = (of ctx' types).constructs.map (ofClass ctx') ∧
      (of ctx types).classes.map (ofClass ctx) = (of ctx' types).classes.map (ofClass ctx') ∧
      (of ctx types).structs.map (ofStruct ctx) = (of ctx' types).structs.map (ofStruct ctx') ∧
      (of ctx types).interfaces.map (ofInterface ctx) =
        (of ctx' types).interfaces.map (ofInterface ctx') ∧
      (of ctx types).enums.map (ofEnum ctx) = (of ctx' types).enums.map (ofEnum ctx') := by
  refine ⟨map_filterMap_congr (fun t => ?_) types, map_filterMap_congr (fun t => ?_) types,
    map_filterMap_congr (fun t => ?_) types, map_filterMap_congr (fun t => ?_) types,
    map_filterMap_congr (fun t => ?_) types⟩
  all_goals
    rw [TypeEntry.of, TypeEntry.of, hgraph]
    cases ctx.graph.category t <;> simp [hclass, hstruct, hinterface, henum]

lemma bones_of (ctx : Context) (l : Language) (types : List TypeDecl) :
    (of ctx types).toSection.bones ctx.options.language =
      (of (ctx.inLanguage l) types).toSection.bones l := by
  have hgraph : (ctx.inLanguage l).graph = ctx.graph := rfl
  obtain ⟨hconstructs, hclasses, hstructs, hinterfaces, henums⟩ :=
    collections_congr hgraph (fun ctx e => e.toSection.bones ctx.options.language)
      (fun ctx e => e.toSection.bones ctx.options.language)
      (fun ctx e => e.toSection.bones ctx.options.language)
      (fun ctx e => e.toSection.bones ctx.options.language) (ClassEntry.bones_of ctx l)
      (StructEntry.bones_of ctx l) (InterfaceEntry.bones_of ctx l) (EnumEntry.bones_of ctx l) types
  have htitle : (of ctx types).title = (of (ctx.inLanguage l) types).title := rfl
  simp only [toSection, bones_mk, blocksSkeleton_append, blocksSkeleton_asBlocks]
  rw [bones_group_congr _ _ hconstructs, bones_group_congr _ _ hstructs,
    bones_group_congr _ _ hclasses, bones_group_congr _ _ hinterfaces,
    bones_group_congr _ _ henums, htitle]
  rfl

end ReferenceEntry

/-! ## Documents -/

namespace Graph

variable (g : Graph) (o : Options) (l : Language)

/-- The readme is its own skeleton. -/
lemma blocksSkeleton_readmeBlocks : blocksSkeleton l (g.readmeBlocks o) = g.readmeBlocks o := by
  unfold readmeBlocks
  split
  · cases g.readmeFor o.submodule <;> rfl
  · rfl

/-- The document of a graph has the same skeleton in every language. -/
lemma skeleton_output :
    (g.output o).document.skeleton o.language =
      (g.output (o.inLanguage l)).document.skeleton l := by
  have hreadme : g.readmeBlocks (o.inLanguage l) = g.readmeBlocks o := rfl
  have hreference : (g.reference o).toSection.bones o.language =
      (g.reference (o.inLanguage l)).toSection.bones l :=
    ReferenceEntry.bones_of ⟨g, o⟩ l (g.selectedTypes o)
  simp only [output, Section.skeleton, blocksSkeleton_append, blocksSkeleton_asBlocks,
    blocksSkeleton_readmeBlocks, hreadme, hreference]

end Graph

end ApiDocs
