import ApiDocs.Proofs.Declarations

/-!
# Lines that name types

A document names types in the lines of properties, parameters and results, and in the lists of
interfaces and implementations.  A type that the assembly itself declares is linked there.

To speak about links, the lines are written again in a monad that notes every link on the way.
Written so, they are the lines of the document (`Declaration.ShownBy.lines_sublist`), and the notes
are the local ones among the names, from left to right (`Context.run_spellM_noteLink`).
-/

namespace ApiDocs

/-! ## Noting links -/

/-- Writing a line, with a note of each full name that is linked. -/
abbrev Noted := StateM (List String)

namespace Context

variable (ctx : Context)

/-- A named type as a line has it, noted if it is linked. -/
def noteLink (fqn : String) : Noted String := do
  let isLocal := ctx.graph.isLocal fqn
  if isLocal then modify (· ++ [fqn])
  return ctx.link (ctx.typeName fqn) isLocal

/-- A reference as a line has it, with its links noted. -/
def noteType (reference : TypeRef) : Noted String :=
  if reference.names.isEmpty then pure (Inline.code (ctx.displayType reference))
  else ctx.convention.spellM ctx.noteLink reference

/-- A line that lists types, where there are any, with its links noted. -/
def noteList (label : String) (names : List String) : Noted (List Block) := do
  let texts ← names.mapM ctx.noteLink
  return if texts.isEmpty then [] else [labelled label (", ".intercalate texts)]

/-! Written with notes, a line is the same, and the notes are its local names from left to right. -/

variable (noted : List String)

@[simp] lemma run_noteLink (fqn : String) :
    (ctx.noteLink fqn).run noted =
      (ctx.linkTo fqn, noted ++ [fqn].filter ctx.graph.isLocal) := by
  cases h : ctx.graph.isLocal fqn <;> simp [noteLink, linkTo, h] <;> rfl

mutual

lemma run_spellM_noteLink : (reference : TypeRef) → (noted : List String) →
    (ctx.convention.spellM ctx.noteLink reference).run noted =
      (ctx.linkedType ctx.link reference, noted ++ reference.names.filter ctx.graph.isLocal)
  | .primitive _, noted => by simp [Convention.spellM, linkedType, TypeRef.names]; rfl
  | .named fqn, noted => run_noteLink ctx noted fqn
  | .array element, noted => by
    simp [Convention.spellM, run_spellM_noteLink element, linkedType, TypeRef.names]
    rfl
  | .map value, noted => by
    simp [Convention.spellM, run_spellM_noteLink value, linkedType, TypeRef.names]
    rfl
  | .union options, noted => by
    simp [Convention.spellM, run_spellOptionsM_noteLink options, linkedType, TypeRef.names]
    rfl

lemma run_spellOptionsM_noteLink : (options : List TypeRef) → (noted : List String) →
    (ctx.convention.spellOptionsM ctx.noteLink options).run noted =
      (options.map (ctx.linkedType ctx.link),
        noted ++ (TypeRef.optionNames options).filter ctx.graph.isLocal)
  | [], noted => by simp [Convention.spellOptionsM, TypeRef.optionNames]; rfl
  | option :: rest, noted => by
    simp [Convention.spellOptionsM, run_spellM_noteLink option, run_spellOptionsM_noteLink rest,
      TypeRef.optionNames]
    rw [← List.append_assoc]
    rfl

end

@[simp] lemma run_noteType (reference : TypeRef) :
    (ctx.noteType reference).run noted =
      (ctx.typeText reference, noted ++ reference.names.filter ctx.graph.isLocal) := by
  unfold noteType typeText
  split
  · next h => simp [List.isEmpty_iff.1 h]; rfl
  · exact run_spellM_noteLink ctx reference noted

lemma run_mapM_noteLink (names : List String) :
    (names.mapM ctx.noteLink).run noted =
      (names.map ctx.linkTo, noted ++ names.filter ctx.graph.isLocal) := by
  induction names generalizing noted with
  | nil => simp; rfl
  | cons fqn rest ih =>
    rw [List.mapM_cons, ← List.singleton_append, List.filter_append]
    simp [ih]
    rw [← List.append_assoc]
    rfl

@[simp] lemma run_noteList (label : String) (names : List String) :
    (ctx.noteList label names).run noted =
      (linkedBlocks label (names.map ctx.linked), noted ++ names.filter ctx.graph.isLocal) := by
  have htexts : (names.map ctx.linked).map (·.text) = names.map ctx.linkTo := by
    simp [linked, Function.comp_def]
  rw [noteList, StateT.run_bind, run_mapM_noteLink, linkedBlocks, htexts]
  cases names <;> rfl

end Context

/-! ## The links of a declaration -/

namespace Declaration

/-- The lines that name types in the section of a declaration, with their links noted. -/
def namingLines (ctx : Context) : Declaration → Noted (List Block)
  | ofType t =>
    match t.body with
    | .ofClass body => ctx.noteList "Implements:" body.interfaces
    | .ofInterface body =>
      if body.isDatatype then pure []
      else do
        let extended ← ctx.noteList "Extends:" body.interfaces
        let implementors ← ctx.noteList "Implemented By:"
          ((Name.sortOn TypeDecl.name (ctx.graph.implementationsOf t.fqn)).map (·.fqn))
        return extended ++ implementors
    | .ofEnum _ => pure []
  | ofMethod _ m =>
    match m.returns with
    | some type => do return [labelled "Returns:" (← ctx.noteType type)]
    | none => pure []
  | ofProperty _ p => do return [labelled "Type:" (← ctx.noteType p.type)]
  | ofParameter _ p => do return [labelled "Type:" (← ctx.noteType p.type)]
  | ofPopulation _ => pure []
  | ofInitializer _ _ => pure []
  | ofEnumMember _ _ => pure []

/-- The lines that name types in the section of a declaration. -/
def lines (ctx : Context) (d : Declaration) : List Block := ((d.namingLines ctx).run []).1

/-- The full names that the section of a declaration links. -/
def links (ctx : Context) (d : Declaration) : List String := ((d.namingLines ctx).run []).2

section

variable {ctx : Context} {t : TypeDecl}

lemma run_namingLines_ofClass {body : ClassBody} (hbody : t.body = .ofClass body) :
    ((ofType t).namingLines ctx).run [] =
      (linkedBlocks "Implements:" (body.interfaces.map ctx.linked),
        body.interfaces.filter ctx.graph.isLocal) := by
  simp [namingLines, hbody]

lemma run_namingLines_ofStruct {body : InterfaceBody} (hbody : t.body = .ofInterface body)
    (hdatatype : body.isDatatype = true) : ((ofType t).namingLines ctx).run [] = ([], []) := by
  simp only [namingLines, hbody, hdatatype]
  rfl

lemma run_namingLines_ofInterface {body : InterfaceBody} (hbody : t.body = .ofInterface body)
    (hdatatype : body.isDatatype = false) :
    ((ofType t).namingLines ctx).run [] =
      (linkedBlocks "Extends:" (body.interfaces.map ctx.linked) ++
          linkedBlocks "Implemented By:" (InterfaceEntry.implementors ctx t.fqn),
        body.interfaces.filter ctx.graph.isLocal ++
          ((Name.sortOn TypeDecl.name (ctx.graph.implementationsOf t.fqn)).map
            (·.fqn)).filter ctx.graph.isLocal) := by
  have himplementors : InterfaceEntry.implementors ctx t.fqn =
      ((Name.sortOn TypeDecl.name (ctx.graph.implementationsOf t.fqn)).map (·.fqn)).map
        ctx.linked := by
    rw [InterfaceEntry.implementors, List.map_map]
    rfl
  simp only [namingLines, hbody, hdatatype, himplementors, Bool.false_eq_true, if_false,
    StateT.run_bind, Context.run_noteList]
  rfl

lemma run_namingLines_ofEnum {body : EnumBody} (hbody : t.body = .ofEnum body) :
    ((ofType t).namingLines ctx).run [] = ([], []) := by
  simp only [namingLines, hbody]
  rfl

lemma run_namingLines_ofMethod (m : Method) :
    ((ofMethod t m).namingLines ctx).run [] =
      (labelled? "Returns:" (m.returns.map ctx.typeText),
        m.returns.toList.flatMap fun type => type.names.filter ctx.graph.isLocal) := by
  cases hreturns : m.returns with
  | none =>
    simp only [namingLines, hreturns]
    rfl
  | some type =>
    simp only [namingLines, hreturns, StateT.run_bind, Context.run_noteType]
    simp [labelled?]
    rfl

lemma run_namingLines_ofProperty (p : Property) :
    ((ofProperty t p).namingLines ctx).run [] =
      ([labelled "Type:" (ctx.typeText p.type)], p.type.names.filter ctx.graph.isLocal) := by
  simp only [namingLines, StateT.run_bind, Context.run_noteType]
  rfl

lemma run_namingLines_ofParameter (callable : String) (p : Parameter) :
    ((ofParameter callable p).namingLines ctx).run [] =
      ([labelled "Type:" (ctx.typeText p.type)], p.type.names.filter ctx.graph.isLocal) := by
  simp only [namingLines, StateT.run_bind, Context.run_noteType]
  rfl

end

/-- Only types that the assembly itself declares are linked. -/
lemma isLocal_of_mem_links {ctx : Context} {d : Declaration} {fqn : String}
    (h : fqn ∈ d.links ctx) : ctx.graph.isLocal fqn = true := by
  unfold links at h
  cases d with
  | ofType t =>
    cases hbody : t.body with
    | ofClass body =>
      rw [run_namingLines_ofClass hbody] at h
      exact List.of_mem_filter h
    | ofInterface body =>
      cases hdatatype : body.isDatatype with
      | true =>
        rw [run_namingLines_ofStruct hbody hdatatype] at h
        cases h
      | false =>
        rw [run_namingLines_ofInterface hbody hdatatype] at h
        rcases List.mem_append.1 h with h | h
        · exact List.of_mem_filter h
        · exact List.of_mem_filter h
    | ofEnum body =>
      rw [run_namingLines_ofEnum hbody] at h
      cases h
  | ofMethod t m =>
    rw [run_namingLines_ofMethod] at h
    obtain ⟨type, -, h⟩ := List.mem_flatMap.1 h
    exact List.of_mem_filter h
  | ofProperty t p =>
    rw [run_namingLines_ofProperty] at h
    exact List.of_mem_filter h
  | ofParameter callable p =>
    rw [run_namingLines_ofParameter] at h
    exact List.of_mem_filter h
  | ofPopulation t => cases h
  | ofInitializer t i => cases h
  | ofEnumMember t m => cases h

/-- The lines are those of the section of an entity that shows the declaration. -/
lemma ShownBy.lines_sublist {ctx : Context} {d : Declaration} {e : Entity}
    (h : ShownBy ctx d e) : (d.lines ctx).Sublist e.toSection.leaves := by
  rw [e.leaves_toSection, lines]
  cases h with
  | ofClass isClass built =>
    rw [run_namingLines_ofClass isClass, Entity.ownBlocks, built.interfaces]
    exact List.sublist_append_left _ _
  | ofStruct isInterface isDatatype built =>
    rw [run_namingLines_ofStruct isInterface isDatatype]
    exact List.nil_sublist _
  | ofInterface isInterface isDatatype built =>
    rw [run_namingLines_ofInterface isInterface isDatatype, Entity.ownBlocks, built.interfaces,
      built.implementations]
    exact List.sublist_append_left _ _
  | ofEnum isEnum =>
    rw [run_namingLines_ofEnum isEnum]
    exact List.nil_sublist _
  | ofCallable built =>
    obtain ⟨parameters, -, rfl⟩ := CallableEntry.eq_of_yields built
    rw [run_namingLines_ofMethod, Entity.ownBlocks, Option.map_map]
    exact (List.sublist_append_right _ _).trans (List.sublist_append_left _ _)
  | ofProperty t p =>
    rw [run_namingLines_ofProperty, Entity.ownBlocks]
    exact (List.nil_sublist _).cons_cons _
  | ofParameter callable p =>
    rw [run_namingLines_ofParameter, Entity.ownBlocks]
    exact (List.nil_sublist _).cons_cons _
  | ofPopulation => exact List.nil_sublist _
  | ofInitializer => exact List.nil_sublist _
  | ofEnumMember => exact List.nil_sublist _

end Declaration

end ApiDocs
