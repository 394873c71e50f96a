import ApiDocs.Proofs.Lists
import ApiDocs.Proofs.MemberLists
import ApiDocs.Proofs.Presentation

/-!
# The headings of a document

How deep a heading stands follows from the titled sections around it, and the text has no more than
six levels.  A document uses all six: reference, collection, type, group of members, member,
parameter.  One more title anywhere above a parameter would give it the level of its callable.

`Graph.headings` says which headings a document has and at which levels, without building it.  That
a document has these headings is shown from the parameters upwards: what hangs in a section stands
one level below it, so the headings of an entity follow from those of its children.
-/

namespace ApiDocs

/-! ## Headings -/

/-- A heading: its level, the identifier of its section, and the title where there is none. -/
structure Heading where
  level : Nat
  id : Option String
  title : Option String
  deriving DecidableEq

/-- The heading of a section at a level, if the section has a title. -/
def Heading.of? (p : Nat × Section) : Option Heading :=
  p.2.header.map fun header =>
    ⟨p.1, p.2.id, if p.2.id.isSome then none else some header.title⟩

/-- The headings of a section that stands at a level, and of all sections in it. -/
def Section.headingsAt (level : Nat) (s : Section) : List Heading :=
  (s.leveledAt level).filterMap Heading.of?

/-- The heading of a member or initializer, and those of its parameters. -/
def Declaration.headings (level : Nat) (d : Declaration) : List Heading :=
  ⟨level, some d.id, none⟩ ::
    d.parameters.map fun p => ⟨level + 1, some (Name.parameterId d.id p.name), none⟩

/-- Headings under a title of their own, if there are any. -/
def groupHeadings (level : Nat) (title : String) (inner : List Heading) : List Heading :=
  if inner.isEmpty then [] else ⟨level, none, some title⟩ :: inner

/-- The headings of a type: its own, those of its initializer, and a group for each list of members,
in the order of their names. -/
def TypeDecl.headings (t : TypeDecl) : List Heading :=
  ⟨3, some t.fqn, none⟩ ::
    (t.initializers.flatMap (Declaration.headings 4) ++
      MemberList.all.flatMap fun l => groupHeadings 4 l.title
        ((Name.sortOn Declaration.name (t.declared l)).flatMap (Declaration.headings 5)))

/-- The headings of a document: that of the reference, and a group for each collection of types, in
the order of their names. -/
def Graph.headings (g : Graph) (o : Options) : List Heading :=
  ⟨1, none, some o.title⟩ ::
    Collection.documentOrder.flatMap fun c => groupHeadings 2 c.title
      (((Name.sortOn TypeDecl.name (g.selectedTypes o)).filter fun t => g.collection t = c).flatMap
        TypeDecl.headings)

/-! ## Headings of sections -/

namespace Section

lemma headingsAt_of_header {level : Nat} {s : Section} {header : Header}
    (h : s.header = some header) :
    s.headingsAt level =
      ⟨level, s.id, if s.id.isSome then none else some header.title⟩ ::
        s.children.flatMap (headingsAt (level + 1)) := by
  have hlevel : innerLevel level s.header = level + 1 := by
    rw [innerLevel, h]
    rfl
  rw [headingsAt, leveledAt_eq, List.filterMap_cons_some (by rw [Heading.of?, h]; rfl), hlevel,
    List.filterMap_flatMap]
  rfl

lemma headingsAt_ne_nil {level : Nat} {s : Section} (h : s.header.isSome = true) :
    s.headingsAt level ≠ [] := by
  obtain ⟨header, hheader⟩ := Option.isSome_iff_exists.1 h
  rw [headingsAt_of_header hheader]
  exact List.cons_ne_nil _ _

/-- A group has a heading of its own unless it holds nothing. -/
lemma flatMap_headingsAt_group (level : Nat) (title : String) {sections : List Section}
    (hid : ∀ s ∈ sections, s.id.isSome = true) (hheader : ∀ s ∈ sections, s.header.isSome = true) :
    (blocksSections (group title sections).asBlocks).flatMap (headingsAt level) =
      groupHeadings level title (sections.flatMap (headingsAt (level + 1))) := by
  rw [blocksSections_group]
  rcases sections with _ | ⟨s, rest⟩
  · rfl
  · have hne : (s :: rest).flatMap (headingsAt (level + 1)) ≠ [] := by
      rw [List.flatMap_cons]
      exact List.append_ne_nil_of_left_ne_nil (headingsAt_ne_nil (hheader s (by simp))) _
    rw [if_neg (by simp), groupHeadings, if_neg (by simpa using hne), List.flatMap_singleton,
      headingsAt_of_header rfl, children, blocksSections_flatMap_asBlocks hid]
    rfl

end Section

namespace Entity

lemma isSome_header_toSection (e : Entity) : e.toSection.header.isSome = true := by
  cases e <;> rfl

lemma isSome_header_of_mem_map {es : List Entity} {s : Section} (h : s ∈ es.map toSection) :
    s.header.isSome = true := by
  obtain ⟨e, -, rfl⟩ := List.mem_map.1 h
  exact e.isSome_header_toSection

/-- The headings of an entity follow from those of its children. -/
lemma headingsAt_toSection (level : Nat) (e : Entity) :
    e.toSection.headingsAt level =
      ⟨level, some e.toRecord.id, none⟩ ::
        e.toSection.children.flatMap (Section.headingsAt (level + 1)) := by
  obtain ⟨header, hheader⟩ := Option.isSome_iff_exists.1 e.isSome_header_toSection
  rw [Section.headingsAt_of_header hheader, id_toSection]
  rfl

/-- Where each entity has the headings of what it shows, the list of them has these one after the
other. -/
lemma flatMap_headingsAt_of_forall₂ {R : α → Entity → Prop} {headings : α → List Heading}
    {xs : List α} {es : List Entity} {level : Nat} (h : List.Forall₂ R xs es)
    (hheadings : ∀ x e, R x e → e.toSection.headingsAt level = headings x) :
    (es.map toSection).flatMap (Section.headingsAt level) = xs.flatMap headings := by
  induction h with
  | nil => rfl
  | cons hx _ ih => rw [List.map_cons, List.flatMap_cons, List.flatMap_cons, hheadings _ _ hx, ih]

end Entity

/-! ## Headings of what is declared -/

section

variable {ctx : Context} {t : TypeDecl}

lemma Declaration.ShownBy.children_parameter {callable : String} {p : Parameter} {e : Entity}
    (h : ShownBy ctx (.ofParameter callable p) e) : e.toSection.children = [] := by
  cases h
  exact Entity.children_toSection_of_member rfl fun _ => rfl

lemma Declaration.ShownBy.headingsAt_parameter {callable : String} {p : Parameter} {e : Entity}
    (h : ShownBy ctx (.ofParameter callable p) e) (level : Nat) :
    e.toSection.headingsAt level = [⟨level, some (Name.parameterId callable p.name), none⟩] := by
  rw [Entity.headingsAt_toSection, h.children_parameter, ← h.id_eq]
  rfl

lemma Declaration.ShownInFull.headingsAt {d : Declaration} {e : Entity} (h : ShownInFull ctx d e)
    (level : Nat) : e.toSection.headingsAt level = d.headings level := by
  obtain ⟨parameters, hparameters, -, hchildren⟩ := h.parameters
  rw [List.forall₂_map_left_iff] at hparameters
  rw [Entity.headingsAt_toSection, hchildren,
    Entity.flatMap_headingsAt_of_forall₂ hparameters fun p e hp => hp.headingsAt_parameter _,
    headings, h.shown.id_eq, List.map_eq_flatMap]

/-- A type has the headings that its declarations call for. -/
lemma Declaration.ShownBy.headingsAt {e : Entity} (h : ShownBy ctx (.ofType t) e) :
    e.toSection.headingsAt 3 = t.headings := by
  have hid : t.fqn = e.toRecord.id := h.id_eq
  have hlist (l : MemberList) :
      (blocksSections (e.listGroup l).asBlocks).flatMap (Section.headingsAt 4) =
        groupHeadings 4 l.title
          ((Name.sortOn Declaration.name (t.declared l)).flatMap (Declaration.headings 5)) := by
    rw [Entity.listGroup, Section.flatMap_headingsAt_group 4 l.title
      (fun s => Entity.isSome_id_of_mem_map) (fun s => Entity.isSome_header_of_mem_map),
      Entity.flatMap_headingsAt_of_forall₂ (h.forall₂_memberList l) fun d e hd => hd.headingsAt 5]
  rw [Entity.headingsAt_toSection, Entity.children_toSection, h.parameters_eq_nil, List.nil_append,
    List.flatMap_append,
    Entity.flatMap_headingsAt_of_forall₂ h.forall₂_initializers fun d e hd => hd.headingsAt 4,
    List.flatMap_assoc, TypeDecl.headings, hid]
  simp only [hlist]

end

/-! ## Levels within the cap -/

lemma Declaration.level_le_of_mem_headings {level : Nat} {d : Declaration} {x : Heading}
    (h : x ∈ d.headings level) : x.level ≤ level + 1 := by
  rcases List.mem_cons.1 h with rfl | h
  · exact Nat.le_succ level
  · obtain ⟨p, -, rfl⟩ := List.mem_map.1 h
    exact le_rfl

lemma mem_of_mem_groupHeadings {level : Nat} {title : String} {inner : List Heading} {x : Heading}
    (h : x ∈ groupHeadings level title inner) : x.level = level ∨ x ∈ inner := by
  unfold groupHeadings at h
  split at h
  · cases h
  · exact (List.mem_cons.1 h).imp (congrArg Heading.level) id

lemma TypeDecl.level_le_of_mem_headings {t : TypeDecl} {x : Heading} (h : x ∈ t.headings) :
    x.level ≤ 6 := by
  rcases List.mem_cons.1 h with rfl | h
  · show 3 ≤ 6
    omega
  rcases List.mem_append.1 h with h | h
  · obtain ⟨d, -, hd⟩ := List.mem_flatMap.1 h
    have := Declaration.level_le_of_mem_headings hd
    omega
  · obtain ⟨l, -, hl⟩ := List.mem_flatMap.1 h
    rcases mem_of_mem_groupHeadings hl with hlevel | hl
    · omega
    · obtain ⟨d, -, hd⟩ := List.mem_flatMap.1 hl
      exact Declaration.level_le_of_mem_headings hd

lemma Graph.level_le_of_mem_headings {g : Graph} {o : Options} {x : Heading}
    (h : x ∈ g.headings o) : x.level ≤ 6 := by
  rcases List.mem_cons.1 h with rfl | h
  · show 1 ≤ 6
    omega
  · obtain ⟨c, -, hc⟩ := List.mem_flatMap.1 h
    rcases mem_of_mem_groupHeadings hc with hlevel | hc
    · omega
    · obtain ⟨t, -, ht⟩ := List.mem_flatMap.1 hc
      exact TypeDecl.level_le_of_mem_headings ht

/-- Within the cap, different levels have different marks. -/
lemma headerMarks_ne {level level' : Nat} (h : level < level') (h' : level' ≤ 6) :
    headerMarks level ≠ headerMarks level' := by
  intro heq
  have hlength := congrArg (fun s : String => s.toList.length) heq
  simp only [headerMarks, String.toList_ofList, List.length_replicate] at hlength
  omega

/-! ## Sections that group others -/

namespace Section

/-- A section has a title.  If it has no identifier, there are sections in it, and these have
identifiers. -/
def IsRegular (s : Section) : Prop :=
  s.header.isSome = true ∧
    (s.id.isSome = true ∨ s.children ≠ [] ∧ ∀ child ∈ s.children, child.id.isSome = true)

/-- A section and all sections in it are regular. -/
def AllRegular (s : Section) : Prop := ∀ level, ∀ p ∈ s.leveledAt level, p.2.IsRegular

lemma AllRegular.intro {s : Section} (h : s.IsRegular)
    (hchildren : ∀ child ∈ s.children, child.AllRegular) : s.AllRegular := by
  intro level p hp
  rw [leveledAt_eq] at hp
  rcases List.mem_cons.1 hp with rfl | hp
  · exact h
  · obtain ⟨child, hchild, hp⟩ := List.mem_flatMap.1 hp
    exact hchildren child hchild _ p hp

/-- A group that is not left out is regular. -/
lemma allRegular_of_group {title : String} {sections : List Section}
    (hid : ∀ s ∈ sections, s.id.isSome = true) (hsections : ∀ s ∈ sections, s.AllRegular)
    {s : Section} (hs : s ∈ blocksSections (group title sections).asBlocks) : s.AllRegular := by
  rw [blocksSections_group] at hs
  by_cases hempty : sections.isEmpty = true
  · rw [if_pos hempty] at hs
    cases hs
  · rw [if_neg hempty, List.mem_singleton] at hs
    have hchildren : s.children = sections := by
      rw [hs, children]
      exact blocksSections_flatMap_asBlocks hid
    refine .intro ⟨by rw [hs]; rfl, .inr ?_⟩ ?_
    · rw [hchildren]
      exact ⟨fun hnil => hempty (List.isEmpty_iff.2 hnil), hid⟩
    · rw [hchildren]
      exact hsections

end Section

lemma Entity.isRegular_toSection (e : Entity) : e.toSection.IsRegular :=
  ⟨e.isSome_header_toSection, .inl e.isSome_id_toSection⟩

section

variable {ctx : Context} {t : TypeDecl}

lemma Declaration.ShownBy.allRegular_parameter {callable : String} {p : Parameter} {e : Entity}
    (h : ShownBy ctx (.ofParameter callable p) e) : e.toSection.AllRegular := by
  refine .intro e.isRegular_toSection ?_
  rw [h.children_parameter]
  exact List.forall_mem_nil _

lemma Declaration.ShownInFull.allRegular {d : Declaration} {e : Entity}
    (h : ShownInFull ctx d e) : e.toSection.AllRegular := by
  obtain ⟨parameters, hparameters, -, hchildren⟩ := h.parameters
  rw [List.forall₂_map_left_iff] at hparameters
  refine .intro e.isRegular_toSection ?_
  rw [hchildren, List.forall_mem_map]
  exact forall_mem_right_of_forall₂ hparameters fun p e hp => hp.allRegular_parameter

lemma Declaration.ShownBy.allRegular {e : Entity} (h : ShownBy ctx (.ofType t) e) :
    e.toSection.AllRegular := by
  refine .intro e.isRegular_toSection ?_
  rw [Entity.children_toSection, h.parameters_eq_nil, List.nil_append, List.forall_mem_append]
  constructor
  · rw [List.forall_mem_map]
    exact forall_mem_right_of_forall₂ h.forall₂_initializers fun d e hd => hd.allRegular
  · intro s hs
    obtain ⟨l, -, hs⟩ := List.mem_flatMap.1 hs
    have hmembers : ∀ s ∈ (e.memberList l).map Entity.toSection, s.AllRegular := by
      rw [List.forall_mem_map]
      exact forall_mem_right_of_forall₂ (h.forall₂_memberList l) fun d e hd => hd.allRegular
    exact Section.allRegular_of_group (fun s => Entity.isSome_id_of_mem_map) hmembers hs

end

/-! ## Renders -/

namespace Graph

variable {g : Graph} {o : Options} {out : Output}

lemma headingsAt_reference (h : g.render o = .ok out) :
    (g.reference o).toSection.headingsAt 1 = g.headings o := by
  have hcollection (c : Collection) :
      (blocksSections ((g.reference o).collectionGroup c).asBlocks).flatMap
        (Section.headingsAt 2) = groupHeadings 2 c.title
          (((Name.sortOn TypeDecl.name (g.selectedTypes o)).filter
            fun t => g.collection t = c).flatMap TypeDecl.headings) := by
    rw [ReferenceEntry.collectionGroup, Section.flatMap_headingsAt_group 2 c.title
      (fun s => Entity.isSome_id_of_mem_map) (fun s => Entity.isSome_header_of_mem_map),
      Entity.flatMap_headingsAt_of_forall₂ (forall₂_typesIn h c) fun t e ht => ht.headingsAt]
  rw [Section.headingsAt_of_header rfl, ReferenceEntry.children_toSection, List.flatMap_assoc,
    headings]
  simp only [hcollection]
  rfl

lemma allRegular_of_mem_reference (h : g.render o = .ok out) :
    ∀ s ∈ (g.reference o).toSection.children, s.AllRegular := by
  intro s hs
  rw [ReferenceEntry.children_toSection] at hs
  obtain ⟨c, -, hs⟩ := List.mem_flatMap.1 hs
  have htypes : ∀ s ∈ ((g.reference o).typesIn c).map Entity.toSection, s.AllRegular := by
    rw [List.forall_mem_map]
    exact forall_mem_right_of_forall₂ (forall₂_typesIn h c) fun t e ht => ht.allRegular
  exact Section.allRegular_of_group (fun s => Entity.isSome_id_of_mem_map) htypes hs

/-- A document has something to be seen in its text: the heading of the reference. -/
lemma exists_visible_of_render (h : g.render o = .ok out) :
    ∃ c ∈ (out.document.writtenAt 1).toList, Text.isBlank c = false := by
  obtain ⟨-, rfl⟩ := render_eq_ok_iff.1 h
  obtain ⟨c, hc, hvisible⟩ := (g.reference o).exists_visible
  refine ⟨c, ?_, hvisible⟩
  show c ∈ (openingLines 1 none none ++
    blocksWritten 1 (g.readmeBlocks o ++ (g.reference o).toSection.asBlocks)).toList
  rw [String.toList_append, List.mem_append]
  right
  unfold readmeBlocks
  by_cases hshows : o.showsReadme = true
  · rw [if_pos hshows]
    cases g.readmeFor o.submodule with
    | none => exact hc
    | some readme =>
      show c ∈ (Block.written 1 _ _ ++ blocksWritten 1 _).toList
      rw [String.toList_append, List.mem_append]
      exact .inr hc
  · rw [if_neg hshows]
    exact hc

/-- A text that has something to be seen ends in one line break behind it. -/
lemma exists_toText_eq {s : Section} (h : ∃ c ∈ (s.writtenAt 1).toList, Text.isBlank c = false) :
    ∃ front c, s.toText.toList = front ++ [c, '\n'] ∧ Text.isBlank c = false := by
  obtain ⟨c, hc, hvisible⟩ := h
  generalize htrimmed : (s.writtenAt 1).toList.rdropWhile Text.isBlank = trimmed
  have hne : trimmed ≠ [] := by
    rw [← htrimmed, Ne, List.rdropWhile_eq_nil_iff]
    intro hall
    rw [hall c hc] at hvisible
    cases hvisible
  have hlast : Text.isBlank (trimmed.getLast hne) = false := by
    subst htrimmed
    exact Bool.eq_false_iff.2 (List.rdropWhile_last_not Text.isBlank _ hne)
  refine ⟨trimmed.dropLast, trimmed.getLast hne, ?_, hlast⟩
  calc s.toText.toList = trimmed ++ ['\n'] := by
        rw [Section.toText, String.toList_append, Text.toList_trimEnd, htrimmed]
        rfl
    _ = trimmed.dropLast ++ [trimmed.getLast hne] ++ ['\n'] := by
        rw [List.dropLast_append_getLast hne]
    _ = trimmed.dropLast ++ [trimmed.getLast hne, '\n'] := List.append_assoc _ _ _

/-- A rendered document has the headings that `Graph.headings` lists: the reference at level one,
its collections at level two, types at level three, initializers and groups of members at level
four, members and the parameters of initializers at level five, and the parameters of methods at
level six.  The text is what the passages write, and they open the sections at these levels.  Six
levels are enough, so a section never has the marks of a heading directly above it.  But for the
reference, every section has an identifier or holds sections that have one.  The text ends in one
line break, with something to be seen before it. -/
theorem headings_of_render (h : g.render o = .ok out) :
    ∃ reference, out.document.children = [reference] ∧
      reference.header = some { title := o.title } ∧ reference.id = none ∧
      out.document.passages.filterMap Passage.opening? =
        (out.document.leveledAt 1).map (fun p => (p.1, p.2.header, p.2.id)) ∧
      out.documentText.toList =
        (out.document.passages.flatMap Passage.chars).rdropWhile Text.isBlank ++ ['\n'] ∧
      out.document.headingsAt 1 = g.headings o ∧
      (∀ p ∈ out.document.leveledAt 1, p.2.header.isSome = true →
        ∀ child ∈ p.2.children, child.header.isSome = true →
          (p.1 + 1, child) ∈ out.document.leveledAt 1 ∧ headerMarks p.1 ≠ headerMarks (p.1 + 1)) ∧
      (∀ p ∈ out.document.leveledAt 1,
        p = (1, out.document) ∧ out.document.header = none ∧ out.document.id = none ∨
          p = (1, reference) ∨ p.2.IsRegular) ∧
      ∃ front c, out.documentText.toList = front ++ [c, '\n'] ∧ Text.isBlank c = false := by
  have hvisible := exists_visible_of_render h
  obtain ⟨-, hout⟩ := render_eq_ok_iff.1 h
  have hchildren : out.document.children = [(g.reference o).toSection] := by
    rw [← hout, children_document]
  have hheader : out.document.header = none := by
    rw [← hout]
    rfl
  have hid : out.document.id = none := by
    rw [← hout]
    rfl
  have hleveled : out.document.leveledAt 1 =
      (1, out.document) :: (g.reference o).toSection.leveledAt 1 := by
    rw [Section.leveledAt_eq, hchildren, List.flatMap_singleton, hheader]
    rfl
  have hheadings : out.document.headingsAt 1 = g.headings o := by
    rw [← headingsAt_reference h, Section.headingsAt, hleveled,
      List.filterMap_cons_none (by rw [Heading.of?, hheader]; rfl)]
    rfl
  refine ⟨(g.reference o).toSection, hchildren, rfl, rfl, Section.opening?_passages _,
    Section.toList_toText _, hheadings, fun p hp htitled child hchild htitled' => ?_,
    fun p hp => ?_, exists_toText_eq hvisible⟩
  · have hlevel : innerLevel p.1 p.2.header = p.1 + 1 := by
      rw [innerLevel, if_pos htitled]
    have hmem := Section.mem_leveledAt_of_mem_children hp hchild
    rw [hlevel] at hmem
    refine ⟨hmem, headerMarks_ne (Nat.lt_succ_self p.1) ?_⟩
    obtain ⟨header, hheader'⟩ := Option.isSome_iff_exists.1 htitled'
    have hheading : ⟨p.1 + 1, child.id, if child.id.isSome then none else some header.title⟩ ∈
        out.document.headingsAt 1 :=
      List.mem_filterMap.2 ⟨_, hmem, by rw [Heading.of?, hheader']; rfl⟩
    rw [hheadings] at hheading
    exact level_le_of_mem_headings hheading
  · rw [hleveled, List.mem_cons] at hp
    rcases hp with rfl | hp
    · exact .inl ⟨rfl, hheader, hid⟩
    · rw [Section.leveledAt_eq, List.mem_cons] at hp
      rcases hp with rfl | hp
      · exact .inr (.inl rfl)
      · obtain ⟨s, hs, hp⟩ := List.mem_flatMap.1 hp
        exact .inr (.inr (allRegular_of_mem_reference h s hs _ p hp))

/-- The parameters of the mixer's methods have headings at the last level. -/
theorem headings_of_render_mixer :
    ∃ out, mixer.render {} = .ok out ∧
      out.document.headingsAt 1 = mixer.headings {} ∧
      (mixer.headings {}).map (fun x => (x.level, x.id.or x.title)) =
        [(1, some "API Reference"), (2, some "Classes"), (3, some "lib.Mixer"),
          (4, some "Methods"), (5, some "lib.Mixer.stir"),
          (6, some "lib.Mixer.stir.parameter.speed"), (6, some "lib.Mixer.stir.parameter.parts"),
          (4, some "Static Functions"), (5, some "lib.Mixer.blend"),
          (6, some "lib.Mixer.blend.parameter.parts"),
          (6, some "lib.Mixer.blend.parameter.speed")] := by
  obtain ⟨out, h⟩ : ∃ out, mixer.render {} = .ok out := exists_render_of_isOk (by decide +kernel)
  obtain ⟨reference, -, -, -, -, -, hheadings, -⟩ := headings_of_render h
  exact ⟨out, h, hheadings, by decide +kernel⟩

end Graph

end ApiDocs
