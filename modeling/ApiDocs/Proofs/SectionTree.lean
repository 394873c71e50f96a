import ApiDocs.Proofs.Parts
import ApiDocs.Proofs.Passages

/-!
# Sections below sections

A document as a tree: `Section.children` are the sections that hang in a section itself, and
`Section.under` are those that hang in its groups of a title.  `Section.leveledAt` goes through the
whole tree and pairs each section with the level of its heading, at which the section is also
written (`Section.opening?_passages`).  Blocks that are no sections do not count here.

Entries build their sections from three kinds of pieces: leaves, sections with an identifier, and
groups of such sections.  What hangs where follows from one lemma for each of them.
-/

namespace ApiDocs

/-- The section that a block is, if it is one. -/
def Block.section? : Block → Option Section
  | .nested id header blocks => some ⟨id, header, blocks⟩
  | .text _ => none
  | .bullet _ => none
  | .code _ _ => none

/-- The sections among some blocks. -/
def blocksSections (blocks : List Block) : List Section := blocks.filterMap Block.section?

/-- The sections in the groups of a title among some blocks.  A group has a title and no
identifier. -/
def blocksUnder (title : String) (blocks : List Block) : List Section :=
  ((blocksSections blocks).filter fun s => s.id = none ∧ s.header = some { title }).flatMap
    fun s => blocksSections s.blocks

namespace Section

/-- The sections that hang in a section itself. -/
def children (s : Section) : List Section := blocksSections s.blocks

/-- The sections that hang in the groups of a title in a section. -/
def under (title : String) (s : Section) : List Section := blocksUnder title s.blocks

lemma isEmpty_of_id {s : Section} (h : s.id.isSome = true) : s.isEmpty = false := by
  rw [isEmpty, Option.isNone_eq_false_iff.2 h]
  rfl

end Section

/-! ## Sections among blocks -/

@[simp] lemma blocksSections_nil : blocksSections [] = [] := rfl

@[simp] lemma blocksSections_append (xs ys : List Block) :
    blocksSections (xs ++ ys) = blocksSections xs ++ blocksSections ys :=
  List.filterMap_append

lemma blocksSections_of_leaves {blocks : List Block} (h : ∀ b ∈ blocks, b.isLeaf = true) :
    blocksSections blocks = [] := by
  rw [blocksSections, List.filterMap_eq_nil_iff]
  intro b hb
  have hleaf := h b hb
  cases b with
  | nested id header blocks => cases hleaf
  | _ => rfl

lemma blocksSections_asBlocks {s : Section} (h : s.isEmpty = false) :
    blocksSections s.asBlocks = [s] := by
  rw [Section.asBlocks, h]
  rfl

/-- Sections with an identifier are hung in one by one. -/
lemma blocksSections_flatMap_asBlocks {sections : List Section}
    (h : ∀ s ∈ sections, s.id.isSome = true) :
    blocksSections (sections.flatMap Section.asBlocks) = sections := by
  induction sections with
  | nil => rfl
  | cons s rest ih =>
    rw [List.flatMap_cons, blocksSections_append,
      blocksSections_asBlocks (Section.isEmpty_of_id (h s List.mem_cons_self)),
      ih fun s' hs' => h s' (List.mem_cons_of_mem s hs')]
    rfl

/-- A group is hung in unless it would hold nothing. -/
lemma blocksSections_group (title : String) (sections : List Section) :
    blocksSections (group title sections).asBlocks =
      if sections.isEmpty then []
      else [{ header := some { title }, blocks := sections.flatMap Section.asBlocks }] := by
  unfold group
  by_cases h : sections.isEmpty = true
  · rw [if_pos h, if_pos h]
    rfl
  · rw [if_neg h, if_neg h, blocksSections_asBlocks rfl]

/-! ## Sections in groups -/

@[simp] lemma blocksUnder_append (title : String) (xs ys : List Block) :
    blocksUnder title (xs ++ ys) = blocksUnder title xs ++ blocksUnder title ys := by
  simp [blocksUnder]

lemma blocksUnder_of_leaves (title : String) {blocks : List Block}
    (h : ∀ b ∈ blocks, b.isLeaf = true) : blocksUnder title blocks = [] := by
  rw [blocksUnder, blocksSections_of_leaves h]
  rfl

lemma blocksUnder_flatMap_asBlocks (title : String) {sections : List Section}
    (h : ∀ s ∈ sections, s.id.isSome = true) :
    blocksUnder title (sections.flatMap Section.asBlocks) = [] := by
  rw [blocksUnder, blocksSections_flatMap_asBlocks h, List.flatMap_eq_nil_iff]
  intro s hs
  have hid := h s (List.mem_filter.1 hs).1
  rw [(of_decide_eq_true (List.mem_filter.1 hs).2).1] at hid
  cases hid

/-- A group shows its sections under its own title. -/
lemma blocksUnder_group (title title' : String) {sections : List Section}
    (h : ∀ s ∈ sections, s.id.isSome = true) :
    blocksUnder title' (group title sections).asBlocks =
      if title = title' then sections else [] := by
  rw [blocksUnder, blocksSections_group]
  by_cases hempty : sections.isEmpty = true
  · rw [if_pos hempty, List.isEmpty_iff.1 hempty, ite_self]
    rfl
  · rw [if_neg hempty]
    by_cases htitle : title = title'
    · simp [htitle, blocksSections_flatMap_asBlocks h]
    · simp [htitle]

/-- All sections in the groups among some blocks are those of each group. -/
lemma flatMap_children_group (title : String) {sections : List Section}
    (h : ∀ s ∈ sections, s.id.isSome = true) :
    (blocksSections (group title sections).asBlocks).flatMap Section.children = sections := by
  rw [blocksSections_group]
  by_cases hempty : sections.isEmpty = true
  · rw [if_pos hempty, List.isEmpty_iff.1 hempty]
    rfl
  · rw [if_neg hempty, List.flatMap_singleton, Section.children]
    exact blocksSections_flatMap_asBlocks h

/-! ## Levels -/

mutual

/-- The sections in a block with the levels of their headings. -/
def Block.leveled (level : Nat) : Block → List (Nat × Section)
  | .nested id header blocks =>
    (level, ⟨id, header, blocks⟩) :: blocksLeveled (innerLevel level header) blocks
  | .text _ => []
  | .bullet _ => []
  | .code _ _ => []

/-- The sections in a list of blocks with the levels of their headings. -/
def blocksLeveled (level : Nat) : List Block → List (Nat × Section)
  | [] => []
  | block :: rest => block.leveled level ++ blocksLeveled level rest

end

/-- A section at a level, and all sections in it with their levels. -/
def Section.leveledAt (level : Nat) (s : Section) : List (Nat × Section) :=
  (level, s) :: blocksLeveled (innerLevel level s.header) s.blocks

/-- The level, header and identifier of a section that opens. -/
def Passage.opening? : Passage → Option (Nat × Option Header × Option String)
  | opening level header id => some (level, header, id)
  | text _ => none
  | bullet _ _ => none
  | code _ _ => none

/-- The sections among some blocks stand at one level, and all others in them. -/
lemma blocksLeveled_eq_flatMap (level : Nat) (blocks : List Block) :
    blocksLeveled level blocks = (blocksSections blocks).flatMap (Section.leveledAt level) := by
  induction blocks with
  | nil => rfl
  | cons block rest ih =>
    rw [blocksLeveled, ih]
    cases block <;> rfl

/-- What hangs in a section stands one level below it if the section has a title, and at its level
otherwise. -/
lemma Section.leveledAt_eq (level : Nat) (s : Section) :
    s.leveledAt level =
      (level, s) :: s.children.flatMap (leveledAt (innerLevel level s.header)) := by
  rw [leveledAt, blocksLeveled_eq_flatMap]
  rfl

mutual

lemma Block.opening?_passages (level : Nat) (goesOn : Bool) (b : Block) :
    (b.passages level goesOn).filterMap Passage.opening? =
      (b.leveled level).map fun p => (p.1, p.2.header, p.2.id) := by
  match b with
  | .text content => rfl
  | .bullet content => rfl
  | .code language content => rfl
  | .nested id header blocks =>
    have hblocks := opening?_blocksPassages (innerLevel level header) blocks
    simp [Block.passages, Block.leveled, Passage.opening?, hblocks]

lemma opening?_blocksPassages (level : Nat) (blocks : List Block) :
    (blocksPassages level blocks).filterMap Passage.opening? =
      (blocksLeveled level blocks).map fun p => (p.1, p.2.header, p.2.id) := by
  match blocks with
  | [] => rfl
  | block :: rest =>
    have hblock := Block.opening?_passages level (startsWithBullet rest) block
    have hrest := opening?_blocksPassages level rest
    simp [blocksPassages, blocksLeveled, hblock, hrest]

end

/-- The sections of a document are written one after the other, each at its level. -/
lemma Section.opening?_passages (s : Section) :
    s.passages.filterMap Passage.opening? =
      (s.leveledAt 1).map fun p => (p.1, p.2.header, p.2.id) := by
  simp [passages, leveledAt, Passage.opening?, opening?_blocksPassages]

mutual

lemma Block.mem_leveled_of_mem_children {level : Nat} {b : Block} {p : Nat × Section}
    (h : p ∈ b.leveled level) {child : Section} (hchild : child ∈ p.2.children) :
    (innerLevel p.1 p.2.header, child) ∈ b.leveled level := by
  match b with
  | .text content => cases h
  | .bullet content => cases h
  | .code language content => cases h
  | .nested id header blocks =>
    rw [Block.leveled, List.mem_cons] at h ⊢
    rcases h with rfl | h
    · right
      rw [blocksLeveled_eq_flatMap]
      exact List.mem_flatMap.2 ⟨child, hchild, List.mem_cons_self⟩
    · exact .inr (mem_blocksLeveled_of_mem_children h hchild)

lemma mem_blocksLeveled_of_mem_children {level : Nat} {blocks : List Block} {p : Nat × Section}
    (h : p ∈ blocksLeveled level blocks) {child : Section} (hchild : child ∈ p.2.children) :
    (innerLevel p.1 p.2.header, child) ∈ blocksLeveled level blocks := by
  match blocks with
  | [] => cases h
  | block :: rest =>
    rw [blocksLeveled, List.mem_append] at h ⊢
    rcases h with h | h
    · exact .inl (Block.mem_leveled_of_mem_children h hchild)
    · exact .inr (mem_blocksLeveled_of_mem_children h hchild)

end

/-- The level of a section settles that of its children, wherever it stands. -/
lemma Section.mem_leveledAt_of_mem_children {level : Nat} {s : Section} {p : Nat × Section}
    (h : p ∈ s.leveledAt level) {child : Section} (hchild : child ∈ p.2.children) :
    (innerLevel p.1 p.2.header, child) ∈ s.leveledAt level := by
  rcases List.mem_cons.1 h with rfl | h
  · rw [leveledAt_eq]
    exact List.mem_cons_of_mem _ (List.mem_flatMap.2 ⟨child, hchild, List.mem_cons_self⟩)
  · exact List.mem_cons_of_mem _ (mem_blocksLeveled_of_mem_children h hchild)

end ApiDocs
