import Mathlib.Tactic.Lemma
import ApiDocs.Entry.Heading

/-!
# The parts of a document

Read from its start, a document is a list of parts: a section with an identifier opens, or a block
comes that is no section.  Sections without an identifier, such as the groups of members, leave no
part of their own.  The identifiers, the identified sections and the pieces of code of a document
can all be read off its parts, so what is known of the parts is known of each of these.

`Section.leaves` are the blocks that stand in a section itself and not in a section below it.
-/

namespace ApiDocs

/-! ## Leaves -/

/-- Whether a block is no section. -/
def Block.isLeaf : Block → Bool
  | .nested .. => false
  | .text _ => true
  | .bullet _ => true
  | .code .. => true

/-- The language and content of a block that is code. -/
def Block.code? : Block → Option (String × String)
  | .code language content => some (language, content)
  | _ => none

/-- The blocks of a section that are no sections. -/
def Section.leaves (s : Section) : List Block := s.blocks.filter Block.isLeaf

/-- The language and content of each piece of code that stands in a section itself. -/
def Section.ownCodes (s : Section) : List (String × String) := s.leaves.filterMap Block.code?

/-! ## Parts -/

/-- What a reader of a document meets next. -/
inductive Part where
  /-- A section with an identifier. -/
  | opening (s : Section)
  /-- A block that is no section. -/
  | leaf (b : Block)

namespace Part

/-- The section that opens. -/
def section? : Part → Option Section
  | opening s => some s
  | leaf _ => none

/-- The language and content of a piece of code. -/
def code? : Part → Option (String × String)
  | opening _ => none
  | leaf b => b.code?

end Part

/-- What a reader meets where a section opens: the section, if it has an identifier. -/
def Section.openingParts (s : Section) : List Part := if s.id.isSome then [.opening s] else []

mutual

/-- The parts of a block. -/
def Block.parts : Block → List Part
  | .nested id header blocks => Section.openingParts ⟨id, header, blocks⟩ ++ blocksParts blocks
  | .text content => [.leaf (.text content)]
  | .bullet content => [.leaf (.bullet content)]
  | .code language content => [.leaf (.code language content)]

/-- The parts of a list of blocks. -/
def blocksParts : List Block → List Part
  | [] => []
  | block :: rest => block.parts ++ blocksParts rest

end

namespace Section

/-- The parts of a section, in the order of the document. -/
def parts (s : Section) : List Part := s.openingParts ++ blocksParts s.blocks

/-- The sections with an identifier, the section itself among them, in the order of the document. -/
def identified (s : Section) : List Section := s.parts.filterMap Part.section?

end Section

/-! ## Reading identifiers and code off the parts -/

mutual

lemma Block.identifiers_eq_filterMap_parts : (b : Block) →
    b.identifiers = (b.parts.filterMap Part.section?).filterMap Section.id
  | .nested id header blocks => by
    rw [Block.identifiers, Block.parts, List.filterMap_append, List.filterMap_append,
      blocksIdentifiers_eq_filterMap_parts blocks]
    cases id <;> rfl
  | .text _ => rfl
  | .bullet _ => rfl
  | .code _ _ => rfl

lemma blocksIdentifiers_eq_filterMap_parts : (blocks : List Block) →
    blocksIdentifiers blocks = ((blocksParts blocks).filterMap Part.section?).filterMap Section.id
  | [] => rfl
  | block :: rest => by
    rw [blocksIdentifiers, blocksParts, List.filterMap_append, List.filterMap_append,
      block.identifiers_eq_filterMap_parts, blocksIdentifiers_eq_filterMap_parts rest]

end

mutual

lemma Block.codes_eq_filterMap_parts : (b : Block) → b.codes = b.parts.filterMap Part.code?
  | .nested id header blocks => by
    rw [Block.codes, Block.parts, List.filterMap_append, blocksCodes_eq_filterMap_parts blocks]
    cases id <;> rfl
  | .text _ => rfl
  | .bullet _ => rfl
  | .code _ _ => rfl

lemma blocksCodes_eq_filterMap_parts : (blocks : List Block) →
    blocksCodes blocks = (blocksParts blocks).filterMap Part.code?
  | [] => rfl
  | block :: rest => by
    rw [blocksCodes, blocksParts, List.filterMap_append, block.codes_eq_filterMap_parts,
      blocksCodes_eq_filterMap_parts rest]

end

namespace Section

/-- The identifiers of a document are those of its identified sections. -/
lemma identifiers_eq_filterMap_identified (s : Section) :
    s.identifiers = s.identified.filterMap Section.id := by
  rw [identifiers, identified, parts, List.filterMap_append, List.filterMap_append,
    blocksIdentifiers_eq_filterMap_parts, openingParts]
  cases h : s.id <;> simp [Part.section?, h]

lemma codes_eq_filterMap_parts (s : Section) : s.codes = s.parts.filterMap Part.code? := by
  rw [codes, parts, List.filterMap_append, blocksCodes_eq_filterMap_parts, openingParts]
  cases s.id <;> rfl

end Section

/-! ## Parts of what is put together -/

@[simp] lemma blocksParts_nil : blocksParts [] = [] := rfl

@[simp] lemma blocksParts_append (xs ys : List Block) :
    blocksParts (xs ++ ys) = blocksParts xs ++ blocksParts ys := by
  induction xs with
  | nil => rfl
  | cons block rest ih => rw [List.cons_append, blocksParts, blocksParts, ih, List.append_assoc]

/-- Blocks that are no sections are parts as they are. -/
lemma blocksParts_of_leaves {blocks : List Block} (h : ∀ b ∈ blocks, b.isLeaf = true) :
    blocksParts blocks = blocks.map .leaf := by
  induction blocks with
  | nil => rfl
  | cons block rest ih =>
    have hblock : block.parts = [.leaf block] := by
      have := h block (by simp)
      cases block <;> simp_all [Block.isLeaf, Block.parts]
    rw [blocksParts, hblock, ih fun b hb => h b (by simp [hb])]
    rfl

@[simp] lemma blocksParts_asBlocks (s : Section) : blocksParts s.asBlocks = s.parts := by
  unfold Section.asBlocks
  split
  · next h => rw [Section.isEmpty_eq_true_iff.1 h]; rfl
  · rw [blocksParts, Block.parts, blocksParts_nil, List.append_nil]
    rfl

@[simp] lemma blocksParts_flatMap_asBlocks (xs : List α) (f : α → Section) :
    blocksParts (xs.flatMap fun x => (f x).asBlocks) = xs.flatMap fun x => (f x).parts := by
  induction xs with
  | nil => rfl
  | cons x rest ih =>
    rw [List.flatMap_cons, List.flatMap_cons, blocksParts_append, blocksParts_asBlocks, ih]

/-- The parts of a group are those of its members, since a group has no identifier. -/
@[simp] lemma parts_group (title : String) (xs : List α) (f : α → Section) :
    (group title (xs.map f)).parts = xs.flatMap fun x => (f x).parts := by
  unfold group
  cases xs with
  | nil => rfl
  | cons x rest =>
    rw [if_neg (by simp), Section.parts, List.flatMap_map, blocksParts_flatMap_asBlocks]
    rfl

/-! ## The leaves of sections that entries build

A section hung into another one adds nothing to the leaves of the outer one; all other blocks of an
entry are leaves. -/

@[simp] lemma filter_isLeaf_asBlocks (s : Section) : s.asBlocks.filter Block.isLeaf = [] := by
  unfold Section.asBlocks
  split <;> simp [Block.isLeaf]

@[simp] lemma filter_isLeaf_flatMap_asBlocks (xs : List α) (f : α → Section) :
    (xs.flatMap fun x => (f x).asBlocks).filter Block.isLeaf = [] := by
  simp [List.filter_flatMap]

lemma isLeaf_of_mem_labelled? {label : String} {content : Option String} {b : Block}
    (h : b ∈ labelled? label content) : b.isLeaf = true := by
  obtain ⟨text, -, rfl⟩ : ∃ text, content = some text ∧ labelled label text = b := by
    simpa [labelled?] using h
  rfl

lemma isLeaf_of_mem_mark? {label : String} {holds : Bool} {b : Block} (h : b ∈ mark? label holds) :
    b.isLeaf = true := by
  cases holds <;> simp [mark?] at h
  rw [h]
  rfl

lemma isLeaf_of_mem_snippetBlocks {language : Language} {snippet : Option String} {b : Block}
    (h : b ∈ snippetBlocks language snippet) : b.isLeaf = true := by
  obtain ⟨text, -, rfl⟩ : ∃ text, snippet = some text ∧ Block.code language.name text = b := by
    simpa [snippetBlocks] using h
  rfl

lemma isLeaf_of_mem_linkedBlocks {label : String} {types : List Linked} {b : Block}
    (h : b ∈ linkedBlocks label types) : b.isLeaf = true := by
  unfold linkedBlocks at h
  split at h
  · simp at h
  · rw [List.mem_singleton.1 h]
    rfl

lemma isLeaf_of_mem_docsBlocks {docs : Docs} {b : Block} (h : b ∈ docsBlocks docs) :
    b.isLeaf = true := by
  rw [docsBlocks, Docs.blocks, List.mem_append, List.mem_append, List.mem_append] at h
  rcases h with h | (h | h) | h
  · exact isLeaf_of_mem_labelled? h
  · split at h
    · simp at h
    · rw [List.mem_singleton.1 h]
      rfl
  · cases hsee : docs.see with
    | none => simp [hsee] at h
    | some see =>
      simp only [hsee, Option.map_some, Option.toList_some, List.mem_singleton] at h
      rw [h]
      rfl
  · split at h
    · rcases List.mem_cons.1 h with rfl | h
      · rfl
      · rw [List.mem_singleton.1 h]
        rfl
    · simp at h

end ApiDocs
