import ApiDocs.Document.Inline
import ApiDocs.Graph.Docs

/-!
# Documents

A document is a tree of sections.  A section may have a header and an identifier, and under them a
list of blocks: paragraphs, bullets, code and further sections.  How deep a header stands is not
part of the tree; it follows from the headers above it when the tree is written, so a section can be
built before anyone knows where it will hang.

A section with neither header, identifier nor blocks shows nothing, and hanging it under another one
changes nothing.
-/

namespace ApiDocs

/-- The title of a section and how it is set. -/
structure Header where
  title : String
  isCode : Bool := false
  isStruck : Bool := false
  deriving DecidableEq

/-- A part of a section. -/
inductive Block where
  | text (content : String)
  | bullet (content : String)
  /-- Code in a language, which is empty for a sample. -/
  | code (language content : String)
  /-- A section, by its identifier, header and blocks. -/
  | nested (id : Option String) (header : Option Header) (blocks : List Block)

/-- A document, or a part of one that can be hung into another. -/
structure Section where
  id : Option String := none
  header : Option Header := none
  blocks : List Block := []

namespace Section

/-- The section that shows nothing. -/
def empty : Section := {}

/-- A section under a title. -/
def titled (title : String) : Section := { header := some { title } }

/-- The section under an identifier. -/
def withId (s : Section) (id : String) : Section := { s with id := some id }

/-- The section with its title, if it has one, set as code. -/
def withCodeTitle (s : Section) : Section :=
  { s with header := s.header.map fun h => { h with isCode := true } }

/-- The section with its title, if it has one, struck through or not. -/
def withStrike (s : Section) (isStruck : Bool) : Section :=
  { s with header := s.header.map fun h => { h with isStruck } }

/-- Whether the section shows nothing. -/
def isEmpty (s : Section) : Bool := s.id.isNone && s.header.isNone && s.blocks.isEmpty

/-- The section as blocks of another one: one, or none if it shows nothing. -/
def asBlocks (s : Section) : List Block :=
  if s.isEmpty then [] else [.nested s.id s.header s.blocks]

/-- The section with more blocks at its end. -/
def add (s : Section) (blocks : List Block) : Section := { s with blocks := s.blocks ++ blocks }

/-- The section with another one hung into it at its end. -/
def attach (s child : Section) : Section := s.add child.asBlocks

end Section

/-! ## Documentation texts -/

/-- Documentation texts as blocks: the summary and remarks, the address of further reading, and the
sample of code. -/
def Docs.blocks (docs : Docs) : List Block :=
  (if docs.text.isEmpty then [] else [.text docs.text]) ++
    (docs.see.map fun see => Block.text ("> " ++ Inline.link see see)).toList ++
    match docs.sample with
    | some sample => [.text (Inline.emphasis "Example"), .code "" sample]
    | none => []

/-! ## What stands in a document -/

mutual

/-- The identifiers in a block. -/
def Block.identifiers : Block → List String
  | .nested id _ blocks => id.toList ++ blocksIdentifiers blocks
  | .text _ => []
  | .bullet _ => []
  | .code _ _ => []

/-- The identifiers in a list of blocks. -/
def blocksIdentifiers : List Block → List String
  | [] => []
  | block :: rest => block.identifiers ++ blocksIdentifiers rest

end

/-- The identifiers of a section and of all sections in it, in the order of the document. -/
def Section.identifiers (s : Section) : List String := s.id.toList ++ blocksIdentifiers s.blocks

mutual

/-- The language and content of each piece of code in a block. -/
def Block.codes : Block → List (String × String)
  | .code language content => [(language, content)]
  | .nested _ _ blocks => blocksCodes blocks
  | .text _ => []
  | .bullet _ => []

/-- The language and content of each piece of code in a list of blocks. -/
def blocksCodes : List Block → List (String × String)
  | [] => []
  | block :: rest => block.codes ++ blocksCodes rest

end

/-- The language and content of each piece of code in a section, in the order of the document. -/
def Section.codes (s : Section) : List (String × String) := blocksCodes s.blocks

/-- The content of each piece of code in a section, in the order of the document. -/
def Section.codeBlocks (s : Section) : List String := s.codes.map (·.2)

/-! ## Identifiers and code of what is put together

A section that is hung into another one brings its identifiers and its code along, behind those that
are there; one that shows nothing has none to bring. -/

@[simp] theorem blocksIdentifiers_append (xs ys : List Block) :
    blocksIdentifiers (xs ++ ys) = blocksIdentifiers xs ++ blocksIdentifiers ys := by
  induction xs with
  | nil => rfl
  | cons block rest ih => simp [blocksIdentifiers, ih]

@[simp] theorem blocksCodes_append (xs ys : List Block) :
    blocksCodes (xs ++ ys) = blocksCodes xs ++ blocksCodes ys := by
  induction xs with
  | nil => rfl
  | cons block rest ih => simp [blocksCodes, ih]

namespace Section

theorem isEmpty_eq_true_iff {s : Section} : s.isEmpty = true ↔ s = empty := by
  cases s with
  | mk id header blocks => cases id <;> cases header <;> cases blocks <;> simp [isEmpty, empty]

@[simp] theorem blocksIdentifiers_asBlocks (s : Section) :
    blocksIdentifiers s.asBlocks = s.identifiers := by
  unfold asBlocks
  split
  · next h => rw [isEmpty_eq_true_iff.1 h]; rfl
  · simp [blocksIdentifiers, Block.identifiers, identifiers]

@[simp] theorem blocksCodes_asBlocks (s : Section) : blocksCodes s.asBlocks = s.codes := by
  unfold asBlocks
  split
  · next h => rw [isEmpty_eq_true_iff.1 h]; rfl
  · simp [blocksCodes, Block.codes, codes]

theorem identifiers_attach (s child : Section) :
    (s.attach child).identifiers = s.identifiers ++ child.identifiers := by
  simp [attach, add, identifiers]

theorem codes_attach (s child : Section) :
    (s.attach child).codes = s.codes ++ child.codes := by
  simp [attach, add, codes]

end Section

end ApiDocs
