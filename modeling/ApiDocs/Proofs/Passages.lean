import ApiDocs.Document.Written
import ApiDocs.Proofs.Lists

/-!
# Documents passage by passage

A reader of a document has its text and not its tree.  What the text shows of the tree is read off a
list of *passages*: the opening of each section, and each paragraph, bullet and block of code, in
the order in which they are written.  The text is what the passages write, one behind the other, up
to the blank space at its end; identifiers and code are those of the passages.  Whoever reads a text
back can therefore go through it passage by passage, and has the tree's recursion behind them.
-/

namespace ApiDocs

/-! ## Trimmed texts and titles -/

namespace Text

lemma toList_trimEnd (s : String) : (trimEnd s).toList = s.toList.rdropWhile isBlank := by
  simp [trimEnd, List.rdropWhile]

end Text

/-- The marks before a header are number signs, with a space behind them. -/
lemma eq_or_eq_of_mem_headerMarks {level : Nat} {c : Char}
    (hc : c ∈ (headerMarks level ++ " ").toList) : c = '#' ∨ c = ' ' := by
  rw [headerMarks, String.toList_append, String.toList_ofList, List.mem_append,
    List.mem_replicate] at hc
  exact hc.imp (fun h => h.2) List.mem_singleton.1

/-- What holds of a title, and goes on to hold when it is set as code or struck through, holds of
the title as it is written. -/
lemma Header.written_induction {motive : String → Prop} (header : Header)
    (title : motive header.title) (code : ∀ text, motive text → motive (Inline.code text))
    (struck : ∀ text, motive text → motive (Inline.struck text)) : motive header.written := by
  have hset : motive (if header.isCode then Inline.code header.title else header.title) := by
    split
    · exact code _ title
    · exact title
  simp only [written]
  split
  · exact struck _ hset
  · exact hset

/-! ## Passages -/

/-- What is written in one go: the opening of a section, or a block that is none. -/
inductive Passage where
  | opening (level : Nat) (header : Option Header) (id : Option String)
  | text (content : String)
  | bullet (content : String) (goesOn : Bool)
  | code (language content : String)

namespace Passage

/-- The text of a passage. -/
def written : Passage → String
  | opening level header id => openingLines level header id
  | text content => content ++ "\n\n"
  | bullet content goesOn => "- " ++ content ++ (if goesOn then "\n" else "\n\n")
  | code language content => "```" ++ language ++ "\n" ++ content ++ "\n```\n\n"

/-- The characters of a passage. -/
def chars (p : Passage) : List Char := p.written.toList

/-- The identifier that a passage opens a section with, if it does. -/
def identifiers : Passage → List String
  | opening _ _ id => id.toList
  | text _ => []
  | bullet _ _ => []
  | code _ _ => []

/-- The language and content of a piece of code. -/
def codes : Passage → List (String × String)
  | code language content => [(language, content)]
  | opening _ _ _ => []
  | text _ => []
  | bullet _ _ => []

end Passage

mutual

/-- The passages of a block at a level, where `goesOn` says that a bullet follows. -/
def Block.passages (level : Nat) (goesOn : Bool) : Block → List Passage
  | .text content => [.text content]
  | .bullet content => [.bullet content goesOn]
  | .code language content => [.code language content]
  | .nested id header blocks =>
    .opening level header id :: blocksPassages (innerLevel level header) blocks

/-- The passages of a list of blocks at a level. -/
def blocksPassages (level : Nat) : List Block → List Passage
  | [] => []
  | block :: rest => block.passages level (startsWithBullet rest) ++ blocksPassages level rest

end

/-- The passages of a document. -/
def Section.passages (s : Section) : List Passage :=
  .opening 1 s.header s.id :: blocksPassages (innerLevel 1 s.header) s.blocks

/-! ## What the passages write and hold -/

mutual

lemma Block.toList_written (level : Nat) (goesOn : Bool) (b : Block) :
    (b.written level goesOn).toList = (b.passages level goesOn).flatMap Passage.chars := by
  match b with
  | .text content => simp [Block.written, Block.passages, Passage.chars, Passage.written]
  | .bullet content => simp [Block.written, Block.passages, Passage.chars, Passage.written]
  | .code language content => simp [Block.written, Block.passages, Passage.chars, Passage.written]
  | .nested id header blocks =>
    have hblocks := toList_blocksWritten (innerLevel level header) blocks
    simp [Block.written, Block.passages, Passage.chars, Passage.written, hblocks]

lemma toList_blocksWritten (level : Nat) (blocks : List Block) :
    (blocksWritten level blocks).toList = (blocksPassages level blocks).flatMap Passage.chars := by
  match blocks with
  | [] => simp [blocksWritten, blocksPassages]
  | block :: rest =>
    have hblock := Block.toList_written level (startsWithBullet rest) block
    have hrest := toList_blocksWritten level rest
    simp [blocksWritten, blocksPassages, hblock, hrest]

end

mutual

lemma Block.identifiers_eq_flatMap_passages (level : Nat) (goesOn : Bool) (b : Block) :
    b.identifiers = (b.passages level goesOn).flatMap Passage.identifiers := by
  match b with
  | .text content => rfl
  | .bullet content => rfl
  | .code language content => rfl
  | .nested id header blocks =>
    have hblocks := blocksIdentifiers_eq_flatMap_passages (innerLevel level header) blocks
    simp [Block.identifiers, Block.passages, Passage.identifiers, hblocks]

lemma blocksIdentifiers_eq_flatMap_passages (level : Nat) (blocks : List Block) :
    blocksIdentifiers blocks = (blocksPassages level blocks).flatMap Passage.identifiers := by
  match blocks with
  | [] => rfl
  | block :: rest =>
    have hblock := Block.identifiers_eq_flatMap_passages level (startsWithBullet rest) block
    have hrest := blocksIdentifiers_eq_flatMap_passages level rest
    simp [blocksIdentifiers, blocksPassages, hblock, hrest]

end

mutual

lemma Block.codes_eq_flatMap_passages (level : Nat) (goesOn : Bool) (b : Block) :
    b.codes = (b.passages level goesOn).flatMap Passage.codes := by
  match b with
  | .text content => rfl
  | .bullet content => rfl
  | .code language content => rfl
  | .nested id header blocks =>
    have hblocks := blocksCodes_eq_flatMap_passages (innerLevel level header) blocks
    simp [Block.codes, Block.passages, Passage.codes, hblocks]

lemma blocksCodes_eq_flatMap_passages (level : Nat) (blocks : List Block) :
    blocksCodes blocks = (blocksPassages level blocks).flatMap Passage.codes := by
  match blocks with
  | [] => rfl
  | block :: rest =>
    have hblock := Block.codes_eq_flatMap_passages level (startsWithBullet rest) block
    have hrest := blocksCodes_eq_flatMap_passages level rest
    simp [blocksCodes, blocksPassages, hblock, hrest]

end

namespace Section

lemma toList_writtenAt (s : Section) :
    (s.writtenAt 1).toList = s.passages.flatMap Passage.chars := by
  simp [writtenAt, passages, toList_blocksWritten, Passage.chars, Passage.written]

/-- A document is what its passages write, without the blank space at the end, and a line break. -/
theorem toList_toText (s : Section) :
    s.toText.toList = (s.passages.flatMap Passage.chars).rdropWhile Text.isBlank ++ ['\n'] := by
  rw [toText, String.toList_append, Text.toList_trimEnd, toList_writtenAt]
  rfl

/-- The identifiers of a document are those of its passages. -/
theorem identifiers_eq_flatMap_passages (s : Section) :
    s.identifiers = s.passages.flatMap Passage.identifiers := by
  rw [identifiers, blocksIdentifiers_eq_flatMap_passages (innerLevel 1 s.header)]
  rfl

/-- The code of a document is that of its passages. -/
theorem codes_eq_flatMap_passages (s : Section) : s.codes = s.passages.flatMap Passage.codes := by
  rw [codes, blocksCodes_eq_flatMap_passages (innerLevel 1 s.header)]
  rfl

end Section

end ApiDocs
