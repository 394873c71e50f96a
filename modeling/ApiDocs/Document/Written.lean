import ApiDocs.Document.Section
import ApiDocs.Text.Blank

/-!
# Documents as text

A section is written as a header line, if it has a header, and its blocks behind it, each with a
blank line at its end; bullets that follow one another make one list.  A header has a mark for each
header above it and one for itself, six at most.  The identifier stands in the header line, or on a
line of its own where there is no header.

A whole document ends in one line break, whatever blank space its last block left.
-/

namespace ApiDocs

/-- A title as it is set. -/
def Header.written (header : Header) : String :=
  let title := if header.isCode then Inline.code header.title else header.title
  if header.isStruck then Inline.struck title else title

/-- The marks before a header at a level. -/
def headerMarks (level : Nat) : String := String.ofList (List.replicate (min level 6) '#')

/-- The lines that open a section at a level: its header and anchor. -/
def openingLines (level : Nat) : Option Header → Option String → String
  | some header, some id =>
    headerMarks level ++ " " ++ header.written ++ " " ++ Inline.anchor id ++ "\n\n"
  | some header, none => headerMarks level ++ " " ++ header.written ++ "\n\n"
  | none, some id => Inline.anchor id ++ "\n\n"
  | none, none => ""

/-- The level of the sections inside one that stands at a level. -/
def innerLevel (level : Nat) (header : Option Header) : Nat :=
  if header.isSome then level + 1 else level

/-- Whether the first of the blocks is a bullet. -/
def startsWithBullet : List Block → Bool
  | .bullet _ :: _ => true
  | _ => false

mutual

/-- A block as it is written at a level, where `goesOn` says that a bullet follows. -/
def Block.written (level : Nat) (goesOn : Bool) : Block → String
  | .text content => content ++ "\n\n"
  | .bullet content => "- " ++ content ++ (if goesOn then "\n" else "\n\n")
  | .code language content => "```" ++ language ++ "\n" ++ content ++ "\n```\n\n"
  | .nested id header blocks =>
    openingLines level header id ++ blocksWritten (innerLevel level header) blocks

/-- A list of blocks as it is written at a level. -/
def blocksWritten (level : Nat) : List Block → String
  | [] => ""
  | block :: rest => block.written level (startsWithBullet rest) ++ blocksWritten level rest

end

/-- The text of a section whose headers start at a level, with the blank space at its end. -/
def Section.writtenAt (level : Nat) (s : Section) : String :=
  openingLines level s.header s.id ++ blocksWritten (innerLevel level s.header) s.blocks

/-- The text of a document. -/
def Section.toText (s : Section) : String := Text.trimEnd (s.writtenAt 1) ++ "\n"

end ApiDocs
