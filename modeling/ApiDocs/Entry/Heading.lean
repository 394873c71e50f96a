import ApiDocs.Entry.Context

/-!
# What the sections of all entries share

An entry holds what one entity shows, worked out once.  Its section and its record are both read off
it, so what they share they cannot disagree about.  This module holds the parts that sections of
several kinds have: the heading, the documentation, groups of members, and lists of linked types.
-/

namespace ApiDocs

/-- The section of an entity: its title, struck through if it is deprecated, and its identifier,
above the blocks. -/
def entitySection (title : String) (isCode : Bool) (id : String) (docs : Docs)
    (blocks : List Block) : Section :=
  { id := some id, header := some ⟨title, isCode, docs.isDeprecated⟩, blocks }

/-- A bullet with a label before it. -/
def labelled (label content : String) : Block := .bullet (Inline.emphasis label ++ " " ++ content)

/-- A labelled bullet where there is something to show. -/
def labelled? (label : String) (content : Option String) : List Block :=
  (content.map (labelled label)).toList

/-- A bullet that only says that something holds. -/
def mark? (label : String) (holds : Bool) : List Block :=
  if holds then [.bullet (Inline.emphasis label)] else []

/-- The documentation of an entity: why it is deprecated, and its texts. -/
def docsBlocks (docs : Docs) : List Block := labelled? "Deprecated:" docs.deprecated ++ docs.blocks

/-- A snippet where there is one. -/
def snippetBlocks (language : Language) (snippet : Option String) : List Block :=
  (snippet.map (.code language.name)).toList

/-- Sections under a title of their own; without sections there is no title either. -/
def group (title : String) (sections : List Section) : Section :=
  if sections.isEmpty then .empty
  else { header := some { title }, blocks := sections.flatMap Section.asBlocks }

/-- A type that an entity refers to: its record, and its name as the document has it. -/
structure Linked where
  link : TypeLink
  text : String

/-- The type of a full name as one that an entity refers to. -/
def Context.linked (ctx : Context) (fqn : String) : Linked :=
  ⟨⟨fqn, (ctx.typeName fqn).qualified⟩, ctx.linkTo fqn⟩

/-- A labelled bullet that lists types, where there are any. -/
def linkedBlocks (label : String) (types : List Linked) : List Block :=
  if types.isEmpty then [] else [labelled label (", ".intercalate (types.map (·.text)))]

end ApiDocs
