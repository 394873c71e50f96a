import ApiDocs.Document.Written
import ApiDocs.Entry.Reference
import ApiDocs.Record.Written

/-!
# Rendering

From a graph and what the reader asks for to the two outputs: the document and the record, with the
diagnostics of everything that was left out.  A module that does not exist is noticed before
anything is built.
-/

namespace ApiDocs

/-- The two outputs of a render, and the snippets that were left out. -/
structure Output where
  document : Section
  record : DocumentationRecord
  diagnostics : Diagnostics

namespace Output

/-- The document as text. -/
def documentText (o : Output) : String := o.document.toText

/-- The record as text. -/
def recordText (o : Output) : String := o.record.toText

end Output

namespace Graph

/-- The readme as blocks, without the blank space at its end, if one is asked for and there. -/
def readmeBlocks (g : Graph) (o : Options) : List Block :=
  if o.showsReadme then
    ((g.readmeFor o.submodule).map fun readme => Block.text (Text.trimEnd readme)).toList
  else []

/-- What the record of a render is about. -/
def coordinates (g : Graph) (o : Options) : Coordinates := ⟨g.name, g.version, o.submodule⟩

/-- Render one module of a graph. -/
def render (g : Graph) (o : Options) : Except RenderError Output := do
  let types ← g.moduleTypes o.submodule
  match (ReferenceEntry.build ⟨g, o⟩ types).runFrom [] with
  | (.error e, _) => .error e
  | (.ok reference, diagnostics) =>
    return {
      document := { blocks := g.readmeBlocks o ++ reference.toSection.asBlocks }
      record := ⟨o.language, g.coordinates o, reference.toRecord⟩
      diagnostics := diagnostics }

end Graph

end ApiDocs
