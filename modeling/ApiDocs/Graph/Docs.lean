import ApiDocs.Json.Decoder

/-!
# Documentation texts

What the authors of a library wrote about a type, a member or a parameter.
-/

namespace ApiDocs

/-- Documentation of one entity. -/
structure Docs where
  summary : String := ""
  remarks : Option String := none
  /-- What an optional member is when it is left out. -/
  default : Option String := none
  /-- Why the entity is deprecated, if it is. -/
  deprecated : Option String := none
  /-- The address of further reading. -/
  see : Option String := none
  /-- A sample of code in the library's own language. -/
  sample : Option String := none
  deriving DecidableEq

namespace Docs

/-- Whether the entity is deprecated. -/
def isDeprecated (docs : Docs) : Bool := docs.deprecated.isSome

/-- The summary and the remarks as one text, a blank line between them. -/
def text (docs : Docs) : String :=
  match docs.remarks with
  | some remarks =>
    if docs.summary.isEmpty then remarks else docs.summary ++ "\n\n" ++ remarks
  | none => docs.summary

/-- Whether there is no text, address or sample to show. -/
def isEmpty (docs : Docs) : Bool :=
  docs.summary.isEmpty && docs.remarks.isNone && docs.see.isNone && docs.sample.isNone

/-- Decode documentation texts; all of them may be missing. -/
def decode : Json.Decoder Docs :=
  Json.Decoder.record ["summary", "remarks", "default", "deprecated", "see", "example"] fun parts =>
    Docs.mk <$> parts.withDefault "summary" .text ""
      <*> parts.optional "remarks" .text
      <*> parts.optional "default" .text
      <*> parts.optional "deprecated" .text
      <*> parts.optional "see" .text
      <*> parts.optional "example" .text

end Docs

end ApiDocs
