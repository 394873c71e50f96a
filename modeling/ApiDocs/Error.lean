import ApiDocs.Language

/-!
# What can go wrong in writing a reference

Two things end a render: a part of the library that does not exist, and a callable of which the
graph does not give the parameters.  A construct that a convention cannot express ends nothing; the
snippet is left out and a diagnostic takes its place.
-/

namespace ApiDocs

/-- A reason why no reference can be written. -/
inductive RenderError where
  /-- A callable came without its list of parameters. -/
  | missingParameters (fqn member : String)
  /-- No sub-module has the name that was asked for. -/
  | unknownSubmodule (assembly submodule : String)
  deriving DecidableEq

/-- The reason in words. -/
def RenderError.message : RenderError → String
  | missingParameters fqn member =>
    fqn ++ ": `" ++ member ++ "` is missing its parameter list"
  | unknownSubmodule assembly submodule =>
    "assembly `" ++ assembly ++ "` has no sub-module named `" ++ submodule ++ "`"

/-- A construct that a language has no way to express. -/
structure Unsupported where
  language : Language
  construct : String
  deriving DecidableEq

namespace Unsupported

/-- The fact in words. -/
def message (u : Unsupported) : String := u.language.name ++ " cannot express " ++ u.construct

/-- A variadic parameter with others behind it. -/
def earlyVariadic (language : Language) (parameter : String) : Unsupported :=
  ⟨language, "variadic parameter `" ++ parameter ++ "` before the final position"⟩

end Unsupported

/-- A snippet that was left out: the identifier of the entity, and why. -/
structure Diagnostic where
  id : String
  language : Language
  message : String
  deriving DecidableEq

/-- The diagnostic of an entity whose snippet is unsupported. -/
def Diagnostic.ofUnsupported (id : String) (u : Unsupported) : Diagnostic :=
  ⟨id, u.language, u.message⟩

/-- A diagnostic as it is written. -/
def Diagnostic.toJson (d : Diagnostic) : Json :=
  .object [("id", .text d.id), ("language", d.language.toJson), ("message", .text d.message)]

end ApiDocs
