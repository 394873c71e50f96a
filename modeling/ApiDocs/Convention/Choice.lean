import ApiDocs.Convention.CSharp
import ApiDocs.Convention.Java
import ApiDocs.Convention.Python
import ApiDocs.Convention.TypeScript

/-!
# The convention of a language
-/

namespace ApiDocs

/-- The convention that a language follows. -/
def Language.convention : Language → Convention
  | typeScript => Convention.typeScript
  | python => Convention.python
  | java => Convention.java
  | cSharp => Convention.cSharp

/-- The convention of a language is that language's. -/
theorem Language.language_convention (l : Language) : l.convention.language = l := by
  cases l <;> rfl

end ApiDocs
