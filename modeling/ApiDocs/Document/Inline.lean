/-!
# Inline marks

Texts inside a line of a document.
-/

namespace ApiDocs.Inline

/-- The anchor that an identifier is linked by. -/
def anchor (id : String) : String := "<a name=\"" ++ id ++ "\" id=\"" ++ id ++ "\"></a>"

/-- A text as code. -/
def code (text : String) : String := "`" ++ text ++ "`"

/-- A text with emphasis. -/
def emphasis (text : String) : String := "*" ++ text ++ "*"

/-- A text struck through. -/
def struck (text : String) : String := "~~" ++ text ++ "~~"

/-- A text that links to a target. -/
def link (text target : String) : String := "[" ++ text ++ "](" ++ target ++ ")"

end ApiDocs.Inline
