/-!
# Blank characters and the end of a text

A document's text ends where its last visible character ends: what follows is the blank space that
the last block left behind.  *Blank* is the `White_Space` property of the Unicode character
database, twenty-five code points in ten runs, which is wider than core's `Char.isWhitespace`
(`isBlank_of_isWhitespace` says that nothing core calls white space is left out).
-/

namespace ApiDocs.Text

/-- The code points of Unicode's `White_Space` property, as closed runs. -/
def blankRuns : List (Nat × Nat) :=
  [(0x09, 0x0D), (0x20, 0x20), (0x85, 0x85), (0xA0, 0xA0), (0x1680, 0x1680), (0x2000, 0x200A),
    (0x2028, 0x2029), (0x202F, 0x202F), (0x205F, 0x205F), (0x3000, 0x3000)]

/-- Whether a code point lies in one of the closed runs. -/
def inRuns (runs : List (Nat × Nat)) (n : Nat) : Bool :=
  runs.any fun run => run.1 ≤ n && n ≤ run.2

/-- A blank character: one with Unicode's `White_Space` property. -/
def isBlank (c : Char) : Bool := inRuns blankRuns c.toNat

/-- Core's white space is blank. -/
theorem isBlank_of_isWhitespace (c : Char) (h : c.isWhitespace = true) : isBlank c = true := by
  simp only [Char.isWhitespace, Bool.or_eq_true, decide_eq_true_eq] at h
  rcases h with ((rfl | rfl) | rfl) | rfl <;> rfl

/-- A text without the blank characters at its end. -/
def trimEnd (s : String) : String :=
  String.ofList (s.toList.reverse.dropWhile isBlank).reverse

end ApiDocs.Text
