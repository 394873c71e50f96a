import ApiDocs.Text.Blank
import ApiDocs.Text.CaseTable

/-!
# Full case mapping

A character's lower-case or upper-case form is a list of characters: `ß` has the capitals `SS`.
ASCII keeps core's map, and everything else is looked up in the tables of `ApiDocs.Text.CaseTable`.

One mapping looks at the neighbours.  A capital sigma becomes `ς` at the end of a word and `σ`
elsewhere, where the end of a word means: a cased letter stands before it and none after it, marks
that the `Case_Ignorable` property lists not counted.  `lower` maps whole texts by that rule, while
`lowerChar`, which sees one character, always answers `σ`.
-/

namespace ApiDocs.Text

/-! ## Single characters -/

/-- The single-character mapping of the first run that holds the code point. -/
def shifted (runs : List CaseRun) (n : Nat) : Char :=
  match runs.find? (·.holds n) with
  | some run => Char.ofNat (n + run.shift).toNat
  | none => Char.ofNat n

/-- The lower-case form of a character on its own. -/
def lowerChar (c : Char) : List Char :=
  if c.toNat < 0x80 then [c.toLower]
  else if c.toNat = 0x130 then ['i', '\u0307']
  else [shifted lowerRuns c.toNat]

/-- The upper-case form of a character on its own. -/
def upperChar (c : Char) : List Char :=
  if c.toNat < 0x80 then [c.toUpper]
  else
    match upperExpansions.lookup c.toNat with
    | some expansion => expansion.map Char.ofNat
    | none => [shifted upperRuns c.toNat]

/-! ## Whole texts -/

/-- Whether the first character that `Case_Ignorable` does not list is a cased one. -/
def meetsCased (cs : List Char) : Bool :=
  match cs.dropWhile fun c => inRuns caseIgnorableRuns c.toNat with
  | [] => false
  | c :: _ => inRuns casedRuns c.toNat

/-- The lower-case form of a text, of which `before` was passed already, last character first. -/
def lowerFrom (before : List Char) : List Char → List Char
  | [] => []
  | c :: rest =>
    let mapped :=
      if c = 'Σ' then [if meetsCased before && !meetsCased rest then 'ς' else 'σ'] else lowerChar c
    mapped ++ lowerFrom (c :: before) rest

/-- The lower-case form of a text. -/
def lower (s : String) : String := String.ofList (lowerFrom [] s.toList)

/-- The first character replaced by its form under a mapping, the rest kept. -/
def mapFirst (f : Char → List Char) : List Char → List Char
  | [] => []
  | c :: rest => f c ++ rest

/-- A text with its first character in lower case. -/
def lowerFirst (s : String) : String := String.ofList (mapFirst lowerChar s.toList)

end ApiDocs.Text
