import ApiDocs.Text.Casing

/-!
# Snake case

`bucketARNForPolicy` becomes `bucket_arn_for_policy`.  Two passes over the name put the underscores
in, and lower-casing follows.

The first pass separates a run of capitals from the word that its last capital begins: `ARNFor`
becomes `ARN_For`.  A match is a run of at least two capitals with a small letter behind it, the run
taken as long as it goes.  The second pass separates a small letter or a digit from the capital
behind it.  All three classes are ASCII classes; lower-casing is not.
-/

namespace ApiDocs.Name

/-- An ASCII capital letter. -/
def isCapital (c : Char) : Bool := 'A' ≤ c && c ≤ 'Z'

/-- An ASCII small letter. -/
def isSmall (c : Char) : Bool := 'a' ≤ c && c ≤ 'z'

/-- An ASCII decimal digit. -/
def isDigit (c : Char) : Bool := '0' ≤ c && c ≤ '9'

theorem isCapital_iff (c : Char) : isCapital c = true ↔ 65 ≤ c.toNat ∧ c.toNat ≤ 90 := by
  simp only [isCapital, Char.le_def, UInt32.le_iff_toNat_le, Bool.and_eq_true, decide_eq_true_eq]
  rfl

theorem isSmall_iff (c : Char) : isSmall c = true ↔ 97 ≤ c.toNat ∧ c.toNat ≤ 122 := by
  simp only [isSmall, Char.le_def, UInt32.le_iff_toNat_le, Bool.and_eq_true, decide_eq_true_eq]
  rfl

theorem isDigit_iff (c : Char) : isDigit c = true ↔ 48 ≤ c.toNat ∧ c.toNat ≤ 57 := by
  simp only [isDigit, Char.le_def, UInt32.le_iff_toNat_le, Bool.and_eq_true, decide_eq_true_eq]
  rfl

/-- A capital is neither a small letter nor a digit. -/
theorem not_small_or_digit_of_isCapital {c : Char} (h : isCapital c = true) :
    isSmall c = false ∧ isDigit c = false := by
  rw [← Bool.not_eq_true, ← Bool.not_eq_true, isSmall_iff, isDigit_iff]
  rw [isCapital_iff] at h
  omega

theorem isCapital_eq_false_of_isSmall {c : Char} (h : isSmall c = true) : isCapital c = false := by
  rw [← Bool.not_eq_true, isCapital_iff]
  rw [isSmall_iff] at h
  omega

/-- The first pass, over the rest of a name of which the capitals in `run`, last one first, were
read but not written yet. -/
def splitAcronymsFrom (run : List Char) : List Char → List Char
  | [] => run.reverse
  | c :: rest =>
    if isCapital c then splitAcronymsFrom (c :: run) rest
    else
      match run with
      | last :: next :: more =>
        if isSmall c then
          (next :: more).reverse ++ '_' :: last :: c :: splitAcronymsFrom [] rest
        else run.reverse ++ c :: splitAcronymsFrom [] rest
      | _ => run.reverse ++ c :: splitAcronymsFrom [] rest

/-- The first pass: an underscore before the last capital of a run that a small letter follows. -/
def splitAcronyms (cs : List Char) : List Char := splitAcronymsFrom [] cs

/-- The second pass: an underscore between a small letter or digit and a capital. -/
def splitWords : List Char → List Char
  | [] => []
  | [c] => [c]
  | a :: b :: rest =>
    if (isSmall a || isDigit a) && isCapital b then a :: '_' :: splitWords (b :: rest)
    else a :: splitWords (b :: rest)

/-- A `camelCase` or `PascalCase` name in `snake_case`. -/
def snake (name : String) : String :=
  Text.lower (String.ofList (splitWords (splitAcronyms name.toList)))

end ApiDocs.Name
