import ApiDocs.Proofs.CaseMapping
import ApiDocs.Proofs.Replacement

/-!
# Where the words of a name end

Two replacements, of which the second one reads what the first has written, put underscores into a
name by a local rule: whether there is one behind a character is seen on the character and the two
behind it (`wordEndsAt`).  For the first replacement this is not how its pattern reads, as a match
takes a whole run of capitals.  It takes all but the last one, though, so that in the run only the
place before its last capital can be a match's middle, and a run reaches at most one match.

The second replacement sees the underscores of the first.  No match of its own begins or ends at an
underscore, and where the first has put one there is no match for the second: it would begin with a
small letter or a digit, and there the first has found a capital.

What has been lower-cased has no capital and no word ends in it, so snake case is its own snake
case.
-/

namespace ApiDocs.Name

/-! ## The rule -/

/-- Whether a word ends at a position of a text: with a small letter or a digit before a capital, or
with a capital before a capital that a small letter follows. -/
def wordEndsAt (cs : List Char) (i : Nat) : Bool :=
  cs[i]?.any (fun c => isSmall c || isDigit c) && cs[i + 1]?.any isCapital ||
    cs[i]?.any isCapital && cs[i + 1]?.any isCapital && cs[i + 2]?.any isSmall

/-- A text with an underscore behind each position at which a word ends. -/
def underscored (cs : List Char) : List Char :=
  (cs.mapIdx fun i c => if wordEndsAt cs i then [c, '_'] else [c]).flatten

/-! ## The rule as a recursion -/

/-- A text with an underscore behind each character at which it is found to be divided; the test
sees the text from there on. -/
def divide (divides : List Char → Bool) : List Char → List Char
  | [] => []
  | c :: rest =>
    if divides (c :: rest) then c :: '_' :: divide divides rest else c :: divide divides rest

/-- Whether a text begins with a small letter or a digit, and then a capital. -/
def endsLower : List Char → Bool
  | a :: b :: _ => (isSmall a || isDigit a) && isCapital b
  | _ => false

/-- Whether a text begins with a capital, and then a word. -/
def endsAcronym : List Char → Bool
  | a :: rest => isCapital a && beginsWord rest
  | _ => false

/-- Whether a word ends with the first character of a text. -/
def endsWord (cs : List Char) : Bool := endsLower cs || endsAcronym cs

lemma wordEndsAt_zero (cs : List Char) : wordEndsAt cs 0 = endsWord cs := by
  match cs with
  | [] => rfl
  | [a] => simp [wordEndsAt, endsWord, endsLower, endsAcronym, beginsWord]
  | [a, b] => simp [wordEndsAt, endsWord, endsLower, endsAcronym, beginsWord]
  | a :: b :: c :: rest =>
    simp [wordEndsAt, endsWord, endsLower, endsAcronym, beginsWord, Bool.and_assoc]

lemma wordEndsAt_succ (c : Char) (cs : List Char) (i : Nat) :
    wordEndsAt (c :: cs) (i + 1) = wordEndsAt cs i :=
  rfl

theorem underscored_eq_divide (cs : List Char) : underscored cs = divide endsWord cs := by
  induction cs with
  | nil => rfl
  | cons c cs ih =>
    rw [underscored, List.mapIdx_cons, List.flatten_cons, divide, ← ih]
    simp only [wordEndsAt_succ, wordEndsAt_zero]
    split <;> rfl

/-! ## The replacements by the rule -/

lemma divide_cons_of_eq_false {divides : List Char → Bool} {c : Char} {rest : List Char}
    (h : divides (c :: rest) = false) : divide divides (c :: rest) = c :: divide divides rest := by
  simp [divide, h]

/-- A text begins as it did. -/
lemma exists_divide_cons (divides : List Char → Bool) (c : Char) (rest : List Char) :
    ∃ more, divide divides (c :: rest) = c :: more := by
  rw [divide]
  split
  · exact ⟨_, rfl⟩
  · exact ⟨_, rfl⟩

lemma divide_over_run {caps rest : List Char} (hcaps : ∀ c ∈ caps, isCapital c = true)
    (hend : EndsRun caps rest) :
    divide endsAcronym (caps ++ rest) = caps ++ divide endsAcronym rest := by
  induction caps with
  | nil => rfl
  | cons c caps ih =>
    rw [List.forall_mem_cons] at hcaps
    have hnone : endsAcronym (c :: (caps ++ rest)) = false := by
      simp [endsAcronym, hend.beginsWord_eq_false hcaps.2]
    rw [List.cons_append, divide_cons_of_eq_false hnone, ih hcaps.2 hend.tail, List.cons_append]

lemma divide_over_word {caps rest : List Char} {last x : Char} (hne : caps ≠ [])
    (hcaps : ∀ c ∈ caps, isCapital c = true) (hlast : isCapital last = true)
    (hx : isSmall x = true) :
    divide endsAcronym (caps ++ last :: x :: rest) =
      caps ++ '_' :: last :: x :: divide endsAcronym rest := by
  induction caps with
  | nil => exact absurd rfl hne
  | cons c caps ih =>
    rw [List.forall_mem_cons] at hcaps
    cases caps with
    | nil =>
      have hxcapital := isCapital_eq_false_of_isSmall hx
      have hword : endsAcronym (c :: last :: x :: rest) = true := by
        simp [endsAcronym, beginsWord, hcaps.1, hlast, hx]
      have hlastends : endsAcronym (last :: x :: rest) = false := by
        cases rest <;> simp [endsAcronym, beginsWord, hxcapital]
      have hxends : endsAcronym (x :: rest) = false := by simp [endsAcronym, hxcapital]
      rw [List.singleton_append, divide, if_pos hword, divide_cons_of_eq_false hlastends,
        divide_cons_of_eq_false hxends, List.singleton_append]
    | cons d caps =>
      rw [List.forall_mem_cons] at hcaps
      have hnone : endsAcronym (c :: d :: (caps ++ last :: x :: rest)) = false := by
        simp [endsAcronym, beginsWord_run hcaps.2.2 hlast]
      have hcaps' := ih (List.cons_ne_nil d caps) (List.forall_mem_cons.2 hcaps.2)
      rw [List.cons_append] at hcaps'
      rw [List.cons_append, List.cons_append, divide_cons_of_eq_false hnone, hcaps']
      rfl

lemma AcronymsSplit.eq_divide {cs out : List Char} (h : AcronymsSplit cs out) :
    out = divide endsAcronym cs := by
  induction h with
  | nil => rfl
  | @other c rest out hc _ ih =>
    have hnone : endsAcronym (c :: rest) = false := by simp [endsAcronym, hc]
    rw [divide_cons_of_eq_false hnone, ih]
  | run hcaps hend _ ih => rw [divide_over_run hcaps hend, ih]
  | word hne hcaps hlast hx _ ih => rw [divide_over_word hne hcaps hlast hx, ih]

lemma splitWords_eq_divide : ∀ cs : List Char, splitWords cs = divide endsLower cs
  | [] => rfl
  | [_] => rfl
  | a :: b :: rest => by
    rw [splitWords, divide, splitWords_eq_divide (b :: rest)]
    rfl

/-- An underscore that was put in is neither the end of a match nor the beginning of one. -/
lemma divide_divide (cs : List Char) :
    divide endsLower (divide endsAcronym cs) = divide endsWord cs := by
  induction cs with
  | nil => rfl
  | cons c cs ih =>
    by_cases hacronym : endsAcronym (c :: cs) = true
    · have hword : endsWord (c :: cs) = true := by simp [endsWord, hacronym]
      have hc : endsLower (c :: '_' :: divide endsAcronym cs) = false := by
        simp [endsLower, show isCapital '_' = false from rfl]
      have hunderscore : endsLower ('_' :: divide endsAcronym cs) = false := by
        cases divide endsAcronym cs with
        | nil => rfl
        | cons d rest => rfl
      rw [divide, if_pos hacronym, divide_cons_of_eq_false hc,
        divide_cons_of_eq_false hunderscore, ih, divide, if_pos hword]
    · have hlower : endsLower (c :: divide endsAcronym cs) = endsLower (c :: cs) := by
        cases cs with
        | nil => rfl
        | cons d rest =>
          obtain ⟨more, hmore⟩ := exists_divide_cons endsAcronym d rest
          rw [hmore]
          rfl
      have hword : endsWord (c :: cs) = endsLower (c :: cs) := by simp [endsWord, hacronym]
      rw [divide, if_neg hacronym, divide, hlower, ih, divide, hword]

theorem splitWords_splitAcronyms (cs : List Char) :
    splitWords (splitAcronyms cs) = underscored cs := by
  rw [splitWords_eq_divide, (acronymsSplit cs).eq_divide, divide_divide, underscored_eq_divide]

/-! ## Words -/

/-- A text that is divided is a list of words with an underscore between any two. -/
lemma exists_words (cs : List Char) : ∃ words : List (List Char),
    [] ∉ words ∧ words.flatten = cs ∧ divide endsWord cs = ['_'].intercalate words := by
  induction cs with
  | nil => exact ⟨[], by simp, rfl, rfl⟩
  | cons c cs ih =>
    obtain ⟨words, hne, rfl, hwords⟩ := ih
    cases words with
    | nil =>
      have hlast : endsWord [c] = false := by
        simp [endsWord, endsLower, endsAcronym, beginsWord]
      exact ⟨[[c]], by simp, rfl, divide_cons_of_eq_false hlast⟩
    | cons word words =>
      by_cases hends : endsWord (c :: (word :: words).flatten) = true
      · refine ⟨[c] :: word :: words, by simpa using hne, rfl, ?_⟩
        rw [divide, if_pos hends, hwords]
        simp
      · refine ⟨(c :: word) :: words, by simp_all, rfl, ?_⟩
        rw [divide, if_neg hends, hwords]
        cases words with
        | nil => simp
        | cons next words => simp

/-- No word ends in a text that has no capital. -/
lemma divide_eq_self {cs : List Char} (h : ∀ c ∈ cs, isCapital c = false) :
    divide endsWord cs = cs := by
  induction cs with
  | nil => rfl
  | cons c cs ih =>
    rw [List.forall_mem_cons] at h
    have hnone : endsWord (c :: cs) = false := by
      cases cs with
      | nil => simp [endsWord, endsLower, endsAcronym, h.1]
      | cons d rest => simp [endsWord, endsLower, endsAcronym, h.1, h.2 d (by simp)]
    rw [divide_cons_of_eq_false hnone, ih h.2]

/-! ## Snake case -/

theorem snake_eq (name : String) :
    snake name = Text.lower (String.ofList (underscored name.toList)) := by
  rw [snake, splitWords_splitAcronyms]

/-- Snake case has no capitals. -/
lemma isCapital_of_mem_snake (name : String) :
    ∀ c ∈ (snake name).toList, isCapital c = false := by
  intro c hc
  have hself := Text.toNat_of_lowerChar_eq (Text.lowerChar_of_mem_lower hc)
  rw [← Bool.not_eq_true, isCapital_iff]
  omega

lemma snake_snake (name : String) : snake (snake name) = snake name := by
  rw [snake_eq (snake name), underscored_eq_divide, divide_eq_self (isCapital_of_mem_snake name),
    String.ofList_toList, snake_eq name, Text.lower_lower]

/-- Replacing matches of the two patterns, one pattern after the other, has exactly one result.  It
is the name with an underscore wherever a word ends, so its words are those of the name, joined by
single underscores.  Snake case is the lower-case form of this result, and it is its own snake
case. -/
theorem snake_underscored (name : String) :
    (∀ out, (∃ first, acronymPattern.Replaces name.toList first ∧ wordPattern.Replaces first out) ↔
      out = underscored name.toList) ∧
      (∃ words : List (List Char), [] ∉ words ∧ words.flatten = name.toList ∧
        underscored name.toList = ['_'].intercalate words) ∧
      snake name = Text.lower (String.ofList (underscored name.toList)) ∧
      snake (snake name) = snake name := by
  refine ⟨fun out => ⟨?_, ?_⟩, ?_, snake_eq name, snake_snake name⟩
  · rintro ⟨first, hfirst, hout⟩
    rw [hfirst.unique (replaces_splitAcronyms name.toList)] at hout
    rw [hout.unique (replaces_splitWords _), splitWords_splitAcronyms]
  · rintro rfl
    rw [← splitWords_splitAcronyms]
    exact ⟨_, replaces_splitAcronyms name.toList, replaces_splitWords _⟩
  · rw [underscored_eq_divide]
    exact exists_words name.toList

example : String.ofList (underscored "myARNForBucket2X".toList) = "my_ARN_For_Bucket2_X" := by
  decide

end ApiDocs.Name
