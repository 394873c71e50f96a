import Mathlib.Data.List.Basic
import Mathlib.Tactic.Lemma
import ApiDocs.Name.Snake

/-!
# Replacing matches of a pattern

The two passes of snake case are replacements: each has a pattern of two groups, and wherever the
pattern matches, an underscore is put between what the groups have matched.  Here the patterns are
data and matching is that of a backtracking matcher.  All ways in which a pattern can match at some
place are listed, those first that such a matcher tries first, so a repeated item takes as many
characters as it can and gives them back one by one (`PatternItem.ways`).  The first way counts.  A
replacement goes through a text from the left, and behind a match it goes on where the match has
ended, so that matches do not overlap (`Pattern.Replaces`).

The passes look at each character once and never go back.  That they are these replacements
(`replaces_splitAcronyms`, `replaces_splitWords`) is a matter of runs of capitals: a match of the
first pattern can only begin where a run does, and it leaves the run's last capital to its second
group.
-/

namespace ApiDocs.Name

/-! ## Patterns -/

/-- A part of a pattern: one character of a class, or one or more of them. -/
inductive PatternItem where
  | one (holds : Char → Bool)
  | many (holds : Char → Bool)

namespace PatternItem

/-- The ways in which one or more characters of a class are taken, longest first: the characters
taken and those that are left. -/
def waysOfMany (holds : Char → Bool) : List Char → List (List Char × List Char)
  | [] => []
  | c :: rest =>
    if holds c then ((waysOfMany holds rest).map fun way => (c :: way.1, way.2)) ++ [([c], rest)]
    else []

/-- The ways in which an item matches at the start of a text, preferred ones first. -/
def ways : PatternItem → List Char → List (List Char × List Char)
  | one _, [] => []
  | one holds, c :: rest => if holds c then [([c], rest)] else []
  | many holds, cs => waysOfMany holds cs

/-- The ways in which items match one after the other, preferred ones first. -/
def waysInTurn : List PatternItem → List Char → List (List Char × List Char)
  | [], cs => [([], cs)]
  | item :: items, cs =>
    (item.ways cs).flatMap fun way =>
      (waysInTurn items way.2).map fun more => (way.1 ++ more.1, more.2)

end PatternItem

/-- A pattern of two groups. -/
structure Pattern where
  first : List PatternItem
  second : List PatternItem

namespace Pattern

/-- A match of a pattern: what its groups have taken and what is left behind it. -/
structure Match where
  first : List Char
  second : List Char
  left : List Char

/-- The matches of a pattern at the start of a text, preferred ones first. -/
def allMatches (p : Pattern) (cs : List Char) : List Match :=
  (PatternItem.waysInTurn p.first cs).flatMap fun way =>
    (PatternItem.waysInTurn p.second way.2).map fun more => ⟨way.1, more.1, more.2⟩

/-- The match of a pattern at the start of a text. -/
def match? (p : Pattern) (cs : List Char) : Option Match := (p.allMatches cs).head?

/-- That the second text is the first one with an underscore between the groups of each match, where
matches are looked for from the left and each one begins behind the one before. -/
inductive Replaces (p : Pattern) : List Char → List Char → Prop
  | nil : p.Replaces [] []
  | found {c : Char} {rest out : List Char} {m : Match} (h : p.match? (c :: rest) = some m)
      (hleft : p.Replaces m.left out) :
      p.Replaces (c :: rest) (m.first ++ '_' :: (m.second ++ out))
  | passed {c : Char} {rest out : List Char} (h : p.match? (c :: rest) = none)
      (hrest : p.Replaces rest out) : p.Replaces (c :: rest) (c :: out)

/-- A replacement has one result. -/
theorem Replaces.unique {p : Pattern} {cs out out' : List Char} (h : p.Replaces cs out)
    (h' : p.Replaces cs out') : out = out' := by
  induction h generalizing out' with
  | nil =>
    cases h'
    rfl
  | found hmatch _ ih =>
    cases h' with
    | found hmatch' hleft =>
      obtain rfl := Option.some.inj (hmatch.symm.trans hmatch')
      rw [ih hleft]
    | passed hnone _ => simp [hmatch] at hnone
  | passed hnone _ ih =>
    cases h' with
    | found hmatch _ => simp [hmatch] at hnone
    | passed _ hrest => rw [ih hrest]

lemma Replaces.of_match? {p : Pattern} {cs out : List Char} {m : Match} (hne : cs ≠ [])
    (h : p.match? cs = some m) (hleft : p.Replaces m.left out) :
    p.Replaces cs (m.first ++ '_' :: (m.second ++ out)) := by
  cases cs with
  | nil => exact absurd rfl hne
  | cons c rest => exact .found h hleft

end Pattern

/-! ## The patterns of the two passes -/

/-- A run of capitals, and behind it the capital and the small letter that a word begins with. -/
def acronymPattern : Pattern where
  first := [.many isCapital]
  second := [.one isCapital, .one isSmall]

/-- A small letter or a digit, and behind it a capital. -/
def wordPattern : Pattern where
  first := [.one fun c => isSmall c || isDigit c]
  second := [.one isCapital]

namespace PatternItem

lemma waysInTurn_singleton (item : PatternItem) (cs : List Char) :
    waysInTurn [item] cs = item.ways cs := by
  simp [waysInTurn]

end PatternItem

/-! ## Runs of capitals -/

/-- Whether a text begins with a capital and a small letter. -/
def beginsWord : List Char → Bool
  | c :: d :: _ => isCapital c && isSmall d
  | _ => false

lemma secondWays_eq_nil {cs : List Char} (h : beginsWord cs = false) :
    PatternItem.waysInTurn acronymPattern.second cs = [] := by
  match cs with
  | [] => rfl
  | [c] => cases hc : isCapital c <;> simp [acronymPattern, PatternItem.waysInTurn,
      PatternItem.ways, hc]
  | c :: d :: rest =>
    cases hc : isCapital c <;> cases hd : isSmall d <;>
      simp_all [acronymPattern, PatternItem.waysInTurn, PatternItem.ways, beginsWord]

lemma secondWays_cons {c d : Char} (hc : isCapital c = true) (hd : isSmall d = true)
    (rest : List Char) :
    PatternItem.waysInTurn acronymPattern.second (c :: d :: rest) = [([c, d], rest)] := by
  simp [acronymPattern, PatternItem.waysInTurn, PatternItem.ways, hc, hd]

/-- Within a run of capitals no word begins but with the last one. -/
lemma beginsWord_run {c last : Char} {caps : List Char} (hcaps : ∀ c ∈ caps, isCapital c = true)
    (hlast : isCapital last = true) (rest : List Char) :
    beginsWord (c :: (caps ++ last :: rest)) = false := by
  cases caps with
  | nil => simp [beginsWord, (not_small_or_digit_of_isCapital hlast).1]
  | cons d caps =>
    rw [List.forall_mem_cons] at hcaps
    simp [beginsWord, (not_small_or_digit_of_isCapital hcaps.1).1]

/-- That a text goes on behind a run of capitals in such a way that the run has no match: neither
with a capital nor, if the run has two capitals, with a small letter. -/
def EndsRun (caps rest : List Char) : Prop :=
  ∀ x ∈ rest.head?, isCapital x = false ∧ (isSmall x = true → caps.length ≤ 1)

lemma EndsRun.tail {c : Char} {caps rest : List Char} (h : EndsRun (c :: caps) rest) :
    EndsRun caps rest := by
  intro x hx
  obtain ⟨hcapital, hshort⟩ := h x hx
  refine ⟨hcapital, fun hsmall => ?_⟩
  have := hshort hsmall
  rw [List.length_cons] at this
  omega

/-- No word begins within a run that has no match. -/
lemma EndsRun.beginsWord_eq_false {c : Char} {caps rest : List Char}
    (hcaps : ∀ c ∈ caps, isCapital c = true) (h : EndsRun (c :: caps) rest) :
    beginsWord (caps ++ rest) = false := by
  match caps, rest with
  | [], [] => rfl
  | [], [x] => rfl
  | [], x :: y :: rest => simp [beginsWord, (h x rfl).1]
  | [d], [] => rfl
  | [d], x :: rest =>
    have hsmall : isSmall x = false := by
      by_contra hx
      have hlength := (h x rfl).2 (by simpa using hx)
      simp at hlength
    simp [beginsWord, hsmall]
  | d :: e :: caps, rest =>
    have hsmall := (not_small_or_digit_of_isCapital (hcaps e (by simp))).1
    simp [beginsWord, hsmall]

lemma allMatches_nil : acronymPattern.allMatches [] = [] := rfl

lemma allMatches_cons_of_not_capital {c : Char} (hc : isCapital c = false) (rest : List Char) :
    acronymPattern.allMatches (c :: rest) = [] := by
  simp [Pattern.allMatches, acronymPattern, PatternItem.waysInTurn_singleton, PatternItem.ways,
    PatternItem.waysOfMany, hc]

/-- A match at a capital is one behind it with the capital put before, or the first group is the
capital alone. -/
lemma allMatches_cons {c : Char} (hc : isCapital c = true) (rest : List Char) :
    acronymPattern.allMatches (c :: rest) =
      ((acronymPattern.allMatches rest).map fun m => { m with first := c :: m.first }) ++
        (PatternItem.waysInTurn acronymPattern.second rest).map fun more =>
          ⟨[c], more.1, more.2⟩ := by
  simp [Pattern.allMatches, acronymPattern, PatternItem.waysInTurn_singleton, PatternItem.ways,
    PatternItem.waysOfMany, hc, List.map_flatMap, List.flatMap_map, Function.comp_def]

lemma allMatches_eq_nil {caps rest : List Char} (hcaps : ∀ c ∈ caps, isCapital c = true)
    (hend : EndsRun caps rest) : acronymPattern.allMatches (caps ++ rest) = [] := by
  induction caps with
  | nil =>
    cases rest with
    | nil => exact allMatches_nil
    | cons x rest => exact allMatches_cons_of_not_capital (hend x rfl).1 rest
  | cons c caps ih =>
    rw [List.forall_mem_cons] at hcaps
    rw [List.cons_append, allMatches_cons hcaps.1, ih hcaps.2 hend.tail,
      secondWays_eq_nil (hend.beginsWord_eq_false hcaps.2)]
    rfl

/-- A run of two capitals or more with a small letter behind it has one match: the last capital
begins a word. -/
lemma allMatches_run {caps rest : List Char} {last x : Char} (hne : caps ≠ [])
    (hcaps : ∀ c ∈ caps, isCapital c = true) (hlast : isCapital last = true)
    (hx : isSmall x = true) :
    acronymPattern.allMatches (caps ++ last :: x :: rest) = [⟨caps, [last, x], rest⟩] := by
  induction caps with
  | nil => exact absurd rfl hne
  | cons c caps ih =>
    rw [List.forall_mem_cons] at hcaps
    rw [List.cons_append, allMatches_cons hcaps.1]
    cases caps with
    | nil =>
      have hnone : acronymPattern.allMatches ([last] ++ x :: rest) = [] :=
        allMatches_eq_nil (by simpa using hlast)
          (by simp [EndsRun, isCapital_eq_false_of_isSmall hx])
      rw [List.singleton_append] at hnone
      rw [List.nil_append, hnone, secondWays_cons hlast hx]
      rfl
    | cons d caps =>
      rw [List.forall_mem_cons] at hcaps
      rw [ih (List.cons_ne_nil d caps) (List.forall_mem_cons.2 hcaps.2), List.cons_append,
        secondWays_eq_nil (beginsWord_run hcaps.2.2 hlast (x :: rest))]
      rfl

/-! ## The first pass -/

/-- How the first pass goes through a text: by characters that are no capitals, by runs of capitals
that have no match, and by runs that have one. -/
inductive AcronymsSplit : List Char → List Char → Prop
  | nil : AcronymsSplit [] []
  | other {c : Char} {rest out : List Char} (hc : isCapital c = false)
      (hrest : AcronymsSplit rest out) : AcronymsSplit (c :: rest) (c :: out)
  | run {caps rest out : List Char} (hcaps : ∀ c ∈ caps, isCapital c = true)
      (hend : EndsRun caps rest) (hrest : AcronymsSplit rest out) :
      AcronymsSplit (caps ++ rest) (caps ++ out)
  | word {caps rest out : List Char} {last x : Char} (hne : caps ≠ [])
      (hcaps : ∀ c ∈ caps, isCapital c = true) (hlast : isCapital last = true)
      (hx : isSmall x = true) (hrest : AcronymsSplit rest out) :
      AcronymsSplit (caps ++ last :: x :: rest) (caps ++ '_' :: last :: x :: out)

/-- What the first pass has read but not written is a run of capitals. -/
lemma acronymsSplit_from (cs run : List Char) (hrun : ∀ c ∈ run, isCapital c = true) :
    AcronymsSplit (run.reverse ++ cs) (splitAcronymsFrom run cs) := by
  have hcaps {run : List Char} (hrun : ∀ c ∈ run, isCapital c = true) :
      ∀ c ∈ run.reverse, isCapital c = true := fun c hc => hrun c (List.mem_reverse.1 hc)
  induction cs generalizing run with
  | nil =>
    have hend : EndsRun run.reverse [] := by simp [EndsRun]
    simpa [splitAcronymsFrom] using AcronymsSplit.run (hcaps hrun) hend .nil
  | cons c cs ih =>
    have hrest : AcronymsSplit cs (splitAcronymsFrom [] cs) := by
      simpa using ih [] (by simp)
    by_cases hc : isCapital c = true
    · have hcons : ∀ d ∈ c :: run, isCapital d = true := List.forall_mem_cons.2 ⟨hc, hrun⟩
      simpa [splitAcronymsFrom, hc] using ih (c :: run) hcons
    · rw [Bool.not_eq_true] at hc
      match run with
      | [] => simpa [splitAcronymsFrom, hc] using AcronymsSplit.other hc hrest
      | [last] =>
        have hend : EndsRun [last] (c :: cs) := by simp [EndsRun, hc]
        simpa [splitAcronymsFrom, hc] using AcronymsSplit.run hrun hend (.other hc hrest)
      | last :: next :: more =>
        by_cases hsmall : isSmall c = true
        · rw [List.forall_mem_cons] at hrun
          simpa [splitAcronymsFrom, hc, hsmall] using
            AcronymsSplit.word (by simp) (hcaps hrun.2) hrun.1 hsmall hrest
        · rw [Bool.not_eq_true] at hsmall
          have hend : EndsRun (last :: next :: more).reverse (c :: cs) := by
            simp [EndsRun, hc, hsmall]
          simpa [splitAcronymsFrom, hc, hsmall] using
            AcronymsSplit.run (hcaps hrun) hend (.other hc hrest)

theorem acronymsSplit (cs : List Char) : AcronymsSplit cs (splitAcronyms cs) := by
  simpa [splitAcronyms] using acronymsSplit_from cs [] (by simp)

/-- Where a run has no match a replacement passes over it. -/
lemma replaces_over_run {caps rest out : List Char} (hcaps : ∀ c ∈ caps, isCapital c = true)
    (hend : EndsRun caps rest) (h : acronymPattern.Replaces rest out) :
    acronymPattern.Replaces (caps ++ rest) (caps ++ out) := by
  induction caps with
  | nil => exact h
  | cons c caps ih =>
    have hnone : acronymPattern.match? (c :: (caps ++ rest)) = none := by
      rw [Pattern.match?, ← List.cons_append, allMatches_eq_nil hcaps hend]
      rfl
    rw [List.forall_mem_cons] at hcaps
    exact .passed hnone (ih hcaps.2 hend.tail)

lemma AcronymsSplit.replaces {cs out : List Char} (h : AcronymsSplit cs out) :
    acronymPattern.Replaces cs out := by
  induction h with
  | nil => exact .nil
  | other hc _ ih =>
    refine .passed ?_ ih
    rw [Pattern.match?, allMatches_cons_of_not_capital hc]
    rfl
  | run hcaps hend _ ih => exact replaces_over_run hcaps hend ih
  | @word caps rest out last x hne hcaps hlast hx _ ih =>
    have hmatch : acronymPattern.match? (caps ++ last :: x :: rest) =
        some ⟨caps, [last, x], rest⟩ := by
      rw [Pattern.match?, allMatches_run hne hcaps hlast hx]
      rfl
    exact .of_match? (by simp) hmatch ih

/-- The first pass is the replacement of the first pattern. -/
theorem replaces_splitAcronyms (cs : List Char) : acronymPattern.Replaces cs (splitAcronyms cs) :=
  (acronymsSplit cs).replaces

/-! ## The second pass -/

lemma wordPattern_match? (cs : List Char) :
    wordPattern.match? cs =
      match cs with
      | a :: b :: rest =>
        if (isSmall a || isDigit a) && isCapital b then some ⟨[a], [b], rest⟩ else none
      | _ => none := by
  match cs with
  | [] => rfl
  | [a] =>
    cases ha : isSmall a || isDigit a <;>
      simp [Pattern.match?, Pattern.allMatches, wordPattern, PatternItem.waysInTurn_singleton,
        PatternItem.ways, ha]
  | a :: b :: rest =>
    cases ha : isSmall a || isDigit a <;> cases hb : isCapital b <;>
      simp [Pattern.match?, Pattern.allMatches, wordPattern, PatternItem.waysInTurn_singleton,
        PatternItem.ways, ha, hb]

/-- No match begins at a capital. -/
lemma splitWords_cons_of_isCapital {c : Char} (hc : isCapital c = true) (rest : List Char) :
    splitWords (c :: rest) = c :: splitWords rest := by
  obtain ⟨hsmall, hdigit⟩ := not_small_or_digit_of_isCapital hc
  cases rest with
  | nil => rfl
  | cons d rest => simp [splitWords, hsmall, hdigit]

/-- The second pass is the replacement of the second pattern.  It looks again at the capital that a
match has ended with, and finds nothing there. -/
theorem replaces_splitWords : ∀ cs : List Char, wordPattern.Replaces cs (splitWords cs)
  | [] => .nil
  | [a] => .passed (wordPattern_match? [a]) .nil
  | a :: b :: rest => by
    by_cases h : ((isSmall a || isDigit a) && isCapital b) = true
    · have hmatch : wordPattern.match? (a :: b :: rest) = some ⟨[a], [b], rest⟩ := by
        rw [wordPattern_match?]
        exact if_pos h
      rw [splitWords, if_pos h, splitWords_cons_of_isCapital (Bool.and_eq_true_iff.1 h).2]
      exact .found hmatch (replaces_splitWords rest)
    · have hnone : wordPattern.match? (a :: b :: rest) = none := by
        rw [wordPattern_match?]
        exact if_neg h
      rw [splitWords, if_neg h]
      exact .passed hnone (replaces_splitWords (b :: rest))

end ApiDocs.Name
