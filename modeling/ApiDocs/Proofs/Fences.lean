import ApiDocs.Proofs.Passages

/-!
# Fenced code in the text of a document

Code is written between two lines of three backticks, the first of which carries the name of its
language.  Here the lines of a text are read for code, knowing nothing about the tree: a line that
begins with three backticks opens a piece of code, and the next line that is three backticks closes
it.

What is read are the tree's pieces of code in their order, if no line of a piece of code is itself
three backticks, and only then: the fences are as long whatever stands between them, so such a line
closes the code it belongs to.  Of the other passages nothing is asked but that no line of theirs
opens code as it is written.  It is enough that none does as authors wrote it, where identifiers and
titles that are set as code stand on one line (`Passage.IsUnfenced.lacksFences`): the marks that the
document adds do not begin with a backtick.

The blank space that is trimmed at the end is a matter of prose only, as code ends in its closing
fence.  So the text of a document is read passage by passage in its trimmed form, from the front.
-/

namespace ApiDocs

/-! ## Reading fences -/

/-- What a line of code is fenced with. -/
def fence : List Char := "```".toList

/-- The lines of a text. -/
def lines (text : List Char) : List (List Char) := text.splitOn '\n'

/-- The language and content of the pieces of code in a list of lines.  Inside of code, its language
and the lines of it that have been read are given.  Code that is not closed does not count. -/
def readCode : Option (List Char × List (List Char)) → List (List Char) → List (String × String)
  | _, [] => []
  | none, line :: rest =>
    if fence <+: line then readCode (some (line.drop fence.length, [])) rest
    else readCode none rest
  | some (language, content), line :: rest =>
    if line = fence then
      (String.ofList language, String.ofList (['\n'].intercalate content)) :: readCode none rest
    else readCode (some (language, content ++ [line])) rest

/-- The language and content of each piece of code in a text, as a reader of the text finds them. -/
def fencedCode (text : List Char) : List (String × String) := readCode none (lines text)

/-- That no line of a text opens code. -/
def LacksFence (text : List Char) : Prop := ∀ line ∈ lines text, ¬ fence <+: line

instance (text : List Char) : Decidable (LacksFence text) :=
  inferInstanceAs (Decidable (∀ line ∈ lines text, ¬ fence <+: line))

/-! ## Lines -/

lemma lines_append_cons (xs ys : List Char) : lines (xs ++ '\n' :: ys) = lines xs ++ lines ys :=
  List.splitOn_append_cons_self xs ys

lemma lines_eq_singleton {xs : List Char} (h : '\n' ∉ xs) : lines xs = [xs] :=
  List.splitOn_eq_singleton h

/-- Texts by their lines: a text is one line, or a line and a text behind its line break. -/
@[elab_as_elim]
theorem lines_induction {motive : List Char → Prop} (line : ∀ xs, '\n' ∉ xs → motive xs)
    (more : ∀ l xs, '\n' ∉ l → motive xs → motive (l ++ '\n' :: xs)) (xs : List Char) :
    motive xs := by
  induction hn : xs.length using Nat.strong_induction_on generalizing xs with
  | _ n ih =>
    by_cases h : '\n' ∈ xs
    · obtain ⟨l, ys, rfl, hl⟩ := List.eq_append_cons_of_mem h
      have hshorter : ys.length < n := by
        rw [← hn, List.length_append, List.length_cons]
        omega
      exact more l ys hl (ih _ hshorter ys rfl)
    · exact line xs h

lemma lacksFence_append_cons {xs ys : List Char} :
    LacksFence (xs ++ '\n' :: ys) ↔ LacksFence xs ∧ LacksFence ys := by
  rw [LacksFence, lines_append_cons, List.forall_mem_append]
  rfl

lemma lacksFence_iff_of_not_mem {xs : List Char} (h : '\n' ∉ xs) :
    LacksFence xs ↔ ¬ fence <+: xs := by
  rw [LacksFence, lines_eq_singleton h, List.forall_mem_singleton]

/-- A line that opens no code opens none when it ends earlier. -/
lemma LacksFence.of_append {xs ys : List Char} (h : LacksFence (xs ++ ys)) : LacksFence xs := by
  induction xs using lines_induction with
  | line xs hxs =>
    rw [lacksFence_iff_of_not_mem hxs]
    intro hopens
    have hlonger (zs : List Char) : fence <+: xs ++ zs := hopens.trans (List.prefix_append _ _)
    induction ys using lines_induction with
    | line ys hys =>
      exact (lacksFence_iff_of_not_mem (List.not_mem_append hxs hys)).1 h (hlonger ys)
    | more l ys hl _ =>
      rw [← List.append_assoc, lacksFence_append_cons] at h
      exact (lacksFence_iff_of_not_mem (List.not_mem_append hxs hl)).1 h.1 (hlonger l)
  | more l xs hl ih =>
    rw [List.append_assoc, List.cons_append, lacksFence_append_cons] at h
    exact lacksFence_append_cons.2 ⟨h.1, ih h.2⟩

lemma not_prefix_of_marks {marks : List Char} (hne : marks ≠ []) (hmarks : ∀ c ∈ marks, c ∉ fence)
    (xs : List Char) : ¬ fence <+: marks ++ xs := by
  obtain ⟨c, marks, rfl⟩ := List.exists_cons_of_ne_nil hne
  intro hopens
  obtain rfl : '`' = c := (List.cons_prefix_cons.1 hopens).1
  exact hmarks _ List.mem_cons_self (by decide)

/-- Marks that are no backticks, put before a text on its first line, open no code. -/
lemma LacksFence.of_marks {marks xs : List Char} (h : LacksFence xs) (hne : marks ≠ [])
    (hmarks : ∀ c ∈ marks, c ∉ fence) (hline : '\n' ∉ marks) : LacksFence (marks ++ xs) := by
  have hopens := not_prefix_of_marks hne hmarks
  induction xs using lines_induction with
  | line xs hxs => exact (lacksFence_iff_of_not_mem (List.not_mem_append hline hxs)).2 (hopens xs)
  | more l xs hl _ =>
    rw [← List.append_assoc, lacksFence_append_cons,
      lacksFence_iff_of_not_mem (List.not_mem_append hline hl)]
    exact ⟨hopens l, (lacksFence_append_cons.1 h).2⟩

/-- The last line of a text opens no code when it goes on with something else than a backtick. -/
lemma LacksFence.append_cons {xs ys : List Char} {c : Char} (h : LacksFence xs)
    (hc : c ∉ fence) (hline : '\n' ∉ c :: ys) : LacksFence (xs ++ c :: ys) := by
  induction xs using lines_induction with
  | line xs hxs =>
    rw [lacksFence_iff_of_not_mem hxs] at h
    rw [lacksFence_iff_of_not_mem (List.not_mem_append hxs hline)]
    intro hopens
    rcases isPrefix_append_cases hopens with hin | ⟨d, zs, hsplit, hrest⟩
    · exact h hin
    · obtain rfl : d = c := (List.cons_prefix_cons.1 hrest).1
      exact hc (hsplit ▸ List.mem_append_right xs List.mem_cons_self)
  | more l xs hl ih =>
    rw [lacksFence_append_cons] at h
    rw [List.append_assoc, List.cons_append, lacksFence_append_cons]
    exact ⟨h.1, ih h.2⟩

/-- Less lines than a text has are not the text. -/
lemma intercalate_ne_of_lines_eq {text : List Char} {ls rest : List (List Char)} {l : List Char}
    (h : lines text = ls ++ l :: rest) (hl : l ≠ []) : ['\n'].intercalate ls ≠ text := by
  have htext : ['\n'].intercalate (ls ++ l :: rest) = text := by
    rw [← h]
    exact List.intercalate_splitOn '\n'
  intro heq
  rcases List.eq_nil_or_concat ls with rfl | ⟨init, last, rfl⟩
  · obtain rfl : text = [] := heq.symm
    have hfirst : [[]] = l :: rest := h
    exact hl (List.cons.inj hfirst).1.symm
  · rw [intercalate_append_cons (by simp), heq] at htext
    exact absurd (congrArg List.length htext) (by simp)

/-! ## Reading line by line -/

/-- Lines that do not open code are passed by. -/
lemma readCode_none_append {ls : List (List Char)} (h : ∀ line ∈ ls, ¬ fence <+: line)
    (rest : List (List Char)) : readCode none (ls ++ rest) = readCode none rest := by
  induction ls with
  | nil => rfl
  | cons line ls ih =>
    obtain ⟨hline, hls⟩ := List.forall_mem_cons.1 h
    rw [List.cons_append, readCode, if_neg hline, ih hls]

/-- Lines that are not three backticks are content, up to the line that is. -/
lemma readCode_some_append {ls : List (List Char)} (h : fence ∉ ls) (language : List Char)
    (content rest : List (List Char)) :
    readCode (some (language, content)) (ls ++ fence :: rest) =
      (String.ofList language, String.ofList (['\n'].intercalate (content ++ ls))) ::
        readCode none rest := by
  induction ls generalizing content with
  | nil => rw [List.nil_append, readCode, if_pos rfl, List.append_nil]
  | cons line ls ih =>
    have hline : line ≠ fence := fun heq => h (heq ▸ List.mem_cons_self)
    rw [List.cons_append, readCode, if_neg hline, ih fun hmem => h (List.mem_cons_of_mem _ hmem),
      List.append_assoc, List.singleton_append]

lemma fencedCode_append_cons {xs : List Char} (h : LacksFence xs) (ys : List Char) :
    fencedCode (xs ++ '\n' :: ys) = fencedCode ys := by
  rw [fencedCode, lines_append_cons, readCode_none_append h]
  rfl

/-! ## Reading a text that is still to be trimmed -/

/-- The code in a text as it stands in a document, where blank space at its end makes way for a line
break. -/
def trimmedCode (text : List Char) : List (String × String) :=
  fencedCode (text.rdropWhile Text.isBlank ++ ['\n'])

/-- Behind a line break, a trimmed text is read as if it stood alone. -/
lemma exists_rdropWhile_cons (ys : List Char) : ∃ zs,
    ('\n' :: ys).rdropWhile Text.isBlank ++ ['\n'] = '\n' :: zs ∧
      fencedCode zs = trimmedCode ys := by
  have hcons := rdropWhile_append Text.isBlank ['\n'] ys
  rw [List.singleton_append] at hcons
  by_cases hys : ys.rdropWhile Text.isBlank = []
  · have hempty : ('\n' :: ys).rdropWhile Text.isBlank = [] := by
      rw [hcons, if_pos hys]
      decide
    refine ⟨[], by rw [hempty, List.nil_append], ?_⟩
    rw [trimmedCode, hys]
    decide
  · refine ⟨ys.rdropWhile Text.isBlank ++ ['\n'], ?_, rfl⟩
    rw [hcons, if_neg hys]
    rfl

/-- Prose up to a line break is passed by, also where it becomes the end of the text. -/
lemma trimmedCode_append_cons {xs : List Char} (h : LacksFence xs) (ys : List Char) :
    trimmedCode (xs ++ '\n' :: ys) = trimmedCode ys := by
  by_cases hend : ('\n' :: ys).rdropWhile Text.isBlank = []
  · have hys : ys.rdropWhile Text.isBlank = [] := by
      rw [List.rdropWhile_eq_nil_iff] at hend ⊢
      exact fun c hc => hend c (List.mem_cons_of_mem _ hc)
    have hxs : LacksFence (xs.rdropWhile Text.isBlank) := by
      rw [← List.rdropWhile_append_rtakeWhile (l := xs) (p := Text.isBlank)] at h
      exact h.of_append
    rw [trimmedCode, trimmedCode, rdropWhile_append, if_pos hend, hys,
      fencedCode_append_cons hxs]
    decide
  · obtain ⟨zs, hsplit, hread⟩ := exists_rdropWhile_cons ys
    rw [trimmedCode, rdropWhile_append, if_neg hend, List.append_assoc, hsplit,
      fencedCode_append_cons h, hread]

lemma trimmedCode_cons (ys : List Char) : trimmedCode ('\n' :: ys) = trimmedCode ys := by
  have hempty : LacksFence [] := by decide
  exact trimmedCode_append_cons hempty ys

/-- Code is read line by line up to the first of its lines that closes it; its own closing fence is
behind the content, and behind that the text goes on. -/
lemma exists_trimmedCode_code_append {language : String} (h : '\n' ∉ language.toList)
    (content : String) (ys : List Char) : ∃ rest,
      trimmedCode ((Passage.code language content).chars ++ ys) =
          readCode (some (language.toList, [])) (lines content.toList ++ fence :: rest) ∧
        readCode none rest = trimmedCode ys := by
  obtain ⟨zs, hsplit, hread⟩ := exists_rdropWhile_cons ('\n' :: ys)
  have hfence : (fence ++ language.toList) ++ '\n' :: (content.toList ++
      '\n' :: ("``".toList ++ '`' :: '\n' :: '\n' :: ys)) =
      (Passage.code language content).chars ++ ys := by
    simp only [Passage.chars, Passage.written, String.toList_append, List.append_assoc, fence]
    rfl
  have htrim : ((Passage.code language content).chars ++ ys).rdropWhile Text.isBlank ++ ['\n'] =
      (fence ++ language.toList) ++ '\n' :: (content.toList ++ '\n' :: (fence ++ '\n' :: zs)) := by
    have hvisible : Text.isBlank '`' = false := by decide
    have hkept := rdropWhile_append_cons hvisible
      ((fence ++ language.toList) ++ '\n' :: (content.toList ++ '\n' :: "``".toList))
      ('\n' :: '\n' :: ys)
    simp only [List.append_assoc, List.cons_append] at hkept hfence ⊢
    rw [← hfence, hkept, ← hsplit]
    simp only [List.append_assoc, List.cons_append, fence]
    rfl
  have hopening : '\n' ∉ fence ++ language.toList := List.not_mem_append (by decide) h
  have hlast : lines fence = [fence] := by decide
  refine ⟨lines zs, ?_, ?_⟩
  · rw [trimmedCode, htrim, fencedCode, lines_append_cons, lines_append_cons, lines_append_cons,
      lines_eq_singleton hopening, hlast, List.singleton_append, List.singleton_append, readCode,
      if_pos (List.prefix_append _ _), List.drop_left]
  · rw [← fencedCode, hread, trimmedCode_cons]

/-! ## Documents -/

/-- What opens a section is nothing, or ends in a blank line. -/
lemma openingLines_cases (level : Nat) (header : Option Header) (id : Option String) :
    (openingLines level header id).toList = [] ∨
      ∃ line, (openingLines level header id).toList = line ++ ['\n', '\n'] := by
  have hblank (line : String) : (line ++ "\n\n").toList = line.toList ++ ['\n', '\n'] :=
    String.toList_append
  cases header with
  | none =>
    cases id with
    | none => exact .inl rfl
    | some id => exact .inr ⟨_, hblank _⟩
  | some header => cases id <;> exact .inr ⟨_, hblank _⟩

namespace Header

/-- A title on one line is set on one line. -/
lemma not_mem_written {header : Header} (h : '\n' ∉ header.title.toList) :
    '\n' ∉ header.written.toList := by
  refine header.written_induction (motive := fun title => '\n' ∉ title.toList) h ?_ ?_
  · intro title h
    simp only [Inline.code, String.toList_append, List.mem_append, h, or_false]
    decide
  · intro title h
    simp only [Inline.struck, String.toList_append, List.mem_append, h, or_false]
    decide

/-- Striking a title through does not make a line of it open code. -/
lemma lacksFence_written {header : Header} (h : LacksFence header.title.toList)
    (hcode : header.isCode = false) : LacksFence header.written.toList := by
  have hstruck : LacksFence (Inline.struck header.title).toList := by
    have hmarks : ∀ c ∈ "~~".toList, c ∉ fence := by simp [fence]
    rw [Inline.struck, String.toList_append, String.toList_append]
    exact (h.of_marks (by decide) hmarks (by decide)).append_cons (by decide) (by decide)
  simp only [written, hcode, Bool.false_eq_true, if_false]
  split
  · exact hstruck
  · exact h

/-- A heading opens no code if no line of its title begins with three backticks.  A title that is
set as code must be one line, since a last line of two backticks would be closed by the third. -/
lemma lacksFence_heading {header : Header} (htitle : LacksFence header.title.toList)
    (hcode : header.isCode = true → '\n' ∉ header.title.toList) (level : Nat) :
    LacksFence ((headerMarks level ++ " ").toList ++ header.written.toList) := by
  have hne : (headerMarks level ++ " ").toList ≠ [] := by
    rw [String.toList_append]
    exact List.append_ne_nil_of_right_ne_nil _ (by decide)
  have hplain : ∀ c ∈ (headerMarks level ++ " ").toList, c ∉ fence := fun c hc => by
    rcases eq_or_eq_of_mem_headerMarks hc with rfl | rfl <;> decide
  have hline : '\n' ∉ (headerMarks level ++ " ").toList := fun hmem => by
    rcases eq_or_eq_of_mem_headerMarks hmem with h | h <;> exact absurd h (by decide)
  cases hset : header.isCode with
  | true =>
    have htitle' := header.not_mem_written (hcode hset)
    exact (lacksFence_iff_of_not_mem (List.not_mem_append hline htitle')).2
      (not_prefix_of_marks hne hplain _)
  | false => exact (lacksFence_written htitle hset).of_marks hne hplain hline

end Header

/-- An identifier on one line has its anchor on one line. -/
lemma not_mem_anchor {id : String} (h : '\n' ∉ id.toList) : '\n' ∉ (Inline.anchor id).toList := by
  simp only [Inline.anchor, String.toList_append, List.mem_append, h, or_false]
  decide

lemma lacksFence_anchor {id : String} (h : '\n' ∉ id.toList) :
    LacksFence (Inline.anchor id).toList := by
  have hopens : ¬ fence <+: (Inline.anchor id).toList := by
    rw [Inline.anchor, String.toList_append, String.toList_append, String.toList_append,
      String.toList_append, List.append_assoc, List.append_assoc, List.append_assoc]
    exact not_prefix_of_marks (by decide) (by simp [fence]) _
  exact (lacksFence_iff_of_not_mem (not_mem_anchor h)).2 hopens

namespace Passage

/-- That a passage opens no code but its own: no line that it writes as prose begins with three
backticks, and the name of a language is one line. -/
def LacksFences : Passage → Prop
  | opening level header id => LacksFence (openingLines level header id).toList
  | text content => LacksFence content.toList
  | bullet content _ => LacksFence ("- " ++ content).toList
  | code language _ => '\n' ∉ language.toList

instance (p : Passage) : Decidable p.LacksFences :=
  match p with
  | .opening level header id =>
    inferInstanceAs (Decidable (LacksFence (openingLines level header id).toList))
  | .text content => inferInstanceAs (Decidable (LacksFence content.toList))
  | .bullet content _ => inferInstanceAs (Decidable (LacksFence ("- " ++ content).toList))
  | .code language _ => inferInstanceAs (Decidable ('\n' ∉ language.toList))

lemma lacksFences_bullet {content : String} (h : LacksFence content.toList) (goesOn : Bool) :
    (bullet content goesOn).LacksFences := by
  rw [LacksFences, String.toList_append]
  have hmarks : ∀ c ∈ "- ".toList, c ∉ fence := by simp [fence]
  exact h.of_marks (by decide) hmarks (by decide)

/-- What opens a section opens no code if no line of the title begins with three backticks, where
the title and the identifier do not make such a line themselves. -/
lemma lacksFences_opening {header : Option Header} {id : Option String}
    (htitle : ∀ h ∈ header, LacksFence h.title.toList ∧ (h.isCode = true → '\n' ∉ h.title.toList))
    (hid : ∀ i ∈ id, '\n' ∉ i.toList) (level : Nat) :
    (opening level header id).LacksFences := by
  have hend (xs : List Char) (hxs : LacksFence xs) : LacksFence (xs ++ "\n\n".toList) :=
    lacksFence_append_cons.2 ⟨hxs, by decide⟩
  cases header with
  | none =>
    cases id with
    | none => exact (by decide : LacksFence [])
    | some i =>
      rw [LacksFences, openingLines, String.toList_append]
      exact hend _ (lacksFence_anchor (hid i rfl))
  | some header =>
    obtain ⟨htitle, hcode⟩ := htitle header rfl
    have hheading := Header.lacksFence_heading htitle hcode level
    cases id with
    | none =>
      have hlines : (openingLines level (some header) none).toList =
          (headerMarks level ++ " ").toList ++ header.written.toList ++ "\n\n".toList := by
        simp only [openingLines, String.toList_append]
      rw [LacksFences, hlines]
      exact hend _ hheading
    | some i =>
      have hlines : (openingLines level (some header) (some i)).toList =
          (headerMarks level ++ " ").toList ++ header.written.toList ++
            (' ' :: (Inline.anchor i).toList) ++ "\n\n".toList := by
        simp only [openingLines, String.toList_append, List.append_assoc]
        rfl
      rw [LacksFences, hlines]
      exact hend _ (hheading.append_cons (by decide)
        (List.not_mem_cons_of_ne_of_not_mem (by decide) (not_mem_anchor (hid i rfl))))

/-- That authors open no code in a passage: no line of a title, text or bullet begins with three
backticks, and an identifier, a title that is set as code and the name of a language are one line
each. -/
def IsUnfenced : Passage → Prop
  | opening _ header id =>
    (∀ h ∈ header, LacksFence h.title.toList ∧ (h.isCode = true → '\n' ∉ h.title.toList)) ∧
      ∀ i ∈ id, '\n' ∉ i.toList
  | text content => LacksFence content.toList
  | bullet content _ => LacksFence content.toList
  | code language _ => '\n' ∉ language.toList

instance (p : Passage) : Decidable p.IsUnfenced :=
  match p with
  | .opening _ header id => inferInstanceAs (Decidable
      ((∀ h ∈ header, LacksFence h.title.toList ∧ (h.isCode = true → '\n' ∉ h.title.toList)) ∧
        ∀ i ∈ id, '\n' ∉ i.toList))
  | .text content => inferInstanceAs (Decidable (LacksFence content.toList))
  | .bullet content _ => inferInstanceAs (Decidable (LacksFence content.toList))
  | .code language _ => inferInstanceAs (Decidable ('\n' ∉ language.toList))

/-- Where authors open no code, the document opens none but its own. -/
theorem IsUnfenced.lacksFences {p : Passage} (h : p.IsUnfenced) : p.LacksFences := by
  cases p with
  | opening level header id => exact lacksFences_opening h.1 h.2 level
  | text content => exact h
  | bullet content goesOn => exact lacksFences_bullet h goesOn
  | code language content => exact h

lemma codes_eq_nil_or_eq_code (p : Passage) :
    p.codes = [] ∨ ∃ language content, p = code language content := by
  cases p with
  | code language content => exact .inr ⟨language, content, rfl⟩
  | opening level header id => exact .inl rfl
  | text content => exact .inl rfl
  | bullet content goesOn => exact .inl rfl

/-- Prose is passed by, whatever follows it. -/
lemma trimmedCode_prose_append {p : Passage} (h : p.LacksFences) (hcodes : p.codes = [])
    (ys : List Char) : trimmedCode (p.chars ++ ys) = trimmedCode ys := by
  have hblank (xs : List Char) (hxs : LacksFence xs) :
      trimmedCode (xs ++ '\n' :: '\n' :: ys) = trimmedCode ys := by
    rw [trimmedCode_append_cons hxs, trimmedCode_cons]
  cases p with
  | opening level header id =>
    rcases openingLines_cases level header id with hempty | ⟨line, hline⟩
    · rw [chars, written, hempty, List.nil_append]
    · have hlacks : LacksFence (line ++ '\n' :: ['\n']) := hline ▸ h
      rw [chars, written, hline, List.append_assoc]
      exact hblank line (lacksFence_append_cons.1 hlacks).1
  | text content =>
    rw [chars, written, String.toList_append, List.append_assoc]
    exact hblank _ h
  | bullet content goesOn =>
    rw [chars, written, String.toList_append, List.append_assoc]
    cases goesOn with
    | true => exact trimmedCode_append_cons h ys
    | false => exact hblank _ h
  | code language content => exact absurd hcodes (List.cons_ne_nil _ _)

/-- The pieces of code in a list of passages are what is read from it if no line of theirs is three
backticks. -/
lemma trimmedCode_flatMap_chars {ps : List Passage} (h : ∀ p ∈ ps, p.LacksFences)
    (hcodes : ∀ code ∈ ps.flatMap codes, fence ∉ lines code.2.toList) :
    trimmedCode (ps.flatMap chars) = ps.flatMap codes := by
  induction ps with
  | nil => decide
  | cons p ps ih =>
    obtain ⟨hp, hps⟩ := List.forall_mem_cons.1 h
    rw [List.flatMap_cons, List.forall_mem_append] at hcodes
    have hrest := ih hps hcodes.2
    rw [List.flatMap_cons, List.flatMap_cons]
    rcases p.codes_eq_nil_or_eq_code with hprose | ⟨language, content, rfl⟩
    · rw [trimmedCode_prose_append hp hprose, hrest, hprose, List.nil_append]
    · have hcontent := hcodes.1 (language, content) (List.mem_singleton.2 rfl)
      obtain ⟨rest, hread, hrest'⟩ :=
        exists_trimmedCode_code_append hp content (ps.flatMap chars)
      have hjoin : ['\n'].intercalate (lines content.toList) = content.toList :=
        List.intercalate_splitOn '\n'
      rw [hread, readCode_some_append hcontent, hrest', hrest, List.nil_append, hjoin,
        String.ofList_toList, String.ofList_toList]
      rfl

/-- If what is read has the contents of the pieces of code, then no line of theirs is three
backticks: the first such line would close its code early. -/
lemma not_mem_lines_of_map_trimmedCode {ps : List Passage} (h : ∀ p ∈ ps, p.LacksFences)
    (hread : (trimmedCode (ps.flatMap chars)).map (·.2) = (ps.flatMap codes).map (·.2)) :
    ∀ code ∈ ps.flatMap codes, fence ∉ lines code.2.toList := by
  induction ps with
  | nil => exact fun code hcode => absurd hcode List.not_mem_nil
  | cons p ps ih =>
    obtain ⟨hp, hps⟩ := List.forall_mem_cons.1 h
    rw [List.flatMap_cons, List.forall_mem_append]
    rw [List.flatMap_cons, List.flatMap_cons] at hread
    rcases p.codes_eq_nil_or_eq_code with hprose | ⟨language, content, rfl⟩
    · rw [trimmedCode_prose_append hp hprose, hprose, List.nil_append] at hread
      exact ⟨by simp [hprose], ih hps hread⟩
    · obtain ⟨rest, hlines, hrest⟩ :=
        exists_trimmedCode_code_append hp content (ps.flatMap chars)
      rw [hlines] at hread
      by_cases hclosed : fence ∈ lines content.toList
      · obtain ⟨before, behind, hsplit, hbefore⟩ := List.eq_append_cons_of_mem hclosed
        rw [hsplit, List.append_assoc, List.cons_append, readCode_some_append hbefore] at hread
        have hcontent := congrArg String.toList (List.cons.inj hread).1
        rw [String.toList_ofList] at hcontent
        exact absurd hcontent (intercalate_ne_of_lines_eq hsplit (by decide))
      · rw [readCode_some_append hclosed, hrest] at hread
        refine ⟨fun code hcode => ?_, ih hps (List.cons.inj hread).2⟩
        rw [List.mem_singleton.1 hcode]
        exact hclosed

end Passage

/-- If no line of the prose of a document opens code, then a reader of its text finds its pieces of
code, in their order and with their languages, if and only if no line of their contents is three
backticks; and their contents alone are found in no further case. -/
theorem Section.fencedCode_toText {s : Section} (h : ∀ p ∈ s.passages, p.LacksFences) :
    (fencedCode s.toText.toList = s.codes ↔
      ∀ content ∈ s.codeBlocks, fence ∉ lines content.toList) ∧
    ((fencedCode s.toText.toList).map (·.2) = s.codeBlocks ↔
      ∀ content ∈ s.codeBlocks, fence ∉ lines content.toList) := by
  have hread : fencedCode s.toText.toList = trimmedCode (s.passages.flatMap Passage.chars) := by
    rw [toList_toText, trimmedCode]
  have hall : (∀ content ∈ s.codeBlocks, fence ∉ lines content.toList) ↔
      ∀ code ∈ s.passages.flatMap Passage.codes, fence ∉ lines code.2.toList := by
    rw [codeBlocks, codes_eq_flatMap_passages, List.forall_mem_map]
  have hgood (hlines : ∀ content ∈ s.codeBlocks, fence ∉ lines content.toList) :
      fencedCode s.toText.toList = s.codes := by
    rw [hread, codes_eq_flatMap_passages]
    exact Passage.trimmedCode_flatMap_chars h (hall.1 hlines)
  have hbad (hcontents : (fencedCode s.toText.toList).map (·.2) = s.codeBlocks) :
      ∀ content ∈ s.codeBlocks, fence ∉ lines content.toList := by
    rw [hread, codeBlocks, codes_eq_flatMap_passages] at hcontents
    exact hall.2 (Passage.not_mem_lines_of_map_trimmedCode h hcontents)
  refine ⟨⟨fun hsame => hbad ?_, hgood⟩, ⟨hbad, fun hlines => ?_⟩⟩
  · rw [hsame, codeBlocks]
  · rw [hgood hlines, codeBlocks]

/-- A document with code behind a heading and in a section without one, and blank lines at its
end. -/
def booklet : Section :=
  { header := some { title := "Parts", isStruck := true }
    id := some "lib"
    blocks :=
      [.text "A place to keep `parts`.", .code "ts" "new Store()\n\n  .open() // ```",
        .nested (some "lib.Keeper") none [.bullet "see\nbelow", .code "" ""], .text "\n"] }

theorem Section.fencedCode_toText_booklet :
    (∀ p ∈ booklet.passages, p.LacksFences) ∧
      (∀ content ∈ booklet.codeBlocks, fence ∉ lines content.toList) ∧
      fencedCode booklet.toText.toList = booklet.codes ∧
      (fencedCode booklet.toText.toList).map (·.2) =
        ["new Store()\n\n  .open() // ```", ""] := by
  have hunfenced : ∀ p ∈ booklet.passages, p.IsUnfenced := by decide
  have h : ∀ p ∈ booklet.passages, p.LacksFences := fun p hp => (hunfenced p hp).lacksFences
  have hlines : ∀ content ∈ booklet.codeBlocks, fence ∉ lines content.toList := by decide
  exact ⟨h, hlines, (Section.fencedCode_toText h).1.2 hlines,
    ((Section.fencedCode_toText h).2.2 hlines).trans rfl⟩

/-- A document with a sample that its author fenced. -/
def fencedSample : Section :=
  (Section.titled "Store").add (Docs.blocks { sample := some "```ts\nnew Store()\n```" })

/-- The author's closing fence closes the code of the document: its last line is lost to a
reader. -/
theorem Section.fencedCode_toText_fencedSample :
    (∀ p ∈ fencedSample.passages, p.IsUnfenced) ∧ (∀ p ∈ fencedSample.passages, p.LacksFences) ∧
      fencedCode fencedSample.toText.toList = [("", "```ts\nnew Store()")] ∧
      fencedSample.codes = [("", "```ts\nnew Store()\n```")] ∧
      fencedCode fencedSample.toText.toList ≠ fencedSample.codes := by
  have hunfenced : ∀ p ∈ fencedSample.passages, p.IsUnfenced := by decide
  refine ⟨hunfenced, fun p hp => (hunfenced p hp).lacksFences, ?_⟩
  decide

end ApiDocs
