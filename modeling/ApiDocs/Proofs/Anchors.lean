import ApiDocs.Proofs.Passages

/-!
# Anchors in the text of a document

A link into a document works if the text has an anchor for it, so what counts as the identifiers of
a document is what a reader of its text finds.  Here the text is read from left to right for
anchors, knowing nothing about the tree, and what is found are the tree's identifiers, one by one
and in their order.

An author could write the beginning of an anchor into a paragraph or a title; the statement is about
documents where that does not happen.  Then no two passages that stand side by side make an anchor
together either: a passage ends in a line break, and the marks around a title do not go on with what
an anchor begins with.  The end of the text is safe since an anchor ends in a visible character.
-/

namespace ApiDocs

/-! ## Reading anchors -/

/-- What an anchor begins with. -/
def anchorStart : List Char := "<a name=\"".toList

/-- The identifier of the anchor that a text begins with, if it begins with one.  The identifier
reaches to the next quotation mark, and what follows must be the rest of its anchor. -/
def anchorAt? (text : List Char) : Option String :=
  let id := String.ofList ((text.drop anchorStart.length).takeWhile (· ≠ '"'))
  if (Inline.anchor id).toList <+: text then some id else none

/-- The identifiers of the anchors in a text, from left to right. -/
def anchors : List Char → List String
  | [] => []
  | c :: rest => (anchorAt? (c :: rest)).toList ++ anchors rest

/-- An anchor begins as anchors do, and its identifier ends in a quotation mark. -/
lemma toList_anchor (id : String) :
    (Inline.anchor id).toList = anchorStart ++
      (id.toList ++ '"' :: (" id=\"".toList ++ (id.toList ++ "\"></a>".toList))) := by
  have hmiddle : "\" id=\"".toList = '"' :: " id=\"".toList := rfl
  simp only [Inline.anchor, String.toList_append, List.append_assoc, hmiddle, List.cons_append]
  rfl

/-- A text is read as beginning with an anchor if it does and the anchor's identifier has no
quotation mark. -/
lemma anchorAt?_eq_some_iff {text : List Char} {id : String} :
    anchorAt? text = some id ↔ (Inline.anchor id).toList <+: text ∧ '"' ∉ id.toList := by
  constructor
  · intro h
    simp only [anchorAt?, Option.ite_none_right_eq_some, Option.some.injEq] at h
    obtain ⟨hanchor, rfl⟩ := h
    refine ⟨hanchor, fun hmem => ?_⟩
    rw [String.toList_ofList] at hmem
    simpa using List.mem_takeWhile_imp hmem
  · rintro ⟨⟨rest, rfl⟩, hid⟩
    have hname : ((((Inline.anchor id).toList ++ rest).drop anchorStart.length).takeWhile
        (· ≠ '"')) = id.toList := by
      rw [toList_anchor, List.append_assoc, List.drop_left, List.append_assoc,
        List.takeWhile_append_of_pos fun c hc => by simpa using ne_of_mem_of_not_mem hc hid,
        List.cons_append, List.takeWhile_cons_of_neg (by simp), List.append_nil]
    simp only [anchorAt?, hname, String.ofList_toList, List.prefix_append, if_true]

/-- What names two identifiers is no anchor. -/
example : anchorAt? "<a name=\"open\" id=\"close\"></a>".toList = none := by decide

lemma anchorAt?_eq_none {text : List Char} (h : ¬ anchorStart <+: text) :
    anchorAt? text = none := by
  refine Option.eq_none_iff_forall_ne_some.2 fun id hid => h ?_
  refine List.IsPrefix.trans ?_ (anchorAt?_eq_some_iff.1 hid).1
  rw [toList_anchor]
  exact List.prefix_append _ _

lemma anchors_cons_of_not_starts {c : Char} {rest : List Char}
    (h : ¬ anchorStart <+: c :: rest) : anchors (c :: rest) = anchors rest := by
  rw [anchors, anchorAt?_eq_none h]
  rfl

/-! ## Texts without anchors -/

/-- No anchor begins in a text without an angle bracket, whatever follows. -/
lemma anchors_append_of_not_mem {xs : List Char} (h : '<' ∉ xs) (ys : List Char) :
    anchors (xs ++ ys) = anchors ys := by
  induction xs with
  | nil => rfl
  | cons c xs ih =>
    have hc : '<' ≠ c := fun hc => h (hc ▸ List.mem_cons_self)
    have hstart : ¬ anchorStart <+: c :: (xs ++ ys) := fun hstart =>
      hc (List.cons_prefix_cons.1 hstart).1
    rw [List.cons_append, anchors_cons_of_not_starts hstart,
      ih fun hmem => h (List.mem_cons_of_mem _ hmem)]

/-- No anchor begins in a text in which no beginning of one stands, if what follows the text is not
a character that a beginning goes on with. -/
lemma anchors_append_of_not_infix {xs : List Char} (h : ¬ anchorStart <:+: xs) {ys : List Char}
    (hys : ∀ c ∈ ys.head?, c ∉ anchorStart.tail) : anchors (xs ++ ys) = anchors ys := by
  induction xs with
  | nil => rfl
  | cons c xs ih =>
    have hstart : ¬ anchorStart <+: c :: xs ++ ys := by
      intro hstart
      rcases isPrefix_append_cases hstart with hin | ⟨d, zs, hsplit, hrest⟩
      · exact h hin.isInfix
      · obtain ⟨ws, rfl⟩ := hrest
        refine hys d rfl ?_
        rw [hsplit]
        simp
    rw [List.cons_append] at hstart ⊢
    rw [anchors_cons_of_not_starts hstart,
      ih fun hin => h (hin.trans (List.suffix_cons c xs).isInfix)]

/-- A space at the end of a text does not complete the beginning of an anchor. -/
lemma not_infix_concat_space {xs : List Char} (h : ¬ anchorStart <:+: xs) :
    ¬ anchorStart <:+: xs ++ [' '] := by
  intro hin
  rcases List.infix_concat_iff.1 hin with ⟨zs, hzs⟩ | hin
  · have hlast := congrArg List.getLast? hzs
    rw [List.getLast?_concat, List.getLast?_append_of_ne_nil zs (by decide)] at hlast
    exact absurd hlast (by decide)
  · exact h hin

/-- Marks around a text, of characters that no beginning of an anchor has, leave it without one. -/
lemma not_infix_of_marks {before xs after : List Char} (h : ¬ anchorStart <:+: xs)
    (hbefore : before.all fun c => c ∉ anchorStart)
    (hafter : after.all fun c => c ∉ anchorStart) :
    ¬ anchorStart <:+: before ++ xs ++ after := by
  -- A part of the beginning that reaches into the marks shares a character with them.
  have hapart {l marks : List Char} (hmarks : marks.all fun c => c ∉ anchorStart) (hl : l ≠ [])
      (hin : l <:+: marks) (hpart : l ⊆ anchorStart) : False := by
    obtain ⟨c, hc⟩ := List.exists_mem_of_ne_nil l hl
    exact of_decide_eq_true (List.all_eq_true.1 hmarks c (hin.subset hc)) (hpart hc)
  have hleft : ¬ anchorStart <:+: before ++ xs := by
    rw [List.infix_append_iff_ne_nil]
    rintro (hin | hin | ⟨l₁, l₂, hl₁, -, hsplit, hend, -⟩)
    · exact hapart hbefore (by decide) hin (List.Subset.refl _)
    · exact h hin
    · exact hapart hbefore hl₁ hend.isInfix (hsplit ▸ List.subset_append_left l₁ l₂)
  rw [List.infix_append_iff_ne_nil]
  rintro (hin | hin | ⟨l₁, l₂, -, hl₂, hsplit, -, hbegin⟩)
  · exact hleft hin
  · exact hapart hafter (by decide) hin (List.Subset.refl _)
  · exact hapart hafter hl₂ hbegin.isInfix (hsplit ▸ List.subset_append_right l₁ l₂)

/-! ## Anchors -/

/-- An anchor is read, and reading goes on behind it. -/
lemma anchors_anchor_append {id : String} (hquote : '"' ∉ id.toList) (hangle : '<' ∉ id.toList)
    (rest : List Char) : anchors ((Inline.anchor id).toList ++ rest) = id :: anchors rest := by
  have hfirst : anchorAt? ((Inline.anchor id).toList ++ rest) = some id :=
    anchorAt?_eq_some_iff.2 ⟨List.prefix_append _ _, hquote⟩
  -- Behind its first character an anchor has one more angle bracket, and that one closes it.
  have hsplit : (Inline.anchor id).toList = '<' :: (("a name=\"".toList ++ id.toList ++
      "\" id=\"".toList ++ id.toList ++ "\">".toList) ++ '<' :: "/a>".toList) := by
    have hend : "\"></a>".toList = "\">".toList ++ '<' :: "/a>".toList := rfl
    simp only [Inline.anchor, String.toList_append, List.append_assoc, hend]
    rfl
  have hinside : '<' ∉ "a name=\"".toList ++ id.toList ++ "\" id=\"".toList ++ id.toList ++
      "\">".toList := by
    simp only [List.mem_append, hangle, or_false]
    decide
  have hclose : ¬ anchorStart <+: '<' :: ("/a>".toList ++ rest) := fun hstart =>
    absurd (List.cons_prefix_cons.1 (List.cons_prefix_cons.1 hstart).2).1 (by decide)
  rw [hsplit, List.cons_append] at hfirst
  rw [hsplit, List.cons_append, anchors, hfirst, List.append_assoc,
    anchors_append_of_not_mem hinside, List.cons_append, anchors_cons_of_not_starts hclose,
    anchors_append_of_not_mem (by decide)]
  rfl

/-- Blank characters at the end of a text neither make an anchor nor break one. -/
lemma anchors_append_blank (xs : List Char) {ys : List Char}
    (hys : ∀ c ∈ ys, Text.isBlank c = true) : anchors (xs ++ ys) = anchors xs := by
  induction xs with
  | nil =>
    have hangle : '<' ∉ ys := fun hmem => absurd (hys _ hmem) (by decide)
    have h := anchors_append_of_not_mem hangle []
    rwa [List.append_nil] at h
  | cons c xs ih =>
    have hprefix (id : String) : (Inline.anchor id).toList <+: c :: xs ++ ys ↔
        (Inline.anchor id).toList <+: c :: xs := by
      refine ⟨fun h => ?_, fun h => h.trans (List.prefix_append _ _)⟩
      rcases isPrefix_append_cases h with hin | ⟨d, zs, hsplit, hrest⟩
      · exact hin
      · have hlast : (Inline.anchor id).toList.getLast? = some '>' := by
          rw [Inline.anchor, String.toList_append,
            List.getLast?_append_of_ne_nil _ (by decide)]
          rfl
        rw [hsplit, List.getLast?_append_of_ne_nil _ (List.cons_ne_nil d zs)] at hlast
        exact absurd (hys _ (hrest.subset (List.mem_of_getLast? hlast))) (by decide)
    have hat : anchorAt? (c :: xs ++ ys) = anchorAt? (c :: xs) :=
      Option.ext fun id => by rw [anchorAt?_eq_some_iff, anchorAt?_eq_some_iff, hprefix]
    rw [List.cons_append] at hat
    rw [List.cons_append, anchors, hat, ih, anchors]

/-! ## Documents -/

/-- That authors have no part in the anchors of a passage: no text in it has the beginning of an
anchor, and an identifier has neither quotation marks nor angle brackets. -/
def Passage.LacksAnchors : Passage → Prop
  | opening _ header id =>
    (∀ h ∈ header, ¬ anchorStart <:+: h.title.toList) ∧
      ∀ i ∈ id, '"' ∉ i.toList ∧ '<' ∉ i.toList
  | text content => ¬ anchorStart <:+: content.toList
  | bullet content _ => ¬ anchorStart <:+: content.toList
  | code language content =>
    ¬ anchorStart <:+: language.toList ∧ ¬ anchorStart <:+: content.toList

instance (p : Passage) : Decidable p.LacksAnchors :=
  match p with
  | .opening _ header id => inferInstanceAs (Decidable
      ((∀ h ∈ header, ¬ anchorStart <:+: h.title.toList) ∧
        ∀ i ∈ id, '"' ∉ i.toList ∧ '<' ∉ i.toList))
  | .text content => inferInstanceAs (Decidable (¬ anchorStart <:+: content.toList))
  | .bullet content _ => inferInstanceAs (Decidable (¬ anchorStart <:+: content.toList))
  | .code language content => inferInstanceAs (Decidable
      (¬ anchorStart <:+: language.toList ∧ ¬ anchorStart <:+: content.toList))

/-- A title is set with marks that leave it without the beginning of an anchor. -/
lemma Header.not_infix_written {header : Header} (h : ¬ anchorStart <:+: header.title.toList) :
    ¬ anchorStart <:+: header.written.toList := by
  refine header.written_induction (motive := fun title => ¬ anchorStart <:+: title.toList) h ?_ ?_
  · intro title h
    rw [Inline.code, String.toList_append, String.toList_append]
    exact not_infix_of_marks h (by decide) (by decide)
  · intro title h
    rw [Inline.struck, String.toList_append, String.toList_append]
    exact not_infix_of_marks h (by decide) (by decide)

lemma not_mem_headerMarks (level : Nat) : '<' ∉ (headerMarks level ++ " ").toList := by
  intro hmem
  rcases eq_or_eq_of_mem_headerMarks hmem with h | h <;> exact absurd h (by decide)

/-- What opens a section has the section's anchor and no other one. -/
lemma anchors_openingLines_append {level : Nat} {header : Option Header} {id : Option String}
    (h : (Passage.opening level header id).LacksAnchors) (ys : List Char) :
    anchors ((openingLines level header id).toList ++ ys) = id.toList ++ anchors ys := by
  obtain ⟨hheader, hid⟩ := h
  have hblank : '<' ∉ "\n\n".toList := by decide
  cases header with
  | none =>
    cases id with
    | none => simp [openingLines]
    | some id =>
      obtain ⟨hquote, hangle⟩ := hid id rfl
      rw [openingLines, String.toList_append, List.append_assoc,
        anchors_anchor_append hquote hangle, anchors_append_of_not_mem hblank]
      rfl
  | some header =>
    have htitle := Header.not_infix_written (hheader header rfl)
    cases id with
    | none =>
      have hline : (openingLines level (some header) none).toList ++ ys =
          (headerMarks level ++ " ").toList ++
            (header.written.toList ++ ("\n\n".toList ++ ys)) := by
        simp only [openingLines, String.toList_append, List.append_assoc]
      rw [hline, anchors_append_of_not_mem (not_mem_headerMarks level),
        anchors_append_of_not_infix htitle (by rintro c ⟨⟩; decide),
        anchors_append_of_not_mem hblank]
      rfl
    | some id =>
      obtain ⟨hquote, hangle⟩ := hid id rfl
      have hline : (openingLines level (some header) (some id)).toList ++ ys =
          (headerMarks level ++ " ").toList ++ (header.written.toList ++ [' '] ++
            ((Inline.anchor id).toList ++ ("\n\n".toList ++ ys))) := by
        simp only [openingLines, String.toList_append, List.append_assoc]
        rfl
      have hhead : ∀ c ∈ ((Inline.anchor id).toList ++ ("\n\n".toList ++ ys)).head?,
          c ∉ anchorStart.tail := by
        rw [toList_anchor]
        rintro c ⟨⟩
        decide
      rw [hline, anchors_append_of_not_mem (not_mem_headerMarks level),
        anchors_append_of_not_infix (not_infix_concat_space htitle) hhead,
        anchors_anchor_append hquote hangle, anchors_append_of_not_mem hblank]
      rfl

namespace Passage

/-- The anchor of a passage is the one that it opens a section with, whatever follows. -/
lemma anchors_chars_append {p : Passage} (h : p.LacksAnchors) (ys : List Char) :
    anchors (p.chars ++ ys) = p.identifiers ++ anchors ys := by
  cases p with
  | opening level header id => exact anchors_openingLines_append h ys
  | text content =>
    have hchars : (text content).chars ++ ys = content.toList ++ ("\n\n".toList ++ ys) := by
      simp only [chars, written, String.toList_append, List.append_assoc]
    rw [hchars, anchors_append_of_not_infix h (by rintro c ⟨⟩; decide),
      anchors_append_of_not_mem (by decide)]
    rfl
  | bullet content goesOn =>
    have hchars : (bullet content goesOn).chars ++ ys = "- ".toList ++
        (content.toList ++ ((if goesOn then "\n" else "\n\n").toList ++ ys)) := by
      simp only [chars, written, String.toList_append, List.append_assoc]
    rw [hchars, anchors_append_of_not_mem (by decide),
      anchors_append_of_not_infix h (by cases goesOn <;> rintro c ⟨⟩ <;> decide),
      anchors_append_of_not_mem (by cases goesOn <;> decide)]
    rfl
  | code language content =>
    have hchars : (code language content).chars ++ ys = "```".toList ++ (language.toList ++
        ("\n".toList ++ (content.toList ++ ("\n```\n\n".toList ++ ys)))) := by
      simp only [chars, written, String.toList_append, List.append_assoc]
    rw [hchars, anchors_append_of_not_mem (by decide),
      anchors_append_of_not_infix h.1 (by rintro c ⟨⟩; decide),
      anchors_append_of_not_mem (by decide),
      anchors_append_of_not_infix h.2 (by rintro c ⟨⟩; decide),
      anchors_append_of_not_mem (by decide)]
    rfl

lemma anchors_flatMap_chars {ps : List Passage} (h : ∀ p ∈ ps, p.LacksAnchors) :
    anchors (ps.flatMap chars) = ps.flatMap identifiers := by
  induction ps with
  | nil => rfl
  | cons p ps ih =>
    obtain ⟨hp, hps⟩ := List.forall_mem_cons.1 h
    rw [List.flatMap_cons, anchors_chars_append hp, ih hps, List.flatMap_cons]

end Passage

/-- The anchors that a reader finds in the text of a document are its identifiers, each as often as
it stands there and in the order of the document. -/
theorem Section.anchors_toText {s : Section} (h : ∀ p ∈ s.passages, p.LacksAnchors) :
    anchors s.toText.toList = s.identifiers := by
  have htrim (text : List Char) : anchors (text.rdropWhile Text.isBlank) = anchors text := by
    conv_rhs => rw [← List.rdropWhile_append_rtakeWhile (l := text) (p := Text.isBlank)]
    exact (anchors_append_blank _ fun c => List.mem_rtakeWhile_imp).symm
  have hbreak : ∀ c ∈ ['\n'], Text.isBlank c = true := List.forall_mem_singleton.2 rfl
  rw [toList_toText, anchors_append_blank _ hbreak, htrim, Passage.anchors_flatMap_chars h,
    identifiers_eq_flatMap_passages]

/-- A document with an untitled section, a title that is set as code, and an identifier twice. -/
def leaflet : Section :=
  { header := some { title := "Parts" }
    blocks :=
      [.nested (some "lib.Store") none [.text "A place to keep parts.",
          .nested (some "lib.Store.open") (some { title := "open", isCode := true })
            [.code "ts" "new Store()"]],
        .nested none none [.bullet "see below", .nested (some "lib.Store") none []]] }

theorem Section.anchors_toText_leaflet :
    (∀ p ∈ leaflet.passages, p.LacksAnchors) ∧
      anchors leaflet.toText.toList = ["lib.Store", "lib.Store.open", "lib.Store"] := by
  have h : ∀ p ∈ leaflet.passages, p.LacksAnchors := by decide
  exact ⟨h, (Section.anchors_toText h).trans rfl⟩

end ApiDocs
