import ApiDocs.Proofs.Lists
import ApiDocs.Proofs.Templates

/-!
# Calls for named types

Whoever spells a reference is asked for each of its named types, and may answer the same name
differently each time it comes up.  What the spelling of a reference asks for is the list of its
names (`TypeRef.names`), once each and from left to right.  In any monad the spelling is therefore
two steps: all the calls one after the other, and then a text made from the list of the answers
(`Convention.spellM_eq`).

What becomes of an answer is up to the language.  TypeScript and Python put every answer into the
text, in the order of the calls.  Java and C# keep nothing of a union, so what was answered for the
names below it makes no difference; the other answers they put into the text in their order.
-/

universe u

namespace ApiDocs

/-! ## Texts in a text -/

/-- That texts occur in a text one behind the other, no two of them overlapping. -/
def OccurInTurn : List String → String → Prop
  | [], _ => True
  | s :: rest, text => ∃ before after, text = before ++ s ++ after ∧ OccurInTurn rest after

namespace OccurInTurn

variable {ss ss' : List String} {text text' : String}

lemma singleton (s : String) : OccurInTurn [s] s :=
  ⟨"", "", by rw [String.empty_append, String.append_empty], trivial⟩

lemma append (h : OccurInTurn ss text) (h' : OccurInTurn ss' text') :
    OccurInTurn (ss ++ ss') (text ++ text') := by
  induction ss generalizing text with
  | nil =>
    cases ss' with
    | nil => trivial
    | cons s rest =>
      obtain ⟨before, after, rfl, hrest⟩ := h'
      exact ⟨text ++ before, after, by simp only [String.append_assoc], hrest⟩
  | cons s rest ih =>
    obtain ⟨before, after, rfl, hrest⟩ := h
    exact ⟨before, after ++ text', String.append_assoc, ih hrest⟩

lemma between (before after : String) (h : OccurInTurn ss text) :
    OccurInTurn ss (before ++ text ++ after) := by
  have hbefore : OccurInTurn [] before := trivial
  have hafter : OccurInTurn [] after := trivial
  have hall := (hbefore.append h).append hafter
  rwa [List.nil_append, List.append_nil] at hall

end OccurInTurn

/-! ## Names below unions -/

/-- For each named type of a reference, from left to right, whether it is below a union. -/
def TypeRef.belowUnion : TypeRef → List Bool
  | primitive _ => []
  | named _ => [false]
  | array element => element.belowUnion
  | map value => value.belowUnion
  | union options => List.replicate (optionNames options).length true

/-- Of the answers for the named types of a reference, those that a language shows: all of them, or
those for names that are not below a union. -/
def Language.shownAnswers (l : Language) (r : TypeRef) (answers : List String) : List String :=
  if l ∈ withUnions then answers
  else ((answers.zip r.belowUnion).filter fun p => !p.2).map (·.1)

/-! ## Calls first -/

namespace Convention

variable {c : Convention}

mutual

/-- A reference from the answers for its named types, taken from left to right. -/
def assemble (c : Convention) : TypeRef → List String → String
  | .primitive p, _ => c.primitive p
  | .named _, answers => answers.headD ""
  | .array element, answers => c.array (c.assemble element answers)
  | .map value, answers => c.map (c.assemble value answers)
  | .union options, answers => c.union (c.assembleOptions options answers)

/-- The options of a union, each from the answers for its own named types. -/
def assembleOptions (c : Convention) : List TypeRef → List String → List String
  | [], _ => []
  | option :: rest, answers =>
    c.assemble option (answers.take option.names.length) ::
      c.assembleOptions rest (answers.drop option.names.length)

end

section

variable {m : Type → Type u} [Monad m] [LawfulMonad m]

mutual

/-- In any monad a reference is spelled by calling for its names, once each and from left to right,
and then putting the answers together. -/
lemma spellM_eq (named : String → m String) : (r : TypeRef) →
    c.spellM named r = c.assemble r <$> r.names.mapM named
  | .primitive p => by simp [spellM, assemble, TypeRef.names]
  | .named fqn => by simp [spellM, assemble, TypeRef.names]
  | .array element => by
    simp [spellM, spellM_eq named element, assemble, TypeRef.names]
  | .map value => by
    simp [spellM, spellM_eq named value, assemble, TypeRef.names]
  | .union options => by
    simp [spellM, spellOptionsM_eq named options, assemble, TypeRef.names]

lemma spellOptionsM_eq (named : String → m String) : (options : List TypeRef) →
    c.spellOptionsM named options =
      c.assembleOptions options <$> (TypeRef.optionNames options).mapM named
  | [] => by simp [spellOptionsM, assembleOptions, TypeRef.optionNames]
  | option :: rest => by
    have hsplit (first second : List String) (hfirst : first.length = option.names.length) :
        c.assembleOptions (option :: rest) (first ++ second) =
          c.assemble option first :: c.assembleOptions rest second := by
      rw [assembleOptions, ← hfirst, List.take_left, List.drop_left]
    simp only [spellOptionsM, spellM_eq named option, spellOptionsM_eq named rest,
      TypeRef.optionNames, List.mapM_append, map_bind, bind_pure_comp, bind_map_left,
      Functor.map_map]
    refine bind_mapM_congr named option.names fun first hfirst => ?_
    simp only [hsplit first _ hfirst]

end

end

end Convention

/-! ## Answers in the text -/

namespace Language

variable {l : Language}

lemma shownAnswers_of_mem (hl : l ∈ withUnions) (r : TypeRef) (answers : List String) :
    l.shownAnswers r answers = answers :=
  if_pos hl

lemma shownAnswers_of_not_mem (hl : l ∉ withUnions) (r : TypeRef) (answers : List String) :
    l.shownAnswers r answers = ((answers.zip r.belowUnion).filter fun p => !p.2).map (·.1) :=
  if_neg hl

/-- Below a union, a language that keeps nothing of unions shows no answer. -/
lemma shownAnswers_union (hl : l ∉ withUnions) (options : List TypeRef) (answers : List String) :
    l.shownAnswers (.union options) answers = [] := by
  have hbelow : ∀ p ∈ answers.zip (TypeRef.belowUnion (.union options)), p.2 = true := by
    intro p hp
    exact List.eq_of_mem_replicate (List.of_mem_zip hp).2
  rw [shownAnswers_of_not_mem hl, List.filter_eq_nil_iff.2 fun p hp => by simp [hbelow p hp]]
  rfl

lemma occurInTurn_array {ss : List String} {text : String} (h : OccurInTurn ss text) :
    OccurInTurn ss (l.convention.array text) := by
  have hplain (after : String) : OccurInTurn ss (text ++ after) := by
    simpa using h.between "" after
  cases l with
  | typeScript =>
    show OccurInTurn ss (Convention.TypeScript.array text)
    rw [Convention.TypeScript.array]
    split_ifs
    · exact h.between "(" ")[]"
    · exact hplain "[]"
  | python => exact h.between "typing.List[" "]"
  | java => exact h.between "java.util.List<" ">"
  | cSharp => exact hplain "[]"

lemma occurInTurn_map {ss : List String} {text : String} (h : OccurInTurn ss text) :
    OccurInTurn ss (l.convention.map text) := by
  cases l <;> exact h.between _ _

/-- Where unions are kept, their options are, whatever stands between them. -/
lemma occurInTurn_union (hl : l ∈ withUnions) {ss texts : List String}
    (h : ∀ separator : String, OccurInTurn ss (separator.intercalate texts)) :
    OccurInTurn ss (l.convention.union texts) := by
  cases l with
  | typeScript => exact h " | "
  | python => exact (h ", ").between "typing.Union[" "]"
  | java => simp [withUnions] at hl
  | cSharp => simp [withUnions] at hl

mutual

/-- The answers that a language shows occur in what is made of them. -/
lemma occurInTurn_assemble : (r : TypeRef) → (answers : List String) →
    answers.length = r.names.length →
      OccurInTurn (l.shownAnswers r answers) (l.convention.assemble r answers)
  | .primitive p, answers, h => by
    obtain rfl := List.length_eq_zero_iff.1 h
    simp [shownAnswers, OccurInTurn]
  | .named fqn, answers, h => by
    obtain ⟨a, rfl⟩ := List.length_eq_one_iff.1 h
    simpa [shownAnswers, TypeRef.belowUnion, Convention.assemble] using OccurInTurn.singleton a
  | .array element, answers, h => occurInTurn_array (occurInTurn_assemble element answers h)
  | .map value, answers, h => occurInTurn_map (occurInTurn_assemble value answers h)
  | .union options, answers, h => by
    by_cases hl : l ∈ withUnions
    · rw [shownAnswers_of_mem hl]
      exact occurInTurn_union hl fun separator =>
        occurInTurn_intercalate hl separator options answers h
    · rw [shownAnswers_union hl]
      trivial

lemma occurInTurn_intercalate (hl : l ∈ withUnions) (separator : String) :
    (options : List TypeRef) → (answers : List String) →
    answers.length = (TypeRef.optionNames options).length →
      OccurInTurn answers (separator.intercalate (l.convention.assembleOptions options answers))
  | [], answers, h => by
    obtain rfl := List.length_eq_zero_iff.1 h
    trivial
  | option :: rest, answers, h => by
    rw [TypeRef.optionNames, List.length_append] at h
    have hfirst := occurInTurn_assemble option (answers.take option.names.length)
      (by rw [List.length_take]; omega)
    have hrest := occurInTurn_intercalate hl separator rest (answers.drop option.names.length)
      (by rw [List.length_drop]; omega)
    rw [shownAnswers_of_mem hl] at hfirst
    cases rest with
    | nil =>
      have hall : answers.take option.names.length = answers :=
        List.take_of_length_le (Nat.le_of_eq h)
      rw [hall] at hfirst
      rw [Convention.assembleOptions, Convention.assembleOptions, String.intercalate_singleton,
        hall]
      exact hfirst
    | cons next rest =>
      have hboth := (hfirst.between "" separator).append hrest
      rw [List.take_append_drop, String.empty_append] at hboth
      rw [Convention.assembleOptions, String.intercalate_cons_of_ne_nil]
      · exact hboth
      · exact List.cons_ne_nil _ _

end

/-- Answers that differ only where they are not shown make the same text. -/
lemma assemble_congr : (r : TypeRef) → (answers others : List String) →
    answers.length = r.names.length → others.length = r.names.length →
      l.shownAnswers r others = l.shownAnswers r answers →
        l.convention.assemble r others = l.convention.assemble r answers
  | .primitive p, _, _, _, _, _ => rfl
  | .named fqn, answers, others, h, h', hshown => by
    obtain ⟨a, rfl⟩ := List.length_eq_one_iff.1 h
    obtain ⟨b, rfl⟩ := List.length_eq_one_iff.1 h'
    have hsame : [b] = [a] := by
      simpa [shownAnswers, TypeRef.belowUnion] using hshown
    rw [hsame]
  | .array element, answers, others, h, h', hshown =>
    congrArg l.convention.array (assemble_congr element answers others h h' hshown)
  | .map value, answers, others, h, h', hshown =>
    congrArg l.convention.map (assemble_congr value answers others h h' hshown)
  | .union options, answers, others, _, _, hshown => by
    by_cases hl : l ∈ withUnions
    · rw [shownAnswers_of_mem hl, shownAnswers_of_mem hl] at hshown
      rw [hshown]
    · -- nothing is kept of a union, whatever the answers are
      cases l with
      | typeScript => simp [withUnions] at hl
      | python => simp [withUnions] at hl
      | java => rfl
      | cSharp => rfl

/-- A reference is spelled by calling for its names in their order, once each, and making a text of
the answers.  The answers that the language shows occur in the text in the order of the calls, and
the others make no difference. -/
theorem spellM_calls (l : Language) (r : TypeRef) :
    ∃ text : List String → String,
      (∀ {m : Type → Type u} [Monad m] [LawfulMonad m] (named : String → m String),
        l.convention.spellM named r = text <$> r.names.mapM named) ∧
      ∀ answers, answers.length = r.names.length →
        OccurInTurn (l.shownAnswers r answers) (text answers) ∧
        ∀ others, others.length = r.names.length →
          l.shownAnswers r others = l.shownAnswers r answers → text others = text answers :=
  ⟨l.convention.assemble r, fun named => Convention.spellM_eq named r, fun answers h =>
    ⟨occurInTurn_assemble r answers h, fun others h' => assemble_congr r answers others h h'⟩⟩

/-- A bolt or a list of bolts. -/
def someBolts : TypeRef := .union [.named "lib.Bolt", .array (.named "lib.Bolt")]

/-- Answers that are prepared for the calls to come, whatever they are for. -/
def prepared (_ : String) : StateM (List String) String :=
  modifyGet fun answers => (answers.headD "", answers.tail)

/-- Two answers for one name: TypeScript shows both in their order, and Java neither. -/
theorem spellM_calls_someBolts :
    (∃ text : List String → String, text ["first", "second"] = "first | second[]" ∧
      (typeScript.convention.spellM prepared someBolts).run ["first", "second"] =
        (text ["first", "second"], []) ∧
      OccurInTurn ["first", "second"] (text ["first", "second"])) ∧
    ∃ text : List String → String,
      (java.convention.spellM prepared someBolts).run ["first", "second"] =
        (text ["first", "second"], []) ∧
      text ["third", "fourth"] = text ["first", "second"] := by
  constructor
  · obtain ⟨text, hcalls, hanswers⟩ := spellM_calls.{0} typeScript someBolts
    have hrun := congrArg (fun spelled => spelled.run ["first", "second"]) (hcalls prepared)
    have htext : ("first | second[]", []) = (text ["first", "second"], []) := hrun
    exact ⟨text, (congrArg Prod.fst htext).symm, hrun, (hanswers ["first", "second"] rfl).1⟩
  · obtain ⟨text, hcalls, hanswers⟩ := spellM_calls.{0} java someBolts
    have hrun := congrArg (fun spelled => spelled.run ["first", "second"]) (hcalls prepared)
    exact ⟨text, hrun, (hanswers ["first", "second"] rfl).2 ["third", "fourth"] rfl rfl⟩

end Language

end ApiDocs
