import Mathlib.Algebra.GroupWithZero.Nat
import Mathlib.Data.List.Basic
import ApiDocs.Entry.Context

/-!
# Templates of type references

Whoever spells a reference decides how its named types are written: by full name in the record, as
links in the document.  One would have both come from one template, a text with a hole for each
named type.  Python, Java and C# have such templates.  TypeScript brackets what a list is made of
if there is a space in its spelling, and so looks into the answers for its named types as well as at
the reference.  Its template depends on which answers have a space (`Language.template`), and the
spelling of a reference is that template with the answers in its holes (`Language.spell_eq_fill`).

It makes a difference for few names: those of which a list is made without any punctuation that has
a space itself (`TypeRef.listedNames`).  One template spells a reference for all answers that have
no space for these names, and for no others (`Language.templates_of_spell`).  That it fails for the
others is seen on the lengths: each list of such a name costs a pair of brackets.
-/

namespace ApiDocs

/-! ## Templates -/

/-- A piece of a template: text that stays as it is, or the hole of a named type. -/
inductive Piece where
  | text (s : String)
  | hole (fqn : String)

/-- How long the text in a piece is. -/
def Piece.textLength : Piece → Nat
  | text s => s.length
  | hole _ => 0

/-- Text with holes for named types. -/
abbrev Template := List Piece

/-- A piece with what is answered for its named type. -/
def Piece.fill (named : String → String) : Piece → String
  | text s => s
  | hole fqn => named fqn

/-- The named type of a hole. -/
def Piece.hole? : Piece → Option String
  | text _ => none
  | hole fqn => some fqn

/-- Whether there is a space in a piece, where it is known which answers have one. -/
def Piece.isSpaced (spaced : String → Bool) : Piece → Bool
  | text s => s.toList.contains ' '
  | hole fqn => spaced fqn

namespace Template

/-- A template with the answers in its holes. -/
def fill (named : String → String) (t : Template) : String := String.join (t.map (Piece.fill named))

/-- The named types of the holes, from left to right. -/
def holes (t : Template) : List String := t.filterMap Piece.hole?

/-- Whether there is a space in a template, where it is known which answers have one. -/
def isSpaced (spaced : String → Bool) (t : Template) : Bool := t.any (Piece.isSpaced spaced)

/-- How long the text of a template is. -/
def textLength (t : Template) : Nat := (t.map Piece.textLength).sum

/-- A template between two texts. -/
def between (before after : String) (t : Template) : Template :=
  .text before :: (t ++ [.text after])

/-- Templates one after the other, with a text between them. -/
def intercalate (separator : String) : List Template → Template
  | [] => []
  | [t] => t
  | t :: rest => t ++ .text separator :: intercalate separator rest

variable (named : String → String)

@[simp] lemma fill_nil : fill named [] = "" := rfl

@[simp] lemma fill_cons (p : Piece) (t : Template) :
    fill named (p :: t) = p.fill named ++ fill named t := by
  simp [fill]

@[simp] lemma fill_append (t t' : Template) :
    fill named (t ++ t') = fill named t ++ fill named t' := by
  induction t with
  | nil => simp
  | cons p rest ih => rw [List.cons_append, fill_cons, fill_cons, ih, String.append_assoc]

@[simp] lemma fill_between (before after : String) (t : Template) :
    fill named (between before after t) = before ++ fill named t ++ after := by
  simp [between, Piece.fill, String.append_assoc]

lemma intercalate_cons_cons (separator : String) (t t' : Template) (rest : List Template) :
    intercalate separator (t :: t' :: rest) =
      t ++ .text separator :: intercalate separator (t' :: rest) := rfl

lemma fill_intercalate (separator : String) (ts : List Template) :
    fill named (intercalate separator ts) = separator.intercalate (ts.map (fill named)) := by
  induction ts with
  | nil => exact String.intercalate_nil.symm
  | cons t rest ih =>
    cases rest with
    | nil => exact String.intercalate_singleton.symm
    | cons t' rest =>
      rw [intercalate_cons_cons, fill_append, fill_cons, ih, List.map_cons, List.map_cons,
        List.map_cons, String.intercalate_cons_cons, String.append_assoc, Piece.fill]

@[simp] lemma holes_text_cons (s : String) (t : Template) : holes (.text s :: t) = holes t := rfl

@[simp] lemma holes_hole_cons (fqn : String) (t : Template) :
    holes (.hole fqn :: t) = fqn :: holes t := rfl

@[simp] lemma holes_append (t t' : Template) : holes (t ++ t') = holes t ++ holes t' :=
  List.filterMap_append

@[simp] lemma holes_between (before after : String) (t : Template) :
    holes (between before after t) = holes t := by
  rw [between, holes_text_cons, holes_append, holes_text_cons]
  exact List.append_nil _

lemma holes_intercalate (separator : String) (ts : List Template) :
    holes (intercalate separator ts) = ts.flatMap holes := by
  induction ts with
  | nil => rfl
  | cons t rest ih =>
    cases rest with
    | nil => exact (List.append_nil _).symm
    | cons t' rest =>
      rw [intercalate_cons_cons, holes_append, holes_text_cons, ih]
      rfl

@[simp] lemma textLength_cons (p : Piece) (t : Template) :
    textLength (p :: t) = p.textLength + textLength t := by
  rw [textLength, List.map_cons, List.sum_cons, textLength]

@[simp] lemma textLength_append (t t' : Template) :
    textLength (t ++ t') = textLength t + textLength t' := by
  rw [textLength, List.map_append, List.sum_append, textLength, textLength]

lemma textLength_between (before after : String) (t : Template) :
    textLength (between before after t) = before.length + (textLength t + after.length) := by
  rw [between, textLength_cons, textLength_append]
  rfl

lemma textLength_intercalate (separator : String) (ts : List Template) :
    textLength (intercalate separator ts) =
      (ts.map textLength).sum + separator.length * (ts.length - 1) := by
  induction ts with
  | nil => simp [intercalate, textLength]
  | cons t rest ih =>
    cases rest with
    | nil => simp [intercalate]
    | cons t' rest =>
      have hsum : ((t :: t' :: rest).map textLength).sum =
          t.textLength + ((t' :: rest).map textLength).sum := List.sum_cons
      have hlength : (t :: t' :: rest).length - 1 = (t' :: rest).length - 1 + 1 := rfl
      rw [intercalate_cons_cons, textLength_append, textLength_cons, ih, Piece.textLength, hsum,
        hlength, Nat.mul_succ]
      omega

/-- A filled template is as long as its text and the answers. -/
lemma length_fill (t : Template) :
    (fill named t).length = t.textLength + (t.holes.map fun fqn => (named fqn).length).sum := by
  induction t with
  | nil => rfl
  | cons p rest ih =>
    rw [fill_cons, String.length_append, ih, textLength_cons]
    cases p with
    | text s =>
      rw [holes_text_cons, Piece.textLength, Piece.fill]
      omega
    | hole fqn =>
      rw [holes_hole_cons, Piece.textLength, Piece.fill, List.map_cons, List.sum_cons]
      omega

lemma isSpaced_between (spaced : String → Bool) (before after : String) (t : Template) :
    isSpaced spaced (between before after t) =
      (before.toList.contains ' ' || (t.isSpaced spaced || after.toList.contains ' ')) := by
  rw [between, isSpaced, List.any_cons, List.any_append, List.any_cons, List.any_nil, Bool.or_false]
  rfl

/-- There is a space in a filled template exactly if there is one in its text or in an answer. -/
lemma contains_fill (t : Template) :
    (fill named t).toList.contains ' ' =
      t.isSpaced fun fqn => (named fqn).toList.contains ' ' := by
  induction t with
  | nil => rfl
  | cons p rest ih =>
    rw [fill_cons, String.toList_append, List.contains_append, ih, isSpaced, isSpaced,
      List.any_cons]
    cases p <;> rfl

end Template

/-! ## Templates of references -/

namespace Language

/-- A list of what has the template. -/
def arrayTemplate (spaced : String → Bool) : Language → Template → Template
  | typeScript, t => if t.isSpaced spaced then t.between "(" ")[]" else t.between "" "[]"
  | python, t => t.between "typing.List[" "]"
  | java, t => t.between "java.util.List<" ">"
  | cSharp, t => t.between "" "[]"

/-- A map from texts to what has the template. -/
def mapTemplate : Language → Template → Template
  | typeScript, t => t.between "\x7b[ key: string ]: " "\x7d"
  | python, t => t.between "typing.Mapping[str, " "]"
  | java, t => t.between "java.util.Map<java.lang.String, " ">"
  | cSharp, t => t.between "System.Collections.Generic.IDictionary<string, " ">"

/-- One of what has the templates. -/
def unionTemplate : Language → List Template → Template
  | typeScript, ts => .intercalate " | " ts
  | python, ts => (Template.intercalate ", " ts).between "typing.Union[" "]"
  | java, _ => [.text "java.lang.Object"]
  | cSharp, _ => [.text "object"]

mutual

/-- The template by which a language spells a reference, where it is known which answers have a
space in them. -/
def template (l : Language) (spaced : String → Bool) : TypeRef → Template
  | .primitive p => [.text (l.convention.primitive p)]
  | .named fqn => [.hole fqn]
  | .array element => l.arrayTemplate spaced (l.template spaced element)
  | .map value => l.mapTemplate (l.template spaced value)
  | .union options => l.unionTemplate (l.templates spaced options)

/-- The templates of the options of a union. -/
def templates (l : Language) (spaced : String → Bool) : List TypeRef → List Template
  | [] => []
  | option :: rest => l.template spaced option :: l.templates spaced rest

end

variable {l : Language}

/-! ### Filling a template -/

lemma fill_arrayTemplate (named : String → String) (t : Template) :
    (l.arrayTemplate (fun fqn => (named fqn).toList.contains ' ') t).fill named =
      l.convention.array (t.fill named) := by
  cases l with
  | typeScript =>
    have hspace := Template.contains_fill named t
    show _ = Convention.TypeScript.array _
    rw [arrayTemplate, Convention.TypeScript.array, hspace]
    split_ifs
    · rw [Template.fill_between]
    · rw [Template.fill_between, String.empty_append]
  | cSharp =>
    rw [arrayTemplate, Template.fill_between, String.empty_append]
    rfl
  | _ => exact Template.fill_between named _ _ t

lemma fill_mapTemplate (named : String → String) (t : Template) :
    (l.mapTemplate t).fill named = l.convention.map (t.fill named) := by
  cases l <;> exact Template.fill_between named _ _ t

lemma fill_unionTemplate (named : String → String) (ts : List Template) :
    (l.unionTemplate ts).fill named = l.convention.union (ts.map (Template.fill named)) := by
  cases l with
  | typeScript => exact Template.fill_intercalate named _ ts
  | python =>
    rw [unionTemplate, Template.fill_between, Template.fill_intercalate]
    rfl
  | java => rfl
  | cSharp => rfl

mutual

/-- A reference is spelled by its template, the answers for its named types in the holes. -/
lemma spell_eq_fill (named : String → String) : (r : TypeRef) →
    l.convention.spell named r =
      (l.template (fun fqn => (named fqn).toList.contains ' ') r).fill named
  | .primitive p => by
    rw [Convention.spell_primitive, template]
    simp [Piece.fill]
  | .named fqn => by
    rw [Convention.spell_named, template]
    simp [Piece.fill]
  | .array element => by
    rw [Convention.spell_array, template, fill_arrayTemplate, spell_eq_fill named element]
  | .map value => by
    rw [Convention.spell_map, template, fill_mapTemplate, spell_eq_fill named value]
  | .union options => by
    rw [Convention.spell_union, template, fill_unionTemplate, spellOptions_eq_fill named options]

lemma spellOptions_eq_fill (named : String → String) : (options : List TypeRef) →
    options.map (l.convention.spell named) =
      (l.templates (fun fqn => (named fqn).toList.contains ' ') options).map
        (Template.fill named)
  | [] => rfl
  | option :: rest => by
    rw [List.map_cons, templates, List.map_cons, spell_eq_fill named option,
      spellOptions_eq_fill named rest]

end

/-! ### The named types of a template -/

lemma holes_arrayTemplate (spaced : String → Bool) (t : Template) :
    (l.arrayTemplate spaced t).holes = t.holes := by
  cases l with
  | typeScript =>
    rw [arrayTemplate]
    split_ifs <;> exact Template.holes_between _ _ t
  | _ => exact Template.holes_between _ _ t

lemma holes_mapTemplate (t : Template) : (l.mapTemplate t).holes = t.holes := by
  cases l <;> exact Template.holes_between _ _ t

/-- The languages that keep the options of a union. -/
def withUnions : List Language := [typeScript, python]

lemma holes_unionTemplate (ts : List Template) :
    (l.unionTemplate ts).holes = if l ∈ withUnions then ts.flatMap Template.holes else [] := by
  cases l with
  | typeScript => exact Template.holes_intercalate _ ts
  | python =>
    rw [unionTemplate, Template.holes_between, Template.holes_intercalate]
    rfl
  | java => rfl
  | cSharp => rfl

mutual

/-- The named types of a reference that a language shows, from left to right: where it keeps nothing
of a union, it shows none of those in a union. -/
def shownNames (l : Language) : TypeRef → List String
  | .primitive _ => []
  | .named fqn => [fqn]
  | .array element => l.shownNames element
  | .map value => l.shownNames value
  | .union options => if l ∈ withUnions then l.shownOptionNames options else []

/-- The named types of the options of a union that a language shows. -/
def shownOptionNames (l : Language) : List TypeRef → List String
  | [] => []
  | option :: rest => l.shownNames option ++ l.shownOptionNames rest

end

mutual

lemma holes_template (spaced : String → Bool) : (r : TypeRef) →
    (l.template spaced r).holes = l.shownNames r
  | .primitive _ => rfl
  | .named _ => rfl
  | .array element => by
    rw [template, holes_arrayTemplate, holes_template spaced element, shownNames]
  | .map value => by
    rw [template, holes_mapTemplate, holes_template spaced value, shownNames]
  | .union options => by
    rw [template, holes_unionTemplate, holes_templates spaced options, shownNames]

lemma holes_templates (spaced : String → Bool) : (options : List TypeRef) →
    (l.templates spaced options).flatMap Template.holes = l.shownOptionNames options
  | [] => rfl
  | option :: rest => by
    rw [templates, List.flatMap_cons, holes_template spaced option, holes_templates spaced rest,
      shownOptionNames]

end

end Language

/-! ## Names whose spaces matter -/

namespace TypeRef

/-- The named type of a reference that is a named type, up to lists and unions of a single
option. -/
def bareName? : TypeRef → Option String
  | named fqn => some fqn
  | array element => element.bareName?
  | union [option] => option.bareName?
  | _ => none

mutual

/-- The named types of which a reference has lists, without any punctuation between. -/
def listedNames : TypeRef → List String
  | primitive _ => []
  | named _ => []
  | array element => element.listedNames ++ element.bareName?.toList
  | map value => value.listedNames
  | union options => listedOptionNames options

/-- The named types of which the options of a union have lists. -/
def listedOptionNames : List TypeRef → List String
  | [] => []
  | option :: rest => option.listedNames ++ listedOptionNames rest

end

end TypeRef

namespace Language

variable {l : Language} {s s' : String → Bool}

lemma isSpaced_arrayTemplate (t : Template) :
    (typeScript.arrayTemplate s t).isSpaced s' = t.isSpaced s' := by
  rw [arrayTemplate]
  split_ifs <;> exact (Template.isSpaced_between s' _ _ t).trans (Bool.or_false _)

lemma isSpaced_mapTemplate (t : Template) : (typeScript.mapTemplate t).isSpaced s' = true :=
  (Template.isSpaced_between s' _ _ t).trans (Bool.true_or _)

/-- Between two options stands a bar, with a space at its either side. -/
lemma isSpaced_unionTemplate (t t' : Template) (rest : List Template) :
    (typeScript.unionTemplate (t :: t' :: rest)).isSpaced s' = true := by
  have hbar : (Piece.text " | ").isSpaced s' = true := rfl
  rw [unionTemplate, Template.intercalate_cons_cons, Template.isSpaced, List.any_append,
    List.any_cons, hbar, Bool.true_or, Bool.or_true]

/-- There is a space in the template of a bare name exactly if the answer for the name has one. -/
lemma isSpaced_template_of_bareName? : (r : TypeRef) → (fqn : String) → r.bareName? = some fqn →
    (typeScript.template s r).isSpaced s' = s' fqn
  | .named fqn, _, rfl => Bool.or_false (s' fqn)
  | .array element, fqn, h => by
    rw [template, isSpaced_arrayTemplate]
    exact isSpaced_template_of_bareName? element fqn h
  | .union [option], fqn, h => isSpaced_template_of_bareName? option fqn h

/-- In any other reference it is the reference alone that tells. -/
lemma isSpaced_template_congr : (r : TypeRef) → r.bareName? = none →
    (typeScript.template s r).isSpaced s' =
      (typeScript.template (fun _ => false) r).isSpaced fun _ => false
  | .primitive _, _ => rfl
  | .array element, h => by
    rw [template, template, isSpaced_arrayTemplate, isSpaced_arrayTemplate]
    exact isSpaced_template_congr element h
  | .map value, _ => (isSpaced_mapTemplate _).trans (isSpaced_mapTemplate _).symm
  | .union [], _ => rfl
  | .union [option], h => isSpaced_template_congr option h
  | .union (_ :: _ :: _), _ =>
    (isSpaced_unionTemplate _ _ _).trans (isSpaced_unionTemplate _ _ _).symm

/-- Which answers have a space makes a difference for a bare name only. -/
lemma isSpaced_template_eq {r : TypeRef} (h : ∀ fqn ∈ r.bareName?.toList, s fqn = s' fqn)
    (known : String → Bool) :
    (typeScript.template known r).isSpaced s = (typeScript.template known r).isSpaced s' := by
  cases hname : r.bareName? with
  | none => exact (isSpaced_template_congr r hname).trans (isSpaced_template_congr r hname).symm
  | some fqn =>
    rw [isSpaced_template_of_bareName? r fqn hname, isSpaced_template_of_bareName? r fqn hname]
    exact h fqn (by rw [hname]; exact List.mem_singleton_self fqn)

lemma arrayTemplate_congr {t : Template} (h : l = typeScript → t.isSpaced s = t.isSpaced s') :
    l.arrayTemplate s t = l.arrayTemplate s' t := by
  cases l with
  | typeScript => rw [arrayTemplate, arrayTemplate, h rfl]
  | _ => rfl

mutual

/-- In TypeScript the template of a reference depends on the answers for the names of which it has
lists, and elsewhere on no answers at all. -/
lemma template_congr : (r : TypeRef) →
    (l = typeScript → ∀ fqn ∈ r.listedNames, s fqn = s' fqn) →
    l.template s r = l.template s' r
  | .primitive _, _ => rfl
  | .named _, _ => rfl
  | .array element, h => by
    have hparts (hl : l = typeScript) := List.forall_mem_append.1 (h hl)
    rw [template, template, template_congr element fun hl => (hparts hl).1]
    refine arrayTemplate_congr fun hl => ?_
    subst hl
    exact isSpaced_template_eq (hparts rfl).2 s'
  | .map value, h => by
    rw [template, template, template_congr value h]
  | .union options, h => by
    rw [template, template, templates_congr options h]

lemma templates_congr : (options : List TypeRef) →
    (l = typeScript → ∀ fqn ∈ TypeRef.listedOptionNames options, s fqn = s' fqn) →
    l.templates s options = l.templates s' options
  | [], _ => rfl
  | option :: rest, h => by
    have hparts (hl : l = typeScript) := List.forall_mem_append.1 (h hl)
    rw [templates, templates, template_congr option fun hl => (hparts hl).1,
      templates_congr rest fun hl => (hparts hl).2]

end

/-! ## Brackets -/

lemma textLength_arrayTemplate (t : Template) :
    (typeScript.arrayTemplate s t).textLength =
      t.textLength + 2 + if t.isSpaced s then 2 else 0 := by
  rw [arrayTemplate]
  split_ifs
  · rw [Template.textLength_between]
    show 1 + (t.textLength + 3) = _
    omega
  · rw [Template.textLength_between]
    show 0 + (t.textLength + 2) = _
    omega

lemma length_templates : (options : List TypeRef) →
    (l.templates s options).length = options.length
  | [] => rfl
  | _ :: rest => by
    rw [templates, List.length_cons, List.length_cons, length_templates rest]

mutual

/-- In TypeScript each name of which a reference has lists costs a pair of brackets if the answer
for it has a space. -/
lemma textLength_template : (r : TypeRef) →
    (typeScript.template s r).textLength =
      (typeScript.template (fun _ => false) r).textLength + 2 * r.listedNames.countP s
  | .primitive _ => rfl
  | .named _ => rfl
  | .array element => by
    have helement := textLength_template element
    rw [template, template, textLength_arrayTemplate, textLength_arrayTemplate, helement,
      TypeRef.listedNames, List.countP_append]
    cases hname : element.bareName? with
    | none =>
      rw [isSpaced_template_congr element hname, isSpaced_template_congr element hname]
      simp only [Option.toList_none, List.countP_nil]
      omega
    | some fqn =>
      rw [isSpaced_template_of_bareName? element fqn hname,
        isSpaced_template_of_bareName? element fqn hname, Option.toList_some,
        List.countP_singleton, if_neg Bool.false_ne_true]
      by_cases hspaced : s fqn = true
      · rw [if_pos hspaced, if_pos hspaced]
        omega
      · rw [if_neg hspaced, if_neg hspaced]
        omega
  | .map value => by
    have hvalue := textLength_template value
    rw [template, template, mapTemplate, mapTemplate, Template.textLength_between,
      Template.textLength_between, hvalue, TypeRef.listedNames]
    omega
  | .union options => by
    have hoptions := textLength_templates options
    rw [template, template, unionTemplate, unionTemplate, Template.textLength_intercalate,
      Template.textLength_intercalate, hoptions, length_templates, length_templates,
      TypeRef.listedNames]
    omega

lemma textLength_templates : (options : List TypeRef) →
    ((typeScript.templates s options).map Template.textLength).sum =
      ((typeScript.templates (fun _ => false) options).map Template.textLength).sum +
        2 * (TypeRef.listedOptionNames options).countP s
  | [] => rfl
  | option :: rest => by
    have hoption := textLength_template option
    have hrest := textLength_templates rest
    rw [templates, templates, List.map_cons, List.sum_cons, List.map_cons, List.sum_cons, hoption,
      hrest, TypeRef.listedOptionNames, List.countP_append]
    omega

end

/-! ## Spelling by one template -/

/-- The template of a reference where no answer has a space. -/
def plainTemplate (l : Language) (r : TypeRef) : Template := l.template (fun _ => false) r

/-- A language spells a reference by its plain template, and in TypeScript with a pair of brackets
for each name of which the reference has lists and the answer a space. -/
lemma length_spell (named : String → String) (r : TypeRef) :
    (typeScript.convention.spell named r).length =
      ((typeScript.plainTemplate r).fill named).length +
        2 * r.listedNames.countP fun fqn => (named fqn).toList.contains ' ' := by
  rw [spell_eq_fill, Template.length_fill, Template.length_fill, textLength_template,
    plainTemplate, holes_template, holes_template]
  omega

/-- The plain template spells a reference for the answers without a space for the names of which
the reference has lists, and for no others. -/
lemma spell_eq_fill_plainTemplate_iff (named : String → String) (r : TypeRef) :
    l.convention.spell named r = (l.plainTemplate r).fill named ↔
      (l = typeScript → ∀ fqn ∈ r.listedNames, ' ' ∉ (named fqn).toList) := by
  constructor
  · rintro h rfl fqn hfqn hspace
    have hlength := length_spell named r
    rw [h] at hlength
    have hcount : (r.listedNames.countP fun fqn => (named fqn).toList.contains ' ') = 0 := by
      omega
    rw [List.countP_eq_zero] at hcount
    exact hcount fqn hfqn (List.contains_iff_mem.2 hspace)
  · intro h
    rw [spell_eq_fill, plainTemplate]
    refine congrArg (Template.fill named) (template_congr r fun hl fqn hfqn => ?_)
    exact Bool.eq_false_iff.2 fun hspace => h hl fqn hfqn (List.contains_iff_mem.1 hspace)

/-- If a reference is spelled by one template for all answers, it has no list of a name in
TypeScript. -/
lemma listedNames_eq_nil_of_template {r : TypeRef} {T : Template}
    (h : ∀ named, typeScript.convention.spell named r = T.fill named) : r.listedNames = [] := by
  -- a space and a letter are answers of one length, but the spaces cost brackets
  have hspace := length_spell (fun _ => String.singleton ' ') r
  have hletter := length_spell (fun _ => String.singleton 'a') r
  have hall : (r.listedNames.countP fun _ => (String.singleton ' ').toList.contains ' ') =
      r.listedNames.length :=
    List.countP_eq_length.2 fun _ _ => by simp
  have hnone : (r.listedNames.countP fun _ => (String.singleton 'a').toList.contains ' ') = 0 :=
    List.countP_eq_zero.2 fun _ _ => by simp
  rw [h, Template.length_fill, Template.length_fill, hall] at hspace
  rw [h, Template.length_fill, Template.length_fill, hnone] at hletter
  simp only [String.length_singleton] at hspace hletter
  refine List.length_eq_zero_iff.1 ?_
  omega

/-- A language spells a reference by a template that has a hole for each named type it shows, save
that TypeScript brackets a list of a name for which the answer has a space.  One template serves all
answers exactly if it is another language or the reference has no list of a name.  The document and
the record spell a reference by one template wherever the link of such a name has a space exactly if
the full name has one. -/
theorem templates_of_spell (l : Language) (r : TypeRef) :
    (∃ T : Template, T.holes = l.shownNames r ∧
      ∀ named, l.convention.spell named r = T.fill named ↔
        (l = typeScript → ∀ fqn ∈ r.listedNames, ' ' ∉ (named fqn).toList)) ∧
    ((∃ T : Template, ∀ named, l.convention.spell named r = T.fill named) ↔
      (l = typeScript → r.listedNames = [])) ∧
    ∀ (ctx : Context) (link : TypeName → Bool → String), ctx.options.language = l →
      (l = typeScript → ∀ fqn ∈ r.listedNames,
        (' ' ∈ (ctx.typeName fqn).qualified.toList ↔
          ' ' ∈ (link (ctx.typeName fqn) (ctx.graph.isLocal fqn)).toList)) →
      ∃ T : Template, T.holes = l.shownNames r ∧
        ctx.displayType r = T.fill (fun fqn => (ctx.typeName fqn).qualified) ∧
        ctx.linkedType link r =
          T.fill fun fqn => link (ctx.typeName fqn) (ctx.graph.isLocal fqn) := by
  refine ⟨⟨l.plainTemplate r, holes_template _ r, fun named => ?_⟩, ⟨?_, fun h => ?_⟩, ?_⟩
  · exact spell_eq_fill_plainTemplate_iff named r
  · rintro ⟨T, hT⟩ rfl
    exact listedNames_eq_nil_of_template hT
  · refine ⟨l.plainTemplate r, fun named => (spell_eq_fill_plainTemplate_iff named r).2 ?_⟩
    intro hl fqn hfqn
    rw [h hl] at hfqn
    exact absurd hfqn List.not_mem_nil
  · rintro ctx link rfl hspaces
    refine ⟨_, holes_template _ r, spell_eq_fill _ r, ?_⟩
    rw [Context.linkedType, Context.convention, spell_eq_fill]
    refine congrArg (Template.fill _) (template_congr r fun hl fqn hfqn => ?_)
    rw [Bool.eq_iff_iff, List.contains_iff_mem, List.contains_iff_mem]
    exact (hspaces hl fqn hfqn).symm

end Language

/-! ## A list of a name -/

/-- A library of one class. -/
def shop : Graph where
  name := "lib"
  types := [{ fqn := "lib.Store", name := "Store", body := .ofClass {} }]

/-- Links to places in the document have no space, so the document has a list of stores as the
record has it. -/
theorem Language.templates_of_spell_shop :
    ∃ ctx : Context, ctx.graph = shop ∧ ∃ T : Template, T.holes = ["lib.Store"] ∧
      ctx.displayType (.array (.named "lib.Store")) =
        T.fill (fun fqn => (ctx.typeName fqn).qualified) ∧
      ctx.linkedType ctx.link (.array (.named "lib.Store")) = T.fill ctx.linkTo ∧
      ctx.displayType (.array (.named "lib.Store")) = "Store[]" ∧
      ctx.linkedType ctx.link (.array (.named "lib.Store")) = "[`Store`](#lib.Store)[]" := by
  have hspaces : ∀ fqn ∈ TypeRef.listedNames (.array (.named "lib.Store")),
      (' ' ∈ (Context.typeName ⟨shop, {}⟩ fqn).qualified.toList ↔
        ' ' ∈ (Context.linkTo ⟨shop, {}⟩ fqn).toList) := by
    decide +kernel
  obtain ⟨T, hholes, hdisplay, hlinked⟩ :=
    (Language.templates_of_spell .typeScript (.array (.named "lib.Store"))).2.2 ⟨shop, {}⟩
      (Context.link ⟨shop, {}⟩) rfl fun _ => hspaces
  exact ⟨⟨shop, {}⟩, rfl, T, hholes, hdisplay, hlinked, by decide +kernel, by decide +kernel⟩

/-- With links to a place with a space in its name, the document has brackets in a list of stores
that the record does not have, and no template spells such a list for all answers. -/
theorem Language.bracketed_list_shop :
    (¬ ∃ T : Template, ∀ named,
      Language.typeScript.convention.spell named (.array (.named "lib.Store")) = T.fill named) ∧
    ∃ ctx : Context, ctx.graph = shop ∧
      ctx.displayType (.array (.named "lib.Store")) = "Store[]" ∧
      ctx.linkedType ctx.link (.array (.named "lib.Store")) = "([`Store`](the store))[]" := by
  constructor
  · rintro ⟨T, hT⟩
    have hnames := Language.listedNames_eq_nil_of_template hT
    cases hnames
  · exact ⟨⟨shop, { linkTarget? := some fun _ => "the store" }⟩, rfl, by decide +kernel,
      by decide +kernel⟩

end ApiDocs
