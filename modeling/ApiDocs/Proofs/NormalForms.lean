import Mathlib.Data.Set.Basic
import Mathlib.Tactic.Lemma
import ApiDocs.Graph.TypeRef

/-!
# Normal forms of type references

Two references can offer a value the same choices and still differ as trees: a union may stand in a
union, or have a single option.  And two built-in types may mean the same to a reader, as `json` and
`any` do where no type is checked.  `normal` forgets these differences.

The normal form of a union is best described by what it offers: `alternatives` are the options of a
union, and the reference alone if it is none.  A normal form can be recovered from its alternatives
(`IsNormal.eq_of_alternatives_eq`), and the alternatives of a union are those of its options one
after the other (`alternatives_normal_union`), so questions about splicing become questions about
lists that are put together.
-/

namespace ApiDocs.TypeRef

/-! ## Induction -/

/-- What holds of a reference if it holds of its parts holds of every reference. -/
theorem ind {motive : TypeRef → Prop} (primitive : ∀ p, motive (.primitive p))
    (named : ∀ fqn, motive (.named fqn))
    (array : ∀ element, motive element → motive (.array element))
    (map : ∀ value, motive value → motive (.map value))
    (union : ∀ options, (∀ option ∈ options, motive option) → motive (.union options))
    (r : TypeRef) : motive r := by
  refine @TypeRef.rec motive (fun options => ∀ option ∈ options, motive option)
    primitive named array map union nofun ?_ r
  intro first rest hfirst hrest option hoption
  rcases List.mem_cons.1 hoption with rfl | hoption
  · exact hfirst
  · exact hrest option hoption

lemma mem_optionNames_iff {options : List TypeRef} {fqn : String} :
    fqn ∈ optionNames options ↔ ∃ option ∈ options, fqn ∈ option.names := by
  induction options with
  | nil => simp [optionNames]
  | cons option rest ih => simp [optionNames, ih]

/-! ## Normal forms -/

/-- Whether a reference is a union. -/
def isUnion : TypeRef → Bool
  | union _ => true
  | _ => false

/-- The alternatives that a reference offers: the options of a union, or the reference alone. -/
def alternatives : TypeRef → List TypeRef
  | union options => options
  | r => [r]

/-- The reference that offers the alternatives: a union, if there is more than one. -/
def ofAlternatives : List TypeRef → TypeRef
  | [r] => r
  | options => union options

mutual

/-- A reference as far as its text tells it: `json` is `any`, a union directly in a union is spliced
into it, and a union of one option is the option. -/
def normal : TypeRef → TypeRef
  | primitive p => primitive (if p = .json then .any else p)
  | named fqn => named fqn
  | array element => array element.normal
  | map value => map value.normal
  | union options => ofAlternatives (normalOptions options)

/-- The alternatives that the options of a union offer. -/
def normalOptions : List TypeRef → List TypeRef
  | [] => []
  | option :: rest => option.normal.alternatives ++ normalOptions rest

end

mutual

/-- Whether every union in a reference has an option. -/
def hasOptions : TypeRef → Bool
  | primitive _ => true
  | named _ => true
  | array element => element.hasOptions
  | map value => value.hasOptions
  | union options => !options.isEmpty && allHaveOptions options

/-- Whether every union in the options of a union has an option. -/
def allHaveOptions : List TypeRef → Bool
  | [] => true
  | option :: rest => option.hasOptions && allHaveOptions rest

end

lemma normalOptions_eq_flatMap (options : List TypeRef) :
    normalOptions options = options.flatMap fun option => option.normal.alternatives := by
  induction options with
  | nil => rfl
  | cons option rest ih => rw [normalOptions, ih, List.flatMap_cons]

lemma allHaveOptions_iff {options : List TypeRef} :
    allHaveOptions options = true ↔ ∀ option ∈ options, option.hasOptions = true := by
  induction options with
  | nil => simp [allHaveOptions]
  | cons option rest ih => simp [allHaveOptions, ih]

@[simp] lemma hasOptions_union {options : List TypeRef} :
    (union options).hasOptions = true ↔
      options ≠ [] ∧ ∀ option ∈ options, option.hasOptions = true := by
  rw [hasOptions, Bool.and_eq_true, allHaveOptions_iff]
  simp

lemma alternatives_of_not_union {r : TypeRef} (h : r.isUnion = false) : r.alternatives = [r] := by
  cases r <;> first | rfl | cases h

/-- A reference in normal form: a union has at least two options, and none of them is a union. -/
inductive IsNormal : TypeRef → Prop
  | primitive {p : Primitive} (notJson : p ≠ .json) : IsNormal (primitive p)
  | named (fqn : String) : IsNormal (named fqn)
  | array {element : TypeRef} (normal : IsNormal element) : IsNormal (array element)
  | map {value : TypeRef} (normal : IsNormal value) : IsNormal (map value)
  | union {options : List TypeRef} (several : 2 ≤ options.length)
      (normal : ∀ option ∈ options, IsNormal option)
      (flat : ∀ option ∈ options, option.isUnion = false) : IsNormal (union options)

lemma IsNormal.alternatives_ne_nil {r : TypeRef} (h : r.IsNormal) : r.alternatives ≠ [] := by
  cases h with
  | union several _ _ =>
    rintro rfl
    simp at several
  | _ => exact List.cons_ne_nil _ _

/-- The alternatives of a normal form are normal, and none of them is a union. -/
lemma IsNormal.of_mem_alternatives {r a : TypeRef} (h : r.IsNormal) (ha : a ∈ r.alternatives) :
    a.IsNormal ∧ a.isUnion = false := by
  by_cases hunion : r.isUnion = true
  · cases h with
    | union _ normal flat => exact ⟨normal a ha, flat a ha⟩
    | _ => cases hunion
  · have hunion : r.isUnion = false := Bool.eq_false_iff.2 hunion
    rw [alternatives_of_not_union hunion, List.mem_singleton] at ha
    subst ha
    exact ⟨h, hunion⟩

lemma ofAlternatives_of_several {options : List TypeRef} (h : 2 ≤ options.length) :
    ofAlternatives options = union options := by
  match options, h with
  | _ :: _ :: _, _ => rfl

lemma alternatives_ofAlternatives {options : List TypeRef}
    (h : ∀ option ∈ options, option.isUnion = false) :
    (ofAlternatives options).alternatives = options := by
  match options, h with
  | [], _ => rfl
  | [r], h => exact alternatives_of_not_union (h r List.mem_cons_self)
  | _ :: _ :: _, _ => rfl

lemma isNormal_ofAlternatives {options : List TypeRef} (hne : options ≠ [])
    (h : ∀ option ∈ options, option.IsNormal ∧ option.isUnion = false) :
    (ofAlternatives options).IsNormal := by
  match options, hne, h with
  | [r], _, h => exact (h r List.mem_cons_self).1
  | _ :: _ :: _, _, h => exact .union (by simp) (fun o ho => (h o ho).1) fun o ho => (h o ho).2

/-- The normal form of a reference is one. -/
lemma isNormal_normal {r : TypeRef} (h : r.hasOptions = true) : r.normal.IsNormal := by
  induction r using ind with
  | primitive p =>
    rw [normal]
    refine .primitive ?_
    split
    · exact nofun
    · assumption
  | named fqn => exact .named fqn
  | array element ih => exact .array (ih h)
  | map value ih => exact .map (ih h)
  | union options ih =>
    obtain ⟨hne, hoptions⟩ := hasOptions_union.1 h
    have hnormal (o : TypeRef) (ho : o ∈ options) : o.normal.IsNormal := ih o ho (hoptions o ho)
    rw [normal, normalOptions_eq_flatMap]
    refine isNormal_ofAlternatives ?_ fun a ha => ?_
    · obtain ⟨o, ho⟩ := List.exists_mem_of_ne_nil options hne
      rw [Ne, List.flatMap_eq_nil_iff]
      exact fun hnil => (hnormal o ho).alternatives_ne_nil (hnil o ho)
    · obtain ⟨o, ho, ha⟩ := List.mem_flatMap.1 ha
      exact (hnormal o ho).of_mem_alternatives ha

/-- The alternatives of a union are those of its options. -/
lemma alternatives_normal_union {options : List TypeRef} (h : (union options).hasOptions = true) :
    (union options).normal.alternatives =
      options.flatMap fun option => option.normal.alternatives := by
  rw [normal, normalOptions_eq_flatMap]
  refine alternatives_ofAlternatives fun a ha => ?_
  obtain ⟨o, ho, ha⟩ := List.mem_flatMap.1 ha
  exact ((isNormal_normal ((hasOptions_union.1 h).2 o ho)).of_mem_alternatives ha).2

/-- References that offer the same alternatives are the same. -/
lemma IsNormal.eq_of_alternatives_eq {r r' : TypeRef} (h : r.IsNormal) (h' : r'.IsNormal)
    (heq : r.alternatives = r'.alternatives) : r = r' := by
  have hof {r : TypeRef} (h : r.IsNormal) : ofAlternatives r.alternatives = r := by
    cases h with
    | union several _ _ => exact ofAlternatives_of_several several
    | _ => rfl
  rw [← hof h, ← hof h', heq]

/-- The names in a reference are those in its alternatives. -/
lemma mem_names_iff {r : TypeRef} {fqn : String} :
    fqn ∈ r.names ↔ ∃ a ∈ r.alternatives, fqn ∈ a.names := by
  cases r with
  | union options => exact mem_optionNames_iff
  | _ => simp [alternatives]

/-- The named types of a reference are among the given ones. -/
def NamesIn (fqns : Set String) (r : TypeRef) : Prop := ∀ fqn ∈ r.names, fqn ∈ fqns

lemma NamesIn.of_mem_alternatives {fqns : Set String} {r a : TypeRef} (h : r.NamesIn fqns)
    (ha : a ∈ r.alternatives) : a.NamesIn fqns :=
  fun fqn hfqn => h fqn (mem_names_iff.2 ⟨a, ha, hfqn⟩)

lemma NamesIn.named {fqns : Set String} {fqn : String} (h : (named fqn).NamesIn fqns) :
    fqn ∈ fqns :=
  h fqn (List.mem_singleton_self fqn)

lemma names_ofAlternatives {options : List TypeRef} :
    (ofAlternatives options).names = optionNames options := by
  match options with
  | [] => rfl
  | [r] => simp [ofAlternatives, optionNames]
  | _ :: _ :: _ => rfl

/-- A normal form has the names of the reference. -/
lemma mem_names_normal_iff {r : TypeRef} {fqn : String} : fqn ∈ r.normal.names ↔ fqn ∈ r.names := by
  induction r using ind with
  | primitive p => simp [normal, names]
  | named fqn => rfl
  | array element ih => exact ih
  | map value ih => exact ih
  | union options ih =>
    rw [normal, names_ofAlternatives, normalOptions_eq_flatMap, mem_optionNames_iff, names,
      mem_optionNames_iff]
    constructor
    · rintro ⟨a, ha, hfqn⟩
      obtain ⟨o, ho, ha⟩ := List.mem_flatMap.1 ha
      exact ⟨o, ho, (ih o ho).1 (mem_names_iff.2 ⟨a, ha, hfqn⟩)⟩
    · rintro ⟨o, ho, hfqn⟩
      obtain ⟨a, ha, hfqn⟩ := mem_names_iff.1 ((ih o ho).2 hfqn)
      exact ⟨a, List.mem_flatMap.2 ⟨o, ho, ha⟩, hfqn⟩

/-- A union of several options offers several alternatives. -/
lemma isUnion_normal_union {options : List TypeRef} (hlength : 2 ≤ options.length)
    (h : (union options).hasOptions = true) : (union options).normal.isUnion = true := by
  have hne (o : TypeRef) (ho : o ∈ options) : o.normal.alternatives ≠ [] :=
    (isNormal_normal ((hasOptions_union.1 h).2 o ho)).alternatives_ne_nil
  have hseveral : 2 ≤ (options.flatMap fun o => o.normal.alternatives).length := by
    match options, hlength, hne with
    | o :: o' :: rest, _, hne =>
      have ho := List.length_pos_iff.2 (hne o (by simp))
      have ho' := List.length_pos_iff.2 (hne o' (by simp))
      simp only [List.flatMap_cons, List.length_append]
      omega
  rw [normal, normalOptions_eq_flatMap, ofAlternatives_of_several hseveral]
  rfl

lemma namesIn_normal_iff {fqns : Set String} {r : TypeRef} :
    r.normal.NamesIn fqns ↔ r.NamesIn fqns := by
  simp only [NamesIn, mem_names_normal_iff]

/-! ## Places in a reference -/

/-- One step on the way from a reference to a part of it. -/
inductive Frame where
  | array
  | map
  | union (before after : List TypeRef)

/-- The reference that has a given one as the part that a step leads to. -/
def Frame.fill : Frame → TypeRef → TypeRef
  | array, r => .array r
  | map, r => .map r
  | union before after, r => .union (before ++ r :: after)

lemma Frame.hasOptions_of_fill {frame : Frame} {r : TypeRef}
    (h : (frame.fill r).hasOptions = true) : r.hasOptions = true := by
  cases frame with
  | array => exact h
  | map => exact h
  | union before after => exact (hasOptions_union.1 h).2 r (by simp)

/-- References that are told apart are told apart as parts of others. -/
lemma Frame.normal_eq_of_fill {frame : Frame} {r r' : TypeRef}
    (h : (frame.fill r).hasOptions = true) (h' : (frame.fill r').hasOptions = true)
    (heq : (frame.fill r).normal = (frame.fill r').normal) : r.normal = r'.normal := by
  cases frame with
  | array => exact TypeRef.array.inj heq
  | map => exact TypeRef.map.inj heq
  | union before after =>
    have halternatives := congrArg alternatives heq
    rw [fill, fill, alternatives_normal_union h, alternatives_normal_union h'] at halternatives
    simp only [List.flatMap_append, List.flatMap_cons, List.append_cancel_left_eq,
      List.append_cancel_right_eq] at halternatives
    exact (isNormal_normal (hasOptions_of_fill h)).eq_of_alternatives_eq
      (isNormal_normal (hasOptions_of_fill h')) halternatives

/-- The reference that has a given one as the part that several steps lead to. -/
def within (place : List Frame) (r : TypeRef) : TypeRef := place.foldr Frame.fill r

/-- References that are told apart are told apart at any depth. -/
lemma normal_eq_of_within {place : List Frame} {r r' : TypeRef}
    (h : (within place r).hasOptions = true) (h' : (within place r').hasOptions = true)
    (heq : (within place r).normal = (within place r').normal) : r.normal = r'.normal := by
  induction place with
  | nil => exact heq
  | cons frame rest ih =>
    exact ih (Frame.hasOptions_of_fill h) (Frame.hasOptions_of_fill h')
      (Frame.normal_eq_of_fill h h' heq)

lemma hasOptions_of_within {place : List Frame} {r : TypeRef}
    (h : (within place r).hasOptions = true) : r.hasOptions = true := by
  induction place with
  | nil => exact h
  | cons frame rest ih => exact ih (Frame.hasOptions_of_fill h)

end ApiDocs.TypeRef
