import Mathlib.Data.Set.Function
import ApiDocs.Convention.TypeScript
import ApiDocs.Proofs.Lists
import ApiDocs.Proofs.NormalForms

/-!
# Unique readability of TypeScript types

A reader of a TypeScript signature has the text of a type and not the reference.  The normal form of
the reference is all that the text tells, and the main statement is that it tells no less: two
references are spelled alike exactly if they have the same normal form (`spell_eq_spell_iff`).

A list, a map and a built-in or named type are told apart by the bracket that their text ends in.
The hard case is a union, whose text may hold bars of its options as well as its own.  Its own bars
are those that no bracket encloses, since an option that has bars of its own has brackets around
them.  So `scan` counts the open brackets along a text and gives up at a bar outside of them.  The
text of an option is read to its end, and the text of a union is given up at its first bar, so the
first option of a union can be cut off (`eq_and_eq_of_append_barred_eq`).
-/

namespace ApiDocs.Convention.TypeScript

/-! ## Brackets and bars -/

/-- The number of open brackets behind a character; none if the character closes a bracket that is
not open, or is a bar that no bracket encloses. -/
def turn (opened : Nat) (c : Char) : Option Nat :=
  if c = '(' ∨ c = '\x7b' then some (opened + 1)
  else if c = ')' ∨ c = '\x7d' then (if opened = 0 then none else some (opened - 1))
  else if c = '|' ∧ opened = 0 then none
  else some opened

/-- The number of open brackets behind a text. -/
def scan (opened : Nat) (text : List Char) : Option Nat := text.foldlM turn opened

/-- A text that closes the brackets it opens and encloses its bars in them. -/
def IsWhole (text : List Char) : Prop := scan 0 text = some 0

lemma scan_nil (opened : Nat) : scan opened [] = some opened := rfl

lemma scan_append (opened : Nat) (xs ys : List Char) :
    scan opened (xs ++ ys) = (scan opened xs).bind fun behind => scan behind ys :=
  List.foldlM_append

lemma scan_append_of_eq {opened behind : Nat} {xs : List Char} (h : scan opened xs = some behind)
    (ys : List Char) : scan opened (xs ++ ys) = scan behind ys := by
  rw [scan_append, h, Option.bind_some]

lemma scan_cons (opened : Nat) (c : Char) (rest : List Char) :
    scan opened (c :: rest) = (turn opened c).bind fun behind => scan behind rest :=
  List.foldlM_cons

/-- A bracket around a text leaves the text's own brackets as they are. -/
lemma turn_succ {opened behind : Nat} {c : Char} (h : turn opened c = some behind) :
    turn (opened + 1) c = some (behind + 1) := by
  unfold turn at h ⊢
  split_ifs at h ⊢ <;> grind

lemma scan_succ {opened behind : Nat} {text : List Char} (h : scan opened text = some behind) :
    scan (opened + 1) text = some (behind + 1) := by
  induction text generalizing opened with
  | nil =>
    rw [scan_nil, Option.some.injEq] at h ⊢
    omega
  | cons c rest ih =>
    rw [scan_cons] at h ⊢
    obtain ⟨next, hc, hrest⟩ := Option.bind_eq_some_iff.1 h
    rw [turn_succ hc, Option.bind_some]
    exact ih hrest

lemma IsWhole.scan_one {text : List Char} (h : IsWhole text) : scan 1 text = some 1 := scan_succ h

/-- Characters other than brackets and bars change nothing. -/
lemma isWhole_of_plain {text : List Char}
    (h : ∀ c ∈ text, c ∉ ['|', '(', ')', '\x7b', '\x7d']) : IsWhole text := by
  induction text with
  | nil => rfl
  | cons c rest ih =>
    have hc : turn 0 c = some 0 := by
      have := h c List.mem_cons_self
      simp only [List.mem_cons, List.not_mem_nil, or_false, not_or] at this
      simp [turn, this]
    rw [IsWhole, scan_cons, hc, Option.bind_some]
    exact ih fun d hd => h d (List.mem_cons_of_mem c hd)

/-- A bar behind a whole text is not enclosed. -/
lemma IsWhole.scan_bar {text : List Char} (h : IsWhole text) (rest : List Char) :
    scan 0 (text ++ ' ' :: '|' :: rest) = none := by
  rw [scan_append_of_eq h, scan_cons]
  rfl

/-! ## Texts with bars between them -/

/-- Texts with a bar before each. -/
def barred (texts : List (List Char)) : List Char :=
  texts.flatMap fun text => ' ' :: '|' :: ' ' :: text

/-- Texts with bars between them. -/
def bars (texts : List (List Char)) : List Char := [' ', '|', ' '].intercalate texts

lemma bars_cons (x : List Char) (rest : List (List Char)) :
    bars (x :: rest) = x ++ barred rest := by
  induction rest generalizing x with
  | nil => simp [bars, barred]
  | cons y rest ih =>
    have hy := ih y
    rw [bars] at hy ⊢
    rw [List.intercalate_cons_cons, hy]
    simp [barred]

lemma bars_append {xs ys : List (List Char)} (hxs : xs ≠ []) (hys : ys ≠ []) :
    bars (xs ++ ys) = bars [bars xs, bars ys] := by
  obtain ⟨x, rest, rfl⟩ := List.exists_cons_of_ne_nil hxs
  obtain ⟨y, others, rfl⟩ := List.exists_cons_of_ne_nil hys
  simp [bars_cons, barred]

/-- Bars between texts that have bars between their parts are all alike. -/
lemma bars_flatMap {α : Type*} {f : α → List (List Char)} {items : List α}
    (h : ∀ a ∈ items, f a ≠ []) :
    bars (items.flatMap f) = bars (items.map fun a => bars (f a)) := by
  induction items with
  | nil => rfl
  | cons a rest ih =>
    have ha := h a List.mem_cons_self
    have hrest := ih fun b hb => h b (List.mem_cons_of_mem a hb)
    rcases rest with _ | ⟨b, rest⟩
    · simp [bars_cons, barred]
    · have hb : (b :: rest).flatMap f ≠ [] := by
        rw [List.flatMap_cons]
        exact List.append_ne_nil_of_left_ne_nil (h b (by simp)) _
      rw [List.flatMap_cons, bars_append ha hb, hrest]
      simp [bars_cons, barred]

lemma scan_one_bars {texts : List (List Char)} (h : ∀ x ∈ texts, scan 1 x = some 1) :
    scan 1 (bars texts) = some 1 := by
  have hbarred (rest : List (List Char)) (h : ∀ x ∈ rest, scan 1 x = some 1) :
      scan 1 (barred rest) = some 1 := by
    induction rest with
    | nil => rfl
    | cons x rest ih =>
      have hx : scan 1 (' ' :: '|' :: ' ' :: x) = some 1 := h x List.mem_cons_self
      rw [barred, List.flatMap_cons, scan_append_of_eq hx]
      exact ih fun y hy => h y (List.mem_cons_of_mem x hy)
  rcases texts with _ | ⟨x, rest⟩
  · rfl
  · rw [bars_cons, scan_append_of_eq (h x List.mem_cons_self)]
    exact hbarred rest fun y hy => h y (List.mem_cons_of_mem x hy)

/-- What a bar starts does not continue a whole text to another one. -/
lemma eq_nil_of_isWhole_append {x z : List Char} {rest rest' : List (List Char)} (hx : IsWhole x)
    (hxz : IsWhole (x ++ z)) (h : barred rest = z ++ barred rest') : z = [] := by
  by_contra hz
  obtain ⟨c, z, rfl⟩ := List.exists_cons_of_ne_nil hz
  rcases rest with _ | ⟨y, rest⟩
  · cases h
  have hcons : ' ' :: '|' :: ' ' :: (y ++ barred rest) = c :: (z ++ barred rest') := by
    simpa [barred] using h
  obtain ⟨rfl, hbar⟩ := List.cons.inj hcons
  rcases z with _ | ⟨c, z⟩
  -- the other list would start with the bar alone
  · rcases rest' with _ | ⟨y', rest'⟩
    · cases hbar
    · have : '|' = ' ' := (List.cons.inj hbar).1
      revert this
      decide
  · obtain ⟨rfl, -⟩ := List.cons.inj hbar
    rw [IsWhole, hx.scan_bar] at hxz
    cases hxz

/-- The first option of a union is found in its text. -/
lemma eq_and_eq_of_append_barred_eq {x y : List Char} {rest rest' : List (List Char)}
    (hx : IsWhole x) (hy : IsWhole y) (h : x ++ barred rest = y ++ barred rest') :
    x = y ∧ barred rest = barred rest' := by
  rcases List.append_eq_append_iff.1 h with ⟨z, rfl, hz⟩ | ⟨z, rfl, hz⟩
  · obtain rfl := eq_nil_of_isWhole_append hx hy hz
    exact ⟨(List.append_nil x).symm, hz⟩
  · obtain rfl := eq_nil_of_isWhole_append hy hx hz
    exact ⟨List.append_nil y, hz.symm⟩

lemma eq_of_barred_eq {xs ys : List (List Char)} (hx : ∀ x ∈ xs, IsWhole x)
    (hy : ∀ y ∈ ys, IsWhole y) (h : barred xs = barred ys) : xs = ys := by
  induction xs generalizing ys with
  | nil =>
    rcases ys with _ | ⟨y, rest'⟩
    · rfl
    · cases h
  | cons x rest ih =>
    rcases ys with _ | ⟨y, rest'⟩
    · cases h
    have hcons : x ++ barred rest = y ++ barred rest' := by simpa [barred] using h
    obtain ⟨rfl, hrest⟩ := eq_and_eq_of_append_barred_eq (hx x List.mem_cons_self)
      (hy y List.mem_cons_self) hcons
    rw [ih (fun z hz => hx z (List.mem_cons_of_mem x hz))
      (fun z hz => hy z (List.mem_cons_of_mem x hz)) hrest]

/-- The options of a union are found in its text. -/
lemma eq_of_bars_eq {xs ys : List (List Char)} (hxs : xs ≠ []) (hys : ys ≠ [])
    (hx : ∀ x ∈ xs, IsWhole x) (hy : ∀ y ∈ ys, IsWhole y) (h : bars xs = bars ys) : xs = ys := by
  obtain ⟨x, rest, rfl⟩ := List.exists_cons_of_ne_nil hxs
  obtain ⟨y, rest', rfl⟩ := List.exists_cons_of_ne_nil hys
  rw [bars_cons, bars_cons] at h
  obtain ⟨rfl, hrest⟩ := eq_and_eq_of_append_barred_eq (hx x List.mem_cons_self)
    (hy y List.mem_cons_self) h
  rw [eq_of_barred_eq (fun z hz => hx z (List.mem_cons_of_mem x hz))
    (fun z hz => hy z (List.mem_cons_of_mem x hz)) hrest]

/-! ## The texts of references -/

/-- What makes the texts of named types tell them apart, from each other and from everything else
that a signature can hold.  A text may be empty. -/
structure Distinguishes (named : String → String) (fqns : Set String) : Prop where
  injOn : Set.InjOn named fqns
  plain : ∀ fqn ∈ fqns, ∀ c ∈ (named fqn).toList,
    c ∉ [' ', '|', '(', ')', '[', ']', '\x7b', '\x7d']
  notBuiltIn : ∀ fqn ∈ fqns, ∀ p, named fqn ≠ primitive p

/-- What stands before the values of a map. -/
def mapOpening : List Char := "\x7b[ key: string ]: ".toList

lemma toList_map (value : String) :
    (map value).toList = mapOpening ++ (value.toList ++ ['\x7d']) := by
  unfold map mapOpening
  -- kept as it is, since it would be evaluated letter by letter
  generalize "\x7b[ key: string ]: " = opening
  rw [String.toList_append, String.toList_append, List.append_assoc]
  rfl

/-- The text of a reference. -/
def chars (named : String → String) (r : TypeRef) : List Char := (typeScript.spell named r).toList

section

variable {named : String → String}

lemma chars_primitive (p : Primitive) : chars named (.primitive p) = (primitive p).toList := by
  rw [chars, spell_primitive]
  rfl

lemma chars_named (fqn : String) : chars named (.named fqn) = (named fqn).toList := by
  rw [chars, spell_named]

lemma chars_array (element : TypeRef) :
    chars named (.array element) =
      (if ' ' ∈ chars named element then '(' :: chars named element ++ [')']
        else chars named element) ++ ['[', ']'] := by
  rw [chars, spell_array]
  show (array (typeScript.spell named element)).toList = _
  by_cases h : ' ' ∈ (typeScript.spell named element).toList
  · simp [array, chars, h]
  · simp [array, chars, h]

lemma chars_map (value : TypeRef) :
    chars named (.map value) = mapOpening ++ (chars named value ++ ['\x7d']) := by
  rw [chars, spell_map]
  exact toList_map _

lemma chars_union (options : List TypeRef) :
    chars named (.union options) = bars (options.map (chars named)) := by
  rw [chars, spell_union]
  show (union (options.map (typeScript.spell named))).toList = _
  rw [union, String.toList_intercalate, List.map_map]
  rfl

/-- The text of a reference is that of its alternatives, with bars between them. -/
lemma chars_eq_bars (r : TypeRef) : chars named r = bars (r.alternatives.map (chars named)) := by
  cases r with
  | union options => exact chars_union options
  | _ => exact (List.append_nil _).symm.trans (bars_cons _ []).symm

lemma chars_ofAlternatives (options : List TypeRef) :
    chars named (.ofAlternatives options) = bars (options.map (chars named)) := by
  match options with
  | [] => exact chars_union []
  | [r] => exact (List.append_nil _).symm.trans (bars_cons _ []).symm
  | r :: r' :: rest => exact chars_union (r :: r' :: rest)

/-- A normal form has the text of the reference. -/
lemma chars_normal {r : TypeRef} (h : r.hasOptions = true) :
    chars named r.normal = chars named r := by
  induction r using TypeRef.ind with
  | primitive p => cases p <;> rfl
  | named fqn => rfl
  | array element ih => rw [TypeRef.normal, chars_array, chars_array, ih h]
  | map value ih => rw [TypeRef.normal, chars_map, chars_map, ih h]
  | union options ih =>
    have hoptions := (TypeRef.hasOptions_union.1 h).2
    have hne (o : TypeRef) (ho : o ∈ options) : o.normal.alternatives.map (chars named) ≠ [] := by
      rw [Ne, List.map_eq_nil_iff]
      exact (TypeRef.isNormal_normal (hoptions o ho)).alternatives_ne_nil
    rw [TypeRef.normal, TypeRef.normalOptions_eq_flatMap, chars_ofAlternatives, chars_union,
      List.map_flatMap, bars_flatMap hne]
    congr 1
    refine List.map_congr_left fun o ho => ?_
    rw [← chars_eq_bars, ih o ho (hoptions o ho)]

/-! ## What brackets enclose -/

lemma mem_chars_of_union {options : List TypeRef} (h : 2 ≤ options.length) :
    ' ' ∈ chars named (.union options) := by
  match options, h with
  | r :: r' :: rest, _ =>
    rw [chars_union, List.map_cons, bars_cons]
    simp [barred]

/-- The text of a type is whole, and so is the text of every option of a union; a union has bars of
its own, and is whole between brackets. -/
lemma scan_chars {fqns : Set String} (h : Distinguishes named fqns) {r : TypeRef}
    (hr : r.IsNormal) (hnames : r.NamesIn fqns) :
    scan 1 (chars named r) = some 1 ∧ (r.isUnion = false → IsWhole (chars named r)) := by
  induction hr with
  | @primitive p _ =>
    have hwhole : IsWhole (chars named (.primitive p)) := by
      rw [chars_primitive]
      cases p <;> rfl
    exact ⟨hwhole.scan_one, fun _ => hwhole⟩
  | named fqn =>
    have hwhole : IsWhole (chars named (.named fqn)) := by
      rw [chars_named]
      refine isWhole_of_plain fun c hc => ?_
      have := h.plain fqn hnames.named c hc
      grind
    exact ⟨hwhole.scan_one, fun _ => hwhole⟩
  | @array element hnormal ih =>
    obtain ⟨hbalanced, hwhole⟩ := ih hnames
    have harray : IsWhole (chars named (.array element)) := by
      rw [chars_array, IsWhole]
      by_cases hspace : ' ' ∈ chars named element
      · rw [if_pos hspace]
        show scan 1 ((chars named element ++ [')']) ++ ['[', ']']) = some 0
        rw [List.append_assoc, scan_append_of_eq hbalanced]
        rfl
      · have hunion : element.isUnion = false := by
          cases hnormal with
          | union several _ _ => exact absurd (mem_chars_of_union several) hspace
          | _ => rfl
        rw [if_neg hspace, scan_append_of_eq (hwhole hunion)]
        rfl
    exact ⟨harray.scan_one, fun _ => harray⟩
  | @map value _ ih =>
    have hopening : scan 0 mapOpening = some 1 := rfl
    have hmap : IsWhole (chars named (.map value)) := by
      rw [chars_map, IsWhole, scan_append_of_eq hopening, scan_append_of_eq (ih hnames).1]
      rfl
    exact ⟨hmap.scan_one, fun _ => hmap⟩
  | @union options _ _ _ ih =>
    refine ⟨?_, nofun⟩
    rw [chars_union]
    refine scan_one_bars fun x hx => ?_
    obtain ⟨o, ho, rfl⟩ := List.mem_map.1 hx
    exact (ih o ho (hnames.of_mem_alternatives ho)).1

/-! ## What texts end in -/

/-- The bracket that a text ends in, if it is one of those that close a list or a map. -/
def closing (text : List Char) : Option Char :=
  text.getLast?.filter fun c => c = ']' ∨ c = '\x7d'

lemma closing_append_singleton (xs : List Char) {c : Char} (h : c = ']' ∨ c = '\x7d') :
    closing (xs ++ [c]) = some c := by
  simp [closing, h]

lemma closing_eq_none {text : List Char} (h : ∀ c ∈ text, c ≠ ']' ∧ c ≠ '\x7d') :
    closing text = none := by
  rw [closing, Option.filter_eq_none_iff]
  intro c hc
  have := h c (List.mem_of_getLast? hc)
  simp [this]

/-- The mark by which the text of a type shows its kind: a bar, or the bracket at its end. -/
def mark : TypeRef → Option Char
  | .primitive _ => none
  | .named _ => none
  | .array _ => some ']'
  | .map _ => some '\x7d'
  | .union _ => some '|'

lemma closing_chars {fqns : Set String} (h : Distinguishes named fqns) {r : TypeRef}
    (hunion : r.isUnion = false) (hnames : r.NamesIn fqns) :
    closing (chars named r) = mark r := by
  cases r with
  | primitive p =>
    rw [chars_primitive]
    cases p <;> rfl
  | named fqn =>
    rw [chars_named]
    refine closing_eq_none fun c hc => ?_
    have := h.plain fqn hnames.named c hc
    grind
  | array element =>
    rw [chars_array, show ['[', ']'] = ['['] ++ [']'] from rfl, ← List.append_assoc]
    exact closing_append_singleton _ (.inl rfl)
  | map value =>
    rw [chars_map, ← List.append_assoc]
    exact closing_append_singleton _ (.inr rfl)
  | union options => cases hunion

/-! ## Reading a text back -/

section

variable {fqns : Set String} {a b : TypeRef}

/-- References of one text offer alternatives of the same texts. -/
lemma map_alternatives_eq (h : Distinguishes named fqns) (ha : a.IsNormal) (hb : b.IsNormal)
    (hna : a.NamesIn fqns) (hnb : b.NamesIn fqns)
    (heq : chars named a = chars named b) :
    a.alternatives.map (chars named) = b.alternatives.map (chars named) := by
  have hwhole {r : TypeRef} (hr : r.IsNormal) (hnames : r.NamesIn fqns)
      (x : List Char) (hx : x ∈ r.alternatives.map (chars named)) : IsWhole x := by
    obtain ⟨o, ho, rfl⟩ := List.mem_map.1 hx
    obtain ⟨hnormal, hunion⟩ := hr.of_mem_alternatives ho
    exact (scan_chars h hnormal (hnames.of_mem_alternatives ho)).2 hunion
  rw [chars_eq_bars a, chars_eq_bars b] at heq
  refine eq_of_bars_eq ?_ ?_ (hwhole ha hna) (hwhole hb hnb) heq
  · rw [Ne, List.map_eq_nil_iff]
    exact ha.alternatives_ne_nil
  · rw [Ne, List.map_eq_nil_iff]
    exact hb.alternatives_ne_nil

/-- References of one text are of one kind. -/
lemma mark_eq (h : Distinguishes named fqns) (ha : a.IsNormal) (hb : b.IsNormal)
    (hna : a.NamesIn fqns) (hnb : b.NamesIn fqns)
    (heq : chars named a = chars named b) : mark a = mark b := by
  have hlength : a.alternatives.length = b.alternatives.length := by
    simpa using congrArg List.length (map_alternatives_eq h ha hb hna hnb heq)
  have hmark {r : TypeRef} (hr : r.IsNormal) (hunion : r.isUnion = true) :
      mark r = some '|' ∧ 2 ≤ r.alternatives.length := by
    cases hr with
    | union several _ _ => exact ⟨rfl, several⟩
    | _ => cases hunion
  have hone {r : TypeRef} (hunion : r.isUnion = false) : r.alternatives.length = 1 := by
    rw [TypeRef.alternatives_of_not_union hunion]
    rfl
  rcases hua : a.isUnion <;> rcases hub : b.isUnion
  · rw [← closing_chars h hua hna, ← closing_chars h hub hnb, heq]
  · have := hone hua
    have := (hmark hb hub).2
    omega
  · have := (hmark ha hua).2
    have := hone hub
    omega
  · rw [(hmark ha hua).1, (hmark hb hub).1]

lemma chars_eq_of_chars_array_eq
    (heq : chars named (.array a) = chars named (.array b)) : chars named a = chars named b := by
  rw [chars_array, chars_array] at heq
  have hinner := List.append_cancel_right heq
  by_cases ha : ' ' ∈ chars named a <;> by_cases hb : ' ' ∈ chars named b
  · rw [if_pos ha, if_pos hb] at hinner
    exact List.append_cancel_right (List.cons.inj hinner).2
  · -- the text without a space would hold one
    rw [if_pos ha, if_neg hb] at hinner
    exact absurd (hinner ▸ List.mem_cons_of_mem _ (List.mem_append_left _ ha)) hb
  · rw [if_neg ha, if_pos hb] at hinner
    exact absurd (hinner ▸ List.mem_cons_of_mem _ (List.mem_append_left _ hb)) ha
  · rwa [if_neg ha, if_neg hb] at hinner

lemma chars_eq_of_chars_map_eq
    (heq : chars named (.map a) = chars named (.map b)) : chars named a = chars named b := by
  rw [chars_map, chars_map] at heq
  exact List.append_cancel_right (List.append_cancel_left heq)

lemma eq_of_primitive_eq {p p' : Primitive} (h : p ≠ .json) (h' : p' ≠ .json)
    (heq : primitive p = primitive p') : p = p' := by
  revert h h' heq
  cases p <;> cases p' <;> decide

/-- A normal form is read back from its text. -/
lemma eq_of_chars_eq (h : Distinguishes named fqns) (ha : a.IsNormal) (hb : b.IsNormal)
    (hna : a.NamesIn fqns) (hnb : b.NamesIn fqns)
    (heq : chars named a = chars named b) : a = b := by
  induction ha generalizing b with
  | @primitive p hjson =>
    have hmark := mark_eq h (.primitive hjson) hb hna hnb heq
    cases hb with
    | @primitive p' hjson' =>
      rw [chars_primitive, chars_primitive, String.toList_inj] at heq
      rw [eq_of_primitive_eq hjson hjson' heq]
    | named fqn =>
      rw [chars_primitive, chars_named, String.toList_inj] at heq
      exact absurd heq.symm (h.notBuiltIn fqn hnb.named p)
    | array _ => cases hmark
    | map _ => cases hmark
    | union _ _ _ => cases hmark
  | named fqn =>
    have hmark := mark_eq h (.named fqn) hb hna hnb heq
    cases hb with
    | @primitive p _ =>
      rw [chars_primitive, chars_named, String.toList_inj] at heq
      exact absurd heq (h.notBuiltIn fqn hna.named p)
    | named fqn' =>
      rw [chars_named, chars_named, String.toList_inj] at heq
      rw [h.injOn hna.named hnb.named heq]
    | array _ => cases hmark
    | map _ => cases hmark
    | union _ _ _ => cases hmark
  | array normal ih =>
    have hmark := mark_eq h (.array normal) hb hna hnb heq
    cases hb with
    | array normal' => rw [ih normal' hna hnb (chars_eq_of_chars_array_eq heq)]
    | _ => cases hmark
  | map normal ih =>
    have hmark := mark_eq h (.map normal) hb hna hnb heq
    cases hb with
    | map normal' => rw [ih normal' hna hnb (chars_eq_of_chars_map_eq heq)]
    | _ => cases hmark
  | @union options several normal flat ih =>
    have hunion := TypeRef.IsNormal.union several normal flat
    refine hunion.eq_of_alternatives_eq hb ?_
    refine eq_of_map_eq_map (fun o ho o' ho' => ?_) (map_alternatives_eq h hunion hb hna hnb heq)
    exact ih o ho (hb.of_mem_alternatives ho').1 (hna.of_mem_alternatives ho)
      (hnb.of_mem_alternatives ho')

end

/-! ## The main statement -/

/-- TypeScript spells two references alike exactly if they have the same normal form.  So a list and
a union of several options are never spelled alike, nor are two references that hold the one and the
other in the same place, however deep. -/
theorem spell_eq_spell_iff {fqns : Set String} (h : Distinguishes named fqns) :
    (∀ a b : TypeRef, a.hasOptions = true → b.hasOptions = true → a.NamesIn fqns →
      b.NamesIn fqns →
      (typeScript.spell named a = typeScript.spell named b ↔ a.normal = b.normal)) ∧
    ∀ (place : List TypeRef.Frame) (element : TypeRef) (options : List TypeRef),
      2 ≤ options.length →
      (TypeRef.within place (.array element)).hasOptions = true →
      (TypeRef.within place (.union options)).hasOptions = true →
      (TypeRef.within place (.array element)).NamesIn fqns →
      (TypeRef.within place (.union options)).NamesIn fqns →
      typeScript.spell named (TypeRef.within place (.array element)) ≠
        typeScript.spell named (TypeRef.within place (.union options)) := by
  have hiff (a b : TypeRef) (ha : a.hasOptions = true) (hb : b.hasOptions = true)
      (hna : a.NamesIn fqns) (hnb : b.NamesIn fqns) :
      typeScript.spell named a = typeScript.spell named b ↔ a.normal = b.normal := by
    rw [← String.toList_inj]
    show chars named a = chars named b ↔ _
    rw [← chars_normal ha, ← chars_normal hb]
    constructor
    · intro heq
      exact eq_of_chars_eq h (TypeRef.isNormal_normal ha) (TypeRef.isNormal_normal hb)
        (TypeRef.namesIn_normal_iff.2 hna) (TypeRef.namesIn_normal_iff.2 hnb) heq
    · intro heq
      rw [heq]
  refine ⟨hiff, ?_⟩
  intro place element options hseveral ha hb hna hnb heq
  have hnormal := TypeRef.normal_eq_of_within ha hb ((hiff _ _ ha hb hna hnb).1 heq)
  have hunion := TypeRef.isUnion_normal_union hseveral (TypeRef.hasOptions_of_within hb)
  rw [← hnormal] at hunion
  cases hunion

/-- Two full names tell their types apart, so a list of either type is not spelled like the union of
the one and a list of the other, as it would be without brackets. -/
theorem spell_list_of_union_ne_spell_union :
    Distinguishes id {"lib.Store", "lib.Shelf"} ∧
      typeScript.spell id (.array (.union [.named "lib.Store", .named "lib.Shelf"])) ≠
        typeScript.spell id (.union [.named "lib.Store", .array (.named "lib.Shelf")]) := by
  have h : Distinguishes id {"lib.Store", "lib.Shelf"} := by
    refine ⟨fun _ _ _ _ heq => heq, ?_, ?_⟩
    · rintro fqn (rfl | rfl)
      · simp
      · simp
    · rintro fqn (rfl | rfl)
      · intro p
        cases p <;> decide
      · intro p
        cases p <;> decide
  refine ⟨h, (spell_eq_spell_iff h).2 [] _ _ (by simp) rfl rfl ?_ ?_⟩
  · simp [TypeRef.within, TypeRef.NamesIn, TypeRef.names, TypeRef.optionNames]
  · simp [TypeRef.within, TypeRef.NamesIn, TypeRef.names, TypeRef.optionNames]

end

end ApiDocs.Convention.TypeScript
