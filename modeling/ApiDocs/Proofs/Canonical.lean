import Mathlib.Data.List.Perm.Basic
import Mathlib.Tactic.Lemma
import ApiDocs.Json.Value

/-!
# The identifiers of a canonical value

Sorting the keys of a JSON value changes the order in which its identifiers are met and nothing
else, as long as no object repeats a key.  An object that does repeat one loses all but the last
field of that key, and the identifiers in the others with it, so the condition cannot be left out.

`Json.Unrepeated` is the condition, at every depth.
-/

namespace ApiDocs.Json

/-! ## Keys that are not repeated -/

mutual

/-- No object in the value repeats a key. -/
def Unrepeated : Json → Prop
  | array items => ItemsUnrepeated items
  | object fields => (fields.map (·.1)).Nodup ∧ FieldsUnrepeated fields
  | null => True
  | bool _ => True
  | number _ => True
  | text _ => True

/-- No object in the items of an array repeats a key. -/
def ItemsUnrepeated : List Json → Prop
  | [] => True
  | item :: rest => item.Unrepeated ∧ ItemsUnrepeated rest

/-- No object in the values of some fields repeats a key. -/
def FieldsUnrepeated : List (String × Json) → Prop
  | [] => True
  | (_, value) :: rest => value.Unrepeated ∧ FieldsUnrepeated rest

end

lemma itemsUnrepeated_iff {items : List Json} :
    ItemsUnrepeated items ↔ ∀ item ∈ items, item.Unrepeated := by
  induction items with
  | nil => simp [ItemsUnrepeated]
  | cons item rest ih => simp [ItemsUnrepeated, ih]

/-! ## Sorting by key -/

lemma insertField_perm {key : String} {value : Json} {fields : List (String × Json)}
    (h : key ∉ fields.map (·.1)) :
    (insertField key value fields).Perm ((key, value) :: fields) := by
  induction fields with
  | nil => rfl
  | cons field rest ih =>
    obtain ⟨k, v⟩ := field
    rw [List.map_cons, List.mem_cons, not_or] at h
    rw [insertField]
    split
    · rfl
    · rw [if_neg h.1]
      exact ((ih h.2).cons (k, v)).trans (List.Perm.swap (key, value) (k, v) rest)

lemma keys_canonicalFields_perm {fields : List (String × Json)}
    (h : (fields.map (·.1)).Nodup) :
    ((canonicalFields fields).map (·.1)).Perm (fields.map (·.1)) := by
  induction fields with
  | nil => rfl
  | cons field rest ih =>
    obtain ⟨key, value⟩ := field
    rw [List.map_cons, List.nodup_cons] at h
    have hkeys := ih h.2
    have hnew : key ∉ (canonicalFields rest).map (·.1) := fun hmem => h.1 (hkeys.mem_iff.1 hmem)
    exact ((insertField_perm hnew).map _).trans (hkeys.cons key)

/-! ## Identifiers -/

/-- The identifiers that one field contributes. -/
def ownIdentifiers (key : String) : Json → List String
  | text s => if key = "id" then [s] else []
  | value => value.identifiers

lemma fieldIdentifiers_cons (key : String) (value : Json) (rest : List (String × Json)) :
    fieldIdentifiers ((key, value) :: rest) =
      ownIdentifiers key value ++ fieldIdentifiers rest := by
  cases value <;> rfl

lemma fieldIdentifiers_eq_flatMap (fields : List (String × Json)) :
    fieldIdentifiers fields = fields.flatMap fun field => ownIdentifiers field.1 field.2 := by
  induction fields with
  | nil => rfl
  | cons field rest ih => rw [fieldIdentifiers_cons, ih, List.flatMap_cons]

lemma itemIdentifiers_eq_flatMap (items : List Json) :
    itemIdentifiers items = items.flatMap identifiers := by
  induction items with
  | nil => rfl
  | cons item rest ih => rw [itemIdentifiers, ih, List.flatMap_cons]

lemma fieldIdentifiers_perm {xs ys : List (String × Json)} (h : xs.Perm ys) :
    (fieldIdentifiers xs).Perm (fieldIdentifiers ys) := by
  rw [fieldIdentifiers_eq_flatMap, fieldIdentifiers_eq_flatMap]
  exact h.flatMap_right _

mutual

/-- A value without repeated keys has the same identifiers as its canonical form, up to order. -/
theorem identifiers_canonical_perm : (v : Json) → v.Unrepeated →
    v.canonical.identifiers.Perm v.identifiers
  | array items, h => itemIdentifiers_canonicalItems_perm items h
  | object fields, h => fieldIdentifiers_canonicalFields_perm fields h.1 h.2
  | null, _ => .rfl
  | bool _, _ => .rfl
  | number _, _ => .rfl
  | text _, _ => .rfl

theorem itemIdentifiers_canonicalItems_perm : (items : List Json) → ItemsUnrepeated items →
    (itemIdentifiers (canonicalItems items)).Perm (itemIdentifiers items)
  | [], _ => .rfl
  | item :: rest, h =>
    (identifiers_canonical_perm item h.1).append (itemIdentifiers_canonicalItems_perm rest h.2)

theorem fieldIdentifiers_canonicalFields_perm : (fields : List (String × Json)) →
    (fields.map (·.1)).Nodup → FieldsUnrepeated fields →
    (fieldIdentifiers (canonicalFields fields)).Perm (fieldIdentifiers fields)
  | [], _, _ => .rfl
  | (key, value) :: rest, hkeys, h => by
    rw [List.map_cons, List.nodup_cons] at hkeys
    have hnew : key ∉ (canonicalFields rest).map (·.1) := fun hmem =>
      hkeys.1 ((keys_canonicalFields_perm hkeys.2).mem_iff.1 hmem)
    have hown : (ownIdentifiers key value.canonical).Perm (ownIdentifiers key value) := by
      -- a text is canonical already; any other value contributes all the identifiers in it
      have := identifiers_canonical_perm value h.1
      cases value <;> first | exact .rfl | exact this
    rw [canonicalFields]
    refine (fieldIdentifiers_perm (insertField_perm hnew)).trans ?_
    rw [fieldIdentifiers_cons, fieldIdentifiers_cons]
    exact hown.append (fieldIdentifiers_canonicalFields_perm rest hkeys.2 h.2)

end

/-! ## Records

A record is written from a list of fields that may be absent, each under a key of its own. -/

@[simp] lemma unrepeated_text (s : String) : (text s).Unrepeated := trivial

@[simp] lemma unrepeated_bool (b : Bool) : (bool b).Unrepeated := trivial

@[simp] lemma unrepeated_array {items : List Json} :
    (array items).Unrepeated ↔ ∀ item ∈ items, item.Unrepeated :=
  itemsUnrepeated_iff

/-- If the field is there, it has the key and a value without repeated keys. -/
def FieldUnder (key : String) (field : Option (String × Json)) : Prop :=
  ∀ f ∈ field, f.1 = key ∧ f.2.Unrepeated

@[simp] lemma fieldUnder_none (key : String) : FieldUnder key none := by
  simp [FieldUnder]

@[simp] lemma fieldUnder_some {key : String} {value : Json} :
    FieldUnder key (some (key, value)) ↔ value.Unrepeated := by
  simp [FieldUnder]

@[simp] lemma fieldUnder_field {key : String} {value : Json} :
    FieldUnder key (field key value) ↔ value.Unrepeated :=
  fieldUnder_some

@[simp] lemma fieldUnder_textField? (key : String) (value : Option String) :
    FieldUnder key (textField? key value) := by
  cases value <;> simp [textField?]

@[simp] lemma fieldUnder_flag? (key : String) (value : Bool) :
    FieldUnder key (flag? key value) := by
  cases value <;> simp [flag?]

lemma keys_sublist_of_forall₂ {keys : List String} {fields : List (Option (String × Json))}
    (h : List.Forall₂ FieldUnder keys fields) :
    ((fields.filterMap id).map (·.1)).Sublist keys := by
  induction h with
  | nil => exact .slnil
  | @cons key field _ _ hfield _ ih =>
    cases field with
    | none => exact ih.cons key
    | some f =>
      have hf : f.1 = key := (hfield f rfl).1
      simpa [hf] using ih

lemma fieldsUnrepeated_of_forall₂ {keys : List String} {fields : List (Option (String × Json))}
    (h : List.Forall₂ FieldUnder keys fields) : FieldsUnrepeated (fields.filterMap id) := by
  induction h with
  | nil => exact trivial
  | @cons key field _ _ hfield _ ih =>
    cases field with
    | none => exact ih
    | some f => exact ⟨(hfield f rfl).2, ih⟩

/-- A record whose fields stand under different keys repeats none. -/
lemma unrepeated_record (keys : List String) {fields : List (Option (String × Json))}
    (hkeys : keys.Nodup) (h : List.Forall₂ FieldUnder keys fields) :
    (record fields).Unrepeated :=
  ⟨hkeys.sublist (keys_sublist_of_forall₂ h), fieldsUnrepeated_of_forall₂ h⟩

/-! ### The identifiers of a record, field by field -/

/-- The identifiers that a field contributes, if it is there. -/
def optionalIdentifiers (field : Option (String × Json)) : List String :=
  field.toList.flatMap fun f => ownIdentifiers f.1 f.2

lemma identifiers_record (fields : List (Option (String × Json))) :
    (record fields).identifiers = fields.flatMap optionalIdentifiers := by
  rw [record, identifiers, fieldIdentifiers_eq_flatMap]
  induction fields with
  | nil => rfl
  | cons field rest ih =>
    cases field with
    | none => simpa [optionalIdentifiers] using ih
    | some f => simpa [optionalIdentifiers] using ih

@[simp] lemma optionalIdentifiers_none : optionalIdentifiers none = [] := rfl

@[simp] lemma optionalIdentifiers_some (key : String) (value : Json) :
    optionalIdentifiers (some (key, value)) = ownIdentifiers key value := by
  simp [optionalIdentifiers]

@[simp] lemma optionalIdentifiers_field (key : String) (value : Json) :
    optionalIdentifiers (field key value) = ownIdentifiers key value :=
  optionalIdentifiers_some key value

@[simp] lemma optionalIdentifiers_textField? {key : String} (h : key ≠ "id")
    (value : Option String) : optionalIdentifiers (textField? key value) = [] := by
  cases value <;> simp [textField?, ownIdentifiers, h]

@[simp] lemma optionalIdentifiers_flag? (key : String) (value : Bool) :
    optionalIdentifiers (flag? key value) = [] := by
  cases value <;> rfl

@[simp] lemma ownIdentifiers_id (s : String) : ownIdentifiers "id" (text s) = [s] := rfl

@[simp] lemma ownIdentifiers_text {key : String} (h : key ≠ "id") (s : String) :
    ownIdentifiers key (text s) = [] := if_neg h

@[simp] lemma ownIdentifiers_bool (key : String) (b : Bool) : ownIdentifiers key (bool b) = [] :=
  rfl

@[simp] lemma ownIdentifiers_array (key : String) (items : List Json) :
    ownIdentifiers key (array items) = items.flatMap identifiers :=
  itemIdentifiers_eq_flatMap items

lemma ownIdentifiers_record (key : String) (fields : List (Option (String × Json))) :
    ownIdentifiers key (record fields) = (record fields).identifiers := rfl

end ApiDocs.Json
