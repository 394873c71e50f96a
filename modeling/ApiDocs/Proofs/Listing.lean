import Mathlib.Data.Multiset.Bind
import Mathlib.Tactic.Abel
import ApiDocs.Proofs.Identifiers
import ApiDocs.Proofs.Lists

/-!
# The order in which a record lists its identifiers

The list of identifiers that a record gives of itself goes through the fields of each object in the
order of their keys.  This module writes that order out: a class lists its constants before its own
identifier, and its functions last; a reference lists classes before constructs, and structs last.

So the list depends on the identifiers in the record and on nothing else
(`DocumentationRecord.identifiers_eq_listing`).  A field without identifiers, such as a name or a
snippet, may be there or not.
-/

namespace ApiDocs

namespace Json

/-! ## Fields in the order of their keys -/

/-- Each key is below those that come after it. -/
def KeysIncrease (fields : List (String × α)) : Prop := fields.Pairwise fun f f' => f.1 < f'.1

lemma eq_or_mem_of_mem_insertField {key : String} {value : Json} {fields : List (String × Json)}
    {f : String × Json} (h : f ∈ insertField key value fields) : f = (key, value) ∨ f ∈ fields := by
  induction fields with
  | nil => exact .inl (List.mem_singleton.1 h)
  | cons first rest ih =>
    rw [insertField] at h
    split at h
    · exact List.mem_cons.1 h
    · split at h
      · exact .inr h
      · rcases List.mem_cons.1 h with rfl | h
        · exact .inr List.mem_cons_self
        · exact (ih h).imp_right (List.mem_cons_of_mem _)

lemma KeysIncrease.insertField {fields : List (String × Json)} (h : KeysIncrease fields)
    (key : String) (value : Json) : KeysIncrease (insertField key value fields) := by
  induction fields with
  | nil => exact List.pairwise_singleton _ _
  | cons first rest ih =>
    obtain ⟨k, v⟩ := first
    obtain ⟨hfirst, hrest⟩ := List.pairwise_cons.1 h
    rw [Json.insertField]
    by_cases hlt : key < k
    · rw [if_pos hlt]
      refine List.pairwise_cons.2 ⟨fun f hf => ?_, h⟩
      rcases List.mem_cons.1 hf with rfl | hf
      · exact hlt
      · exact String.lt_trans hlt (hfirst f hf)
    · rw [if_neg hlt]
      by_cases heq : key = k
      · rw [if_pos heq]
        exact h
      · rw [if_neg heq]
        -- the new field goes somewhere behind, and its key is above the first one too
        refine List.pairwise_cons.2 ⟨fun f hf => ?_, ih hrest⟩
        rcases eq_or_mem_of_mem_insertField hf with rfl | hf
        · exact Std.lt_of_le_of_ne (String.not_lt.1 hlt) (Ne.symm heq)
        · exact hfirst f hf

lemma keysIncrease_canonicalFields (fields : List (String × Json)) :
    KeysIncrease (canonicalFields fields) := by
  induction fields with
  | nil => exact List.Pairwise.nil
  | cons field rest ih => exact ih.insertField field.1 field.2.canonical

/-- Where no key is repeated, each field stays, with its value in canonical form. -/
lemma canonicalFields_perm {fields : List (String × Json)} (h : (fields.map (·.1)).Nodup) :
    (canonicalFields fields).Perm (fields.map fun f => (f.1, f.2.canonical)) := by
  induction fields with
  | nil => rfl
  | cons field rest ih =>
    rw [List.map_cons, List.nodup_cons] at h
    have hnew : field.1 ∉ (canonicalFields rest).map (·.1) := fun hmem =>
      h.1 ((keys_canonicalFields_perm h.2).mem_iff.1 hmem)
    exact (insertField_perm hnew).trans ((ih h.2).cons _)

/-! ## What the fields of a record list -/

/-- What stands under a key, if it is anything. -/
def listed (key : String) (ids : List String) : List (String × List String) :=
  if ids = [] then [] else [(key, ids)]

@[simp] lemma listed_nil (key : String) : listed key [] = [] := rfl

lemma flatMap_listed (parts : List (String × List String)) :
    (parts.flatMap fun p => listed p.1 p.2) = parts.filter fun p => p.2 ≠ [] := by
  induction parts with
  | nil => rfl
  | cons p rest ih =>
    rw [List.flatMap_cons, ih, listed]
    by_cases h : p.2 = [] <;> simp [h]

/-- What a field lists under its key in a canonical value. -/
def fieldListing (field : Option (String × Json)) : List (String × List String) :=
  field.toList.flatMap fun f => listed f.1 (ownIdentifiers f.1 f.2.canonical)

/-- The identifiers that each of some fields contributes, under its key. -/
def contributions (fields : List (String × Json)) : List (String × List String) :=
  fields.map fun f => (f.1, ownIdentifiers f.1 f.2)

lemma fieldIdentifiers_eq_flatMap_contributions (fields : List (String × Json)) :
    fieldIdentifiers fields = (contributions fields).flatMap (·.2) := by
  rw [contributions, List.flatMap_map]
  exact fieldIdentifiers_eq_flatMap fields

lemma contributions_canonicalFields_perm {fields : List (Option (String × Json))}
    (h : ((fields.filterMap id).map (·.1)).Nodup) :
    ((contributions (canonicalFields (fields.filterMap id))).filter fun p => p.2 ≠ []).Perm
      (fields.flatMap fieldListing) := by
  have hlisting : fields.flatMap fieldListing = (fields.filterMap id).flatMap fun f =>
      listed f.1 (ownIdentifiers f.1 f.2.canonical) := by
    rw [List.filterMap_eq_flatMap_toList, List.flatMap_assoc]
    rfl
  have hcanonical := (canonicalFields_perm h).flatMap_right fun f =>
    listed f.1 (ownIdentifiers f.1 f.2)
  rw [← flatMap_listed, contributions, List.flatMap_map, hlisting]
  rwa [List.flatMap_map] at hcanonical

/-- The parts that a record lists, put in the order of their keys, are what it lists: its canonical
fields are in that order too, and two lists in one order are equal if they have the same parts. -/
lemma identifiers_canonical_record {fields : List (Option (String × Json))}
    (hfields : (record fields).Unrepeated) {keys : List String} (hkeys : keys.Pairwise (· < ·))
    (parts : List (String × List String)) (hparts : parts.map (·.1) = keys)
    (h : (fields.flatMap fieldListing).Perm (parts.flatMap fun p => listed p.1 p.2)) :
    (record fields).canonical.identifiers = parts.flatMap (·.2) := by
  have hsorted : KeysIncrease (contributions (canonicalFields (fields.filterMap id))) :=
    List.pairwise_map.2 (keysIncrease_canonicalFields _)
  have hordered : KeysIncrease parts := List.pairwise_map.1 (hparts ▸ hkeys)
  rw [flatMap_listed] at h
  have heq : (contributions (canonicalFields (fields.filterMap id))).filter (fun p => p.2 ≠ []) =
      parts.filter fun p => p.2 ≠ [] := by
    refine List.Perm.eq_of_pairwise (fun p p' _ _ hlt hlt' => ?_) (hsorted.filter _)
      (hordered.filter _) ((contributions_canonicalFields_perm hfields.1).trans h)
    exact absurd hlt' (String.lt_asymm hlt)
  have hlisted (ps : List (String × List String)) :
      (ps.filter fun p => p.2 ≠ []).flatMap (·.2) = ps.flatMap (·.2) :=
    flatMap_filter_of_nil (fun p hp => by simpa using hp) ps
  show fieldIdentifiers (canonicalFields (fields.filterMap id)) = _
  rw [fieldIdentifiers_eq_flatMap_contributions, ← hlisted, heq, hlisted]

/-! A value that has no identifiers, or only one, has no order for them to come in. -/

lemma identifiers_canonical_eq_nil {v : Json} (hv : v.Unrepeated) (h : v.identifiers = []) :
    v.canonical.identifiers = [] := by
  have hperm := identifiers_canonical_perm v hv
  rw [h] at hperm
  exact hperm.eq_nil

lemma identifiers_canonical_eq_singleton {v : Json} {id : String} (hv : v.Unrepeated)
    (h : v.identifiers = [id]) : v.canonical.identifiers = [id] := by
  have hperm := identifiers_canonical_perm v hv
  rw [h] at hperm
  exact List.perm_singleton.1 hperm

@[simp] lemma canonical_text (s : String) : (text s).canonical = text s := rfl

@[simp] lemma fieldListing_some (key : String) (value : Json) :
    fieldListing (some (key, value)) = listed key (ownIdentifiers key value.canonical) := by
  simp [fieldListing]

@[simp] lemma fieldListing_field (key : String) (value : Json) :
    fieldListing (field key value) = listed key (ownIdentifiers key value.canonical) :=
  fieldListing_some key value

@[simp] lemma fieldListing_textField? {key : String} (h : key ≠ "id") (value : Option String) :
    fieldListing (textField? key value) = [] := by
  cases value with
  | none => rfl
  | some s =>
    rw [textField?, Option.map_some, fieldListing_some, canonical_text, ownIdentifiers_text h,
      listed_nil]

@[simp] lemma fieldListing_flag? (key : String) (value : Bool) :
    fieldListing (flag? key value) = [] := by
  cases value <;> rfl

@[simp] lemma ownIdentifiers_canonical_array (key : String) (items : List Json) :
    ownIdentifiers key (array items).canonical =
      items.flatMap fun v => v.canonical.identifiers := by
  show itemIdentifiers (canonicalItems items) = _
  induction items with
  | nil => rfl
  | cons item rest ih => rw [canonicalItems, itemIdentifiers, ih, List.flatMap_cons]

end Json

open Json

/-! ## What each record lists -/

@[simp] lemma DocsRecord.ownIdentifiers_canonical_toJson (key : String) (r : DocsRecord) :
    ownIdentifiers key r.toJson.canonical = [] :=
  identifiers_canonical_eq_nil r.unrepeated_toJson (r.ownIdentifiers_toJson key)

@[simp] lemma Deprecation.flatMap_fieldListing (r : Deprecation) :
    r.fields.flatMap fieldListing = [] := by
  simp [fields]

@[simp] lemma TypeLink.flatMap_canonical_identifiers (links : List TypeLink) :
    (links.flatMap fun r => r.toJson.canonical.identifiers) = [] := by
  rw [List.flatMap_eq_nil_iff]
  intro r _
  have hnone : r.toJson.identifiers = [] := by simp [toJson, identifiers_record]
  exact identifiers_canonical_eq_nil r.unrepeated_toJson hnone

@[simp] lemma ParameterRecord.identifiers_canonical (r : ParameterRecord) :
    r.toJson.canonical.identifiers = [r.id] :=
  identifiers_canonical_eq_singleton r.unrepeated_toJson r.identifiers_toJson

@[simp] lemma PropertyRecord.identifiers_canonical (r : PropertyRecord) :
    r.toJson.canonical.identifiers = [r.id] :=
  identifiers_canonical_eq_singleton r.unrepeated_toJson r.identifiers_toJson

@[simp] lemma EnumMemberRecord.identifiers_canonical (r : EnumMemberRecord) :
    r.toJson.canonical.identifiers = [r.id] :=
  identifiers_canonical_eq_singleton r.unrepeated_toJson r.identifiers_toJson

/-- An initializer lists itself, then its parameters. -/
def InitializerRecord.listing (r : InitializerRecord) : List String :=
  r.id :: r.parameters.map (·.id)

@[simp] lemma InitializerRecord.identifiers_canonical (r : InitializerRecord) :
    r.toJson.canonical.identifiers = r.listing := by
  have hkeys : ["id", "parameters"].Pairwise (· < ·) := by decide
  rw [toJson, identifiers_canonical_record r.unrepeated_toJson hkeys
    [("id", [r.id]), ("parameters", r.parameters.map (·.id))] rfl]
  · simp [listing]
  · simp [List.flatMap_map, ← List.map_eq_flatMap]

/-- A callable lists itself, then its parameters. -/
def CallableRecord.listing (r : CallableRecord) : List String :=
  r.id :: r.parameters.map (·.id)

@[simp] lemma CallableRecord.identifiers_canonical (r : CallableRecord) :
    r.toJson.canonical.identifiers = r.listing := by
  have hkeys : ["id", "parameters"].Pairwise (· < ·) := by decide
  rw [toJson, identifiers_canonical_record r.unrepeated_toJson hkeys
    [("id", [r.id]), ("parameters", r.parameters.map (·.id))] rfl]
  · simp [listing]
  · simp [List.flatMap_map, ← List.map_eq_flatMap]

/-- A class lists its constants, itself, its initializer, its methods, its properties and its
functions. -/
def ClassRecord.listing (r : ClassRecord) : List String :=
  r.constants.map (·.id) ++ r.id :: r.initializer.toList.flatMap (·.listing) ++
    r.instanceMethods.flatMap (·.listing) ++ r.properties.map (·.id) ++
    r.staticFunctions.flatMap (·.listing)

@[simp] lemma ClassRecord.identifiers_canonical (r : ClassRecord) :
    r.toJson.canonical.identifiers = r.listing := by
  have hkeys : ["constants", "id", "initializer", "instanceMethods", "properties",
    "staticFunctions"].Pairwise (· < ·) := by decide
  have hinitializer : fieldListing (r.initializer.map fun i => ("initializer", i.toJson)) =
      listed "initializer" (r.initializer.toList.flatMap (·.listing)) := by
    cases r.initializer with
    | none => rfl
    | some i =>
      rw [Option.map_some, fieldListing_some, Option.toList_some, List.flatMap_singleton]
      exact congrArg (listed _) i.identifiers_canonical
  rw [toJson, identifiers_canonical_record r.unrepeated_toJson hkeys
    [("constants", r.constants.map (·.id)), ("id", [r.id]),
      ("initializer", r.initializer.toList.flatMap (·.listing)),
      ("instanceMethods", r.instanceMethods.flatMap (·.listing)),
      ("properties", r.properties.map (·.id)),
      ("staticFunctions", r.staticFunctions.flatMap (·.listing))] rfl]
  · simp [listing]
  · simp only [List.cons_append, List.nil_append, List.flatMap_cons, List.flatMap_nil,
      List.flatMap_append, List.flatMap_map, List.append_nil, ← List.map_eq_flatMap, ne_eq,
      String.reduceEq, not_false_eq_true, canonical_text, ownIdentifiers_id, ownIdentifiers_text,
      listed_nil, fieldListing_field, ownIdentifiers_canonical_array, hinitializer,
      TypeLink.flatMap_canonical_identifiers, DocsRecord.ownIdentifiers_canonical_toJson,
      Deprecation.flatMap_fieldListing, CallableRecord.identifiers_canonical,
      PropertyRecord.identifiers_canonical]
    simp only [← Multiset.coe_eq_coe, ← Multiset.coe_add]
    abel

/-- A struct lists itself, its initializer and its properties. -/
def StructRecord.listing (r : StructRecord) : List String :=
  r.id :: r.initializer.listing ++ r.properties.map (·.id)

@[simp] lemma StructRecord.identifiers_canonical (r : StructRecord) :
    r.toJson.canonical.identifiers = r.listing := by
  have hkeys : ["id", "initializer", "properties"].Pairwise (· < ·) := by decide
  have hinitializer : ownIdentifiers "initializer" r.initializer.toJson.canonical =
      r.initializer.listing := r.initializer.identifiers_canonical
  rw [toJson, identifiers_canonical_record r.unrepeated_toJson hkeys
    [("id", [r.id]), ("initializer", r.initializer.listing),
      ("properties", r.properties.map (·.id))] rfl]
  · simp [listing]
  · simp [List.flatMap_map, ← List.map_eq_flatMap, hinitializer]

/-- An interface lists itself, its methods and its properties. -/
def InterfaceRecord.listing (r : InterfaceRecord) : List String :=
  r.id :: r.instanceMethods.flatMap (·.listing) ++ r.properties.map (·.id)

@[simp] lemma InterfaceRecord.identifiers_canonical (r : InterfaceRecord) :
    r.toJson.canonical.identifiers = r.listing := by
  have hkeys : ["id", "instanceMethods", "properties"].Pairwise (· < ·) := by decide
  rw [toJson, identifiers_canonical_record r.unrepeated_toJson hkeys
    [("id", [r.id]), ("instanceMethods", r.instanceMethods.flatMap (·.listing)),
      ("properties", r.properties.map (·.id))] rfl]
  · simp [listing]
  · simp [List.flatMap_map, ← List.map_eq_flatMap]

/-- An enumeration lists itself, then its members. -/
def EnumRecord.listing (r : EnumRecord) : List String := r.id :: r.members.map (·.id)

@[simp] lemma EnumRecord.identifiers_canonical (r : EnumRecord) :
    r.toJson.canonical.identifiers = r.listing := by
  have hkeys : ["id", "members"].Pairwise (· < ·) := by decide
  rw [toJson, identifiers_canonical_record r.unrepeated_toJson hkeys
    [("id", [r.id]), ("members", r.members.map (·.id))] rfl]
  · simp [listing]
  · simp [List.flatMap_map, ← List.map_eq_flatMap]

/-- A reference lists its classes, constructs, enumerations, interfaces and structs. -/
def ReferenceRecord.listing (r : ReferenceRecord) : List String :=
  r.classes.flatMap (·.listing) ++ r.constructs.flatMap (·.listing) ++
    r.enums.flatMap (·.listing) ++ r.interfaces.flatMap (·.listing) ++
    r.structs.flatMap (·.listing)

/-- The list of identifiers that a record gives of itself, written out. -/
theorem DocumentationRecord.identifiers_eq_listing (r : DocumentationRecord) :
    r.identifiers = r.reference.listing := by
  have hkeys : ["classes", "constructs", "enums", "interfaces", "structs"].Pairwise (· < ·) := by
    decide
  rw [identifiers, ReferenceRecord.toJson,
    identifiers_canonical_record r.reference.unrepeated_toJson hkeys
      [("classes", r.reference.classes.flatMap (·.listing)),
        ("constructs", r.reference.constructs.flatMap (·.listing)),
        ("enums", r.reference.enums.flatMap (·.listing)),
        ("interfaces", r.reference.interfaces.flatMap (·.listing)),
        ("structs", r.reference.structs.flatMap (·.listing))] rfl]
  · simp [ReferenceRecord.listing]
  · simp only [List.flatMap_cons, List.flatMap_nil, List.flatMap_map, List.append_nil,
      fieldListing_field, ownIdentifiers_canonical_array, ClassRecord.identifiers_canonical,
      StructRecord.identifiers_canonical, InterfaceRecord.identifiers_canonical,
      EnumRecord.identifiers_canonical]
    simp only [← Multiset.coe_eq_coe, ← Multiset.coe_add]
    abel

end ApiDocs
