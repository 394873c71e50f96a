import ApiDocs.Json.Decoder
import ApiDocs.Proofs.Lists

/-!
# Revisions of a document

Two things may be done to a JSON document without changing what it is decoded as: the fields of an
object may be put in another order, and an object that is decoded as a record may be given a field
that is no part of the record.  The first may be done to any object, the second only where a record
is expected, so a *revision* (`Revision`) is made of a value together with its `Shape`, which says
where that is.

A decoder respects a shape if it gives the same value for a reading and for each of its revisions,
or fails on both (`Decoder.Respects`).  Which of two faults is met first depends on the order of the
fields, so the fault itself is not kept.  That leaves an answer that is put together from the
answers for the single parts (`Slot.value?`), and a part depends on the values under its own key
alone (`namedSlot_value?`).  What is no part of a record is checked for faults too, by reading it as
a whole or by passing over it; neither depends on the order of fields (`Revision.iff_of_inherited`).
-/

namespace ApiDocs.Json

variable {α β : Type}

/-! ## Shapes -/

/-- What a value is decoded as, so far as it matters for the keys of an object. -/
inductive Shape where
  /-- No record, nor a list of records. -/
  | plain
  /-- A list of values of one shape. -/
  | list (item : Shape)
  /-- A record: the keys of its parts and their shapes, in the order of declaration. -/
  | record (parts : List (String × Shape))
  /-- A record that is always an object, and whose fields say which parts it has. -/
  | tagged (parts : List ReadField → List (String × Shape))

namespace Shape

/-- The parts of a record with the given fields; none if the shape is not that of a record. -/
def parts? : Shape → List ReadField → Option (List (String × Shape))
  | record parts, _ => some parts
  | tagged parts, fields => some (parts fields)
  | plain, _ => none
  | list _, _ => none

/-- The shape of the value under a key of an object with the given fields. -/
def under (shape : Shape) (fields : List ReadField) (key : Except Fault String) : Shape :=
  match shape.parts? fields, key with
  | some parts, .ok key => (parts.lookup key).getD plain
  | _, _ => plain

/-- The shape of the item at an index of an array. -/
def item : Shape → Nat → Shape
  | list shape, _ => shape
  | record parts, index => (parts[index]?.map Prod.snd).getD plain
  | plain, _ => plain
  | tagged _, _ => plain

end Shape

lemma Shape.under_eq_of_mem {shape part : Shape} {parts : List (String × Shape)}
    {fields : List ReadField} {key : String} (hparts : shape.parts? fields = some parts)
    (hkeys : (parts.map Prod.fst).Nodup) (hmem : (key, part) ∈ parts) :
    shape.under fields (.ok key) = part := by
  simp [under, hparts, lookup_eq_some_of_mem hkeys hmem]

/-! ## Revisions -/

/-- A reading that is a value, without fault: nested within the limit, its numbers within the range
of a double and its texts without halves of surrogate pairs. -/
def Reading.IsWhole (reading : Reading) : Prop := ∃ value, reading.whole = .ok value

/-- The second reading is the first one with the fields of one object in another order, or with one
more field in an object that is decoded as a record and has no such part. -/
inductive Revision : Shape → Reading → Reading → Prop
  | permuted {shape : Shape} {fields fields' : List ReadField} {ended : Option Fault}
      (h : fields.Perm fields') : Revision shape (.object fields ended) (.object fields' ended)
  | extended {shape : Shape} {parts : List (String × Shape)} {fields : List ReadField}
      {ended : Option Fault} {key : String} {value : Reading}
      (hparts : shape.parts? fields = some parts) (hkey : key ∉ parts.map Prod.fst)
      (hvalue : value.IsWhole) :
      Revision shape (.object fields ended) (.object ((.ok key, value) :: fields) ended)
  | inField {shape : Shape} {before after : List ReadField} {ended : Option Fault}
      {key : Except Fault String} {value value' : Reading}
      (h : Revision (shape.under (before ++ (key, value) :: after) key) value value') :
      Revision shape (.object (before ++ (key, value) :: after) ended)
        (.object (before ++ (key, value') :: after) ended)
  | inItem {shape : Shape} {before after : List Reading} {ended : Option Fault}
      {value value' : Reading} (h : Revision (shape.item before.length) value value') :
      Revision shape (.array (before ++ value :: after) ended)
        (.array (before ++ value' :: after) ended)

/-- A revision is one of an object or of an array. -/
lemma Revision.object_or_array {shape : Shape} {reading reading' : Reading}
    (h : Revision shape reading reading') :
    (∃ fields fields' ended, reading = .object fields ended ∧ reading' = .object fields' ended) ∨
      ∃ items items' ended, reading = .array items ended ∧ reading' = .array items' ended := by
  cases h with
  | permuted _ => exact .inl ⟨_, _, _, rfl, rfl⟩
  | extended _ _ _ => exact .inl ⟨_, _, _, rfl, rfl⟩
  | inField _ => exact .inl ⟨_, _, _, rfl, rfl⟩
  | inItem _ => exact .inr ⟨_, _, _, rfl, rfl⟩

/-! ## Faults in what is read as a whole or passed over -/

lemma passedItems_eq_none_iff {items : List Reading} :
    Reading.passedItems items = none ↔ ∀ item ∈ items, item.passed = none := by
  induction items with
  | nil => simp [Reading.passedItems]
  | cons item rest ih => simp [Reading.passedItems, ih]

lemma passedFields_eq_none_iff {fields : List ReadField} :
    Reading.passedFields fields = none ↔ ∀ field ∈ fields, field.2.passed = none := by
  induction fields with
  | nil => simp [Reading.passedFields]
  | cons field rest ih =>
    obtain ⟨key, value⟩ := field
    simp [Reading.passedFields, ih]

lemma passed_array_eq_none_iff {items : List Reading} {ended : Option Fault} :
    (Reading.array items ended).passed = none ↔
      (∀ item ∈ items, item.passed = none) ∧ ended = none := by
  rw [Reading.passed, Option.or_eq_none_iff, passedItems_eq_none_iff]

lemma passed_object_eq_none_iff {fields : List ReadField} {ended : Option Fault} :
    (Reading.object fields ended).passed = none ↔
      (∀ field ∈ fields, field.2.passed = none) ∧ ended = none := by
  rw [Reading.passed, Option.or_eq_none_iff, passedFields_eq_none_iff]

lemma exists_wholeItems_iff {items : List Reading} :
    (∃ values, Reading.wholeItems items = .ok values) ↔ ∀ item ∈ items, item.IsWhole := by
  induction items with
  | nil => simp [Reading.wholeItems]
  | cons item rest ih =>
    rw [List.forall_mem_cons, ← ih, Reading.IsWhole]
    cases hitem : item.whole <;> cases hrest : Reading.wholeItems rest <;>
      simp [Reading.wholeItems, hitem, hrest]

lemma exists_wholeFields_iff {fields : List ReadField} :
    (∃ values, Reading.wholeFields fields = .ok values) ↔
      ∀ field ∈ fields, (∃ key, field.1 = .ok key) ∧ field.2.IsWhole := by
  induction fields with
  | nil => simp [Reading.wholeFields]
  | cons field rest ih =>
    obtain ⟨key, value⟩ := field
    rw [List.forall_mem_cons, ← ih, Reading.IsWhole]
    cases key with
    | error fault => simp [Reading.wholeFields]
    | ok key =>
      cases hvalue : value.whole <;> cases hrest : Reading.wholeFields rest <;>
        simp [Reading.wholeFields, hvalue, hrest]

lemma isWhole_array_iff {items : List Reading} {ended : Option Fault} :
    (Reading.array items ended).IsWhole ↔ (∀ item ∈ items, item.IsWhole) ∧ ended = none := by
  rw [← exists_wholeItems_iff, Reading.IsWhole]
  cases hitems : Reading.wholeItems items <;> cases ended <;> simp [Reading.whole, hitems]

lemma isWhole_object_iff {fields : List ReadField} {ended : Option Fault} :
    (Reading.object fields ended).IsWhole ↔
      (∀ field ∈ fields, (∃ key, field.1 = .ok key) ∧ field.2.IsWhole) ∧ ended = none := by
  rw [← exists_wholeFields_iff, Reading.IsWhole]
  cases hfields : Reading.wholeFields fields <;> cases ended <;> simp [Reading.whole, hfields]

mutual

/-- What can be read as a whole can be passed over. -/
theorem Reading.IsWhole.passed : ∀ {reading : Reading}, reading.IsWhole → reading.passed = none
  | .null, _ => rfl
  | .bool _, _ => rfl
  | .number _, _ => rfl
  | .text _, _ => rfl
  | .array _ _, h =>
    passed_array_eq_none_iff.2
      ⟨passed_of_items_whole (isWhole_array_iff.1 h).1, (isWhole_array_iff.1 h).2⟩
  | .object _ _, h =>
    passed_object_eq_none_iff.2
      ⟨passed_of_fields_whole fun field hfield => ((isWhole_object_iff.1 h).1 field hfield).2,
        (isWhole_object_iff.1 h).2⟩
  | .buried _ _, h => by simp [Reading.IsWhole, Reading.whole] at h
  | .broken _ _, h => by simp [Reading.IsWhole, Reading.whole] at h

theorem passed_of_items_whole : ∀ {items : List Reading}, (∀ item ∈ items, item.IsWhole) →
    ∀ item ∈ items, item.passed = none
  | [], _ => by simp
  | item :: rest, h => by
    rw [List.forall_mem_cons] at h ⊢
    exact ⟨h.1.passed, passed_of_items_whole h.2⟩

theorem passed_of_fields_whole : ∀ {fields : List ReadField},
    (∀ field ∈ fields, field.2.IsWhole) → ∀ field ∈ fields, field.2.passed = none
  | [], _ => by simp
  | (_, value) :: rest, h => by
    rw [List.forall_mem_cons] at h ⊢
    exact ⟨h.1.passed, passed_of_fields_whole h.2⟩

end

/-- What holds of an object or an array exactly if it holds of all that is in it, whatever the
order, is not changed by a revision. -/
lemma Revision.iff_of_inherited {P : Reading → Prop} {Q : Except Fault String → Prop}
    (hobject : ∀ fields ended,
      P (.object fields ended) ↔ (∀ field ∈ fields, Q field.1 ∧ P field.2) ∧ ended = none)
    (harray : ∀ items ended, P (.array items ended) ↔ (∀ item ∈ items, P item) ∧ ended = none)
    (hkey : ∀ key, Q (.ok key)) (hwhole : ∀ reading : Reading, reading.IsWhole → P reading)
    {shape : Shape} {reading reading' : Reading} (h : Revision shape reading reading') :
    P reading ↔ P reading' := by
  induction h with
  | permuted hperm => simp only [hobject, hperm.mem_iff]
  | extended _ _ hvalue => simp [hobject, hkey, hwhole _ hvalue]
  | inField _ ih => simp [hobject, or_imp, forall_and, ih]
  | inItem _ ih => simp [harray, or_imp, forall_and, ih]

lemma Revision.passed_iff {shape : Shape} {reading reading' : Reading}
    (h : Revision shape reading reading') : reading.passed = none ↔ reading'.passed = none := by
  refine h.iff_of_inherited (P := (·.passed = none)) (Q := fun _ => True) ?_ ?_ ?_ ?_
  · intro fields ended
    simp [passed_object_eq_none_iff]
  · intro items ended
    exact passed_array_eq_none_iff
  · intro key
    trivial
  · intro reading hreading
    exact hreading.passed

lemma Revision.isWhole_iff {shape : Shape} {reading reading' : Reading}
    (h : Revision shape reading reading') : reading.IsWhole ↔ reading'.IsWhole := by
  refine h.iff_of_inherited (Q := fun key => ∃ k, key = .ok k) ?_ ?_ ?_ ?_
  · intro fields ended
    exact isWhole_object_iff
  · intro items ended
    exact isWhole_array_iff
  · intro key
    exact ⟨key, rfl⟩
  · intro reading hreading
    exact hreading

/-! ## Answers without their faults -/

lemma toOption_map (f : α → β) (answer : Except Fault α) :
    (f <$> answer).toOption = f <$> answer.toOption := by
  cases answer <;> rfl

lemma toOption_bind (answer : Except Fault α) (next : α → Except Fault β) :
    (answer >>= next).toOption = answer.toOption >>= fun a => (next a).toOption := by
  cases answer <;> rfl

lemma toOption_mapM (decode : Decoder α) (items : List Reading) :
    (items.mapM decode).toOption = items.mapM fun item => (decode item).toOption := by
  induction items with
  | nil => rfl
  | cons item rest ih =>
    simp only [List.mapM_cons, toOption_bind, ih]
    rfl

/-- The value of a slot, whatever its fault is where it has none. -/
def Slot.value? (slot : Slot α) : Option α := slot.value.toOption

lemma Slot.value?_seq (f : Slot (α → β)) (slot : Slot α) :
    (f <*> slot).value? = f.value? <*> slot.value? := by
  cases f <;> cases slot <;> rfl

lemma Slot.value?_map (f : α → β) (slot : Slot α) : (f <$> slot).value? = f <$> slot.value? := by
  cases slot <;> rfl

lemma Slot.value?_seqLeft (slot : Slot α) (other : Slot β) :
    (slot <* other).value? = slot.value? <* other.value? := by
  cases slot <;> cases other <;> rfl

/-! ## Decoders -/

/-- A decoder gives the same value for a reading of a shape and each of its revisions, or fails on
both. -/
def Decoder.Respects (decode : Decoder α) (shape : Shape) : Prop :=
  ∀ ⦃reading reading' : Reading⦄, Revision shape reading reading' →
    (decode reading).toOption = (decode reading').toOption

namespace Decoder

/-- A decoder that takes neither objects nor arrays respects every shape. -/
lemma respects_of_scalar {decode : Decoder α}
    (hobject : ∀ fields ended, (decode (.object fields ended)).toOption = none)
    (harray : ∀ items ended, (decode (.array items ended)).toOption = none) (shape : Shape) :
    decode.Respects shape := by
  intro reading reading' h
  obtain ⟨fields, fields', ended, rfl, rfl⟩ | ⟨items, items', ended, rfl, rfl⟩ := h.object_or_array
  · rw [hobject, hobject]
  · rw [harray, harray]

lemma respects_text (shape : Shape) : text.Respects shape :=
  respects_of_scalar (fun _ _ => rfl) (fun _ _ => rfl) shape

lemma respects_flag (shape : Shape) : flag.Respects shape :=
  respects_of_scalar (fun _ _ => rfl) (fun _ _ => rfl) shape

variable {decode : Decoder α} {shape : Shape}

/-- No revision is one of null. -/
lemma Respects.nullable (h : decode.Respects shape) : decode.nullable.Respects shape := by
  intro reading reading' hrevision
  have hsame := h hrevision
  obtain ⟨fields, fields', ended, rfl, rfl⟩ | ⟨items, items', ended, rfl, rfl⟩ :=
    hrevision.object_or_array
  all_goals
    show (some <$> decode _).toOption = (some <$> decode _).toOption
    rw [toOption_map, toOption_map, hsame]

lemma toOption_list_array (items : List Reading) (ended : Option Fault) :
    (decode.list (.array items ended)).toOption =
      if ended = none then items.mapM fun item => (decode item).toOption else none := by
  rw [Decoder.list, toOption_bind, toOption_mapM]
  cases ended with
  | none => simp [Except.toOption, pure, Except.pure]
  | some fault =>
    simp [Except.toOption]

lemma Respects.list (h : decode.Respects shape) : decode.list.Respects (.list shape) := by
  intro reading reading' hrevision
  cases hrevision with
  | permuted _ => rfl
  | extended _ _ _ => rfl
  | inField _ => rfl
  | inItem hitem =>
    have hsame := h hitem
    simp only [toOption_list_array, List.mapM_append, List.mapM_cons, hsame]

end Decoder

/-! ## The values under a key -/

/-- The values under a key, in their order. -/
def valuesUnder (key : String) (fields : List ReadField) : List Reading :=
  fields.filterMap fun
    | (.ok k, value) => if k = key then some value else none
    | (.error _, _) => none

lemma valuesUnder_self (key : String) (value : Reading) (fields : List ReadField) :
    valuesUnder key ((.ok key, value) :: fields) = value :: valuesUnder key fields := by
  simp [valuesUnder]

lemma valuesUnder_of_ne {key : String} {k : Except Fault String} (h : k ≠ .ok key)
    (value : Reading) (fields : List ReadField) :
    valuesUnder key ((k, value) :: fields) = valuesUnder key fields := by
  cases k with
  | error fault => simp [valuesUnder]
  | ok k =>
    have hk : k ≠ key := fun hk => h (congrArg Except.ok hk)
    simp [valuesUnder, hk]

lemma valuesUnder_append (key : String) (before after : List ReadField) :
    valuesUnder key (before ++ after) = valuesUnder key before ++ valuesUnder key after :=
  List.filterMap_append

/-- What a part is decoded to, if these are the values under its key: nothing if there is no value,
and no answer if there are several. -/
def partOf? (decode : Decoder α) : List Reading → Option (Option α)
  | [] => some none
  | [value] => some <$> (decode value).toOption
  | _ :: _ :: _ => none

lemma placeOf?_eq_none_iff {key : String} {place : Nat} {fields : List ReadField} :
    placeOf? key place fields = none ↔ valuesUnder key fields = [] := by
  induction fields generalizing place with
  | nil => simp [placeOf?, valuesUnder]
  | cons field rest ih =>
    obtain ⟨_ | k, value⟩ := field
    · rw [placeOf?, ih, valuesUnder_of_ne (by simp)]
    · by_cases hk : k = key
      · simp [placeOf?, hk, valuesUnder_self]
      · rw [placeOf?, if_neg hk, ih, valuesUnder_of_ne (by simpa using hk)]

/-- A part depends on the values under its key alone. -/
lemma namedSlot_value? (decode : Decoder α) (key : String) (place : Nat)
    (fields : List ReadField) :
    (namedSlot decode key place fields).value? = partOf? decode (valuesUnder key fields) := by
  induction fields generalizing place with
  | nil => rfl
  | cons field rest ih =>
    obtain ⟨_ | k, value⟩ := field
    · rw [namedSlot, ih, valuesUnder_of_ne (by simp)]
    · by_cases hk : k = key
      · subst hk
        rw [namedSlot, if_pos rfl, valuesUnder_self]
        cases hplace : placeOf? k (place + 1) rest with
        | none =>
          rw [placeOf?_eq_none_iff.1 hplace]
          cases hvalue : decode value <;> simp [partOf?, hvalue] <;> rfl
        | some again =>
          obtain ⟨other, others, hothers⟩ :
              ∃ other others, valuesUnder k rest = other :: others := by
            refine List.exists_cons_of_ne_nil fun hnil => ?_
            rw [placeOf?_eq_none_iff.2 hnil] at hplace
            cases hplace
          rw [hothers]
          cases decode value <;> rfl
      · rw [namedSlot, if_neg hk, ih, valuesUnder_of_ne (by simpa using hk)]

lemma partOf?_congr {decode : Decoder α} {value value' : Reading}
    (h : (decode value).toOption = (decode value').toOption) (before after : List Reading) :
    partOf? decode (before ++ value :: after) = partOf? decode (before ++ value' :: after) := by
  match before, after with
  | [], [] => simp only [List.nil_append, partOf?, h]
  | [], _ :: _ => rfl
  | [_], _ => rfl
  | _ :: _ :: _, _ => rfl

lemma partOf?_perm (decode : Decoder α) {values values' : List Reading}
    (h : values.Perm values') : partOf? decode values = partOf? decode values' := by
  match values, values', h.length_eq with
  | [], [], _ => rfl
  | [value], [value'], _ => rw [List.singleton_perm_singleton.1 h]
  | _ :: _ :: _, _ :: _ :: _, _ => rfl

/-! ## The parts of a record -/

/-- Every decoder that respects the shape of a part gets the same from both records. -/
def Parts.Agree (shapes : List (String × Shape)) (parts parts' : Parts) : Prop :=
  ∀ ⦃key : String⦄ ⦃shape : Shape⦄, (key, shape) ∈ shapes →
    ∀ ⦃α : Type⦄ ⦃decode : Decoder α⦄, decode.Respects shape →
      (parts.part? key decode).value? = (parts'.part? key decode).value?

namespace Parts

variable {shapes : List (String × Shape)} {parts parts' : Parts} {shape : Shape}
  {decode : Decoder α}

lemma required_value? (parts : Parts) (key : String) (decode : Decoder α) :
    (parts.required key decode).value? = (parts.part? key decode).value?.join := by
  rw [required]
  cases parts.part? key decode with
  | error e => rfl
  | ok part? => cases part? <;> rfl

lemma withDefault_value? (parts : Parts) (key : String) (decode : Decoder α) (fallback : α) :
    (parts.withDefault key decode fallback).value? =
      (·.getD fallback) <$> (parts.part? key decode).value? :=
  Slot.value?_map _ _

/-! Each way of asking for a part gets the same from records that agree. -/

namespace Agree

lemma mono {shapes' : List (String × Shape)} (h : Agree shapes parts parts')
    (hsubset : shapes' ⊆ shapes) : Agree shapes' parts parts' :=
  fun _ _ hmem => h (hsubset hmem)

variable (h : Agree shapes parts parts') (key : String)
include h

lemma required (hmem : (key, shape) ∈ shapes) (hdecode : decode.Respects shape) :
    (parts.required key decode).value? = (parts'.required key decode).value? := by
  rw [required_value?, required_value?, h hmem hdecode]

lemma withDefault (hmem : (key, shape) ∈ shapes) (hdecode : decode.Respects shape) (fallback : α) :
    (parts.withDefault key decode fallback).value? =
      (parts'.withDefault key decode fallback).value? := by
  rw [withDefault_value?, withDefault_value?, h hmem hdecode]

lemma optional (hmem : (key, shape) ∈ shapes) (hdecode : decode.Respects shape) :
    (parts.optional key decode).value? = (parts'.optional key decode).value? :=
  h.withDefault key hmem hdecode.nullable none

lemma list (hmem : (key, .list shape) ∈ shapes) (hdecode : decode.Respects shape) :
    (parts.list key decode).value? = (parts'.list key decode).value? :=
  h.withDefault key hmem hdecode.list []

lemma flag (hmem : (key, .plain) ∈ shapes) :
    (parts.flag key).value? = (parts'.flag key).value? :=
  h.withDefault key hmem (Decoder.respects_flag .plain) false

end Agree

end Parts

/-- A revision of an object keeps the parts of the record that it is. -/
lemma Revision.agree {shape : Shape} {shapes : List (String × Shape)}
    {fields fields' : List ReadField} {ended ended' : Option Fault}
    (h : Revision shape (.object fields ended) (.object fields' ended'))
    (hshapes : shape.parts? fields = some shapes) (hkeys : (shapes.map Prod.fst).Nodup)
    (keys : List String) :
    Parts.Agree shapes ⟨keys, .named fields ended⟩ ⟨keys, .named fields' ended'⟩ := by
  intro key part hmem α decode hdecode
  show (namedSlot decode key 0 fields).value? = (namedSlot decode key 0 fields').value?
  rw [namedSlot_value?, namedSlot_value?]
  cases h with
  | permuted hperm => exact partOf?_perm decode (hperm.filterMap _)
  | @extended _ parts _ _ k value hparts hkey _ =>
    obtain rfl : shapes = parts := Option.some.inj (hshapes.symm.trans hparts)
    have hne : (Except.ok k : Except Fault String) ≠ .ok key := by
      rintro hk
      cases hk
      exact hkey (List.mem_map_of_mem hmem)
    rw [valuesUnder_of_ne hne]
  | @inField _ before after _ k value value' hvalue =>
    -- the value that changed either stands under the key or is not looked at
    by_cases hk : k = .ok key
    · subst hk
      rw [Shape.under_eq_of_mem hshapes hkeys hmem] at hvalue
      simp only [valuesUnder_append, valuesUnder_self]
      exact partOf?_congr (hdecode hvalue) _ _
    · simp only [valuesUnder_append, valuesUnder_of_ne hk]

/-- A part of an array depends on the item at its index, or on the end where there is none. -/
lemma listedSlot_value? (decode : Decoder α) (index : Nat) (items : List Reading)
    (ended : Option Fault) :
    (listedSlot decode index items ended).value? =
      match items[index]? with
      | some item => some <$> (decode item).toOption
      | none => if ended = none then some none else none := by
  cases hitem : items[index]? with
  | some item =>
    cases hvalue : decode item <;> simp [listedSlot, hitem, hvalue] <;> rfl
  | none =>
    cases ended <;> simp [listedSlot, hitem] <;> rfl

/-- A revision of an array keeps the parts of the record that it is. -/
lemma Revision.agree_listed {shapes : List (String × Shape)} {items items' : List Reading}
    {ended ended' : Option Fault}
    (h : Revision (.record shapes) (.array items ended) (.array items' ended'))
    (hkeys : (shapes.map Prod.fst).Nodup) :
    Parts.Agree shapes ⟨shapes.map Prod.fst, .listed items ended⟩
      ⟨shapes.map Prod.fst, .listed items' ended'⟩ := by
  intro key part hmem α decode hdecode
  show (listedSlot decode ((shapes.map Prod.fst).idxOf key) items ended).value? =
    (listedSlot decode ((shapes.map Prod.fst).idxOf key) items' ended').value?
  have hpart := getElem?_idxOf_of_mem hkeys hmem
  rw [listedSlot_value?, listedSlot_value?]
  cases h with
  | @inItem _ before after _ value value' hvalue =>
    by_cases hindex : (shapes.map Prod.fst).idxOf key = before.length
    · rw [hindex] at hpart ⊢
      have hitem : (Shape.record shapes).item before.length = part := by
        rw [Shape.item, hpart]
        rfl
      rw [hitem] at hvalue
      simp [hdecode hvalue]
    · rw [getElem?_append_cons_of_ne hindex]

/-! ## What is no part of a record -/

lemma strayFault?_eq_none_iff {keys : List String} {fault? : Reading → Option Fault} (place : Nat)
    {fields : List ReadField} :
    strayFault? keys fault? place fields = none ↔
      ∀ field ∈ fields, ∃ key, field.1 = .ok key ∧ (key ∈ keys ∨ fault? field.2 = none) := by
  induction fields generalizing place with
  | nil => simp [strayFault?]
  | cons field rest ih =>
    obtain ⟨_ | key, value⟩ := field
    · simp [strayFault?]
    · by_cases hkey : key ∈ keys
      · simp [strayFault?, hkey, ih]
      · cases hfault : fault? value <;> simp [strayFault?, hkey, hfault, ih]

lemma closed_named_eq_some_iff {keys : List String} {fields : List ReadField}
    {ended : Option Fault} {fault? : Reading → Option Fault} :
    ((⟨keys, .named fields ended⟩ : Parts).closed fault?).value? = some () ↔
      (∀ field ∈ fields, ∃ key, field.1 = .ok key ∧ (key ∈ keys ∨ fault? field.2 = none)) ∧
        ended = none := by
  rw [← strayFault?_eq_none_iff 0]
  cases hstray : strayFault? keys fault? 0 fields <;> cases ended <;>
    simp [Parts.closed, hstray, Slot.value?, Slot.value, Except.toOption]

lemma closed_listed_eq_some_iff {keys : List String} {items : List Reading}
    {ended : Option Fault} {fault? : Reading → Option Fault} :
    ((⟨keys, .listed items ended⟩ : Parts).closed fault?).value? = some () ↔
      items.length ≤ keys.length ∧ ended = none := by
  by_cases hlength : keys.length < items.length
  · simp [Parts.closed, hlength, Nat.not_le_of_lt hlength, Slot.value?, Slot.value, Except.toOption]
  · cases ended <;>
      simp [Parts.closed, hlength, Nat.le_of_not_lt hlength, Slot.value?, Slot.value,
        Except.toOption]

/-- A revision of an object keeps what is checked apart from its parts, if that is a fault that a
revision neither makes nor mends. -/
lemma Revision.closed_value? {fault? : Reading → Option Fault}
    (hkept : ∀ {shape reading reading'}, Revision shape reading reading' →
      (fault? reading = none ↔ fault? reading' = none))
    (hwhole : ∀ {reading : Reading}, reading.IsWhole → fault? reading = none)
    {shape : Shape} {fields fields' : List ReadField} {ended ended' : Option Fault}
    (h : Revision shape (.object fields ended) (.object fields' ended')) (keys : List String) :
    ((⟨keys, .named fields ended⟩ : Parts).closed fault?).value? =
      ((⟨keys, .named fields' ended'⟩ : Parts).closed fault?).value? := by
  refine Option.ext fun _ => ?_
  rw [closed_named_eq_some_iff, closed_named_eq_some_iff]
  cases h with
  | permuted hperm => simp only [hperm.mem_iff]
  | extended _ _ hvalue => simp [hwhole hvalue]
  | inField hvalue => simp [or_imp, forall_and, hkept hvalue]

/-! ## Records -/

/-- A decoder of records respects the shape that lists its parts, if what it makes of them depends
on nothing but the parts. -/
lemma Decoder.respects_record {keys : List String} {shapes : List (String × Shape)}
    {body : Parts → Slot α} (hshapes : shapes.map Prod.fst = keys) (hkeys : keys.Nodup)
    (hbody : ∀ parts parts', Parts.Agree shapes parts parts' →
      (body parts).value? = (body parts').value?) :
    (Decoder.record keys body).Respects (.record shapes) := by
  subst hshapes
  have hanswer : ∀ {reading : Reading} {members : Members}, reading.members = .ok members →
      (Decoder.record (shapes.map Prod.fst) body reading).toOption =
        ((body ⟨shapes.map Prod.fst, members⟩).value? <*
          ((⟨shapes.map Prod.fst, members⟩ : Parts).closed Reading.passed).value?) := by
    intro reading members hmembers
    rw [Decoder.record, hmembers, ← Slot.value?_seqLeft]
    rfl
  intro reading reading' h
  obtain ⟨fields, fields', ended, rfl, rfl⟩ | ⟨items, items', ended, rfl, rfl⟩ := h.object_or_array
  · have hbodies := hbody _ _ (h.agree rfl hkeys (shapes.map Prod.fst))
    have hclosed := h.closed_value? Revision.passed_iff Reading.IsWhole.passed (shapes.map Prod.fst)
    rw [hanswer rfl, hanswer rfl, hbodies, hclosed]
  · have hbodies := hbody _ _ (h.agree_listed hkeys)
    have hclosed : ((⟨shapes.map Prod.fst, .listed items ended⟩ : Parts).closed
          Reading.passed).value? =
        ((⟨shapes.map Prod.fst, .listed items' ended⟩ : Parts).closed Reading.passed).value? := by
      refine Option.ext fun _ => ?_
      rw [closed_listed_eq_some_iff, closed_listed_eq_some_iff]
      cases h with
      | inItem _ => simp
    rw [hanswer rfl, hanswer rfl, hbodies, hclosed]

end ApiDocs.Json
