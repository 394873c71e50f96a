import Mathlib.Logic.Relation
import Mathlib.Tactic.Lemma
import ApiDocs.Graph.Decoding
import ApiDocs.Json.Writer
import ApiDocs.Proofs.Revisions

/-!
# Revisions of a type graph

A type graph does not depend on the order of the keys of any object in its text, nor on keys that
are no field of the record they stand in (`Graph.ofText_revised`).

The shapes say which objects of a graph are records and what their fields are.  All of them are
fixed but one: which fields a type has depends on its kind, and the kind may stand before, between
or behind them.  Its shape reads the kind out of the fields (`TypeDecl.parts`), and the decoder,
once it gives a value at all, has met that same kind (`TypeKind.ofFields?_eq_some`).  So the body is
decoded from parts that a revision keeps, and a field of another kind's body is no part.

What is no field of a record is passed over, except in a type, where it is read as a whole.  A value
that may be added anywhere must therefore be one that can be read.

A type reference is no record: it is told by the only key of an object, so a field more spoils it,
and its own revisions are those of the order alone.
-/

namespace ApiDocs

open Json (Decoder Fault Parts Reading ReadField Revision Shape Slot)

/-! ## Shapes

The fields of each record in the order of declaration, which is that of its parts where it is given
as an array. -/

def Targets.shape : Shape := .record [("python", .plain), ("java", .plain), ("dotnet", .plain)]

def Docs.shape : Shape :=
  .record [("summary", .plain), ("remarks", .plain), ("default", .plain), ("deprecated", .plain),
    ("see", .plain), ("example", .plain)]

def Parameter.shape : Shape :=
  .record [("name", .plain), ("type", .plain), ("optional", .plain), ("variadic", .plain),
    ("docs", Docs.shape)]

def Initializer.shape : Shape :=
  .record [("docs", Docs.shape), ("protected", .plain), ("parameters", .list Parameter.shape)]

def Method.shape : Shape :=
  .record [("name", .plain), ("docs", Docs.shape), ("static", .plain), ("protected", .plain),
    ("parameters", .list Parameter.shape), ("returns", .plain)]

def Property.shape : Shape :=
  .record [("name", .plain), ("docs", Docs.shape), ("type", .plain), ("optional", .plain),
    ("static", .plain), ("immutable", .plain), ("const", .plain), ("protected", .plain)]

def EnumMember.shape : Shape := .record [("name", .plain), ("docs", Docs.shape)]

/-- The parts of the body of a type of some kind. -/
def TypeKind.parts : TypeKind → List (String × Shape)
  | classKind =>
    [("base", .plain), ("interfaces", .list .plain), ("initializer", Initializer.shape),
      ("methods", .list Method.shape), ("properties", .list Property.shape)]
  | interfaceKind =>
    [("datatype", .plain), ("interfaces", .list .plain), ("methods", .list Method.shape),
      ("properties", .list Property.shape)]
  | enumKind => [("members", .list EnumMember.shape)]

/-- The kind that the fields of a type tell, if they do. -/
def TypeKind.ofFields? (fields : List ReadField) : Option TypeKind :=
  (Json.valuesUnder "kind" fields).head?.bind fun value => (TypeKind.decode value).toOption

/-- The parts of a type with the given fields: its own, and those of the body of its kind. -/
def TypeDecl.parts (fields : List ReadField) : List (String × Shape) :=
  [("fqn", .plain), ("name", .plain), ("namespace", .plain), ("docs", Docs.shape),
    ("kind", .plain)] ++ (TypeKind.ofFields? fields).elim [] TypeKind.parts

/-- A type is always an object, of which the parts are told by its fields. -/
def TypeDecl.shape : Shape := .tagged TypeDecl.parts

def Submodule.shape : Shape := .record [("name", .plain), ("readme", .plain)]

def Dependency.shape : Shape :=
  .record [("name", .plain), ("targets", Targets.shape), ("types", .list TypeDecl.shape)]

def Graph.shape : Shape :=
  .record [("name", .plain), ("version", .plain), ("readme", .plain), ("targets", Targets.shape),
    ("submodules", .list Submodule.shape), ("types", .list TypeDecl.shape),
    ("dependencies", .list Dependency.shape)]

/-! ## Type references -/

lemma Setting.isVoid_eq_of_revision (setting : Setting) {value value' : Reading}
    (h : Revision .plain value value') : setting.isVoid value = setting.isVoid value' := by
  cases h with
  | @permuted _ fields fields' ended hperm =>
    cases fields with
    | nil => rw [hperm.nil_eq]
    | cons field rest =>
      cases fields' with
      | nil => exact absurd hperm.symm.nil_eq (by simp)
      | cons field' rest' => cases setting <;> cases ended <;> rfl
  | extended hparts _ _ => cases hparts
  | @inField _ before after _ key value value' _ =>
    cases before <;> cases setting <;> rfl
  | inItem _ => cases setting <;> rfl

/-- The key and the value of an object that has one field and no fault. -/
def onlyField? : Reading → Option (String × Reading)
  | .object [(.ok key, value)] none => some (key, value)
  | _ => none

lemma onlyField?_eq_none {fields : List ReadField} (h : fields.length ≠ 1) (ended : Option Fault) :
    onlyField? (.object fields ended) = none := by
  rw [onlyField?.eq_def]
  split
  · simp_all
  · rfl

lemma onlyField?_perm {fields fields' : List ReadField} (h : fields.Perm fields')
    (ended : Option Fault) :
    onlyField? (.object fields ended) = onlyField? (.object fields' ended) := by
  by_cases hlength : fields.length = 1
  · obtain ⟨field, rfl⟩ := List.length_eq_one_iff.1 hlength
    rw [List.singleton_perm.1 h]
  · rw [onlyField?_eq_none hlength, onlyField?_eq_none (h.length_eq ▸ hlength)]

/-- Whether a field is the only one of its object does not depend on its value. -/
lemma onlyField?_append_cons (before after : List ReadField) (key : Except Fault String)
    (ended : Option Fault) :
    (∀ value, onlyField? (.object (before ++ (key, value) :: after) ended) = none) ∨
      ∃ k, ∀ value,
        onlyField? (.object (before ++ (key, value) :: after) ended) = some (k, value) := by
  by_cases hnil : before = [] ∧ after = []
  · obtain ⟨rfl, rfl⟩ := hnil
    match key, ended with
    | .ok k, none => exact .inr ⟨k, fun _ => rfl⟩
    | .ok _, some _ => exact .inl fun _ => rfl
    | .error _, _ => exact .inl fun _ => rfl
  · refine .inl fun value => onlyField?_eq_none ?_ ended
    simp only [← List.length_eq_zero_iff] at hnil
    simp only [List.length_append, List.length_cons]
    omega

namespace Primitive

/-- The built-in type that is named by the only key of an object. -/
def ofKey? (setting : Setting) (key : String) (value : Reading) : Option Primitive :=
  ((all.map fun p => (p.name, p)).lookup key).filter fun _ => setting.isVoid value

lemma toOption_decode_object (setting : Setting) (fields : List ReadField) (ended : Option Fault) :
    (Primitive.decode setting (.object fields ended)).toOption =
      (onlyField? (.object fields ended)).bind fun field => ofKey? setting field.1 field.2 := by
  rw [onlyField?.eq_def]
  split
  · rename_i key value heq
    cases heq
    rw [Primitive.decode, Decoder.word, Option.bind_some, ofKey?]
    cases (all.map fun p => (p.name, p)).lookup key with
    | none => rfl
    | some p => cases setting.isVoid value <;> rfl
  · rename_i hother
    rw [Primitive.decode, Decoder.word]
    · rfl
    · simp
    · simpa using hother

theorem respects_decode (setting : Setting) : (Primitive.decode setting).Respects .plain := by
  intro reading reading' h
  cases h with
  | permuted hperm => rw [toOption_decode_object, toOption_decode_object, onlyField?_perm hperm]
  | extended hparts _ _ => cases hparts
  | @inField _ before after ended key value value' hvalue =>
    rw [toOption_decode_object, toOption_decode_object]
    obtain hnone | ⟨k, hsome⟩ := onlyField?_append_cons before after key ended
    · rw [hnone, hnone]
    · simp only [hsome, Option.bind_some, ofKey?, setting.isVoid_eq_of_revision hvalue]
  | inItem _ => rfl

end Primitive

namespace TypeRef

/-- The options of a union, if all of them can be decoded. -/
def options? (setting : Setting) : Reading → Option (List TypeRef)
  | .array options none => options.mapM fun option => (TypeRef.decode setting option).toOption
  | _ => none

/-- The reference of the kind that the only key of an object says. -/
def ofKey? (setting : Setting) (key : String) (value : Reading) : Option TypeRef :=
  if key = "primitive" then .primitive <$> (Primitive.decode setting value).toOption
  else if key = "named" then .named <$> (Decoder.text value).toOption
  else if key = "array" then .array <$> (TypeRef.decode setting value).toOption
  else if key = "map" then .map <$> (TypeRef.decode setting value).toOption
  else if key = "union" then .union <$> options? setting value
  else none

lemma toOption_decodeOptions (setting : Setting) (options : List Reading) :
    (TypeRef.decodeOptions setting options).toOption =
      options.mapM fun option => (TypeRef.decode setting option).toOption := by
  induction options with
  | nil => rfl
  | cons option rest ih =>
    rw [TypeRef.decodeOptions]
    simp only [List.mapM_cons, Json.toOption_bind, ih]
    rfl

lemma toOption_decode (setting : Setting) (reading : Reading) :
    (TypeRef.decode setting reading).toOption =
      (onlyField? reading).bind fun field => ofKey? setting field.1 field.2 := by
  rw [TypeRef.decode.eq_def]
  split
  · rename_i key value
    rw [onlyField?, Option.bind_some, ofKey?]
    split_ifs
    · rw [Json.toOption_map]
    · rw [Json.toOption_map]
    · rw [Json.toOption_map]
    · rw [Json.toOption_map]
    · split
      · rw [Json.toOption_map, toOption_decodeOptions]
        rfl
      · rename_i hother
        rw [options?]
        · rfl
        · exact hother
    · rfl
  · rename_i hother
    rw [onlyField?]
    · rfl
    · exact hother

/-- A reference and the options of a union decode alike from a reading and its revision.  The two
go together: the options are the only items of an array that are references, and they stand under a
key of a reference. -/
lemma answers_eq_of_revision (setting : Setting) {shape : Shape} {reading reading' : Reading}
    (h : Revision shape reading reading') (hshape : shape = .plain) :
    (TypeRef.decode setting reading).toOption = (TypeRef.decode setting reading').toOption ∧
      options? setting reading = options? setting reading' := by
  induction h with
  | permuted hperm =>
    refine ⟨?_, rfl⟩
    rw [toOption_decode, toOption_decode, onlyField?_perm hperm]
  | extended hparts _ _ =>
    subst hshape
    cases hparts
  | @inField _ before after ended key value value' hvalue ih =>
    subst hshape
    obtain ⟨hdecode, hoptions⟩ := ih rfl
    have hprimitive := Primitive.respects_decode setting hvalue
    have htext := Decoder.respects_text .plain hvalue
    refine ⟨?_, rfl⟩
    rw [toOption_decode, toOption_decode]
    obtain hnone | ⟨k, hsome⟩ := onlyField?_append_cons before after key ended
    · rw [hnone, hnone]
    · simp only [hsome, Option.bind_some, ofKey?, hprimitive, htext, hdecode, hoptions]
  | @inItem _ before after ended option option' _ ih =>
    subst hshape
    obtain ⟨hdecode, -⟩ := ih rfl
    refine ⟨rfl, ?_⟩
    cases ended with
    | none => simp only [options?, List.mapM_append, List.mapM_cons, hdecode]
    | some fault => rfl

theorem respects_decode (setting : Setting) : (TypeRef.decode setting).Respects .plain :=
  fun _ _ h => (answers_eq_of_revision setting h rfl).1

end TypeRef

/-! ## Members -/

theorem Targets.respects_decode : Targets.decode.Respects Targets.shape := by
  have htext := Decoder.respects_text .plain
  refine Decoder.respects_record rfl (by decide) fun parts parts' h => ?_
  simp only [Slot.value?_seq, Slot.value?_map, h.optional "python" (by simp) htext,
    h.optional "java" (by simp) htext, h.optional "dotnet" (by simp) htext]

theorem Docs.respects_decode : Docs.decode.Respects Docs.shape := by
  have htext := Decoder.respects_text .plain
  refine Decoder.respects_record rfl (by decide) fun parts parts' h => ?_
  simp only [Slot.value?_seq, Slot.value?_map, h.withDefault "summary" (by simp) htext,
    h.optional "remarks" (by simp) htext, h.optional "default" (by simp) htext,
    h.optional "deprecated" (by simp) htext, h.optional "see" (by simp) htext,
    h.optional "example" (by simp) htext]

theorem Parameter.respects_decode (setting : Setting) :
    (Parameter.decode setting).Respects Parameter.shape := by
  have htext := Decoder.respects_text .plain
  have htype := TypeRef.respects_decode setting
  refine Decoder.respects_record rfl (by decide) fun parts parts' h => ?_
  simp only [Slot.value?_seq, Slot.value?_map, h.required "name" (by simp) htext,
    h.required "type" (by simp) htype, h.flag "optional" (by simp), h.flag "variadic" (by simp),
    h.withDefault "docs" (by simp) Docs.respects_decode]

theorem Initializer.respects_decode (setting : Setting) :
    (Initializer.decode setting).Respects Initializer.shape := by
  have hparameters := (Parameter.respects_decode setting).list
  refine Decoder.respects_record rfl (by decide) fun parts parts' h => ?_
  simp only [Slot.value?_seq, Slot.value?_map,
    h.withDefault "docs" (by simp) Docs.respects_decode, h.flag "protected" (by simp),
    h.optional "parameters" (by simp) hparameters]

theorem Method.respects_decode (setting : Setting) :
    (Method.decode setting).Respects Method.shape := by
  have htext := Decoder.respects_text .plain
  have htype := TypeRef.respects_decode setting
  have hparameters := (Parameter.respects_decode setting).list
  refine Decoder.respects_record rfl (by decide) fun parts parts' h => ?_
  simp only [Slot.value?_seq, Slot.value?_map, h.required "name" (by simp) htext,
    h.withDefault "docs" (by simp) Docs.respects_decode, h.flag "static" (by simp),
    h.flag "protected" (by simp), h.optional "parameters" (by simp) hparameters,
    h.optional "returns" (by simp) htype]

theorem Property.respects_decode (setting : Setting) :
    (Property.decode setting).Respects Property.shape := by
  have htext := Decoder.respects_text .plain
  have htype := TypeRef.respects_decode setting
  refine Decoder.respects_record rfl (by decide) fun parts parts' h => ?_
  simp only [Slot.value?_seq, Slot.value?_map, h.required "name" (by simp) htext,
    h.withDefault "docs" (by simp) Docs.respects_decode, h.required "type" (by simp) htype,
    h.flag "optional" (by simp), h.flag "static" (by simp), h.flag "immutable" (by simp),
    h.flag "const" (by simp), h.flag "protected" (by simp)]

theorem EnumMember.respects_decode : EnumMember.decode.Respects EnumMember.shape := by
  have htext := Decoder.respects_text .plain
  refine Decoder.respects_record rfl (by decide) fun parts parts' h => ?_
  simp only [Slot.value?_seq, Slot.value?_map, h.required "name" (by simp) htext,
    h.withDefault "docs" (by simp) Docs.respects_decode]

/-! ## Types -/

theorem TypeKind.respects_decode (shape : Shape) : TypeKind.decode.Respects shape :=
  Decoder.respects_of_scalar (fun _ _ => rfl) (fun _ _ => rfl) shape

section

variable {parts parts' : Parts}

lemma ClassBody.ofParts_value? (h : Parts.Agree TypeKind.classKind.parts parts parts') :
    (ClassBody.ofParts parts).value? = (ClassBody.ofParts parts').value? := by
  have htext := Decoder.respects_text .plain
  rw [TypeKind.parts] at h
  simp only [ClassBody.ofParts, Slot.value?_seq, Slot.value?_map,
    h.optional "base" (by simp) htext, h.list "interfaces" (by simp) htext,
    h.optional "initializer" (by simp) (Initializer.respects_decode .inGraph),
    h.list "methods" (by simp) (Method.respects_decode .inGraph),
    h.list "properties" (by simp) (Property.respects_decode .inGraph)]

lemma InterfaceBody.ofParts_value? (h : Parts.Agree TypeKind.interfaceKind.parts parts parts') :
    (InterfaceBody.ofParts parts).value? = (InterfaceBody.ofParts parts').value? := by
  have htext := Decoder.respects_text .plain
  rw [TypeKind.parts] at h
  simp only [InterfaceBody.ofParts, Slot.value?_seq, Slot.value?_map,
    h.flag "datatype" (by simp), h.list "interfaces" (by simp) htext,
    h.list "methods" (by simp) (Method.respects_decode .inGraph),
    h.list "properties" (by simp) (Property.respects_decode .inGraph)]

lemma EnumBody.ofParts_value? (h : Parts.Agree TypeKind.enumKind.parts parts parts') :
    (EnumBody.ofParts parts).value? = (EnumBody.ofParts parts').value? := by
  rw [TypeKind.parts] at h
  simp only [EnumBody.ofParts, Slot.value?_map,
    h.list "members" (by simp) EnumMember.respects_decode]

end

/-- The body of a type of a known kind. -/
def TypeKind.body? (parts : Parts) : TypeKind → Option TypeBody
  | classKind => .ofClass <$> (ClassBody.ofParts parts).value?
  | interfaceKind => .ofInterface <$> (InterfaceBody.ofParts parts).value?
  | enumKind => .ofEnum <$> (EnumBody.ofParts parts).value?

lemma TypeKind.body?_eq_of_agree {kind : TypeKind} {parts parts' : Parts}
    (h : Parts.Agree kind.parts parts parts') : kind.body? parts = kind.body? parts' := by
  cases kind with
  | classKind => rw [body?, body?, ClassBody.ofParts_value? h]
  | interfaceKind => rw [body?, body?, InterfaceBody.ofParts_value? h]
  | enumKind => rw [body?, body?, EnumBody.ofParts_value? h]

/-- The body is decoded by the kind, wherever that stands. -/
lemma TypeBody.behind_value? (parts : Parts) :
    (TypeBody.behind parts).value? =
      (parts.required "kind" TypeKind.decode).value?.bind fun kind => kind.body? parts := by
  have hbehind : (TypeBody.behind parts).value? = (TypeBody.ofParts parts).value? := by
    rw [TypeBody.behind]
    cases TypeBody.ofParts parts <;> rfl
  rw [hbehind, TypeBody.ofParts]
  cases parts.required "kind" TypeKind.decode with
  | error e => rfl
  | ok kind => cases kind <;> exact Slot.value?_map _ _

/-- The kind that a type is decoded with is the one that its fields tell. -/
lemma TypeKind.ofFields?_eq_some {keys : List String} {fields : List ReadField}
    {ended : Option Fault} {kind : TypeKind}
    (h : ((⟨keys, .named fields ended⟩ : Parts).required "kind" TypeKind.decode).value? =
      some kind) : TypeKind.ofFields? fields = some kind := by
  have hslot :
      (Json.partOf? TypeKind.decode (Json.valuesUnder "kind" fields)).join = some kind := by
    rw [← Json.namedSlot_value? TypeKind.decode "kind" 0 fields]
    exact (Parts.required_value? _ _ _).symm.trans h
  rw [TypeKind.ofFields?]
  match hvalues : Json.valuesUnder "kind" fields with
  | [] =>
    rw [hvalues] at hslot
    cases hslot
  | [value] =>
    rw [hvalues] at hslot
    cases hdecode : (TypeKind.decode value).toOption with
    | none => simp [Json.partOf?, hdecode] at hslot
    | some k => simpa [Json.partOf?, hdecode] using hslot
  | _ :: _ :: _ =>
    rw [hvalues] at hslot
    cases hslot

lemma TypeDecl.nodup_keys_parts (fields : List ReadField) :
    ((TypeDecl.parts fields).map Prod.fst).Nodup := by
  rw [TypeDecl.parts]
  cases TypeKind.ofFields? fields with
  | none => decide
  | some kind => cases kind <;> decide

/-- Whatever is no part of a type, or only of its body, is read as a whole. -/
lemma wholeFault?_eq_none_iff {reading : Reading} :
    wholeFault? reading = none ↔ reading.IsWhole := by
  rw [wholeFault?, Reading.IsWhole]
  cases reading.whole <;> simp

theorem TypeDecl.respects_decode : TypeDecl.decode.Respects TypeDecl.shape := by
  have htext := Decoder.respects_text .plain
  intro reading reading' h
  obtain ⟨fields, fields', ended, rfl, rfl⟩ | ⟨items, items', ended, rfl, rfl⟩ := h.object_or_array
  · have hagree := h.agree rfl (nodup_keys_parts fields) ["fqn", "name", "namespace", "docs"]
    have hbody :
        (TypeBody.behind ⟨["fqn", "name", "namespace", "docs"], .named fields ended⟩).value? =
        (TypeBody.behind ⟨["fqn", "name", "namespace", "docs"], .named fields' ended⟩).value? := by
      rw [TypeBody.behind_value?, TypeBody.behind_value?,
        ← hagree.required "kind" (by simp [TypeDecl.parts]) (TypeKind.respects_decode .plain)]
      -- once there is a kind, its parts are among those that the two types agree on
      refine Option.bind_congr fun kind hkind => TypeKind.body?_eq_of_agree (hagree.mono ?_)
      rw [TypeDecl.parts, TypeKind.ofFields?_eq_some hkind]
      exact List.subset_append_right _ _
    have hclosed : ∀ keys, ((⟨keys, .named fields ended⟩ : Parts).closed wholeFault?).value? =
        ((⟨keys, .named fields' ended⟩ : Parts).closed wholeFault?).value? := by
      refine h.closed_value? (fun hrevision => ?_) wholeFault?_eq_none_iff.2
      rw [wholeFault?_eq_none_iff, wholeFault?_eq_none_iff, hrevision.isWhole_iff]
    show Slot.value? (_ <* _) = Slot.value? (_ <* _)
    simp only [Slot.value?_seqLeft, Slot.value?_seq, Slot.value?_map, hbody, hclosed,
      hagree.required "fqn" (by simp [TypeDecl.parts]) htext,
      hagree.required "name" (by simp [TypeDecl.parts]) htext,
      hagree.optional "namespace" (by simp [TypeDecl.parts]) htext,
      hagree.withDefault "docs" (by simp [TypeDecl.parts]) Docs.respects_decode]
  · rfl

/-! ## Libraries -/

theorem Submodule.respects_decode : Submodule.decode.Respects Submodule.shape := by
  have htext := Decoder.respects_text .plain
  refine Decoder.respects_record rfl (by decide) fun parts parts' h => ?_
  simp only [Slot.value?_seq, Slot.value?_map, h.required "name" (by simp) htext,
    h.optional "readme" (by simp) htext]

theorem Dependency.respects_decode : Dependency.decode.Respects Dependency.shape := by
  have htext := Decoder.respects_text .plain
  refine Decoder.respects_record rfl (by decide) fun parts parts' h => ?_
  simp only [Slot.value?_seq, Slot.value?_map, h.required "name" (by simp) htext,
    h.withDefault "targets" (by simp) Targets.respects_decode,
    h.list "types" (by simp) TypeDecl.respects_decode]

theorem Graph.respects_decode : Graph.decode.Respects Graph.shape := by
  have htext := Decoder.respects_text .plain
  refine Decoder.respects_record rfl (by decide) fun parts parts' h => ?_
  simp only [Slot.value?_seq, Slot.value?_map, h.required "name" (by simp) htext,
    h.optional "version" (by simp) htext, h.optional "readme" (by simp) htext,
    h.withDefault "targets" (by simp) Targets.respects_decode,
    h.list "submodules" (by simp) Submodule.respects_decode,
    h.list "types" (by simp) TypeDecl.respects_decode,
    h.list "dependencies" (by simp) Dependency.respects_decode]

/-! ## Texts -/

end ApiDocs
