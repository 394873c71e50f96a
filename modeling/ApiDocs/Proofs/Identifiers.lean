import ApiDocs.Proofs.Canonical
import ApiDocs.Proofs.Entities

/-!
# The identifiers of the two outputs

The document and the record of a render have the same identifiers.  In the document they come in the
order of the entities, and so they do in the nested records.  The record also lists its identifiers
by itself, over its fields in the order of their keys; that list is a permutation of the other one,
so no identifier is in one output only or in one of them more often.

Written out, a record lists the identifiers of its entities in order, and none of its objects
repeats a key.  Both hold for every record, rendered or not.
-/

namespace ApiDocs

open Json

/-! ## Records as they are written -/

@[simp] lemma DocsRecord.ownIdentifiers_toJson (key : String) (r : DocsRecord) :
    ownIdentifiers key r.toJson = [] := by
  simp [toJson, ownIdentifiers_record, identifiers_record]

@[simp] lemma DocsRecord.unrepeated_toJson (r : DocsRecord) : r.toJson.Unrepeated :=
  unrepeated_record ["summary", "remarks", "see", "example"] (by decide) (by simp)

@[simp] lemma Deprecation.flatMap_fields (r : Deprecation) :
    r.fields.flatMap optionalIdentifiers = [] := by
  simp [fields]

@[simp] lemma TypeLink.flatMap_identifiers (links : List TypeLink) :
    (links.flatMap fun r => r.toJson.identifiers) = [] := by
  simp [toJson, identifiers_record]

@[simp] lemma TypeLink.unrepeated_toJson (r : TypeLink) : r.toJson.Unrepeated :=
  unrepeated_record ["fqn", "displayName"] (by decide) (by simp)

namespace ParameterRecord

@[simp] lemma identifiers_toJson (r : ParameterRecord) : r.toJson.identifiers = [r.id] := by
  simp [toJson, identifiers_record]

@[simp] lemma unrepeated_toJson (r : ParameterRecord) : r.toJson.Unrepeated :=
  unrepeated_record ["id", "displayName", "type", "optional", "variadic", "default", "docs",
    "deprecated", "deprecationReason"] (by decide) (by simp [Deprecation.fields])

end ParameterRecord

namespace PropertyRecord

@[simp] lemma identifiers_toJson (r : PropertyRecord) : r.toJson.identifiers = [r.id] := by
  simp [toJson, identifiers_record]

@[simp] lemma unrepeated_toJson (r : PropertyRecord) : r.toJson.Unrepeated :=
  unrepeated_record ["id", "displayName", "type", "optional", "default", "docs", "deprecated",
    "deprecationReason"] (by decide) (by simp [Deprecation.fields])

end PropertyRecord

namespace EnumMemberRecord

@[simp] lemma identifiers_toJson (r : EnumMemberRecord) : r.toJson.identifiers = [r.id] := by
  simp [toJson, identifiers_record]

@[simp] lemma unrepeated_toJson (r : EnumMemberRecord) : r.toJson.Unrepeated :=
  unrepeated_record ["id", "displayName", "docs", "deprecated", "deprecationReason"] (by decide)
    (by simp [Deprecation.fields])

end EnumMemberRecord

namespace InitializerRecord

@[simp] lemma identifiers_toJson (r : InitializerRecord) :
    r.toJson.identifiers = r.entities.map EntityRecord.id := by
  simp [toJson, identifiers_record, entities, EntityRecord.id, List.flatMap_map,
    ← List.map_eq_flatMap, Function.comp_def]

@[simp] lemma unrepeated_toJson (r : InitializerRecord) : r.toJson.Unrepeated :=
  unrepeated_record ["id", "snippet", "parameters"] (by decide) (by simp)

end InitializerRecord

namespace CallableRecord

@[simp] lemma identifiers_toJson (r : CallableRecord) :
    r.toJson.identifiers = r.entities.map EntityRecord.id := by
  simp [toJson, identifiers_record, entities, EntityRecord.id, List.flatMap_map,
    ← List.map_eq_flatMap, Function.comp_def]

@[simp] lemma unrepeated_toJson (r : CallableRecord) : r.toJson.Unrepeated :=
  unrepeated_record ["id", "displayName", "snippet", "returns", "parameters", "docs", "deprecated",
    "deprecationReason"] (by decide) (by simp [Deprecation.fields])

end CallableRecord

namespace ClassRecord

@[simp] lemma identifiers_toJson (r : ClassRecord) :
    r.toJson.identifiers = r.entities.map EntityRecord.id := by
  have hinitializer : optionalIdentifiers (r.initializer.map fun i => ("initializer", i.toJson)) =
      (r.initializer.toList.flatMap (·.entities)).map EntityRecord.id := by
    cases r.initializer with
    | none => rfl
    | some i =>
      rw [Option.map_some, optionalIdentifiers_some, Option.toList_some, List.flatMap_singleton]
      exact i.identifiers_toJson
  simp [toJson, identifiers_record, entities, EntityRecord.id, List.flatMap_map, List.map_flatMap,
    ← List.map_eq_flatMap, Function.comp_def, hinitializer]

@[simp] lemma unrepeated_toJson (r : ClassRecord) : r.toJson.Unrepeated := by
  have hinitializer : FieldUnder "initializer"
      (r.initializer.map fun i => ("initializer", i.toJson)) := by
    cases r.initializer <;> simp
  exact unrepeated_record ["id", "fqn", "displayName", "interfaces", "docs", "deprecated",
    "deprecationReason", "initializer", "instanceMethods", "staticFunctions", "properties",
    "constants"] (by decide) (by simp [Deprecation.fields, hinitializer])

end ClassRecord

namespace StructRecord

@[simp] lemma identifiers_toJson (r : StructRecord) :
    r.toJson.identifiers = r.entities.map EntityRecord.id := by
  have hinitializer (key : String) : ownIdentifiers key r.initializer.toJson =
      r.initializer.entities.map EntityRecord.id := r.initializer.identifiers_toJson
  simp [toJson, identifiers_record, entities, EntityRecord.id, List.flatMap_map,
    ← List.map_eq_flatMap, Function.comp_def, hinitializer]

@[simp] lemma unrepeated_toJson (r : StructRecord) : r.toJson.Unrepeated :=
  unrepeated_record ["id", "fqn", "displayName", "docs", "deprecated", "deprecationReason",
    "initializer", "properties"] (by decide) (by simp [Deprecation.fields])

end StructRecord

namespace InterfaceRecord

@[simp] lemma identifiers_toJson (r : InterfaceRecord) :
    r.toJson.identifiers = r.entities.map EntityRecord.id := by
  simp [toJson, identifiers_record, entities, EntityRecord.id, List.flatMap_map, List.map_flatMap,
    ← List.map_eq_flatMap, Function.comp_def]

@[simp] lemma unrepeated_toJson (r : InterfaceRecord) : r.toJson.Unrepeated :=
  unrepeated_record ["id", "fqn", "displayName", "interfaces", "implementations", "docs",
    "deprecated", "deprecationReason", "instanceMethods", "properties"] (by decide)
    (by simp [Deprecation.fields])

end InterfaceRecord

namespace EnumRecord

@[simp] lemma identifiers_toJson (r : EnumRecord) :
    r.toJson.identifiers = r.entities.map EntityRecord.id := by
  simp [toJson, identifiers_record, entities, EntityRecord.id, List.flatMap_map,
    ← List.map_eq_flatMap, Function.comp_def]

@[simp] lemma unrepeated_toJson (r : EnumRecord) : r.toJson.Unrepeated :=
  unrepeated_record ["id", "fqn", "displayName", "docs", "deprecated", "deprecationReason",
    "members"] (by decide) (by simp [Deprecation.fields])

end EnumRecord

namespace ReferenceRecord

lemma unrepeated_toJson (r : ReferenceRecord) : r.toJson.Unrepeated :=
  unrepeated_record ["constructs", "classes", "structs", "interfaces", "enums"] (by decide)
    (by simp)

/-- Classes are written before structs, and documented after them. -/
lemma identifiers_toJson_perm (r : ReferenceRecord) :
    r.toJson.identifiers.Perm (r.entities.map EntityRecord.id) := by
  have hswap : (r.classes.flatMap (·.entities) ++ r.structs.flatMap (·.entities)).Perm
      (r.structs.flatMap (·.entities) ++ r.classes.flatMap (·.entities)) :=
    List.perm_append_comm
  have hwritten : r.toJson.identifiers =
      (r.constructs.flatMap (·.entities) ++
        ((r.classes.flatMap (·.entities) ++ r.structs.flatMap (·.entities)) ++
          (r.interfaces.flatMap (·.entities) ++ r.enums.flatMap (·.entities)))).map
        EntityRecord.id := by
    simp [toJson, identifiers_record, List.flatMap_map, List.map_flatMap]
  rw [hwritten]
  refine List.Perm.map _ ?_
  simpa [entities] using ((hswap.append_right _).append_left _)

end ReferenceRecord

/-- The identifiers that a record lists are those of its entities, up to order. -/
lemma DocumentationRecord.identifiers_perm (r : DocumentationRecord) :
    r.identifiers.Perm (r.reference.entities.map EntityRecord.id) :=
  (identifiers_canonical_perm _ r.reference.unrepeated_toJson).trans
    r.reference.identifiers_toJson_perm

/-! ## Renders -/

namespace Graph

/-- The document and the record of a render have the same identifiers: the document in the order in
which the record nests its entities, and the record's own list up to order. -/
theorem identifiers_of_render {g : Graph} {o : Options} {out : Output} (h : g.render o = .ok out) :
    out.document.identifiers = out.record.reference.entities.map EntityRecord.id ∧
      out.document.identifiers.Perm out.record.identifiers := by
  have hentities : out.document.identifiers =
      out.record.reference.entities.map EntityRecord.id := by
    rw [identifiers_eq_map_entities h, recordEntities_of_render h, List.map_map]
    rfl
  exact ⟨hentities, hentities ▸ out.record.identifiers_perm.symm⟩

/-- In the depot the record's own list begins with the constant, the document with the store. -/
theorem identifiers_of_render_depot :
    ∃ out, depot.render {} = .ok out ∧
      (out.document.identifiers = out.record.reference.entities.map EntityRecord.id ∧
        out.document.identifiers.Perm out.record.identifiers) ∧
      out.document.identifiers = ["lib.Store", "lib.Store.Initializer",
        "lib.Store.Initializer.parameter.keeper", "lib.Store.Initializer.parameter.label",
        "lib.Store.count", "lib.Store.open", "lib.Store.keepers", "lib.Store.LIMIT"] ∧
      out.record.identifiers.head? = some "lib.Store.LIMIT" := by
  obtain ⟨out, h⟩ := exists_render_depot
  have hdocument : (depot.render {}).toOption.map (·.document.identifiers) =
      some ["lib.Store", "lib.Store.Initializer", "lib.Store.Initializer.parameter.keeper",
        "lib.Store.Initializer.parameter.label", "lib.Store.count", "lib.Store.open",
        "lib.Store.keepers", "lib.Store.LIMIT"] := by
    decide +kernel
  have hrecord : (depot.render {}).toOption.map (·.record.identifiers.head?) =
      some (some "lib.Store.LIMIT") := by
    decide +kernel
  rw [h] at hdocument hrecord
  exact ⟨out, h, identifiers_of_render h, Option.some.inj hdocument, Option.some.inj hrecord⟩

end Graph

end ApiDocs
