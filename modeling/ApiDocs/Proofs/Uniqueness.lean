import ApiDocs.Proofs.Declarations
import ApiDocs.Proofs.Faults
import ApiDocs.Proofs.Lists

/-!
# When identifiers are unique

An identifier is put together from names with dots between them, and nothing looks at what comes
out.  Still two entities have the same identifier for one reason only, as long as names are as a
compiler leaves them: the initializer of a class, or the section that shows how a struct is filled,
goes under `Initializer`, and a member may have that name too.

Two facts carry this.  A member's name has no dot, so the identifiers in a type are told apart by
what stands before the first dot behind the type's name.  And no full name of a type goes on from
another one with a dot, so the identifiers in different types are told apart by the type's name.
-/

namespace ApiDocs

/-! ## Members

A type under the names of what it shows. -/

/-- A callable, property or enumeration member under its name, with the names of its parameters. -/
structure Member where
  name : String
  parameters : List String := []

/-- A method under its name. -/
def Method.member (m : Method) : Member := ⟨m.name, (m.parameters.getD []).map (·.name)⟩

/-- A property under its name. -/
def Property.member (p : Property) : Member := { name := p.name }

/-- An initializer under the name that all of them go by. -/
def Initializer.member (i : Initializer) : Member :=
  ⟨"Initializer", (i.parameters.getD []).map (·.name)⟩

namespace TypeDecl

/-- What goes by the name of an initializer: the initializer that a class shows, and how a struct is
filled. -/
def initializer? (t : TypeDecl) : Option Member :=
  match t.body with
  | .ofClass body => body.shownInitializer?.map (·.member)
  | .ofInterface body => if body.isDatatype then some { name := "Initializer" } else none
  | .ofEnum _ => none

/-- The methods, properties, constants and enumeration members that a type shows. -/
def members (t : TypeDecl) : List Member :=
  match t.body with
  | .ofClass body =>
    (body.methods.filter fun m => !m.isProtected && !m.isStatic).map (·.member) ++
      (body.methods.filter fun m => !m.isProtected && m.isStatic).map (·.member) ++
      (body.properties.filter fun p => !p.isProtected && !p.isConstant).map (·.member) ++
      (body.properties.filter fun p => !p.isProtected && p.isConstant).map (·.member)
  | .ofInterface body =>
    (if body.isDatatype then []
      else (body.methods.filter fun m => !m.isProtected && !m.isStatic).map (·.member)) ++
      (body.properties.filter fun p => !p.isProtected && !p.isConstant).map (·.member)
  | .ofEnum body => body.members.map fun m => { name := m.name }

/-- All that stands in a type under a name. -/
def named (t : TypeDecl) : List Member := t.initializer?.toList ++ t.members

end TypeDecl

/-- The identifiers of a member and its parameters. -/
def Member.ids (fqn : String) (m : Member) : List String :=
  Name.extend fqn m.name :: m.parameters.map (Name.parameterId (Name.extend fqn m.name))

/-- The identifiers of a type and all that stands in it. -/
def TypeDecl.ids (t : TypeDecl) : List String := t.fqn :: t.named.flatMap (Member.ids t.fqn)

section

variable (t : TypeDecl)

lemma map_id_ofParameter (callable : String) (parameters : List Parameter) :
    (parameters.map (Declaration.ofParameter callable)).map Declaration.id =
      (parameters.map (·.name)).map (Name.parameterId callable) := by
  rw [List.map_map, List.map_map]
  rfl

lemma map_id_methods (methods : List Method) :
    (methods.flatMap (Method.declarations t)).map Declaration.id =
      (methods.map (·.member)).flatMap (Member.ids t.fqn) := by
  rw [List.map_flatMap, List.flatMap_map]
  refine List.flatMap_congr fun m _ => ?_
  rw [Method.declarations, List.map_cons, map_id_ofParameter]
  rfl

lemma map_id_initializer (i : Option Initializer) :
    (i.toList.flatMap (Initializer.declarations t)).map Declaration.id =
      (i.map (·.member)).toList.flatMap (Member.ids t.fqn) := by
  cases i with
  | none => rfl
  | some i =>
    simp only [Option.toList_some, List.flatMap_singleton, Option.map_some]
    rw [Initializer.declarations, List.map_cons, map_id_ofParameter]
    rfl

lemma map_id_properties (properties : List Property) :
    (properties.map (Declaration.ofProperty t)).map Declaration.id =
      (properties.map (·.member)).flatMap (Member.ids t.fqn) := by
  rw [List.map_map, List.flatMap_map, List.map_eq_flatMap]
  rfl

/-- The identifiers of what a type declares are made of names alone. -/
lemma TypeDecl.map_id_declarations : t.declarations.map Declaration.id = t.ids := by
  rw [declarations, List.map_cons, ids, named]
  refine congrArg (t.fqn :: ·) ?_
  unfold memberDeclarations initializer? members instanceDeclarations staticDeclarations
    propertyDeclarations constantDeclarations
  cases t.body with
  | ofClass body =>
    simp only [List.map_append, List.flatMap_append, map_id_initializer, map_id_methods,
      map_id_properties, List.append_assoc]
  | ofInterface body =>
    dsimp only
    by_cases hdatatype : body.isDatatype = true
    · rw [if_pos hdatatype, if_pos hdatatype, if_pos hdatatype, List.map_cons, map_id_properties]
      rfl
    · rw [if_neg hdatatype, if_neg hdatatype, if_neg hdatatype, List.map_append, map_id_methods,
        map_id_properties, Option.toList_none, List.nil_append, List.flatMap_append]
  | ofEnum body =>
    simp only [List.map_map, Option.toList_none, List.nil_append, List.flatMap_map]
    rw [List.map_eq_flatMap]
    rfl

end

/-! ## Dots

What an identifier begins with is compared with a dot put behind it, so that a full name counts as
the beginning of itself and not of a longer name. -/

lemma Name.toList_extend {parent : String} (h : parent ≠ "") (name : String) :
    (extend parent name).toList = parent.toList ++ '.' :: name.toList := by
  have hempty : ¬ parent.isEmpty = true := by simpa [String.isEmpty_iff] using h
  rw [extend, if_neg hempty]
  simp

lemma Name.extend_ne_empty {parent : String} (h : parent ≠ "") (name : String) :
    extend parent name ≠ "" := by
  intro hempty
  have hlist := toList_extend h name
  rw [hempty] at hlist
  simp at hlist

lemma Name.toList_parameterId {callable : String} (h : callable ≠ "") (name : String) :
    (parameterId callable name).toList =
      callable.toList ++ '.' :: ("parameter".toList ++ '.' :: name.toList) := by
  rw [parameterId, toList_extend (extend_ne_empty h _), toList_extend h]
  simp

lemma Name.parameterId_injective {callable : String} (h : callable ≠ "") :
    Function.Injective (parameterId callable) := by
  intro a b hab
  have hlist := congrArg String.toList hab
  rw [toList_parameterId h, toList_parameterId h] at hlist
  simpa [String.toList_inj] using hlist

/-- The part of an identifier that stands behind a full name, up to the next dot. -/
def partBehind (fqn id : String) : List Char :=
  (id.toList.drop (fqn.toList.length + 1)).takeWhile (· ≠ '.')

section

variable {fqn id : String} {m : Member}

/-- Behind the full name comes the name of the member, and then nothing or another dot. -/
lemma Member.exists_toList_of_mem_ids (hfqn : fqn ≠ "") (h : id ∈ m.ids fqn) :
    ∃ rest, id.toList = fqn.toList ++ '.' :: (m.name.toList ++ rest) ∧
      rest.takeWhile (· ≠ '.') = [] := by
  rw [ids, List.mem_cons, List.mem_map] at h
  rcases h with rfl | ⟨p, -, rfl⟩
  · exact ⟨[], by rw [Name.toList_extend hfqn, List.append_nil], rfl⟩
  · refine ⟨'.' :: ("parameter".toList ++ '.' :: p.toList), ?_, rfl⟩
    rw [Name.toList_parameterId (Name.extend_ne_empty hfqn _), Name.toList_extend hfqn]
    simp

lemma Member.partBehind_of_mem_ids (hfqn : fqn ≠ "") (hname : '.' ∉ m.name.toList)
    (h : id ∈ m.ids fqn) : partBehind fqn id = m.name.toList := by
  obtain ⟨rest, hlist, hrest⟩ := exists_toList_of_mem_ids hfqn h
  have hdrop : id.toList.drop (fqn.toList.length + 1) = m.name.toList ++ rest := by
    rw [hlist, List.drop_length_add_append, List.drop_one, List.tail_cons]
  have hundotted : ∀ c ∈ m.name.toList, decide (c ≠ '.') = true := by
    intro c hc
    rw [decide_eq_true_eq]
    rintro rfl
    exact hname hc
  rw [partBehind, hdrop, List.takeWhile_append_of_pos hundotted, hrest, List.append_nil]

/-- Parameters of different names have different identifiers, and none has that of the callable. -/
lemma Member.nodup_ids (hfqn : fqn ≠ "") (h : m.parameters.Nodup) : (m.ids fqn).Nodup := by
  have hcallable := Name.extend_ne_empty hfqn m.name
  rw [ids, List.nodup_cons]
  refine ⟨?_, h.map (Name.parameterId_injective hcallable)⟩
  intro hmem
  obtain ⟨p, -, hp⟩ := List.mem_map.1 hmem
  have hlength := congrArg (fun s => s.toList.length) hp
  simp [Name.toList_parameterId hcallable] at hlength

/-- Members of different names have no identifier in common. -/
lemma Member.disjoint_ids {m' : Member} (hfqn : fqn ≠ "") (hm : '.' ∉ m.name.toList)
    (hm' : '.' ∉ m'.name.toList) (hne : m.name ≠ m'.name) :
    List.Disjoint (m.ids fqn) (m'.ids fqn) := by
  intro id hid hid'
  -- what stands behind the full name is the name of the one and of the other
  have hpart := partBehind_of_mem_ids hfqn hm hid
  rw [partBehind_of_mem_ids hfqn hm' hid'] at hpart
  exact hne (String.toList_inj.1 hpart.symm)

end

/-! ## Types -/

namespace TypeDecl

variable {t t' : TypeDecl}

/-- The names in a type that a compiler tells apart. -/
structure NamesApart (t : TypeDecl) : Prop where
  nonempty : t.fqn ≠ ""
  members : (t.members.map (·.name)).Nodup
  undotted : ∀ m ∈ t.members, '.' ∉ m.name.toList
  parameters : ∀ m ∈ t.named, m.parameters.Nodup

lemma name_of_initializer? {i : Member} (h : t.initializer? = some i) :
    i.name = "Initializer" := by
  unfold initializer? at h
  cases hbody : t.body with
  | ofClass body =>
    rw [hbody] at h
    obtain ⟨_, -, rfl⟩ := Option.map_eq_some_iff.1 h
    rfl
  | ofInterface body =>
    simp only [hbody, Option.ite_none_right_eq_some, Option.some.injEq] at h
    rw [← h.2]
  | ofEnum body => simp [hbody] at h

lemma NamesApart.undotted_named (h : t.NamesApart) {m : Member} (hm : m ∈ t.named) :
    '.' ∉ m.name.toList := by
  rw [named, List.mem_append, Option.mem_toList] at hm
  rcases hm with hm | hm
  · rw [name_of_initializer? hm]
    decide
  · exact h.undotted m hm

/-- The identifiers in a type differ from one another exactly if the names under which it shows
anything do. -/
lemma NamesApart.nodup_ids_iff (h : t.NamesApart) :
    t.ids.Nodup ↔ (t.named.map (·.name)).Nodup := by
  have hfqn : t.fqn ∉ t.named.flatMap (Member.ids t.fqn) := by
    intro hmem
    obtain ⟨m, -, hm⟩ := List.mem_flatMap.1 hmem
    obtain ⟨rest, hlist, -⟩ := Member.exists_toList_of_mem_ids h.nonempty hm
    have hlength := congrArg List.length hlist
    simp at hlength
  rw [ids, List.nodup_cons, List.nodup_flatMap, List.Nodup, List.pairwise_map]
  constructor
  · rintro ⟨-, -, hdisjoint⟩
    refine hdisjoint.imp fun {m m'} hids heq => ?_
    have hshared : Name.extend t.fqn m.name ∈ m'.ids t.fqn := by
      rw [heq]
      exact List.mem_cons_self
    exact hids List.mem_cons_self hshared
  · intro hnames
    refine ⟨hfqn, fun m hm => Member.nodup_ids h.nonempty (h.parameters m hm), ?_⟩
    exact hnames.imp_of_mem fun hm hm' hne =>
      Member.disjoint_ids h.nonempty (h.undotted_named hm) (h.undotted_named hm') hne

lemma NamesApart.nodup_named_iff (h : t.NamesApart) :
    (t.named.map (·.name)).Nodup ↔
      (t.initializer?.isSome → "Initializer" ∉ t.members.map (·.name)) := by
  rw [named, List.map_append]
  cases hinitializer : t.initializer? with
  | none => simpa using h.members
  | some i =>
    rw [Option.toList_some, List.map_singleton, List.singleton_append, List.nodup_cons,
      name_of_initializer? hinitializer]
    simp [h.members]

/-- What stands in a type has the full name of the type before it. -/
lemma prefix_of_mem_ids (hfqn : t.fqn ≠ "") {id : String} (h : id ∈ t.ids) :
    t.fqn.toList ++ ['.'] <+: id.toList ++ ['.'] := by
  rw [ids, List.mem_cons, List.mem_flatMap] at h
  rcases h with rfl | ⟨m, -, hm⟩
  · exact List.prefix_rfl
  · obtain ⟨rest, hlist, -⟩ := Member.exists_toList_of_mem_ids hfqn hm
    exact ⟨m.name.toList ++ rest ++ ['.'], by simp [hlist]⟩

/-- A full name that has another one before it is the same, or goes on from it with a dot. -/
lemma fqn_eq_or_exists_rest (h : t.fqn.toList ++ ['.'] <+: t'.fqn.toList ++ ['.']) :
    t'.fqn = t.fqn ∨ ∃ rest, t'.fqn = t.fqn ++ "." ++ rest := by
  rcases List.prefix_concat_iff.1 h with heq | ⟨rest, hrest⟩
  · exact .inl (String.toList_inj.1 (List.append_cancel_right heq).symm)
  · refine .inr ⟨String.ofList rest, String.toList_inj.1 ?_⟩
    simp [← hrest]

lemma disjoint_ids (hfqn : t.fqn ≠ "") (hfqn' : t'.fqn ≠ "") (hne : t.fqn ≠ t'.fqn)
    (h : ∀ rest, t'.fqn ≠ t.fqn ++ "." ++ rest) (h' : ∀ rest, t.fqn ≠ t'.fqn ++ "." ++ rest) :
    List.Disjoint t.ids t'.ids := by
  intro id hid hid'
  -- both full names stand at the beginning of the identifier, so one stands before the other
  rcases List.prefix_or_prefix_of_prefix (prefix_of_mem_ids hfqn hid)
      (prefix_of_mem_ids hfqn' hid') with hprefix | hprefix
  · rcases fqn_eq_or_exists_rest hprefix with heq | ⟨rest, hrest⟩
    · exact hne heq.symm
    · exact h rest hrest
  · rcases fqn_eq_or_exists_rest hprefix with heq | ⟨rest, hrest⟩
    · exact hne heq
    · exact h' rest hrest

end TypeDecl

/-! ## Renders -/

namespace Graph

variable {g : Graph} {o : Options} {out : Output}

lemma identifiers_perm_ids (h : g.render o = .ok out) :
    out.document.identifiers.Perm ((g.selectedTypes o).flatMap (·.ids)) := by
  have hperm := (shown_of_render h).map_perm fun d e hshows => hshows.id_eq
  rw [declarations, List.map_flatMap] at hperm
  simp only [TypeDecl.map_id_declarations] at hperm
  rw [identifiers_eq_map_entities h]
  exact hperm.symm

/-- As far as names of types and members go, there is one reason why two entities of a render have
the same identifier: a type that shows an initializer has a member called `Initializer`. -/
theorem nodup_identifiers_of_render (h : g.render o = .ok out)
    (hdistinct : ((g.selectedTypes o).map (·.fqn)).Nodup)
    (hunnested : ∀ t ∈ g.selectedTypes o, ∀ t' ∈ g.selectedTypes o, ∀ rest,
      t'.fqn ≠ t.fqn ++ "." ++ rest)
    (hnames : ∀ t ∈ g.selectedTypes o, t.NamesApart) :
    out.document.identifiers.Nodup ↔
      ∀ t ∈ g.selectedTypes o, t.initializer?.isSome →
        "Initializer" ∉ t.members.map (·.name) := by
  rw [(identifiers_perm_ids h).nodup_iff, List.nodup_flatMap]
  have htypes : (g.selectedTypes o).Pairwise (Function.onFun List.Disjoint TypeDecl.ids) := by
    rw [List.Nodup, List.pairwise_map] at hdistinct
    exact hdistinct.imp_of_mem fun {t t'} ht ht' hne =>
      TypeDecl.disjoint_ids (hnames t ht).nonempty (hnames t' ht').nonempty hne
        (hunnested t ht t' ht') (hunnested t' ht' t ht)
  rw [and_iff_left htypes]
  refine forall₂_congr fun t ht => ?_
  rw [(hnames t ht).nodup_ids_iff, (hnames t ht).nodup_named_iff]

/-- A module of two types: a class that shows an initializer and a property of a given name, and an
enumeration with a member that is called like an initializer. -/
def forms (property : String) : Graph where
  name := "lib"
  types := [
    { fqn := "lib.Form"
      name := "Form"
      body := .ofClass {
        initializer := some { parameters := some [{ name := "title", type := .primitive .string }] }
        properties := [{ name := property, type := .primitive .string }] } },
    { fqn := "lib.FormKind"
      name := "FormKind"
      body := .ofEnum { members := [{ name := "Initializer" }, { name := "Plain" }] } }]

section

variable (property : String)

lemma exists_render_forms : ∃ out, (forms property).render {} = .ok out := by
  refine exists_render_iff.2 ⟨trivial, fun t ht _ => ?_⟩
  rw [← TypeDecl.lacking_ne_nil_iff, not_not]
  obtain rfl | ht := List.mem_cons.1 ht
  · rfl
  · obtain rfl := List.mem_singleton.1 ht
    rfl

lemma map_fqn_forms :
    ((forms property).selectedTypes {}).map (·.fqn) = ["lib.Form", "lib.FormKind"] := rfl

lemma unnested_forms : ∀ t ∈ (forms property).selectedTypes {},
    ∀ t' ∈ (forms property).selectedTypes {}, ∀ rest, t'.fqn ≠ t.fqn ++ "." ++ rest := by
  have hfqns : ∀ fqn ∈ ["lib.Form", "lib.FormKind"], ∀ fqn' ∈ ["lib.Form", "lib.FormKind"],
      ¬ (fqn ++ ".").toList <+: fqn'.toList := by decide
  intro t ht t' ht'
  refine ne_append_of_not_prefix (hfqns t.fqn ?_ t'.fqn ?_)
  · exact map_fqn_forms property ▸ List.mem_map_of_mem ht
  · exact map_fqn_forms property ▸ List.mem_map_of_mem ht'

lemma namesApart_forms (h : '.' ∉ property.toList) :
    ∀ t ∈ (forms property).selectedTypes {}, t.NamesApart := by
  intro t ht
  obtain rfl | ht := List.mem_cons.1 ht
  · refine ⟨(by decide : "lib.Form" ≠ ""), List.nodup_singleton property, ?_, ?_⟩
    · intro m hm
      obtain rfl := List.mem_singleton.1 hm
      exact h
    · intro m hm
      obtain rfl | hm := List.mem_cons.1 hm
      · exact List.nodup_singleton "title"
      · obtain rfl := List.mem_singleton.1 hm
        exact List.nodup_nil
  · obtain rfl := List.mem_singleton.1 ht
    exact ⟨by decide, by decide, by decide, by decide⟩

end

/-- A property called like an initializer clashes with the one that its class shows; the member of
the enumeration clashes with nothing. -/
theorem nodup_identifiers_of_render_forms :
    (∃ out, (forms "caption").render {} = .ok out ∧ out.document.identifiers.Nodup) ∧
      ∃ out, (forms "Initializer").render {} = .ok out ∧ ¬ out.document.identifiers.Nodup := by
  have hdistinct (property : String) :
      (((forms property).selectedTypes {}).map (·.fqn)).Nodup := by
    rw [map_fqn_forms]
    decide
  constructor
  · obtain ⟨out, h⟩ := exists_render_forms "caption"
    exact ⟨out, h, (nodup_identifiers_of_render h (hdistinct _) (unnested_forms _)
      (namesApart_forms _ (by decide))).2 (by decide)⟩
  · obtain ⟨out, h⟩ := exists_render_forms "Initializer"
    refine ⟨out, h, fun hnodup => ?_⟩
    have hfree := (nodup_identifiers_of_render h (hdistinct _) (unnested_forms _)
      (namesApart_forms _ (by decide))).1 hnodup _ List.mem_cons_self rfl
    exact hfree (by decide)

end Graph

end ApiDocs
