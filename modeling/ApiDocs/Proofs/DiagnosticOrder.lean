import ApiDocs.Proofs.DocumentOrder
import ApiDocs.Proofs.Languages
import ApiDocs.Proofs.Lists

/-!
# The order of diagnostics

Diagnostics are recorded while entries are built, type by type in the order of the simple names, and
in a type member by member as the graph has them.  A document is put together afterwards: members
are sorted, and types are shared out among the collections.  So the diagnostics of a render need not
come in the order in which the document shows the entities they are about.

They do exactly if the callables whose snippets are left out are declared by name, and the types
that declare them come in the same order in the list of all types as in the collections.  Where
identifiers are not repeated, that is what it takes for the identifiers of the diagnostics to be a
subsequence of the identifiers of the document (`Graph.sublist_identifiers_of_render`).
-/

namespace ApiDocs

/-! ## The callables of a type -/

/-- Whether a method has a variadic parameter with others behind it. -/
def Method.isEarlyVariadic (m : Method) : Bool := hasEarlyVariadic (m.parameters.getD [])

namespace TypeDecl

/-- The initializer of a type that is shown. -/
def shownInitializer? (t : TypeDecl) : Option Initializer :=
  match t.body with
  | .ofClass body => body.shownInitializer?
  | _ => none

/-- The methods of instances that are shown, as the graph has them. -/
def instanceMethods (t : TypeDecl) : List Method :=
  match t.body with
  | .ofClass body => body.methods.filter fun m => !m.isProtected && !m.isStatic
  | .ofInterface body =>
    if body.isDatatype then [] else body.methods.filter fun m => !m.isProtected && !m.isStatic
  | .ofEnum _ => []

/-- The functions of the type itself that are shown, as the graph has them. -/
def staticFunctions (t : TypeDecl) : List Method :=
  match t.body with
  | .ofClass body => body.methods.filter fun m => !m.isProtected && m.isStatic
  | _ => []

/-- What is found in the callables of a type is found in its initializer, its methods and its
functions. -/
lemma gather_eq (t : TypeDecl) (ofInitializer : Initializer → List α)
    (ofMethod : Method → List α) :
    t.gather ofInitializer ofMethod = t.shownInitializer?.toList.flatMap ofInitializer ++
      (t.instanceMethods.flatMap ofMethod ++ t.staticFunctions.flatMap ofMethod) := by
  unfold gather shownInitializer? instanceMethods staticFunctions
  cases t.body with
  | ofClass body => exact List.append_assoc _ _ _
  | ofInterface body =>
    dsimp only
    split
    · rfl
    · exact (List.append_nil _).symm
  | ofEnum body => rfl

lemma shownInitializer?_byName (t : TypeDecl) :
    t.byName.shownInitializer? = t.shownInitializer? := by
  unfold byName shownInitializer? TypeBody.byName
  cases t.body <;> rfl

lemma instanceMethods_byName (t : TypeDecl) :
    t.byName.instanceMethods = Name.sortOn Method.name t.instanceMethods := by
  unfold byName instanceMethods TypeBody.byName
  cases t.body with
  | ofClass body => exact (Name.sortOn_filter _ _ _).symm
  | ofInterface body =>
    cases hdatatype : body.isDatatype with
    | true => simp [hdatatype, Name.sortOn]
    | false => simpa [hdatatype] using (Name.sortOn_filter Method.name _ body.methods).symm
  | ofEnum body => simp [Name.sortOn]

lemma staticFunctions_byName (t : TypeDecl) :
    t.byName.staticFunctions = Name.sortOn Method.name t.staticFunctions := by
  unfold byName staticFunctions TypeBody.byName
  cases t.body with
  | ofClass body => exact (Name.sortOn_filter _ _ _).symm
  | _ => simp [Name.sortOn]

end TypeDecl

/-! ## Omissions in the order of declarations -/

/-- The identifiers of the callables in a list that have a variadic parameter with others behind
it. -/
def earlyIds (ds : List Declaration) : List String := (ds.filter (·.isEarlyVariadic)).map (·.id)

lemma Declaration.fromCallables_early :
    FromCallables fun d => if d.isEarlyVariadic then [d.id] else [] where
  plain d hplain := by cases d <;> simp_all [isPlain, isEarlyVariadic]
  ofInitializer t t' i h := congrArg (fun fqn =>
    if hasEarlyVariadic (i.parameters.getD []) then [Name.initializerId fqn] else []) h
  ofMethod t t' m h := congrArg (fun fqn =>
    if hasEarlyVariadic (m.parameters.getD []) then [Name.extend fqn m.name] else []) h

lemma earlyIds_flatMap (xs : List α) (f : α → List Declaration) :
    earlyIds (xs.flatMap f) = xs.flatMap fun x => earlyIds (f x) := by
  rw [earlyIds, List.filter_flatMap, List.map_flatMap]
  rfl

lemma earlyIds_sublist (ds : List Declaration) : (earlyIds ds).Sublist (ds.map (·.id)) :=
  List.filter_sublist.map _

namespace TypeDecl

/-- The identifiers of the methods in a list that have a variadic parameter with others behind
it. -/
def earlyMethodIds (t : TypeDecl) (methods : List Method) : List String :=
  (methods.filter (·.isEarlyVariadic)).map fun m => Name.extend t.fqn m.name

/-- The identifier of an initializer, if it has a variadic parameter with others behind it. -/
def earlyInitializerIds (t : TypeDecl) : List String :=
  if t.shownInitializer?.any fun i => hasEarlyVariadic (i.parameters.getD []) then
    [Name.initializerId t.fqn]
  else []

lemma earlyIds_declarations (t : TypeDecl) :
    earlyIds t.declarations = t.earlyInitializerIds ++
      (t.earlyMethodIds t.instanceMethods ++ t.earlyMethodIds t.staticFunctions) := by
  have hinitializer : (t.shownInitializer?.toList.flatMap fun i =>
      if (Declaration.ofInitializer t i).isEarlyVariadic then [(Declaration.ofInitializer t i).id]
      else []) = t.earlyInitializerIds := by
    unfold earlyInitializerIds
    cases t.shownInitializer? with
    | none => rfl
    | some i => exact List.flatMap_singleton _ _
  rw [earlyIds, map_filter_eq_flatMap, Declaration.fromCallables_early.flatMap_declarations,
    gather_eq, hinitializer, earlyMethodIds, earlyMethodIds, map_filter_eq_flatMap,
    map_filter_eq_flatMap]
  rfl

lemma earlyIds_declarations_byName (t : TypeDecl) :
    earlyIds t.byName.declarations = t.earlyInitializerIds ++
      (t.earlyMethodIds (Name.sortOn Method.name t.instanceMethods) ++
        t.earlyMethodIds (Name.sortOn Method.name t.staticFunctions)) := by
  have hinitializer : t.byName.earlyInitializerIds = t.earlyInitializerIds := by
    rw [earlyInitializerIds, shownInitializer?_byName]
    rfl
  rw [earlyIds_declarations, hinitializer, instanceMethods_byName, staticFunctions_byName]
  rfl

lemma earlyMethodIds_sortOn_perm (t : TypeDecl) (methods : List Method) :
    (t.earlyMethodIds (Name.sortOn Method.name methods)).Perm (t.earlyMethodIds methods) :=
  ((Name.sortOn_perm Method.name methods).filter _).map _

lemma earlyIds_byName_perm (t : TypeDecl) :
    (earlyIds t.byName.declarations).Perm (earlyIds t.declarations) := by
  rw [earlyIds_declarations_byName, earlyIds_declarations]
  exact ((t.earlyMethodIds_sortOn_perm _).append (t.earlyMethodIds_sortOn_perm _)).append_left _

/-- Sorting methods by name leaves those with early variadic parameters where they are if and only
if they are sorted by name already. -/
lemma earlyMethodIds_sortOn_eq_iff {t : TypeDecl} {methods : List Method}
    (h : (t.earlyMethodIds methods).Nodup) :
    t.earlyMethodIds methods = t.earlyMethodIds (Name.sortOn Method.name methods) ↔
      (methods.filter (·.isEarlyVariadic)).Pairwise fun m m' => Name.precedes m.name m'.name := by
  rw [earlyMethodIds, earlyMethodIds, ← Name.sortOn_filter]
  rw [earlyMethodIds] at h
  generalize methods.filter (·.isEarlyVariadic) = early at h ⊢
  constructor
  · intro hids
    have hsame : early = Name.sortOn Method.name early := by
      refine eq_of_perm_of_map_eq (Name.sortOn_perm _ _).symm ?_ hids
      exact h
    rw [hsame]
    exact Name.pairwise_sortOn Method.name early
  · intro hordered
    have hsorted : Name.StableSort Method.name early early := ⟨.refl _, hordered, fun _ => rfl⟩
    rw [← hsorted.eq_sortOn]

/-- That the members of a type with early variadic parameters are declared by name: the methods of
instances, and the functions of the type itself. -/
structure EarlyByName (t : TypeDecl) : Prop where
  instanceMethods : (t.instanceMethods.filter (·.isEarlyVariadic)).Pairwise
    fun m m' => Name.precedes m.name m'.name
  staticFunctions : (t.staticFunctions.filter (·.isEarlyVariadic)).Pairwise
    fun m m' => Name.precedes m.name m'.name

lemma earlyIds_byName_eq_iff {t : TypeDecl} (h : (earlyIds t.byName.declarations).Nodup) :
    earlyIds t.declarations = earlyIds t.byName.declarations ↔ t.EarlyByName := by
  rw [t.earlyIds_byName_perm.nodup_iff, earlyIds_declarations, List.nodup_append,
    List.nodup_append] at h
  obtain ⟨-, ⟨hinstance, hstatic, -⟩, -⟩ := h
  rw [earlyIds_declarations, earlyIds_declarations_byName, List.append_cancel_left_eq]
  constructor
  · intro hids
    have hlength := (t.earlyMethodIds_sortOn_perm t.instanceMethods).length_eq.symm
    obtain ⟨hfirst, hsecond⟩ := List.append_inj hids hlength
    exact ⟨(earlyMethodIds_sortOn_eq_iff hinstance).1 hfirst,
      (earlyMethodIds_sortOn_eq_iff hstatic).1 hsecond⟩
  · intro hordered
    rw [← (earlyMethodIds_sortOn_eq_iff hinstance).2 hordered.instanceMethods,
      ← (earlyMethodIds_sortOn_eq_iff hstatic).2 hordered.staticFunctions]

/-- Whether a type shows a callable that has a variadic parameter with others behind it. -/
def hasEarlyVariadic (t : TypeDecl) : Bool := t.declarations.any (·.isEarlyVariadic)

lemma earlyIds_eq_nil_iff (t : TypeDecl) :
    earlyIds t.declarations = [] ↔ t.hasEarlyVariadic = false := by
  rw [earlyIds, List.map_eq_nil_iff, List.filter_eq_nil_iff, hasEarlyVariadic, List.any_eq_false]

end TypeDecl

/-! ## Omissions in the order of a render -/

/-- The place of a collection in a document. -/
def Collection.place (c : Collection) : Nat := documentOrder.idxOf c

namespace Graph

variable {g : Graph} {o : Options} {out : Output}

variable (g o) in
/-- The callables with early variadic parameters as they are built: the type of each, and its
identifier. -/
def builtEarly : List (TypeDecl × String) :=
  (Name.sortOn TypeDecl.name (g.selectedTypes o)).flatMap fun t =>
    (earlyIds t.declarations).map (t, ·)

variable (g o) in
/-- The callables with early variadic parameters in the order of the document: the type of each, and
its identifier. -/
def documentEarly : List (TypeDecl × String) :=
  (g.documentTypes o).flatMap fun t => (earlyIds t.byName.declarations).map (t, ·)

lemma map_snd_builtEarly : (g.builtEarly o).map (·.2) = earlyIds (g.builtDeclarations o) := by
  simp [builtEarly, builtDeclarations, earlyIds_flatMap, List.map_flatMap, Function.comp_def]

lemma map_snd_documentEarly :
    (g.documentEarly o).map (·.2) = earlyIds (g.documentDeclarations o) := by
  simp [documentEarly, documentDeclarations, earlyIds_flatMap, List.map_flatMap, Function.comp_def]

lemma documentEarly_perm : (g.documentEarly o).Perm (g.builtEarly o) :=
  ((g.documentTypes_perm o).flatMap_right _).trans
    (List.Perm.flatMap_left _ fun t _ => t.earlyIds_byName_perm.map _)

variable (g o) in
/-- That callables with early variadic parameters are built in the order of the document: in each
type they are declared by name, and among the types by name, those that have one come in the order
of the collections. -/
structure EarlyInOrder : Prop where
  members : ∀ t ∈ g.selectedTypes o, t.EarlyByName
  types : ((Name.sortOn TypeDecl.name (g.selectedTypes o)).filter (·.hasEarlyVariadic)).Pairwise
    fun t t' => (g.collection t).place ≤ (g.collection t').place

/-- Where identifiers are not repeated, neither are the full names of types. -/
lemma nodup_fqn_documentTypes (h : ((g.documentDeclarations o).map (·.id)).Nodup) :
    ((g.documentTypes o).map (·.fqn)).Nodup := by
  rw [documentDeclarations, List.map_flatMap, List.nodup_flatMap] at h
  rw [List.Nodup, List.pairwise_map]
  refine h.2.imp fun {t t'} hdisjoint hfqn => ?_
  have hmem (t : TypeDecl) : t.fqn ∈ t.byName.declarations.map (·.id) := List.mem_cons_self
  exact hdisjoint (hmem t) (hfqn ▸ hmem t')

lemma pairwise_documentTypes :
    (g.documentTypes o).Pairwise fun t t' => (g.collection t).place ≤ (g.collection t').place := by
  have hplaces : Collection.documentOrder.Pairwise fun c c' => c.place ≤ c'.place := by decide
  rw [documentTypes, List.pairwise_flatMap]
  have hcollection {c : Collection} {t : TypeDecl}
      (ht : t ∈ (Name.sortOn TypeDecl.name (g.selectedTypes o)).filter
        fun t => g.collection t = c) : g.collection t = c :=
    of_decide_eq_true (List.mem_filter.1 ht).2
  refine ⟨fun c _ => List.pairwise_of_forall_mem_list fun t ht t' ht' => ?_,
    hplaces.imp fun {c c'} hc t ht t' ht' => ?_⟩
  · rw [hcollection ht, hcollection ht']
  · rw [hcollection ht, hcollection ht']
    exact hc

/-- In the order of the document, no type comes before one of an earlier collection. -/
lemma pairwise_documentEarly : (g.documentEarly o).Pairwise
    fun x y => (g.collection x.1).place ≤ (g.collection y.1).place := by
  have howner {t : TypeDecl} {x : TypeDecl × String}
      (hx : x ∈ (earlyIds t.byName.declarations).map (t, ·)) : x.1 = t := by
    obtain ⟨id, -, rfl⟩ := List.mem_map.1 hx
    rfl
  rw [documentEarly, List.pairwise_flatMap]
  refine ⟨fun t _ => List.pairwise_of_forall_mem_list fun x hx y hy => ?_,
    pairwise_documentTypes.imp fun {t t'} hplace x hx y hy => ?_⟩
  · rw [howner hx, howner hy]
  · rw [howner hx, howner hy]
    exact hplace

/-- Types that come in the order of the collections are not moved when they are shared out among
them. -/
lemma documentTypes_filter_eq {keep : TypeDecl → Bool}
    (h : ((Name.sortOn TypeDecl.name (g.selectedTypes o)).filter keep).Pairwise
      fun t t' => (g.collection t).place ≤ (g.collection t').place) :
    (g.documentTypes o).filter keep =
      (Name.sortOn TypeDecl.name (g.selectedTypes o)).filter keep := by
  have hshared := flatMap_filter_eq_self Collection.nodup_documentOrder
    (fun t _ => Collection.mem_documentOrder (g.collection t)) h
  rw [documentTypes, List.filter_flatMap, ← hshared]
  refine List.flatMap_congr fun c _ => ?_
  simp only [List.filter_filter, Bool.and_comm]

lemma mem_documentTypes {t : TypeDecl} : t ∈ g.documentTypes o ↔ t ∈ g.selectedTypes o :=
  (g.documentTypes_perm o).mem_iff.trans Name.mem_sortOn

lemma nodup_earlyIds_byName (h : ((g.documentDeclarations o).map (·.id)).Nodup) {t : TypeDecl}
    (ht : t ∈ g.selectedTypes o) : (earlyIds t.byName.declarations).Nodup := by
  rw [documentDeclarations, List.map_flatMap, List.nodup_flatMap] at h
  exact (h.1 t (mem_documentTypes.2 ht)).sublist (earlyIds_sublist _)

/-- Callables that are built in the order of the document are so in each type, as what is built for
a type can be told by the type's name, and among the types, as the document keeps to the order of
the collections. -/
lemma earlyInOrder_of_builtEarly_eq (h : ((g.documentDeclarations o).map (·.id)).Nodup)
    (heq : g.builtEarly o = g.documentEarly o) : g.EarlyInOrder o := by
  refine ⟨fun t ht => ?_, ?_⟩
  · have hkeys := nodup_fqn_documentTypes h
    have hkeys' := ((g.documentTypes_perm o).map (·.fqn)).nodup_iff.1 hkeys
    have hown := congrArg (fun calls : List (TypeDecl × String) =>
      (calls.filter fun x => x.1.fqn = t.fqn).map (·.2)) heq
    rw [builtEarly, documentEarly] at hown
    have hsame : earlyIds t.declarations = earlyIds t.byName.declarations :=
      (filter_flatMap_of_nodup hkeys' (Name.mem_sortOn.2 ht)).symm.trans
        (hown.trans (filter_flatMap_of_nodup hkeys (mem_documentTypes.2 ht)))
    exact (TypeDecl.earlyIds_byName_eq_iff (nodup_earlyIds_byName h ht)).1 hsame
  · have hbuilt := heq ▸ pairwise_documentEarly (g := g) (o := o)
    rw [builtEarly, List.pairwise_flatMap] at hbuilt
    have hexists {t : TypeDecl} (ht : t.hasEarlyVariadic = true) :
        ∃ id, (t, id) ∈ (earlyIds t.declarations).map (t, ·) := by
      have hne : earlyIds t.declarations ≠ [] := fun hnil => by
        rw [t.earlyIds_eq_nil_iff.1 hnil] at ht
        cases ht
      obtain ⟨id, hid⟩ := List.exists_mem_of_ne_nil _ hne
      exact ⟨id, List.mem_map_of_mem hid⟩
    rw [List.pairwise_filter]
    refine hbuilt.2.imp fun {t t'} hplace ht ht' => ?_
    obtain ⟨id, hid⟩ := hexists ht
    obtain ⟨id', hid'⟩ := hexists ht'
    exact hplace (t, id) hid (t', id') hid'

lemma EarlyInOrder.builtEarly_eq (hordered : g.EarlyInOrder o)
    (h : ((g.documentDeclarations o).map (·.id)).Nodup) : g.builtEarly o = g.documentEarly o := by
  have hnone (t : TypeDecl) (ht : t.hasEarlyVariadic = false) :
      (earlyIds t.declarations).map (t, ·) = [] := by
    rw [t.earlyIds_eq_nil_iff.2 ht]
    rfl
  have hmembers : ∀ t ∈ g.documentTypes o, (earlyIds t.byName.declarations).map (t, ·) =
      (earlyIds t.declarations).map (t, ·) := by
    intro t ht
    have hselected := mem_documentTypes.1 ht
    rw [(TypeDecl.earlyIds_byName_eq_iff (nodup_earlyIds_byName h hselected)).2
      (hordered.members t hselected)]
  rw [documentEarly, List.flatMap_congr hmembers, builtEarly,
    ← flatMap_filter_of_nil hnone (g.documentTypes o), documentTypes_filter_eq hordered.types]
  exact (flatMap_filter_of_nil hnone _).symm

/-- The two orders of the callables with early variadic parameters are the same if and only if the
graph has them in order. -/
lemma builtEarly_eq_iff (h : ((g.documentDeclarations o).map (·.id)).Nodup) :
    g.builtEarly o = g.documentEarly o ↔ g.EarlyInOrder o :=
  ⟨earlyInOrder_of_builtEarly_eq h, fun hordered => hordered.builtEarly_eq h⟩

/-! ## Renders -/

/-- Python takes a variadic parameter anywhere, and nothing is left out. -/
lemma diagnostics_output_of_not_trailing (h : o.language ∉ Language.trailing) :
    (g.output o).diagnostics = [] := by
  have hpython : o.language = .python := of_not_not (mt Language.mem_trailing_iff.2 h)
  refine List.flatMap_eq_nil_iff.2 fun d _ => ?_
  cases d with
  | ofInitializer t i =>
    simp only [Declaration.leftOut, Initializer.snippet, Context.convention, hpython]
    rfl
  | ofMethod t m =>
    simp only [Declaration.leftOut, Method.snippet, Context.convention, hpython]
    rfl
  | _ => rfl

/-- Where no identifier is repeated in a document, the identifiers of the diagnostics stand in it in
the order of the diagnostics if and only if the callables with early variadic parameters are built
in the order of the document, or the language takes variadic parameters anywhere. -/
theorem sublist_identifiers_of_render (h : g.render o = .ok out)
    (hids : out.document.identifiers.Nodup) :
    (out.diagnostics.map (·.id)).Sublist out.document.identifiers ↔
      (o.language ∈ Language.trailing → g.EarlyInOrder o) := by
  rw [identifiers_eq_map_documentDeclarations h] at hids ⊢
  obtain ⟨-, rfl⟩ := render_eq_ok_iff.1 h
  by_cases hlanguage : o.language ∈ Language.trailing
  · have hdiagnostics : (g.output o).diagnostics.map (·.id) = (g.builtEarly o).map (·.2) := by
      rw [ids_diagnostics_output g hlanguage, map_snd_builtEarly, earlyIds]
    have hdocument : ((g.documentEarly o).map (·.2)).Sublist
        ((g.documentDeclarations o).map (·.id)) := by
      rw [map_snd_documentEarly]
      exact earlyIds_sublist _
    rw [hdiagnostics, ← builtEarly_eq_iff hids]
    constructor
    · intro hbuilt _
      have hids' := (hids.perm_iff_eq_of_sublist hbuilt hdocument).1
        (documentEarly_perm.symm.map _)
      exact eq_of_perm_of_map_eq documentEarly_perm.symm (hids.sublist hbuilt) hids'
    · intro heq
      rw [heq hlanguage]
      exact hdocument
  · rw [diagnostics_output_of_not_trailing hlanguage]
    exact iff_of_true (List.nil_sublist _) fun htrailing => absurd htrailing hlanguage

end Graph

/-! ## A type with two methods -/

/-- A class with a method of each of the names, which takes a variadic parameter first. -/
def whisk (names : List String) : TypeDecl where
  fqn := "lib.Whisk"
  name := "Whisk"
  body := .ofClass {
    methods := names.map fun name =>
      { name
        parameters := some [
          { name := "parts", type := .primitive .string, isVariadic := true },
          { name := "speed", type := .primitive .number }] } }

lemma Name.sortOn_pair (a b : String) :
    sortOn id [a, b] = if precedes a b then [a, b] else [b, a] := by
  cases h : precedes a b <;>
    simp [sortOn, List.mergeSort, List.MergeSort.Internal.splitInTwo, h]

lemma byName_whisk (names : List String) : (whisk names).byName = whisk (Name.sortOn id names) := by
  simp only [whisk, TypeDecl.byName, TypeBody.byName, Name.sortOn_map]
  simp [Name.sortOn]

namespace Graph

/-- The graph of the whisk. -/
def kitchen (names : List String) : Graph := { name := "lib", types := [whisk names] }

lemma documentDeclarations_kitchen (names : List String) :
    (kitchen names).documentDeclarations {} = (whisk (Name.sortOn id names)).declarations := by
  have hselected : (kitchen names).selectedTypes {} = [whisk names] := rfl
  have hcollection : (kitchen names).collection (whisk names) = .classes := rfl
  have htypes : (kitchen names).documentTypes {} = [whisk names] := by
    simp [documentTypes, hselected, Name.sortOn, hcollection, Collection.documentOrder]
  rw [documentDeclarations, htypes, List.flatMap_singleton, byName_whisk]

/-- Methods that are declared by name are diagnosed in the order of the document. -/
theorem sublist_identifiers_of_render_kitchen :
    ∃ out, (kitchen ["blend", "stir"]).render {} = .ok out ∧ out.document.identifiers.Nodup ∧
      out.diagnostics.map (·.id) = ["lib.Whisk.blend", "lib.Whisk.stir"] ∧
      (out.diagnostics.map (·.id)).Sublist out.document.identifiers ∧
      (kitchen ["blend", "stir"]).EarlyInOrder {} := by
  have hfault : (kitchen ["blend", "stir"]).fault? {} = none := by decide +kernel
  have h := render_eq_ok_iff.2 ⟨hfault, rfl⟩
  have hdiagnostics : ((kitchen ["blend", "stir"]).output {}).diagnostics.map (·.id) =
      ["lib.Whisk.blend", "lib.Whisk.stir"] := by
    decide +kernel
  have hsorted : Name.sortOn id ["blend", "stir"] = ["blend", "stir"] := by
    rw [Name.sortOn_pair, if_pos (by decide +kernel)]
  have hdocument := identifiers_eq_map_documentDeclarations h
  rw [documentDeclarations_kitchen, hsorted] at hdocument
  have hnodup : ((kitchen ["blend", "stir"]).output {}).document.identifiers.Nodup := by
    rw [hdocument]
    decide +kernel
  have hsublist : (((kitchen ["blend", "stir"]).output {}).diagnostics.map (·.id)).Sublist
      ((kitchen ["blend", "stir"]).output {}).document.identifiers := by
    rw [hdiagnostics, hdocument]
    decide +kernel
  exact ⟨_, h, hnodup, hdiagnostics, hsublist,
    (sublist_identifiers_of_render h hnodup).1 hsublist (by decide)⟩

/-- Methods that are not declared by name are diagnosed in another order than that of the
document. -/
theorem not_sublist_identifiers_kitchen :
    ∃ out, (kitchen ["stir", "blend"]).render {} = .ok out ∧ out.document.identifiers.Nodup ∧
      out.diagnostics.map (·.id) = ["lib.Whisk.stir", "lib.Whisk.blend"] ∧
      ¬ (out.diagnostics.map (·.id)).Sublist out.document.identifiers := by
  have hfault : (kitchen ["stir", "blend"]).fault? {} = none := by decide +kernel
  have h := render_eq_ok_iff.2 ⟨hfault, rfl⟩
  have hdiagnostics : ((kitchen ["stir", "blend"]).output {}).diagnostics.map (·.id) =
      ["lib.Whisk.stir", "lib.Whisk.blend"] := by
    decide +kernel
  have hsorted : Name.sortOn id ["stir", "blend"] = ["blend", "stir"] := by
    rw [Name.sortOn_pair, if_neg (by decide +kernel)]
  have hdocument := identifiers_eq_map_documentDeclarations h
  rw [documentDeclarations_kitchen, hsorted] at hdocument
  refine ⟨_, h, ?_, hdiagnostics, ?_⟩
  · rw [hdocument]
    decide +kernel
  · rw [hdiagnostics, hdocument]
    decide +kernel

end Graph

end ApiDocs
