import ApiDocs.Proofs.Outcome

/-!
# When a render fails

A render fails for one of two reasons, and this module says exactly when, and what the failure
names.  The module that is asked for may not exist; and where it does, a type in it may show a
callable of which the graph does not give the parameters.  Of several such callables the failure
names the first one: types go by their simple names, and in a type the initializer comes before the
methods of instances and these before the functions of the type itself, each as the graph has them.

Nothing else stops a render (`Graph.faults_of_render`).  What a type does not show, such as a
protected method or a method of a struct, may well come without parameters.
-/

namespace ApiDocs

open Declaration

/-! ## Callables without parameters -/

/-- The names of the methods that satisfy a condition and come without parameters. -/
def lackingMethods (keep : Method → Bool) (methods : List Method) : List String :=
  (methods.filter fun m => keep m && m.parameters.isNone).map (·.name)

/-- The names of the callables that a type shows and that come without parameters: the initializer,
the methods of instances, the functions of the type itself. -/
def TypeDecl.lacking (t : TypeDecl) : List String :=
  match t.body with
  | .ofClass body =>
    (body.initializer.toList.filter fun i => !i.isProtected && i.parameters.isNone).map
        (fun _ => "Initializer") ++
      lackingMethods (fun m => !m.isProtected && !m.isStatic) body.methods ++
      lackingMethods (fun m => !m.isProtected && m.isStatic) body.methods
  | .ofInterface body =>
    if body.isDatatype then []
    else lackingMethods (fun m => !m.isProtected && !m.isStatic) body.methods
  | .ofEnum _ => []

/-- A type shows a callable that comes without parameters. -/
def TypeDecl.LacksParameters (t : TypeDecl) : Prop :=
  match t.body with
  | .ofClass body =>
    (∃ i, body.initializer = some i ∧ i.isProtected = false ∧ i.parameters = none) ∨
      ∃ m ∈ body.methods, m.isProtected = false ∧ m.parameters = none
  | .ofInterface body =>
    body.isDatatype = false ∧
      ∃ m ∈ body.methods, m.isProtected = false ∧ m.isStatic = false ∧ m.parameters = none
  | .ofEnum _ => False

lemma lackingMethods_ne_nil_iff {keep : Method → Bool} {methods : List Method} :
    lackingMethods keep methods ≠ [] ↔
      ∃ m ∈ methods, keep m = true ∧ m.parameters = none := by
  simp [lackingMethods, List.filter_eq_nil_iff]

lemma TypeDecl.lacking_ne_nil_iff {t : TypeDecl} : t.lacking ≠ [] ↔ t.LacksParameters := by
  unfold lacking LacksParameters
  cases t.body with
  | ofClass body =>
    have hinitializer : (body.initializer.toList.filter fun i =>
        !i.isProtected && i.parameters.isNone).map (fun _ => "Initializer") ≠ [] ↔
        ∃ i, body.initializer = some i ∧ i.isProtected = false ∧ i.parameters = none := by
      cases body.initializer <;> simp
    -- a method that is shown is shown with those of instances or with those of the type itself
    have hmethods : (lackingMethods (fun m => !m.isProtected && !m.isStatic) body.methods ≠ [] ∨
        lackingMethods (fun m => !m.isProtected && m.isStatic) body.methods ≠ []) ↔
        ∃ m ∈ body.methods, m.isProtected = false ∧ m.parameters = none := by
      rw [lackingMethods_ne_nil_iff, lackingMethods_ne_nil_iff, ← exists_or]
      refine exists_congr fun m => ?_
      cases m.isStatic <;> simp
    dsimp only
    rw [← hinitializer, ← hmethods, Ne, List.append_eq_nil_iff, List.append_eq_nil_iff, not_and_or,
      not_and_or, or_assoc]
  | ofInterface body =>
    cases hdatatype : body.isDatatype with
    | true => simp [hdatatype]
    | false => simp [hdatatype, lackingMethods_ne_nil_iff, and_assoc]
  | ofEnum body => simp

/-! ## Faults of declarations -/

section

variable (t : TypeDecl)

lemma filterMap_fault?_of_plain {ds : List Declaration} (h : ∀ d ∈ ds, d.isPlain = true) :
    ds.filterMap fault? = [] := by
  rw [List.filterMap_eq_nil_iff]
  exact List.findSome?_eq_none_iff.1 (findSome?_fault?_of_plain h)

/-- Of a callable and its parameters only the callable can be at fault. -/
lemma filterMap_fault?_callable (d : Declaration) (callable : String)
    (parameters : List Parameter) :
    (d :: parameters.map (.ofParameter callable)).filterMap fault? = d.fault?.toList := by
  rw [List.filterMap_cons, filterMap_fault?_of_plain fun d => isPlain_of_mem_parameters]
  cases d.fault? <;> rfl

lemma filterMap_fault?_initializer (i : Option Initializer) :
    ((i.filter (!·.isProtected)).toList.flatMap (Initializer.declarations t)).filterMap fault? =
      ((i.toList.filter fun i => !i.isProtected && i.parameters.isNone).map
        fun _ => "Initializer").map (.missingParameters t.fqn) := by
  cases i with
  | none => rfl
  | some i =>
    have hcallable : (i.declarations t).filterMap fault? = (ofInitializer t i).fault?.toList :=
      filterMap_fault?_callable _ _ _
    cases hprotected : i.isProtected <;> cases hparameters : i.parameters <;>
      simp [Option.filter, hprotected, hparameters, hcallable, fault?]

lemma filterMap_fault?_methods (keep : Method → Bool) (methods : List Method) :
    ((methods.filter keep).flatMap (Method.declarations t)).filterMap fault? =
      (lackingMethods keep methods).map (.missingParameters t.fqn) := by
  induction methods with
  | nil => rfl
  | cons m rest ih =>
    have hcallable : (m.declarations t).filterMap fault? = (ofMethod t m).fault?.toList :=
      filterMap_fault?_callable _ _ _
    cases hkeep : keep m <;> cases hparameters : m.parameters <;>
      simp_all [lackingMethods, fault?]

lemma filterMap_fault?_properties (keep : Property → Bool) (properties : List Property) :
    ((properties.filter keep).map (.ofProperty t)).filterMap fault? = [] :=
  filterMap_fault?_of_plain fun _ => isPlain_of_mem_properties

end

/-- The callables without parameters are the declarations at fault, in their order. -/
lemma TypeDecl.filterMap_fault?_declarations (t : TypeDecl) :
    t.declarations.filterMap fault? = t.lacking.map (.missingParameters t.fqn) := by
  have htype : (ofType t).fault? = none := rfl
  rw [declarations, List.filterMap_cons_none htype]
  unfold memberDeclarations lacking ClassBody.shownInitializer? instanceDeclarations
    staticDeclarations propertyDeclarations constantDeclarations
  cases t.body with
  | ofClass body =>
    simp only [List.filterMap_append, filterMap_fault?_initializer, filterMap_fault?_methods,
      filterMap_fault?_properties, List.append_nil, List.map_append]
  | ofInterface body =>
    dsimp only
    by_cases hdatatype : body.isDatatype = true
    · rw [if_pos hdatatype, if_pos hdatatype, List.filterMap_cons_none rfl,
        filterMap_fault?_properties]
      rfl
    · rw [if_neg hdatatype, if_neg hdatatype, List.filterMap_append, filterMap_fault?_methods,
        filterMap_fault?_properties, List.append_nil]
  | ofEnum body => simp [fault?]

/-! ## Renders -/

namespace Graph

/-- The module that a selector asks for exists: the root does, and a sub-module does if it is
declared or if a type of the assembly belongs to it. -/
def HasModule (g : Graph) : Option String → Prop
  | none => True
  | some name => (∃ s ∈ g.submodules, s.name = name) ∨ ∃ t ∈ g.types, t.submodule = some name

variable {g : Graph} {o : Options}

lemma moduleTypes_eq_ok (h : g.HasModule o.submodule) :
    g.moduleTypes o.submodule = .ok (g.selectedTypes o) := by
  unfold moduleTypes selectedTypes
  cases hsubmodule : o.submodule with
  | none => rfl
  | some name =>
    have hknown : g.hasSubmodule name = true := by
      simpa [HasModule, hsubmodule, hasSubmodule] using h
    exact if_pos hknown

lemma moduleTypes_eq_error (h : ¬ g.HasModule o.submodule) :
    ∃ name, o.submodule = some name ∧
      g.moduleTypes o.submodule = .error (.unknownSubmodule g.name name) := by
  cases hsubmodule : o.submodule with
  | none =>
    rw [hsubmodule] at h
    exact absurd trivial h
  | some name =>
    have hunknown : ¬ g.hasSubmodule name = true := by
      simpa [HasModule, hsubmodule, hasSubmodule] using h
    exact ⟨name, rfl, if_neg hunknown⟩

/-- The callables of the module that come without parameters, by the full names of their types and
their own names, in the order in which entries are built. -/
def lacking (g : Graph) (o : Options) : List (String × String) :=
  (Name.sortOn TypeDecl.name (g.selectedTypes o)).flatMap fun t => t.lacking.map (t.fqn, ·)

lemma fault?_of_hasModule (h : g.HasModule o.submodule) :
    g.fault? o = (g.lacking o).head?.map fun c => .missingParameters c.1 c.2 := by
  have hfaults : (g.builtDeclarations o).filterMap Declaration.fault? =
      (g.lacking o).map fun c => .missingParameters c.1 c.2 := by
    rw [builtDeclarations, lacking, List.filterMap_flatMap, List.map_flatMap]
    refine List.flatMap_congr fun t _ => ?_
    rw [t.filterMap_fault?_declarations, List.map_map]
    rfl
  rw [fault?, moduleTypes_eq_ok h, ← List.head?_map, ← hfaults, List.head?_filterMap]

lemma fault?_of_not_hasModule (h : ¬ g.HasModule o.submodule) :
    ∃ name, o.submodule = some name ∧ g.fault? o = some (.unknownSubmodule g.name name) := by
  obtain ⟨name, hsubmodule, herror⟩ := moduleTypes_eq_error h
  exact ⟨name, hsubmodule, by rw [fault?, herror]⟩

lemma lacking_eq_nil_iff :
    g.lacking o = [] ↔ ∀ t ∈ g.types, t.submodule = o.submodule → ¬ t.LacksParameters := by
  have hmem (t : TypeDecl) : t ∈ Name.sortOn TypeDecl.name (g.selectedTypes o) ↔
      t ∈ g.types ∧ t.submodule = o.submodule := by
    rw [Name.mem_sortOn, selectedTypes, List.mem_filter, beq_iff_eq]
  have htype (t : TypeDecl) : t.lacking.map (t.fqn, ·) = [] ↔ ¬ t.LacksParameters := by
    rw [List.map_eq_nil_iff, ← TypeDecl.lacking_ne_nil_iff, not_not]
  rw [lacking, List.flatMap_eq_nil_iff]
  constructor
  · intro h t ht hsubmodule
    exact (htype t).1 (h t ((hmem t).2 ⟨ht, hsubmodule⟩))
  · intro h t ht
    obtain ⟨ht, hsubmodule⟩ := (hmem t).1 ht
    exact (htype t).2 (h t ht hsubmodule)

lemma render_eq_missingParameters_iff (h : g.HasModule o.submodule) {fqn member : String} :
    g.render o = .error (.missingParameters fqn member) ↔
      (g.lacking o).head? = some (fqn, member) := by
  rw [render_eq_error_iff, fault?_of_hasModule h]
  cases (g.lacking o).head? with
  | none => simp
  | some c => simp [Prod.ext_iff]

lemma render_ne_missingParameters (h : ¬ g.HasModule o.submodule) {fqn member : String} :
    g.render o ≠ .error (.missingParameters fqn member) := by
  obtain ⟨name, -, hfault⟩ := fault?_of_not_hasModule h
  rw [Ne, render_eq_error_iff, hfault]
  simp

lemma head?_lacking_eq_some_iff {c : String × String} :
    (g.lacking o).head? = some c ↔
      ∃ types, Name.StableSort TypeDecl.name (g.selectedTypes o) types ∧
        (types.flatMap fun t => t.lacking.map (t.fqn, ·)).head? = some c := by
  constructor
  · intro h
    exact ⟨_, Name.stableSort_sortOn _ _, h⟩
  · rintro ⟨types, hsorted, h⟩
    rwa [hsorted.eq_sortOn] at h

lemma exists_head?_lacking_iff :
    (∃ fqn member, (g.lacking o).head? = some (fqn, member)) ↔ g.lacking o ≠ [] := by
  cases g.lacking o with
  | nil => simp
  | cons c rest => exact iff_of_true ⟨c.1, c.2, rfl⟩ (List.cons_ne_nil c rest)

/-- A module can be rendered exactly if it exists and shows no callable without parameters. -/
lemma exists_render_iff :
    (∃ out, g.render o = .ok out) ↔
      g.HasModule o.submodule ∧
        ∀ t ∈ g.types, t.submodule = o.submodule → ¬ t.LacksParameters := by
  by_cases h : g.HasModule o.submodule
  · rw [← lacking_eq_nil_iff]
    simp [render_eq_ok_iff, fault?_of_hasModule h, h]
  · obtain ⟨known, -, hfault⟩ := fault?_of_not_hasModule h
    simp [render_eq_ok_iff, hfault, h]

/-- A render fails for an unknown sub-module exactly if one is asked for that is neither declared
nor used.  Otherwise it fails for missing parameters exactly if some type of the module shows a
callable without parameters, and names the first one, types taken in the stable order of their
simple names.  In all other cases there are outputs. -/
theorem faults_of_render (g : Graph) (o : Options) :
    (∀ assembly name, g.render o = .error (.unknownSubmodule assembly name) ↔
      assembly = g.name ∧ o.submodule = some name ∧ ¬ g.HasModule o.submodule) ∧
    (∀ fqn member, g.render o = .error (.missingParameters fqn member) ↔
      g.HasModule o.submodule ∧
        ∃ types, Name.StableSort TypeDecl.name (g.selectedTypes o) types ∧
          (types.flatMap fun t => t.lacking.map (t.fqn, ·)).head? = some (fqn, member)) ∧
    ((∃ fqn member, g.render o = .error (.missingParameters fqn member)) ↔
      g.HasModule o.submodule ∧
        ∃ t ∈ g.types, t.submodule = o.submodule ∧ t.LacksParameters) ∧
    ((∃ out, g.render o = .ok out) ↔
      g.HasModule o.submodule ∧
        ∀ t ∈ g.types, t.submodule = o.submodule → ¬ t.LacksParameters) := by
  refine ⟨fun assembly name => ?_, fun fqn member => ?_, ?_, ?_⟩
  · by_cases h : g.HasModule o.submodule
    · rw [render_eq_error_iff, fault?_of_hasModule h]
      simp [h]
    · obtain ⟨known, hsubmodule, hfault⟩ := fault?_of_not_hasModule h
      rw [render_eq_error_iff, hfault, hsubmodule]
      rw [hsubmodule] at h
      simp [h, eq_comm]
  · by_cases h : g.HasModule o.submodule
    · rw [render_eq_missingParameters_iff h, head?_lacking_eq_some_iff]
      simp [h]
    · simp [h, render_ne_missingParameters h]
  · by_cases h : g.HasModule o.submodule
    · simp only [render_eq_missingParameters_iff h, h, true_and]
      rw [exists_head?_lacking_iff, Ne, lacking_eq_nil_iff]
      push Not
      rfl
    · simp [h, render_ne_missingParameters h]
  · exact exists_render_iff

end Graph

end ApiDocs
