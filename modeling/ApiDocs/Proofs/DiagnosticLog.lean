import ApiDocs.Proofs.Outcome

/-!
# Diagnostics as a log

Entries are built one after the other in one state, and all that they leave behind there is
diagnostics.  Nothing that is built looks at them.  So it makes no difference what was built before:
an entry comes out the same, or fails in the same way, and what it records comes behind what was
recorded already.

`Construction` has a case for everything that can be built by itself, from a whole reference down to
a parameter.  Each goes through declarations of its own (`Construction.declarations`), and it
follows from `Build.ComesTo` that its outcome depends on these alone.  Where a construction fails,
what it has recorded is what was left out of the declarations before the one at fault.
-/

namespace ApiDocs

open Declaration

/-! ## Constructions -/

/-- A type with another body. -/
def TypeDecl.withBody (t : TypeDecl) (body : TypeBody) : TypeDecl := { t with body }

/-- What can be built by itself, with the kind of entry that comes of it.  A class, a struct, an
interface and an enumeration are given by a type and a body, and what they show is in that body. -/
inductive Construction : Type → Type where
  | ofReference (types : List TypeDecl) : Construction ReferenceEntry
  | ofClass (t : TypeDecl) (body : ClassBody) : Construction ClassEntry
  | ofStruct (t : TypeDecl) (body : InterfaceBody) : Construction StructEntry
  | ofInterface (t : TypeDecl) (body : InterfaceBody) : Construction InterfaceEntry
  | ofEnum (t : TypeDecl) (body : EnumBody) : Construction EnumEntry
  | ofInitializer (t : TypeDecl) (i : Initializer) : Construction InitializerEntry
  | ofMethod (t : TypeDecl) (m : Method) : Construction CallableEntry
  | ofInstanceMethods (t : TypeDecl) (methods : List Method) : Construction (List CallableEntry)
  | ofStaticFunctions (t : TypeDecl) (methods : List Method) : Construction (List CallableEntry)
  | ofProperty (t : TypeDecl) (p : Property) : Construction PropertyEntry
  | ofParameter (callable : String) (p : Parameter) : Construction ParameterEntry
  | ofEnumMember (t : TypeDecl) (m : EnumMember) : Construction EnumMemberEntry

namespace Construction

/-- The build of what is constructed. -/
def build (ctx : Context) : Construction α → Build α
  | ofReference types => ReferenceEntry.build ctx types
  | ofClass t body => ClassEntry.build ctx t body
  | ofStruct t body => StructEntry.build ctx t body
  | ofInterface t body => InterfaceEntry.build ctx t body
  | ofEnum t body => pure (EnumEntry.of ctx t body)
  | ofInitializer t i => InitializerEntry.build ctx t.fqn i
  | ofMethod t m => CallableEntry.build ctx t.fqn m
  | ofInstanceMethods t methods => CallableEntry.instanceMethods ctx t.fqn methods
  | ofStaticFunctions t methods => CallableEntry.staticFunctions ctx t.fqn methods
  | ofProperty t p => pure (PropertyEntry.of ctx t.fqn p)
  | ofParameter callable p => pure (ParameterEntry.of ctx callable p)
  | ofEnumMember t m => pure (EnumMemberEntry.of ctx t.fqn m)

/-- The declarations that a construction goes through, in the order in which it visits them. -/
def declarations : Construction α → List Declaration
  | ofReference types => (Name.sortOn TypeDecl.name types).flatMap (·.declarations)
  | ofClass t body => (t.withBody (.ofClass body)).declarations
  | ofStruct t body => (t.withBody (.ofInterface { body with isDatatype := true })).declarations
  | ofInterface t body => (t.withBody (.ofInterface { body with isDatatype := false })).declarations
  | ofEnum t body => (t.withBody (.ofEnum body)).declarations
  | ofInitializer t i => i.declarations t
  | ofMethod t m => m.declarations t
  | ofInstanceMethods t methods => instanceDeclarations t methods
  | ofStaticFunctions t methods => staticDeclarations t methods
  | ofProperty t p => [.ofProperty t p]
  | ofParameter callable p => [.ofParameter callable p]
  | ofEnumMember t m => [.ofEnumMember t m]

/-- What a construction records if nothing was recorded before. -/
def recorded (ctx : Context) (c : Construction α) : Diagnostics := ((c.build ctx).runFrom []).2

/-- The diagnostics of a state in which constructions were run, one after the other, whether they
ended well or not. -/
def logAfter (ctx : Context) (earlier : List (Σ α, Construction α)) : Diagnostics :=
  earlier.foldl (fun log c => ((c.2.build ctx).runFrom log).2) []

end Construction

/-! ## Outcomes and what was recorded before -/

namespace Build

variable {ctx : Context} {x : Build α} {ds : List Declaration} {a : α}

/-- The outcome of a build that goes through declarations does not depend on what was recorded
before, and what it records comes behind that. -/
lemma ComesTo.runFrom_eq (h : x.ComesTo ctx ds a) (before : Diagnostics) :
    x.runFrom before = ((x.runFrom []).1, before ++ (x.runFrom []).2) := by
  have hresult : (x.runFrom before).1 = (x.runFrom []).1 := by
    cases hds : ds.findSome? fault? with
    | some e => rw [h.fails e hds, h.fails e hds]
    | none => rw [h.ends hds, h.ends hds]
  have hrecorded : (x.runFrom before).2 = before ++ (x.runFrom []).2 := by
    rw [h.records, h.records, List.nil_append]
  exact Prod.ext hresult hrecorded

/-- A build that fails has come to a declaration at fault, and has recorded what was left out of
those before it. -/
lemma ComesTo.exists_of_error (h : x.ComesTo ctx ds a) {before : Diagnostics} {e : RenderError}
    (herror : (x.runFrom before).1 = .error e) :
    ∃ visited failing rest, ds = visited ++ failing :: rest ∧
      (∀ d ∈ visited, d.fault? = none) ∧ failing.fault? = some e ∧
      (x.runFrom before).2 = before ++ visited.flatMap (leftOut ctx) := by
  cases hds : ds.findSome? fault? with
  | none =>
    rw [h.ends hds] at herror
    cases herror
  | some e' =>
    rw [h.fails e' hds] at herror
    cases herror
    obtain ⟨visited, failing, rest, hsplit, hfailing, hvisited⟩ := List.findSome?_eq_some_iff.1 hds
    have huntil : untilFault ds = visited := by
      rw [hsplit, untilFault_append_of_faultless (List.findSome?_eq_none_iff.2 hvisited)]
      simp [untilFault, hfailing]
    exact ⟨visited, failing, rest, hsplit, hvisited, hfailing, by rw [h.records, huntil]⟩

end Build

/-- The only fault of a declaration is that parameters are missing. -/
lemma Declaration.exists_of_fault? {d : Declaration} {e : RenderError} (h : d.fault? = some e) :
    ∃ fqn member, e = .missingParameters fqn member := by
  cases d with
  | ofInitializer t i =>
    obtain ⟨-, he⟩ := Option.ite_none_right_eq_some.1 h
    exact ⟨_, _, (Option.some.inj he).symm⟩
  | ofMethod t m =>
    obtain ⟨-, he⟩ := Option.ite_none_right_eq_some.1 h
    exact ⟨_, _, (Option.some.inj he).symm⟩
  | _ => cases h

/-! ## One state for many constructions -/

namespace Construction

variable {ctx : Context}

/-- Every construction goes through its declarations. -/
lemma exists_comesTo (ctx : Context) (c : Construction α) :
    ∃ a, (c.build ctx).ComesTo ctx c.declarations a := by
  cases c with
  | ofReference types => exact ⟨_, ReferenceEntry.build_comesTo types⟩
  | ofClass t body => exact ⟨_, ClassEntry.build_comesTo (t := t.withBody (.ofClass body)) rfl⟩
  | ofStruct t body =>
    exact ⟨_,
      @StructEntry.build_comesTo ctx (t.withBody _) { body with isDatatype := true } rfl rfl⟩
  | ofInterface t body =>
    exact ⟨_,
      @InterfaceEntry.build_comesTo ctx (t.withBody _) { body with isDatatype := false } rfl rfl⟩
  | ofEnum t body => exact ⟨_, EnumEntry.of_comesTo (t := t.withBody (.ofEnum body)) rfl⟩
  | ofInitializer t i => exact ⟨_, InitializerEntry.build_comesTo i⟩
  | ofMethod t m => exact ⟨_, CallableEntry.build_comesTo m⟩
  | ofInstanceMethods t methods => exact ⟨_, CallableEntry.buildSorted_comesTo _ methods⟩
  | ofStaticFunctions t methods => exact ⟨_, CallableEntry.buildSorted_comesTo _ methods⟩
  | ofProperty t p => exact ⟨_, Build.comesTo_plain _ (List.forall_mem_singleton.2 rfl)⟩
  | ofParameter callable p => exact ⟨_, Build.comesTo_plain _ (List.forall_mem_singleton.2 rfl)⟩
  | ofEnumMember t m => exact ⟨_, Build.comesTo_plain _ (List.forall_mem_singleton.2 rfl)⟩

/-- A construction adds to what was recorded before, and comes out as it does in a fresh state. -/
lemma runFrom_build (c : Construction α) (before : Diagnostics) :
    (c.build ctx).runFrom before = (((c.build ctx).runFrom []).1, before ++ c.recorded ctx) := by
  obtain ⟨a, h⟩ := exists_comesTo ctx c
  exact h.runFrom_eq before

/-- Constructions that are run one after the other record what each of them records by itself. -/
lemma logAfter_eq_flatMap (earlier : List (Σ α, Construction α)) :
    logAfter ctx earlier = earlier.flatMap fun c => c.2.recorded ctx := by
  have hfold (log : Diagnostics) :
      earlier.foldl (fun log c => ((c.2.build ctx).runFrom log).2) log =
        log ++ earlier.flatMap fun c => c.2.recorded ctx := by
    induction earlier generalizing log with
    | nil => simp
    | cons c rest ih =>
      rw [List.foldl_cons, ih, runFrom_build, List.flatMap_cons, List.append_assoc]
  exact hfold []

/-- In a state that other constructions have used, whether they ended well or not, a construction
has the result or the error that it has in a fresh one, and the entries that it records there come
behind those of the others.  An error says that parameters are missing, and then the entries are
those of the callables that were visited before the one without parameters. -/
theorem runFrom_logAfter (ctx : Context) (earlier : List (Σ α, Construction α))
    (c : Construction α) :
    (c.build ctx).runFrom (logAfter ctx earlier) =
      (((c.build ctx).runFrom []).1, logAfter ctx earlier ++ c.recorded ctx) ∧
    logAfter ctx earlier = (earlier.flatMap fun c => c.2.recorded ctx) ∧
    ∀ e, ((c.build ctx).runFrom (logAfter ctx earlier)).1 = .error e →
      ∃ fqn member visited failing rest, e = .missingParameters fqn member ∧
        c.declarations = visited ++ failing :: rest ∧ (∀ d ∈ visited, d.fault? = none) ∧
        failing.fault? = some e ∧
        ((c.build ctx).runFrom (logAfter ctx earlier)).2 =
          logAfter ctx earlier ++ visited.flatMap (leftOut ctx) := by
  refine ⟨runFrom_build c _, logAfter_eq_flatMap earlier, fun e herror => ?_⟩
  obtain ⟨a, h⟩ := exists_comesTo ctx c
  obtain ⟨visited, failing, rest, hsplit, hvisited, hfailing, hrecorded⟩ :=
    h.exists_of_error herror
  obtain ⟨fqn, member, he⟩ := exists_of_fault? hfailing
  exact ⟨fqn, member, visited, failing, rest, he, hsplit, hvisited, hfailing, hrecorded⟩

/-- A press. -/
def press : TypeDecl := { fqn := "lib.Press", name := "Press", body := .ofClass {} }

/-- A method of the press that takes a variadic parameter first. -/
def stamp : Method where
  name := "stamp"
  parameters := some [
    { name := "marks", type := .primitive .string, isVariadic := true },
    { name := "depth", type := .primitive .number }]

/-- A method of the press of which the graph gives no parameters. -/
def fold : Method := { name := "fold" }

/-- The press is documented in TypeScript. -/
def workshop : Context := ⟨{ name := "lib", types := [press] }, {}⟩

/-- The methods of the press cannot be built, since one has no parameters.  The diagnostic of the
other one is recorded all the same, behind the one that was there before. -/
theorem runFrom_logAfter_press :
    ∃ visited failing rest,
      (ofInstanceMethods press [stamp, fold]).declarations = visited ++ failing :: rest ∧
      failing.fault? = some (.missingParameters "lib.Press" "fold") ∧
      visited.flatMap (leftOut workshop) ≠ [] ∧
      ((ofInstanceMethods press [stamp, fold]).build workshop).runFrom
          (logAfter workshop [⟨_, ofMethod press stamp⟩]) =
        (.error (.missingParameters "lib.Press" "fold"),
          logAfter workshop [⟨_, ofMethod press stamp⟩] ++ visited.flatMap (leftOut workshop)) := by
  have herror : (((ofInstanceMethods press [stamp, fold]).build workshop).runFrom
      (logAfter workshop [⟨_, ofMethod press stamp⟩])).1 =
        .error (.missingParameters "lib.Press" "fold") := by
    rfl
  have hrecorded : (ofInstanceMethods press [stamp, fold]).recorded workshop ≠ [] := by
    decide +kernel
  obtain ⟨happended, -, hfails⟩ := runFrom_logAfter workshop [⟨_, ofMethod press stamp⟩]
    (ofInstanceMethods press [stamp, fold])
  obtain ⟨_, _, visited, failing, rest, -, hsplit, -, hfailing, hlog⟩ := hfails _ herror
  have hvisited : (ofInstanceMethods press [stamp, fold]).recorded workshop =
      visited.flatMap (leftOut workshop) := by
    rw [happended] at hlog
    exact List.append_cancel_left hlog
  exact ⟨visited, failing, rest, hsplit, hfailing, hvisited ▸ hrecorded, Prod.ext herror hlog⟩

end Construction

end ApiDocs
