import ApiDocs.Proofs.Languages
import ApiDocs.Proofs.Lists
import ApiDocs.Proofs.Snippets

/-!
# Diagnostics and the snippets that are left out

A render records a diagnostic where it leaves out a snippet, and nowhere else.  A snippet is left
out for one reason only: the language wants variadic parameters last, and the callable has one with
others behind it.  TypeScript, Java and C# want this; Python does not, and how a struct is filled
can be written down in every language.

The diagnostics of a render and the entities of its record that go without a snippet correspond to
each other one to one (`Graph.diagnostics_of_render`).  Identifiers need not be different, so this
is said of the two lists as multisets.  What carries it is a fact about one declaration: what is
left out of it explains the record of any entity that shows it (`Declaration.ShownBy.leftOut`).
-/

namespace ApiDocs

/-! ## Callables -/

namespace Declaration

/-- Whether a declaration is one that a snippet belongs to. -/
def isCallable : Declaration → Bool
  | ofPopulation _ => true
  | ofInitializer .. => true
  | ofMethod .. => true
  | _ => false

/-- The parameters of a declaration; none if it is no callable. -/
def parameters : Declaration → List Parameter
  | ofInitializer _ i => i.parameters.getD []
  | ofMethod _ m => m.parameters.getD []
  | _ => []

end Declaration

namespace EntityRecord

/-- Whether a record is one that a snippet belongs to. -/
def isCallable : EntityRecord → Bool
  | ofInitializer _ => true
  | ofCallable _ => true
  | _ => false

/-- The records of the parameters of a callable. -/
def parameters : EntityRecord → List ParameterRecord
  | ofInitializer r => r.parameters
  | ofCallable r => r.parameters
  | _ => []

/-- Whether a record goes without the snippet that belongs to it. -/
def lacksSnippet (r : EntityRecord) : Bool := r.isCallable && r.snippet?.isNone

lemma lacksSnippet_eq_true_iff (r : EntityRecord) :
    r.lacksSnippet = true ↔ r.isCallable = true ∧ r.snippet? = none := by
  rw [lacksSnippet, Bool.and_eq_true, Option.isNone_iff_eq_none]

end EntityRecord

/-- A diagnostic says of a record why it goes without a snippet: it has the record's identifier, and
it names the first variadic parameter that has others behind it, as the record displays it. -/
structure Diagnostic.Explains (x : Diagnostic) (l : Language) (r : EntityRecord) : Prop where
  id : x.id = r.id
  language : x.language = l
  message : ∃ before p after, r.parameters = before ++ p :: after ∧ after ≠ [] ∧
    p.isVariadic = true ∧ (∀ q ∈ before, q.isVariadic = false) ∧
    x.message = l.name ++ " cannot express variadic parameter `" ++ p.displayName ++
      "` before the final position"

/-- A record documents a callable of the graph: it has its identifier and its parameters, and it
goes without a snippet exactly if the language wants variadic parameters last and the callable has
one elsewhere. -/
structure Declaration.Documented (ctx : Context) (d : Declaration) (r : EntityRecord) : Prop where
  id : r.id = d.id
  parameters : r.parameters.map (fun p => (p.displayName, p.isVariadic)) =
    d.parameters.map fun p => (ctx.memberName .parameter p.name, p.isVariadic)
  snippet : r.snippet? = none ↔
    ctx.options.language ∈ Language.trailing ∧ ∃ p ∈ d.parameters.dropLast, p.isVariadic = true

/-! ## Early variadic parameters -/

/-- What a language makes of a call and its text: one that wants variadic parameters last rejects
it if there is one elsewhere. -/
def Language.accept (l : Language) (formals : List Formal) (text : String) : Snippet :=
  if l ∈ trailing then whenTrailing l formals text else .ok text

namespace Language

variable (l : Language)

lemma exists_construction_eq_accept (name : TypeName) (formals : List Formal) :
    ∃ text, l.convention.construction name formals = l.accept formals text := by
  by_cases h : l ∈ trailing
  · obtain ⟨text, htext⟩ := exists_construction h name formals
    exact ⟨text, by rw [htext, accept, if_pos h]⟩
  · obtain rfl : l = .python := of_not_not (mt mem_trailing_iff.2 h)
    exact ⟨_, rfl⟩

lemma exists_invocation_eq_accept (name : TypeName) (method : String) (isStatic : Bool)
    (formals : List Formal) :
    ∃ text, l.convention.invocation name method isStatic formals = l.accept formals text := by
  by_cases h : l ∈ trailing
  · obtain ⟨text, htext⟩ := exists_invocation h name method isStatic formals
    exact ⟨text, by rw [htext, accept, if_pos h]⟩
  · obtain rfl : l = .python := of_not_not (mt mem_trailing_iff.2 h)
    exact ⟨_, rfl⟩

end Language

section

variable {ctx : Context} {l : Language} {parameters : List Parameter} {text : String}

lemma Context.earlyVariadic?_formals (parameters : List Parameter) :
    earlyVariadic? (ctx.formals parameters) =
      (parameters.dropLast.find? (·.isVariadic)).map fun p =>
        ⟨ctx.memberName .parameter p.name, ctx.signatureType p.type, p.isOptional,
          p.isVariadic⟩ := by
  rw [earlyVariadic?, formals, ← List.map_dropLast, List.find?_map]
  rfl

lemma Unsupported.message_earlyVariadic (l : Language) (parameter : String) :
    (earlyVariadic l parameter).message =
      l.name ++ " cannot express variadic parameter `" ++ parameter ++
        "` before the final position" := by
  have hwords : " cannot express " ++ "variadic parameter `" =
      " cannot express variadic parameter `" := by decide
  simp only [message, earlyVariadic, ← hwords, String.append_assoc]

/-- A call is rejected in a language that wants variadic parameters last, for the first one that
stands elsewhere. -/
lemma Language.accept_cases (l : Language) (ctx : Context) (parameters : List Parameter)
    (text : String) :
    (¬ (l ∈ trailing ∧ ∃ p ∈ parameters.dropLast, p.isVariadic = true) ∧
        l.accept (ctx.formals parameters) text = .ok text) ∨
      (l ∈ trailing ∧ (∃ p ∈ parameters.dropLast, p.isVariadic = true) ∧
        ∃ p, parameters.dropLast.find? (·.isVariadic) = some p ∧
          l.accept (ctx.formals parameters) text =
            .error (.earlyVariadic l (ctx.memberName .parameter p.name))) := by
  by_cases hl : l ∈ trailing
  · rw [accept, if_pos hl, whenTrailing, ctx.earlyVariadic?_formals]
    cases hfind : parameters.dropLast.find? (·.isVariadic) with
    | none =>
      refine .inl ⟨fun ⟨_, p, hp, hvariadic⟩ => ?_, rfl⟩
      exact List.find?_eq_none.1 hfind p hp hvariadic
    | some p =>
      have hmem := List.mem_of_find?_eq_some hfind
      have hvariadic := List.find?_some hfind
      exact .inr ⟨hl, ⟨p, hmem, hvariadic⟩, p, rfl, rfl⟩
  · exact .inl ⟨fun h => hl h.1, by rw [accept, if_neg hl]⟩

/-- What is left out of a callable explains its record, and nothing is left out of one that has its
snippet. -/
lemma Snippet.leftOut_accept {s : Snippet} {r : EntityRecord}
    (hs : ∃ text, s = l.accept (ctx.formals parameters) text) (hcallable : r.isCallable = true)
    (hparameters : r.parameters.map (fun p => (p.displayName, p.isVariadic)) =
      parameters.map fun p => (ctx.memberName .parameter p.name, p.isVariadic))
    (hsnippet : r.snippet? = none ↔ s.toOption = none) :
    Multiset.Rel (fun x r => Diagnostic.Explains x l r) (s.leftOut r.id)
        ([r].filter (·.lacksSnippet)) ∧
      (r.snippet? = none ↔
        l ∈ Language.trailing ∧ ∃ p ∈ parameters.dropLast, p.isVariadic = true) := by
  obtain ⟨text, rfl⟩ := hs
  rcases l.accept_cases ctx parameters text with
    ⟨hnot, hok⟩ | ⟨hl, hearly, p, hfind, herror⟩
  · have hkept : r.snippet? ≠ none := by
      rw [Ne, hsnippet, hok]
      exact Option.some_ne_none text
    have hlacks : ¬ r.lacksSnippet = true := fun h => hkept (r.lacksSnippet_eq_true_iff.1 h).2
    refine ⟨?_, iff_of_false hkept hnot⟩
    rw [hok, List.filter_cons_of_neg hlacks]
    exact .zero
  · have hnone : r.snippet? = none := by
      rw [hsnippet, herror]
      rfl
    have hlacks : r.lacksSnippet = true := r.lacksSnippet_eq_true_iff.2 ⟨hcallable, hnone⟩
    refine ⟨?_, iff_of_true hnone ⟨hl, hearly⟩⟩
    rw [herror, List.filter_cons_of_pos hlacks]
    refine .cons ⟨rfl, rfl, ?_⟩ .zero
    -- the parameter stands at the same place in the record, under the name that is displayed
    obtain ⟨before, after, rfl, hafter, hp, hbefore⟩ := exists_append_of_find?_dropLast hfind
    rw [List.map_append, List.map_cons, List.map_eq_append_iff] at hparameters
    obtain ⟨before', rest', hsplit, hbefore', hrest⟩ := hparameters
    obtain ⟨p', after', rfl, hp', hafter'⟩ := List.map_eq_cons_iff.1 hrest
    rw [Prod.mk.injEq] at hp'
    refine ⟨before', p', after', hsplit, ?_, hp'.2.trans hp, ?_, ?_⟩
    · rintro rfl
      exact hafter (List.map_eq_nil_iff.1 hafter'.symm)
    · intro q hq
      have hmem := List.mem_map_of_mem (f := fun p => (p.displayName, p.isVariadic)) hq
      rw [hbefore', List.mem_map] at hmem
      obtain ⟨q', hq', heq⟩ := hmem
      rw [Prod.mk.injEq] at heq
      exact heq.2.symm.trans (hbefore q' hq')
    · rw [hp'.1]
      exact Unsupported.message_earlyVariadic l _

/-! ## Declarations and entities -/

lemma InitializerEntry.eq_of {fqn : String} {i : Initializer} {e : InitializerEntry}
    (h : (build ctx fqn i).Yields e) : e = of ctx fqn i := by
  obtain ⟨parameters, hparameters, rfl⟩ := eq_of_yields h
  simp [of, Initializer.snippet, hparameters]

lemma CallableEntry.eq_of {fqn : String} {m : Method} {e : CallableEntry}
    (h : (build ctx fqn m).Yields e) : e = of ctx fqn m := by
  obtain ⟨parameters, hparameters, rfl⟩ := eq_of_yields h
  simp [of, Method.snippet, hparameters]

/-- The records of parameters say of each how it is displayed and whether it is variadic. -/
lemma Context.parameters_toRecord (ctx : Context) (callable : String)
    (parameters : List Parameter) :
    ((parameters.map (ParameterEntry.of ctx callable)).map (·.toRecord)).map
        (fun p => (p.displayName, p.isVariadic)) =
      parameters.map fun p => (ctx.memberName .parameter p.name, p.isVariadic) := by
  rw [List.map_map, List.map_map]
  rfl

/-- A struct that is built has its snippet. -/
lemma StructEntry.Built.snippet_ne_none {t : TypeDecl} {body : InterfaceBody} {e : StructEntry}
    (h : e.Built ctx t body) : e.snippet ≠ none := by
  obtain ⟨text, htext⟩ := ctx.options.language.exists_population (ctx.typeName t.fqn)
    (e.properties.map (·.toFormal))
  rw [h.snippet, Context.convention, htext]
  exact Option.some_ne_none _

/-- What is left out of a declaration explains the record of an entity that shows it, if the record
goes without its snippet; and if the declaration is a callable, the record documents it. -/
lemma Declaration.ShownBy.leftOut {d : Declaration} {e : Entity} (h : ShownBy ctx d e) :
    Multiset.Rel (fun x r => Diagnostic.Explains x ctx.options.language r) (d.leftOut ctx)
        ([e.toRecord].filter (·.lacksSnippet)) ∧
      Multiset.Rel (Documented ctx) ([d].filter (·.isCallable))
        ([e.toRecord].filter (·.isCallable)) := by
  cases h with
  | @ofPopulation t body e built =>
    obtain ⟨text, hsnippet⟩ := Option.ne_none_iff_exists'.1 built.snippet_ne_none
    have hlacks : ¬ (Entity.ofPopulation e).toRecord.lacksSnippet = true := by
      simp [EntityRecord.lacksSnippet, Entity.toRecord, EntityRecord.snippet?,
        StructEntry.toRecord, hsnippet]
    rw [List.filter_cons_of_neg hlacks]
    refine ⟨.zero, .cons ⟨built.initializerId, rfl, ?_⟩ .zero⟩
    simp [Entity.toRecord, EntityRecord.snippet?, StructEntry.toRecord, hsnippet,
      Declaration.parameters]
  | @ofInitializer t i e built =>
    obtain rfl := InitializerEntry.eq_of built
    have haccept : ∃ text, i.snippet ctx t.fqn =
        ctx.options.language.accept (ctx.formals (i.parameters.getD [])) text :=
      Language.exists_construction_eq_accept _ _ _
    have hparameters := ctx.parameters_toRecord (Name.initializerId t.fqn) (i.parameters.getD [])
    obtain ⟨hexplains, hsnippet⟩ := Snippet.leftOut_accept
      (r := (Entity.ofInitializer (.of ctx t.fqn i)).toRecord) haccept rfl hparameters
      Option.map_eq_none_iff
    exact ⟨hexplains, .cons ⟨rfl, hparameters, hsnippet⟩ .zero⟩
  | @ofCallable t m e built =>
    obtain rfl := CallableEntry.eq_of built
    have haccept : ∃ text, m.snippet ctx t.fqn =
        ctx.options.language.accept (ctx.formals (m.parameters.getD [])) text :=
      Language.exists_invocation_eq_accept _ _ _ _ _
    have hparameters := ctx.parameters_toRecord (Name.extend t.fqn m.name) (m.parameters.getD [])
    have hnone : (CallableEntry.of ctx t.fqn m).snippet = none ↔
        (m.snippet ctx t.fqn).toOption = none := by
      unfold CallableEntry.of
      by_cases hstatic : m.isStatic = true <;> simp [hstatic]
    obtain ⟨hexplains, hsnippet⟩ := Snippet.leftOut_accept
      (r := (Entity.ofCallable (.of ctx t.fqn m)).toRecord) haccept rfl hparameters hnone
    exact ⟨hexplains, .cons ⟨rfl, hparameters, hsnippet⟩ .zero⟩
  | _ => exact ⟨.zero, .zero⟩

/-- What relates to each other of a declaration and of an entity that shows it, relates to each
other of the declarations and of the entities together. -/
lemma Shown.rel_flatMap {ds : List Declaration} {es : List Entity} (h : Shown ctx ds es)
    {p : α → β → Prop} {f : Declaration → List α} {k : Entity → List β}
    (hfk : ∀ d e, Declaration.ShownBy ctx d e → Multiset.Rel p (f d) (k e)) :
    Multiset.Rel p (ds.flatMap f) (es.flatMap k) := by
  rw [← Multiset.coe_bind, ← Multiset.coe_bind]
  exact Multiset.rel_bind (fun d e hshows => hfk d e hshows) h

end

/-! ## Renders -/

namespace Graph

variable {g : Graph} {o : Options} {out : Output}

lemma filter_recordEntities (h : g.render o = .ok out) (q : EntityRecord → Bool) :
    out.record.reference.entities.filter q =
      (g.entities o).flatMap fun e => [e.toRecord].filter q := by
  rw [recordEntities_of_render h, List.map_eq_flatMap, List.filter_flatMap]

/-- The diagnostics of a render explain one each why a record goes without its snippet. -/
lemma explains_of_render (h : g.render o = .ok out) :
    Multiset.Rel (fun x r => Diagnostic.Explains x o.language r) out.diagnostics
      (out.record.reference.entities.filter (·.lacksSnippet)) := by
  obtain ⟨-, rfl⟩ := render_eq_ok_iff.1 h
  have hperm : (g.builtDeclarations o).Perm (g.declarations o) :=
    (Name.sortOn_perm TypeDecl.name _).flatMap_right _
  rw [filter_recordEntities h, output, Multiset.coe_eq_coe.2 (hperm.flatMap_right _)]
  exact (shown_of_render h).rel_flatMap fun d e hshows => hshows.leftOut.1

/-- The records of a render document the callables that it shows, one each. -/
lemma documented_of_render (h : g.render o = .ok out) :
    Multiset.Rel (Declaration.Documented ⟨g, o⟩) ((g.declarations o).filter (·.isCallable))
      (out.record.reference.entities.filter (·.isCallable)) := by
  have hfilter : (g.declarations o).filter (·.isCallable) =
      (g.declarations o).flatMap fun d => [d].filter (·.isCallable) := by
    rw [← List.filter_flatMap, List.flatMap_singleton']
  rw [filter_recordEntities h, hfilter]
  exact (shown_of_render h).rel_flatMap fun d e hshows => hshows.leftOut.2

/-- A record of a callable documents one of the graph. -/
lemma exists_documented (h : g.render o = .ok out) {r : EntityRecord}
    (hr : r ∈ out.record.reference.entities) (hcallable : r.isCallable = true) :
    ∃ d, Declaration.Documented ⟨g, o⟩ d r := by
  have hflip := Multiset.rel_flip.2 (documented_of_render h)
  obtain ⟨d, -, hd⟩ := Multiset.exists_mem_of_rel_of_mem hflip
    (Multiset.mem_coe.2 (List.mem_filter.2 ⟨hr, hcallable⟩))
  exact ⟨d, hd⟩

lemma structs_snippet_ne_none (h : g.render o = .ok out) {r : StructRecord}
    (hr : r ∈ out.record.reference.structs) : r.initializer.snippet ≠ none := by
  obtain ⟨reference, -, hentities, -, hrecord⟩ := exists_reference_of_render h
  rw [hrecord] at hr
  obtain ⟨e, he, rfl⟩ := List.mem_map.1 hr
  have hmem : Entity.ofPopulation e ∈ g.entities o := by
    rw [hentities, ReferenceEntry.entities]
    have hown : Entity.ofPopulation e ∈ reference.structs.flatMap (·.entities) :=
      List.mem_flatMap.2 ⟨e, he, by simp [StructEntry.entities]⟩
    simp only [List.mem_append]
    exact .inl (.inl (.inl (.inr hown)))
  obtain ⟨d, -, hshows⟩ := (shown_of_render h).exists_declaration hmem
  cases hshows with
  | ofPopulation built => exact built.snippet_ne_none

/-- The diagnostics of a render and the records of its callables that go without a snippet explain
each other one to one, so there are as many of either under each identifier.  The records document
the callables that are shown, and say which go without: where variadic parameters come last, those
that have one elsewhere.  In Python none does and nothing is recorded, and no struct does in any
language. -/
theorem diagnostics_of_render (h : g.render o = .ok out) :
    Multiset.Rel (fun x r => Diagnostic.Explains x o.language r) out.diagnostics
        (out.record.reference.entities.filter (·.lacksSnippet)) ∧
      (∀ id, out.diagnostics.countP (·.id = id) =
        (out.record.reference.entities.filter (·.lacksSnippet)).countP (·.id = id)) ∧
      Multiset.Rel (Declaration.Documented ⟨g, o⟩) ((g.declarations o).filter (·.isCallable))
        (out.record.reference.entities.filter (·.isCallable)) ∧
      (o.language = .python → out.diagnostics = [] ∧
        ∀ r ∈ out.record.reference.entities, r.lacksSnippet = false) ∧
      ∀ r ∈ out.record.reference.structs, r.initializer.snippet ≠ none := by
  have hexplains := explains_of_render h
  refine ⟨hexplains, fun id => ?_, documented_of_render h, fun hpython => ?_,
    fun r => structs_snippet_ne_none h⟩
  · have hids : (out.diagnostics.map (·.id)).Perm
        ((out.record.reference.entities.filter (·.lacksSnippet)).map (·.id)) := by
      rw [← Multiset.coe_eq_coe, ← Multiset.map_coe, ← Multiset.map_coe, ← Multiset.rel_eq]
      exact Multiset.rel_map.2 (hexplains.mono fun x _ r _ hx => hx.id)
    simpa [List.countP_map, Function.comp_def] using hids.countP_eq (fun i => i = id)
  · have hkept : ∀ r ∈ out.record.reference.entities, r.lacksSnippet = false := by
      intro r hr
      by_contra hlacks
      obtain ⟨hcallable, hnone⟩ := r.lacksSnippet_eq_true_iff.1 (Bool.of_not_eq_false hlacks)
      obtain ⟨d, hdocumented⟩ := exists_documented h hr hcallable
      have hlanguage : o.language ∈ Language.trailing := (hdocumented.snippet.1 hnone).1
      exact Language.mem_trailing_iff.1 hlanguage hpython
    refine ⟨?_, hkept⟩
    have hempty : out.record.reference.entities.filter (·.lacksSnippet) = [] := by
      rw [List.filter_eq_nil_iff]
      intro r hr
      simp [hkept r hr]
    rw [hempty, Multiset.coe_nil, Multiset.rel_zero_right] at hexplains
    exact (Multiset.coe_eq_zero _).1 hexplains

/-- A mixer with a function that takes a variadic parameter first, and a method that takes it
last. -/
def mixer : Graph where
  name := "lib"
  types := [
    { fqn := "lib.Mixer"
      name := "Mixer"
      body := .ofClass {
        methods := [
          { name := "blend"
            isStatic := true
            parameters := some [
              { name := "parts", type := .primitive .string, isVariadic := true },
              { name := "speed", type := .primitive .number }] },
          { name := "stir"
            parameters := some [
              { name := "speed", type := .primitive .number },
              { name := "parts", type := .primitive .string, isVariadic := true }] }] } }]

/-- Of the mixer the snippet of one function is left out. -/
theorem diagnostics_of_render_mixer :
    ∃ out, mixer.render {} = .ok out ∧
      (Multiset.Rel (fun x r => Diagnostic.Explains x .typeScript r) out.diagnostics
          (out.record.reference.entities.filter (·.lacksSnippet)) ∧
        (∀ id, out.diagnostics.countP (·.id = id) =
          (out.record.reference.entities.filter (·.lacksSnippet)).countP (·.id = id)) ∧
        Multiset.Rel (Declaration.Documented ⟨mixer, {}⟩)
          ((mixer.declarations {}).filter (·.isCallable))
          (out.record.reference.entities.filter (·.isCallable)) ∧
        (Language.typeScript = .python → out.diagnostics = [] ∧
          ∀ r ∈ out.record.reference.entities, r.lacksSnippet = false) ∧
        ∀ r ∈ out.record.reference.structs, r.initializer.snippet ≠ none) ∧
      out.diagnostics = [⟨"lib.Mixer.blend", .typeScript,
        "typescript cannot express variadic parameter `parts` before the final position"⟩] := by
  obtain ⟨out, h⟩ : ∃ out, mixer.render {} = .ok out := exists_render_of_isOk (by decide +kernel)
  have hdiagnostics : (mixer.render {}).toOption.map (·.diagnostics) =
      some [⟨"lib.Mixer.blend", .typeScript,
        "typescript cannot express variadic parameter `parts` before the final position"⟩] := by
    decide +kernel
  rw [h] at hdiagnostics
  exact ⟨out, h, diagnostics_of_render h, Option.some.inj hdiagnostics⟩

end Graph

end ApiDocs
