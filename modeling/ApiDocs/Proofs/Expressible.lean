import ApiDocs.Proofs.Diagnostics

/-!
# Parameter lists that a language can express

In TypeScript, Java and C# a variadic parameter comes last.  In Python it may come anywhere, as long
as there is no other one.  A convention is to answer with a snippet if the language can express the
parameters of a call, and with an error in the name of the language if it cannot; that is what
`Language.Answers` says of an answer.

The conventions that want variadic parameters last look for one that has others behind it, and all
their answers are of this kind.  The convention of Python looks for nothing, since the place of a
variadic parameter is free, and so it lets a second one pass too.
-/

namespace ApiDocs

/-- No parameter before the final position is variadic. -/
def VariadicLast (formals : List Formal) : Prop :=
  ∀ i p, formals[i]? = some p → i + 1 < formals.length → p.isVariadic = false

/-- The conventions that want variadic parameters last find what is in the way of that. -/
lemma earlyVariadic?_eq_none_iff {formals : List Formal} :
    earlyVariadic? formals = none ↔ VariadicLast formals := by
  rw [earlyVariadic?, List.find?_eq_none]
  constructor
  · intro hnone i p hp hi
    have hmem : formals.dropLast[i]? = some p := by
      rw [List.getElem?_dropLast, if_pos (by omega), hp]
    simpa using hnone p (List.mem_of_getElem? hmem)
  · intro hlast p hmem
    obtain ⟨i, hi⟩ := List.mem_iff_getElem?.1 hmem
    rw [List.getElem?_dropLast] at hi
    obtain ⟨hbefore, hp⟩ := Option.ite_none_right_eq_some.1 hi
    simpa using hlast i p hp (by omega)

instance (formals : List Formal) : Decidable (VariadicLast formals) :=
  decidable_of_iff _ earlyVariadic?_eq_none_iff

namespace Language

/-- Whether a language can express a list of parameters. -/
def Expressible : Language → List Formal → Prop
  | python, formals => formals.countP (·.isVariadic) ≤ 1
  | typeScript, formals => VariadicLast formals
  | java, formals => VariadicLast formals
  | cSharp, formals => VariadicLast formals

instance : (l : Language) → (formals : List Formal) → Decidable (l.Expressible formals)
  | python, formals => inferInstanceAs (Decidable (formals.countP (·.isVariadic) ≤ 1))
  | typeScript, formals => inferInstanceAs (Decidable (VariadicLast formals))
  | java, formals => inferInstanceAs (Decidable (VariadicLast formals))
  | cSharp, formals => inferInstanceAs (Decidable (VariadicLast formals))

/-- What a convention answers to a list of parameters is a snippet exactly if its language can
express the list, and an error in the name of that language otherwise. -/
structure Answers (l : Language) (formals : List Formal) (s : Snippet) : Prop where
  ok_iff : (∃ text, s = .ok text) ↔ l.Expressible formals
  language : ∀ u, s = .error u → u.language = l

lemma expressible_iff_of_ne {l : Language} (hl : l ≠ .python) (formals : List Formal) :
    l.Expressible formals ↔ VariadicLast formals := by
  cases l with
  | python => exact absurd rfl hl
  | _ => rfl

/-- An error is about the first variadic parameter that has others behind it. -/
lemma exists_of_accept_eq_error {l : Language} {formals : List Formal} {text : String}
    {u : Unsupported} (h : l.accept formals text = .error u) :
    ∃ before p after, formals = before ++ p :: after ∧ after ≠ [] ∧ p.isVariadic = true ∧
      (∀ q ∈ before, q.isVariadic = false) ∧ u = .earlyVariadic l p.name := by
  unfold accept at h
  split at h
  · cases hearly : earlyVariadic? formals with
    | none => simp [whenTrailing, hearly] at h
    | some p =>
      obtain ⟨before, after, hsplit, hafter, hp, hbefore⟩ :=
        exists_append_of_find?_dropLast hearly
      refine ⟨before, p, after, hsplit, hafter, hp, hbefore, ?_⟩
      simpa [whenTrailing, hearly] using h.symm
  · cases h

/-- What a language accepts is what it can express, except that Python accepts more than one
variadic parameter. -/
lemma answers_accept_iff (l : Language) (formals : List Formal) (text : String) :
    l.Answers formals (l.accept formals text) ↔
      (l = .python → formals.countP (·.isVariadic) ≤ 1) := by
  have hlanguage : ∀ u, l.accept formals text = .error u → u.language = l := by
    intro u hu
    obtain ⟨-, p, -, -, -, -, -, rfl⟩ := exists_of_accept_eq_error hu
    rfl
  rcases eq_or_ne l .python with rfl | hl
  · have hok : ∃ text', Language.python.accept formals text = .ok text' := ⟨text, rfl⟩
    exact ⟨fun h _ => h.ok_iff.1 hok, fun h => ⟨iff_of_true hok (h rfl), hlanguage⟩⟩
  · refine iff_of_true ⟨?_, hlanguage⟩ fun hpython => absurd hpython hl
    rw [expressible_iff_of_ne hl, ← earlyVariadic?_eq_none_iff, accept,
      if_pos (mem_trailing_iff.2 hl), whenTrailing]
    cases earlyVariadic? formals <;> simp

/-- Conventions answer constructions and invocations alike: as they should where the language is
another one than Python, and in Python as long as at most one parameter is variadic.  An error is
always about the first variadic parameter that has others behind it. -/
theorem answers_construction_and_invocation_iff (l : Language) (name : TypeName) (method : String)
    (isStatic : Bool) (formals : List Formal) :
    (l.Answers formals (l.convention.construction name formals) ↔
        (l = .python → formals.countP (·.isVariadic) ≤ 1)) ∧
      (l.Answers formals (l.convention.invocation name method isStatic formals) ↔
        (l = .python → formals.countP (·.isVariadic) ≤ 1)) ∧
      ∀ u, l.convention.construction name formals = .error u ∨
          l.convention.invocation name method isStatic formals = .error u →
        ∃ before p after, formals = before ++ p :: after ∧ after ≠ [] ∧ p.isVariadic = true ∧
          (∀ q ∈ before, q.isVariadic = false) ∧ u = .earlyVariadic l p.name := by
  obtain ⟨made, hmade⟩ := l.exists_construction_eq_accept name formals
  obtain ⟨called, hcalled⟩ := l.exists_invocation_eq_accept name method isStatic formals
  rw [hmade, hcalled]
  refine ⟨l.answers_accept_iff formals made, l.answers_accept_iff formals called, ?_⟩
  rintro u (hu | hu) <;> exact exists_of_accept_eq_error hu

/-- Two variadic parameters. -/
def partsAndLabels : List Formal :=
  [{ name := "parts", type := "str", isVariadic := true },
    { name := "labels", type := "str", isVariadic := true }]

/-- Python has no way to take both, but there is a snippet that does. -/
theorem not_answers_partsAndLabels :
    Language.python.convention.invocation ⟨"lib.Store", "lib.Store", "Store"⟩ "add" false
        partsAndLabels = .ok "add(\n  *parts: str,\n  *labels: str\n)" ∧
      ¬ Language.python.Answers partsAndLabels
        (Language.python.convention.invocation ⟨"lib.Store", "lib.Store", "Store"⟩ "add" false
          partsAndLabels) := by
  have hok : Language.python.convention.invocation ⟨"lib.Store", "lib.Store", "Store"⟩ "add" false
      partsAndLabels = .ok "add(\n  *parts: str,\n  *labels: str\n)" := by
    decide +kernel
  have hnot : ¬ Language.python.Expressible partsAndLabels := by
    decide
  exact ⟨hok, fun h => hnot (h.ok_iff.1 ⟨_, hok⟩)⟩

end Language

end ApiDocs
