import ApiDocs.Convention.Choice
import ApiDocs.Proofs.CaseMapping

/-!
# Reserved words as member names

Python, Java and C# keep some words for themselves, and a member is not displayed under such a word:
Python and Java put an underscore behind it, C# a mark before it or a capital at its start.  Members
of enumerations are the exception in Python and Java, which leave them as they are.

An escaped word is no reserved word again because no reserved word has an underscore.  For C# it is
the first letter that matters.  Every reserved word begins with an ASCII small letter, and no
upper-case form of any character has one, be it a single character or an expansion
(`Text.isSmall_of_mem_upperChar`).
-/

namespace ApiDocs

/-- The words that the convention of a language keeps for itself. -/
def Language.reservedWords : Language → List String
  | typeScript => []
  | python => Convention.Python.reservedWords
  | java => Convention.Java.reservedWords
  | cSharp => Convention.CSharp.reservedWords

/-! ## Words with an underscore behind them -/

/-- Where no reserved word has an underscore, an escaped name is no reserved word. -/
lemma Name.escapeReserved_not_mem {words : List String} (hwords : ∀ w ∈ words, '_' ∉ w.toList)
    (name : String) : escapeReserved words name ∉ words := by
  unfold escapeReserved
  split
  · intro hmem
    exact hwords _ hmem (by simp)
  · next h => simpa using h

/-! ## Capitals at the start -/

section

open Name Text

/-- No upper-case form of a character has an ASCII small letter. -/
lemma Text.isSmall_of_mem_upperChar {c x : Char} (hx : x ∈ upperChar c) : isSmall x = false := by
  rw [← Bool.not_eq_true, isSmall_iff]
  obtain ⟨-, rfl⟩ | hform := mem_upperChar_cases hx
  · rw [toNat_toUpper]
    split <;> omega
  · omega

/-- A name in pascal case does not begin with an ASCII small letter. -/
lemma Name.isSmall_of_head?_pascalChars {cs : List Char} {first : Char}
    (h : (pascalChars cs).head? = some first) : isSmall first = false := by
  unfold pascalChars at h
  split at h
  · -- the words of the name, of which none is empty
    cases hwords : (cs.splitOnP isSeparator).filter (!·.isEmpty) with
    | nil => simp [hwords] at h
    | cons word words =>
      have hword : word ∈ (cs.splitOnP isSeparator).filter (!·.isEmpty) := by simp [hwords]
      obtain ⟨c, rest, rfl⟩ : ∃ c rest, word = c :: rest :=
        List.exists_cons_of_ne_nil (by simpa using (List.mem_filter.1 hword).2)
      obtain ⟨x, more, hupper⟩ := List.exists_cons_of_ne_nil (upperChar_ne_nil c)
      obtain rfl : x = first := by simpa [hwords, capitalized, hupper] using h
      exact isSmall_of_mem_upperChar (c := c) (by simp [hupper])
  · cases cs with
    | nil => simp [mapFirst] at h
    | cons c rest =>
      obtain ⟨x, more, hupper⟩ := List.exists_cons_of_ne_nil (upperChar_ne_nil c)
      obtain rfl : x = first := by simpa [mapFirst, hupper] using h
      exact isSmall_of_mem_upperChar (c := c) (by simp [hupper])

end

/-! ## Member names -/

namespace Convention

/-- The reserved words of C# begin with ASCII small letters, so what begins otherwise is none. -/
lemma CSharp.not_mem_of_head? {name : String}
    (h : ∀ first, name.toList.head? = some first → Name.isSmall first = false) :
    name ∉ CSharp.reservedWords := by
  have hsmall : ∀ w ∈ CSharp.reservedWords, w.toList.head?.any Name.isSmall = true := by
    decide +kernel
  intro hmem
  obtain ⟨first, hfirst, hfirstSmall⟩ := (Option.any_eq_true _ _).1 (hsmall name hmem)
  exact absurd hfirstSmall (by simp [h first hfirst])

/-- No member is displayed in C# under a reserved word. -/
lemma CSharp.memberName_not_mem (kind : MemberKind) (name : String) :
    memberName kind name ∉ CSharp.reservedWords := by
  have hpascal : Name.pascal name ∉ CSharp.reservedWords := by
    refine not_mem_of_head? fun first hfirst => ?_
    rw [Name.pascal, String.toList_ofList] at hfirst
    exact Name.isSmall_of_head?_pascalChars hfirst
  cases kind with
  | parameter =>
    simp only [memberName]
    split
    · refine not_mem_of_head? fun first hfirst => ?_
      rw [String.toList_append] at hfirst
      obtain rfl : '@' = first := Option.some.inj hfirst
      rfl
    · next h => simpa only [List.contains_iff_mem] using h
  | _ => exact hpascal

/-- No member is displayed in Python under a reserved word, unless it is one of an enumeration. -/
lemma Python.memberName_not_mem {kind : MemberKind} (hkind : kind ≠ .enumMember) (name : String) :
    memberName kind name ∉ Python.reservedWords := by
  have hplain : ∀ w ∈ Python.reservedWords, '_' ∉ w.toList := by
    decide +kernel
  cases kind with
  | enumMember => exact absurd rfl hkind
  | _ => exact Name.escapeReserved_not_mem hplain _

/-- No member is displayed in Java under a reserved word, unless it is one of an enumeration. -/
lemma Java.memberName_not_mem {kind : MemberKind} (hkind : kind ≠ .enumMember) (name : String) :
    memberName kind name ∉ Java.reservedWords := by
  have hplain : ∀ w ∈ Java.reservedWords, '_' ∉ w.toList := by
    decide +kernel
  cases kind with
  | enumMember => exact absurd rfl hkind
  | _ => exact Name.escapeReserved_not_mem hplain _

end Convention

namespace Language

/-- A member is displayed under a reserved word in one case: it is a member of an enumeration, which
Python and Java leave as it is, and it has the name of a reserved word already. -/
theorem memberName_mem_reservedWords_iff (l : Language) (kind : MemberKind) (name : String) :
    l.convention.memberName kind name ∈ l.reservedWords ↔
      (l = .python ∨ l = .java) ∧ kind = .enumMember ∧ name ∈ l.reservedWords := by
  by_cases hkind : kind = .enumMember
  · subst hkind
    cases l with
    | typeScript => simp [reservedWords]
    | python => exact ⟨fun h => ⟨.inl rfl, rfl, h⟩, fun h => h.2.2⟩
    | java => exact ⟨fun h => ⟨.inr rfl, rfl, h⟩, fun h => h.2.2⟩
    | cSharp => exact iff_of_false (Convention.CSharp.memberName_not_mem .enumMember name) (by simp)
  · refine iff_of_false ?_ fun h => hkind h.2.1
    cases l with
    | typeScript => exact List.not_mem_nil
    | python => exact Convention.Python.memberName_not_mem hkind name
    | java => exact Convention.Java.memberName_not_mem hkind name
    | cSharp => exact Convention.CSharp.memberName_not_mem kind name

/-- Members of enumerations under reserved words: `None` in Python and `default` in Java. -/
theorem reserved_enumMember :
    Language.python.convention.memberName .enumMember "None" ∈ Language.python.reservedWords ∧
      Language.java.convention.memberName .enumMember "default" ∈ Language.java.reservedWords := by
  decide +kernel

end Language

end ApiDocs
