import ApiDocs.Name.Pascal
import ApiDocs.Proofs.CaseMapping
import ApiDocs.Proofs.Lists

/-!
# What pascal case changes

Pascal case takes the separators out of a name and changes the case of letters, and nothing else.
The words of a name are what stands between its separators, so put together they are the name
without them (`flatten_splitOnP`).  That no separator comes back is a fact about the case mappings:
no other character has a separator in its upper-case or lower-case form.

Whether the letters are kept can be said exactly for ASCII, where each character has one character
for its form and lower-casing undoes upper-casing.  Beyond ASCII a capital can be two letters, such
as `SS` for `ß`.
-/

namespace ApiDocs.Name

/-! ## Separators -/

lemma isSeparator_eq_false_iff (c : Char) :
    isSeparator c = false ↔ c.toNat ≠ 95 ∧ c.toNat ≠ 45 := by
  have hcode (d : Char) : (c == d) = false ↔ c.toNat ≠ d.toNat := by
    rw [beq_eq_false_iff_ne, ne_eq, ← Char.toNat_inj]
  rw [isSeparator, Bool.or_eq_false_iff, hcode, hcode]
  rfl

lemma isSeparator_of_mem_upperChar {c x : Char} (hc : isSeparator c = false)
    (hx : x ∈ Text.upperChar c) : isSeparator x = false := by
  rw [isSeparator_eq_false_iff] at hc ⊢
  obtain ⟨-, rfl⟩ | hform := Text.mem_upperChar_cases hx
  · rw [Text.toNat_toUpper]
    split <;> omega
  · omega

lemma isSeparator_of_mem_lowerChar {c x : Char} (hc : isSeparator c = false)
    (hx : x ∈ Text.lowerChar c) : isSeparator x = false := by
  rw [isSeparator_eq_false_iff] at hc ⊢
  obtain ⟨-, rfl⟩ | hform := Text.mem_lowerChar_cases hx
  · rw [Text.toNat_toLower]
    split <;> omega
  · omega

/-! ## Words -/

/-- Words left out for being empty would give nothing. -/
lemma flatMap_capitalized_filter (words : List (List Char)) :
    (words.filter (!·.isEmpty)).flatMap capitalized = words.flatMap capitalized := by
  refine flatMap_filter_of_nil (fun word hword => ?_) words
  cases word with
  | nil => rfl
  | cons c rest => cases hword

lemma capitalized_eq_nil_iff (word : List Char) : capitalized word = [] ↔ word = [] := by
  cases word with
  | nil => simp [capitalized]
  | cons c rest => simp [capitalized, Text.upperChar_ne_nil]

lemma mem_capitalized {word : List Char} {x : Char} (h : x ∈ capitalized word) :
    ∃ c ∈ word, x ∈ Text.upperChar c ∨ x ∈ Text.lowerChar c := by
  cases word with
  | nil => cases h
  | cons c rest =>
    rw [capitalized, List.mem_append, List.mem_flatMap] at h
    rcases h with h | ⟨d, hd, h⟩
    · exact ⟨c, List.mem_cons_self, .inl h⟩
    · exact ⟨d, List.mem_cons_of_mem c hd, .inr h⟩

/-! ## Pascal case -/

/-- A name in camel case has only its first character changed. -/
lemma pascalChars_of_camel {cs : List Char} (hsmall : cs.any isSmall = true)
    (hplain : cs.any isSeparator = false) : pascalChars cs = Text.mapFirst Text.upperChar cs := by
  simp [pascalChars, isShouted, hsmall, hplain]

/-- Any other name is a list of words. -/
lemma pascalChars_of_words {cs : List Char}
    (h : ¬ (cs.any isSmall = true ∧ cs.any isSeparator = false)) :
    pascalChars cs = (cs.splitOnP isSeparator).flatMap capitalized := by
  have hwords : (isShouted cs || cs.any isSeparator) = true := by
    cases hsmall : cs.any isSmall <;> cases hplain : cs.any isSeparator <;> simp_all [isShouted]
  rw [pascalChars, if_pos hwords, flatMap_capitalized_filter]

/-- What the case mappings keep, and what holds of all characters that are no separators, holds of
all characters of a name in pascal case. -/
lemma forall_mem_pascalChars {p : Char → Prop} (hupper : ∀ c, p c → ∀ x ∈ Text.upperChar c, p x)
    (hlower : ∀ c, p c → ∀ x ∈ Text.lowerChar c, p x) {cs : List Char}
    (h : ∀ c ∈ cs, isSeparator c = false → p c) : ∀ x ∈ pascalChars cs, p x := by
  intro x hx
  by_cases hcamel : cs.any isSmall = true ∧ cs.any isSeparator = false
  · have hall : ∀ c ∈ cs, p c := by
      have hplain : ∀ c ∈ cs, isSeparator c = false := by simpa using hcamel.2
      exact fun c hc => h c hc (hplain c hc)
    rw [pascalChars_of_camel hcamel.1 hcamel.2] at hx
    cases cs with
    | nil => cases hx
    | cons c rest =>
      rw [List.forall_mem_cons] at hall
      rw [Text.mapFirst, List.mem_append] at hx
      rcases hx with hx | hx
      · exact hupper c hall.1 x hx
      · exact hall.2 x hx
  · rw [pascalChars_of_words hcamel, List.mem_flatMap] at hx
    obtain ⟨word, hword, hx⟩ := hx
    obtain ⟨c, hc, hx⟩ := mem_capitalized hx
    have hmem : c ∈ (cs.splitOnP isSeparator).flatten := List.mem_flatten_of_mem hword hc
    rw [flatten_splitOnP, List.mem_filter] at hmem
    have hpc : p c := h c hmem.1 (by simpa using hmem.2)
    rcases hx with hx | hx
    · exact hupper c hpc x hx
    · exact hlower c hpc x hx

/-- No separator is left, and none comes back. -/
lemma isSeparator_of_mem_pascalChars (cs : List Char) :
    ∀ x ∈ pascalChars cs, isSeparator x = false :=
  forall_mem_pascalChars (fun _ hc _ hx => isSeparator_of_mem_upperChar hc hx)
    (fun _ hc _ hx => isSeparator_of_mem_lowerChar hc hx) fun _ _ hc => hc

lemma pascalChars_eq_nil_iff (cs : List Char) :
    pascalChars cs = [] ↔ ∀ c ∈ cs, isSeparator c = true := by
  by_cases hcamel : cs.any isSmall = true ∧ cs.any isSeparator = false
  · rw [pascalChars_of_camel hcamel.1 hcamel.2]
    cases cs with
    | nil => simp [Text.mapFirst]
    | cons c rest =>
      have hc : isSeparator c = false := by simp_all
      simp [Text.mapFirst, Text.upperChar_ne_nil, hc]
  · have hempty : (∀ word ∈ cs.splitOnP isSeparator, word = []) ↔
        (cs.splitOnP isSeparator).flatten = [] := List.flatten_eq_nil_iff.symm
    rw [pascalChars_of_words hcamel, List.flatMap_eq_nil_iff]
    simp only [capitalized_eq_nil_iff]
    rw [hempty, flatten_splitOnP, List.filter_eq_nil_iff]
    simp

/-! ## ASCII names -/

/-- Pascal case does not lead out of ASCII. -/
lemma ascii_of_mem_pascalChars {cs : List Char} (h : ∀ c ∈ cs, c.toNat < 0x80) :
    ∀ x ∈ pascalChars cs, x.toNat < 0x80 := by
  refine forall_mem_pascalChars (fun c hc x hx => ?_) (fun c hc x hx => ?_) fun c hc _ => h c hc
  · rw [Text.upperChar_of_ascii hc, List.mem_singleton] at hx
    rw [hx, Text.toNat_toUpper]
    split <;> omega
  · rw [Text.lowerChar_of_ascii hc, List.mem_singleton] at hx
    rw [hx, Text.toNat_toLower]
    split <;> omega

/-- A word and its capitalized form are lower-cased to the same. -/
lemma map_toLower_capitalized {word : List Char} (h : ∀ c ∈ word, c.toNat < 0x80) :
    (capitalized word).map Char.toLower = word.map Char.toLower := by
  cases word with
  | nil => rfl
  | cons c rest =>
    rw [List.forall_mem_cons] at h
    have hrest : (rest.flatMap Text.lowerChar).map Char.toLower = rest.map Char.toLower := by
      rw [List.map_flatMap, List.map_eq_flatMap]
      refine List.flatMap_congr fun d hd => ?_
      rw [Text.lowerChar_of_ascii (h.2 d hd), List.map_singleton,
        Char.toLower_toLower_eq_toLower]
    rw [capitalized, List.map_append, hrest, Text.upperChar_of_ascii h.1, List.map_singleton,
      Char.toLower_toUpper_eq_toLower]
    rfl

lemma map_toLower_pascalChars {cs : List Char} (h : ∀ c ∈ cs, c.toNat < 0x80) :
    (pascalChars cs).map Char.toLower =
      (cs.filter fun c => !isSeparator c).map Char.toLower := by
  by_cases hcamel : cs.any isSmall = true ∧ cs.any isSeparator = false
  · have hplain : cs.filter (fun c => !isSeparator c) = cs := by
      simpa [List.filter_eq_self] using hcamel.2
    rw [pascalChars_of_camel hcamel.1 hcamel.2, hplain]
    cases cs with
    | nil => rfl
    | cons c rest =>
      rw [List.forall_mem_cons] at h
      rw [Text.mapFirst, List.map_append, Text.upperChar_of_ascii h.1, List.map_singleton,
        Char.toLower_toUpper_eq_toLower]
      rfl
  · have hwords : ∀ word ∈ cs.splitOnP isSeparator, ∀ c ∈ word, c.toNat < 0x80 := by
      intro word hword c hc
      have hmem : c ∈ (cs.splitOnP isSeparator).flatten := List.mem_flatten_of_mem hword hc
      rw [flatten_splitOnP] at hmem
      exact h c (List.mem_of_mem_filter hmem)
    rw [pascalChars_of_words hcamel, ← flatten_splitOnP, List.map_flatMap, List.map_flatten,
      List.flatMap_def]
    exact congrArg List.flatten (List.map_congr_left fun word hword =>
      map_toLower_capitalized (hwords word hword))

lemma lower_pascal_of_ascii {name : String} (h : ∀ c ∈ name.toList, c.toNat < 0x80) :
    Text.lower (pascal name) =
      Text.lower (String.ofList (name.toList.filter fun c => !isSeparator c)) := by
  have hfiltered : ∀ c ∈ name.toList.filter fun c => !isSeparator c, c.toNat < 0x80 :=
    fun c hc => h c (List.mem_of_mem_filter hc)
  rw [Text.lower, Text.lower, pascal, String.toList_ofList, String.toList_ofList,
    Text.lowerFrom_of_ascii (ascii_of_mem_pascalChars h), Text.lowerFrom_of_ascii hfiltered,
    map_toLower_pascalChars h]

/-! ## All names -/

/-- Pascal case takes out separators and changes case: no separator is left, nothing is left of
separators alone, a name in camel case has its first character raised, and an ASCII name is
lower-cased to what it would be lower-cased to without its separators. -/
theorem pascal_changes (name : String) :
    (∀ c ∈ (pascal name).toList, isSeparator c = false) ∧
      (pascal name = "" ↔ ∀ c ∈ name.toList, isSeparator c = true) ∧
      (∀ c rest, name.toList = c :: rest → name.toList.any isSmall = true →
        name.toList.any isSeparator = false → (pascal name).toList = Text.upperChar c ++ rest) ∧
      ((∀ c ∈ name.toList, c.toNat < 0x80) →
        Text.lower (pascal name) =
          Text.lower (String.ofList (name.toList.filter fun c => !isSeparator c))) := by
  refine ⟨?_, ?_, ?_, lower_pascal_of_ascii⟩
  · rw [pascal, String.toList_ofList]
    exact isSeparator_of_mem_pascalChars name.toList
  · rw [pascal, String.ofList_eq_empty_iff, pascalChars_eq_nil_iff]
  · intro c rest hname hsmall hplain
    rw [pascal, String.toList_ofList, pascalChars_of_camel hsmall hplain, hname]
    rfl

/-- The three styles of names, each with what the theorem says about it. -/
theorem pascal_changes_styles :
    (pascal "bucketName").toList = Text.upperChar 'b' ++ "ucketName".toList ∧
      Text.lower (pascal "DEFAULT_REGION") = "defaultregion" ∧
      Text.lower (pascal "-kebab--Case") = "kebabcase" := by
  have hcamel := (pascal_changes "bucketName").2.2.1 'b' "ucketName".toList (by decide) (by decide)
    (by decide)
  have hshouted := (pascal_changes "DEFAULT_REGION").2.2.2 (by simp)
  have hwords := (pascal_changes "-kebab--Case").2.2.2 (by simp)
  exact ⟨hcamel, hshouted.trans (by decide), hwords.trans (by decide)⟩

end ApiDocs.Name
