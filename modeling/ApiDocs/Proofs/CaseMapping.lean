import Mathlib
import ApiDocs.Text.Casing

/-!
# What case mappings lead to

A fact about a case mapping is a fact about every code point of its tables.  Where the forms lie is
seen on the ends of the runs: beyond ASCII, an upper-case form is an ASCII capital or lies above the
ASCII letters, and a lower-case form lies above everything up to the ASCII capitals and the signs
behind them (`mem_upperChar_cases`, `mem_lowerChar_cases`).

Whether runs lead to no code point that they hold themselves is not seen on their ends: where
capitals and small letters take turns, a run leads into its own gaps.  The code points of a whole
table are therefore put into one number as its bits, and those it leads to into another one
(`lowerRuns_apart`).  So the lower-case form of a character is mapped to itself, and lower-casing a
text twice is lower-casing it once, wherever a final sigma has come out (`lower_lower`).
-/

namespace ApiDocs.Text

/-! ## Code points -/

/-- A number is the code point of its character, unless it is no code point and read as zero. -/
lemma toNat_ofNat (n : Nat) : (Char.ofNat n).toNat = n ∨ (Char.ofNat n).toNat = 0 := by
  rw [Char.toNat_ofNat]
  exact ite_eq_or_eq _ _ _

lemma isUpper_iff_toNat (c : Char) : c.isUpper = true ↔ 65 ≤ c.toNat ∧ c.toNat ≤ 90 := by
  simp [Char.isUpper, UInt32.le_iff_toNat_le]

lemma isLower_iff_toNat (c : Char) : c.isLower = true ↔ 97 ≤ c.toNat ∧ c.toNat ≤ 122 := by
  simp [Char.isLower, UInt32.le_iff_toNat_le]

lemma toNat_toLower (c : Char) :
    c.toLower.toNat = if 65 ≤ c.toNat ∧ c.toNat ≤ 90 then c.toNat + 32 else c.toNat := by
  simp only [← isUpper_iff_toNat]
  split
  · next hupper =>
    have hcode := (isUpper_iff_toNat c).1 hupper
    have hvalid : (c.toNat + 32).isValidChar := by omega
    rw [Char.toLower_eq_of_isUpper hupper, Char.toNat_ofNat, if_pos hvalid]
  · next hother => rw [Char.toLower_eq_of_not_isUpper hother]

lemma toNat_toUpper (c : Char) :
    c.toUpper.toNat = if 97 ≤ c.toNat ∧ c.toNat ≤ 122 then c.toNat - 32 else c.toNat := by
  simp only [← isLower_iff_toNat]
  split
  · next hlower =>
    have hcode := (isLower_iff_toNat c).1 hlower
    have hvalid : (c.toNat - 32).isValidChar := by omega
    rw [Char.toUpper_eq_of_isLower hlower, Char.toNat_ofNat, if_pos hvalid]
  · next hother => rw [Char.toUpper_eq_of_not_isLower hother]

/-! ## Runs -/

lemma CaseRun.holds_iff (run : CaseRun) (n : Nat) :
    run.holds n = true ↔ run.first ≤ n ∧ n ≤ run.last ∧ (n - run.first) % run.step = 0 := by
  simp [holds, and_assoc]

/-- A code point is mapped by the first run that holds it, or it stays. -/
lemma shifted_cases (runs : List CaseRun) (n : Nat) :
    (∃ run ∈ runs, run.holds n = true ∧ shifted runs n = Char.ofNat (n + run.shift).toNat) ∨
      (∀ run ∈ runs, run.holds n = false) ∧ shifted runs n = Char.ofNat n := by
  unfold shifted
  cases hfind : runs.find? (·.holds n) with
  | none => exact .inr ⟨by simpa using hfind, rfl⟩
  | some run =>
    have hholds : run.holds n = true := by simpa using List.find?_some hfind
    exact .inl ⟨run, List.mem_of_find?_eq_some hfind, hholds, rfl⟩

/-! ### Sets of code points

A set of code points is a number that has its members for bits, so the table as a whole is compared
with what it leads to by one operation.  The operations are called by their names because the kernel
evaluates them as they stand. -/

/-- The union of sets. -/
def union {α : Type} (f : α → Nat) (as : List α) : Nat := as.foldr (fun a b => (f a).lor b) 0

/-- The code points that a run holds. -/
def CaseRun.bits (run : CaseRun) : Nat :=
  union (Nat.shiftLeft 1)
    (List.range' run.first ((run.last - run.first) / run.step + 1) run.step)

/-- The code points that a run leads to. -/
def CaseRun.formBits (run : CaseRun) : Nat :=
  match run.shift with
  | .ofNat k => run.bits.shiftLeft k
  | .negSucc k => run.bits.shiftRight (k + 1)

lemma testBit_union {α : Type} {f : α → Nat} {as : List α} {a : α} {n : Nat} (ha : a ∈ as)
    (h : (f a).testBit n = true) : (union f as).testBit n = true := by
  induction as with
  | nil => cases ha
  | cons b as ih =>
    have hcons : union f (b :: as) = f b ||| union f as := rfl
    rw [hcons, Nat.testBit_or, Bool.or_eq_true]
    rcases List.mem_cons.1 ha with rfl | ha
    · exact .inl h
    · exact .inr (ih ha)

lemma CaseRun.testBit_bits (run : CaseRun) {n : Nat} (h : run.holds n = true) :
    run.bits.testBit n = true := by
  obtain ⟨hfirst, hlast, hstep⟩ := (run.holds_iff n).1 h
  have hn := Nat.div_add_mod (n - run.first) run.step
  have hcount : (n - run.first) / run.step ≤ (run.last - run.first) / run.step :=
    Nat.div_le_div_right (by omega)
  have hmem : n ∈ List.range' run.first ((run.last - run.first) / run.step + 1) run.step :=
    List.mem_range'.2 ⟨(n - run.first) / run.step, by omega, by omega⟩
  have hbit : (1 <<< n).testBit n = true := by
    rw [Nat.one_shiftLeft, Nat.testBit_two_pow_self]
  exact testBit_union hmem hbit

lemma CaseRun.testBit_formBits (run : CaseRun) (hpos : 0 ≤ run.first + run.shift) {n : Nat}
    (h : run.holds n = true) : run.formBits.testBit (n + run.shift).toNat = true := by
  have hbit := run.testBit_bits h
  obtain ⟨hfirst, -, -⟩ := (run.holds_iff n).1 h
  unfold formBits
  cases hshift : run.shift with
  | ofNat k =>
    have hform : (run.bits <<< k).testBit (n + k) = true := by
      simpa [Nat.testBit_shiftLeft] using hbit
    exact hform
  | negSucc k =>
    have hform : (run.bits >>> (k + 1)).testBit (n + Int.negSucc k).toNat = true := by
      have hn : k + 1 + (n + Int.negSucc k).toNat = n := by omega
      rw [Nat.testBit_shiftRight, hn, hbit]
    exact hform

/-! ## Upper case -/

lemma upperChar_of_ascii {c : Char} (hc : c.toNat < 0x80) : upperChar c = [c.toUpper] := by
  rw [upperChar, if_pos hc]

lemma upperRuns_lead : ∀ run ∈ upperRuns,
    65 ≤ run.first + run.shift ∧ run.last + run.shift ≤ 90 ∨ 122 < run.first + run.shift := by
  decide +kernel

lemma upperExpansions_lead : ∀ expansion ∈ upperExpansions,
    expansion.2 ≠ [] ∧ ∀ n ∈ expansion.2, 65 ≤ n ∧ n ≤ 90 ∨ 122 < n := by
  decide +kernel

lemma upperExpansions_lead_of_lookup {n : Nat} {expansion : List Nat}
    (h : upperExpansions.lookup n = some expansion) :
    expansion ≠ [] ∧ ∀ m ∈ expansion, 65 ≤ m ∧ m ≤ 90 ∨ 122 < m := by
  obtain ⟨before, after, hsplit, -⟩ := List.lookup_eq_some_iff.1 h
  exact upperExpansions_lead (n, expansion) (by simp [hsplit])

/-- The upper-case form of an ASCII character is that of core.  Any other form has capitals and
characters above the ASCII letters only, or is what a number stands for that is no code point. -/
lemma mem_upperChar_cases {c x : Char} (hx : x ∈ upperChar c) :
    c.toNat < 0x80 ∧ x = c.toUpper ∨
      x.toNat = 0 ∨ 65 ≤ x.toNat ∧ x.toNat ≤ 90 ∨ 122 < x.toNat := by
  by_cases hc : c.toNat < 0x80
  · rw [upperChar_of_ascii hc] at hx
    exact .inl ⟨hc, List.mem_singleton.1 hx⟩
  · right
    rw [upperChar, if_neg hc] at hx
    cases hlookup : upperExpansions.lookup c.toNat with
    | some expansion =>
      rw [hlookup] at hx
      obtain ⟨n, hn, rfl⟩ := List.mem_map.1 hx
      have hlead := (upperExpansions_lead_of_lookup hlookup).2 n hn
      have hcode := toNat_ofNat n
      omega
    | none =>
      rw [hlookup] at hx
      obtain rfl := List.mem_singleton.1 hx
      obtain ⟨run, hrun, hholds, hshifted⟩ | ⟨-, hshifted⟩ := shifted_cases upperRuns c.toNat
      · have hlead := upperRuns_lead run hrun
        obtain ⟨hfirst, hlast, -⟩ := (run.holds_iff c.toNat).1 hholds
        have hcode := toNat_ofNat (c.toNat + run.shift).toNat
        rw [hshifted]
        omega
      · rw [hshifted, Char.ofNat_toNat]
        omega

/-- Every character has an upper-case form. -/
lemma upperChar_ne_nil (c : Char) : upperChar c ≠ [] := by
  unfold upperChar
  split
  · exact List.cons_ne_nil _ _
  · cases hlookup : upperExpansions.lookup c.toNat with
    | none => exact List.cons_ne_nil _ _
    | some expansion => simpa using (upperExpansions_lead_of_lookup hlookup).1

/-! ## Lower case -/

lemma lowerRuns_lead : ∀ run ∈ lowerRuns, 96 < run.first + run.shift ∧
    (run.last + run.shift < 0x130 ∨ 0x130 < run.first + run.shift) := by
  decide +kernel

/-- No code point that the table leads to is one that it holds. -/
lemma lowerRuns_apart : union CaseRun.bits lowerRuns &&& union CaseRun.formBits lowerRuns = 0 := by
  decide +kernel

/-- No lower-case form has a lower-case form of its own. -/
lemma holds_eq_false_of_form {a b : CaseRun} (ha : a ∈ lowerRuns) (hb : b ∈ lowerRuns) {n : Nat}
    (hn : a.holds n = true) : b.holds (n + a.shift).toNat = false := by
  by_contra h
  have hlead := lowerRuns_lead a ha
  have hheld := testBit_union hb (b.testBit_bits (by simpa using h))
  have hform := testBit_union ha (a.testBit_formBits (by omega) hn)
  have hnone : (union CaseRun.bits lowerRuns &&& union CaseRun.formBits lowerRuns).testBit
      (n + a.shift).toNat = false := by
    rw [lowerRuns_apart, Nat.zero_testBit]
  rw [Nat.testBit_and, hheld, hform] at hnone
  cases hnone

lemma lowerChar_of_ascii {c : Char} (hc : c.toNat < 0x80) : lowerChar c = [c.toLower] := by
  rw [lowerChar, if_pos hc]

/-- The lower-case form of an ASCII character is that of core.  Any other form lies above the ASCII
capitals, or is what a number stands for that is no code point. -/
lemma mem_lowerChar_cases {c x : Char} (hx : x ∈ lowerChar c) :
    c.toNat < 0x80 ∧ x = c.toLower ∨ x.toNat = 0 ∨ 96 < x.toNat := by
  by_cases hc : c.toNat < 0x80
  · rw [lowerChar_of_ascii hc] at hx
    exact .inl ⟨hc, List.mem_singleton.1 hx⟩
  · right
    by_cases hdotted : c.toNat = 0x130
    · rw [lowerChar, if_neg hc, if_pos hdotted, List.mem_cons, List.mem_singleton] at hx
      rcases hx with rfl | rfl
      · exact .inr (by decide)
      · exact .inr (by decide)
    · rw [lowerChar, if_neg hc, if_neg hdotted] at hx
      obtain rfl := List.mem_singleton.1 hx
      obtain ⟨run, hrun, hholds, hshifted⟩ | ⟨-, hshifted⟩ := shifted_cases lowerRuns c.toNat
      · have hlead := lowerRuns_lead run hrun
        obtain ⟨hfirst, -, -⟩ := (run.holds_iff c.toNat).1 hholds
        have hcode := toNat_ofNat (c.toNat + run.shift).toNat
        rw [hshifted]
        omega
      · rw [hshifted, Char.ofNat_toNat]
        omega

/-! ### Characters that are their own form -/

lemma lowerChar_of_not_holds {c : Char} (hascii : ¬ c.toNat < 0x80) (hdotted : c.toNat ≠ 0x130)
    (h : ∀ run ∈ lowerRuns, run.holds c.toNat = false) : lowerChar c = [c] := by
  obtain ⟨run, hrun, hholds, -⟩ | ⟨-, hshifted⟩ := shifted_cases lowerRuns c.toNat
  · exact absurd hholds (by simp [h run hrun])
  · rw [lowerChar, if_neg hascii, if_neg hdotted, hshifted, Char.ofNat_toNat]

/-- An ASCII character is its own lower-case form if it is no capital. -/
lemma lowerChar_eq_iff_of_ascii {c : Char} (hc : c.toNat < 0x80) :
    lowerChar c = [c] ↔ c.toNat < 65 ∨ 90 < c.toNat := by
  rw [lowerChar_of_ascii hc, List.singleton_inj, ← Char.toNat_inj, toNat_toLower]
  split <;> omega

/-- The marks and sigmas that the rules for single characters name. -/
lemma lowerChar_of_rules : lowerChar '\u0307' = ['\u0307'] ∧ lowerChar 'ς' = ['ς'] ∧
    lowerChar 'σ' = ['σ'] ∧ lowerChar 'Σ' ≠ ['Σ'] := by
  decide +kernel

/-- A lower-case form is its own. -/
lemma lowerChar_of_mem_lowerChar {c x : Char} (h : x ∈ lowerChar c) : lowerChar x = [x] := by
  by_cases hascii : c.toNat < 0x80
  · rw [lowerChar_of_ascii hascii] at h
    obtain rfl := List.mem_singleton.1 h
    have hcode : c.toLower.toNat < 0x80 ∧ (c.toLower.toNat < 65 ∨ 90 < c.toLower.toNat) := by
      rw [toNat_toLower]
      split <;> omega
    exact (lowerChar_eq_iff_of_ascii hcode.1).2 hcode.2
  by_cases hdotted : c.toNat = 0x130
  · rw [lowerChar, if_neg hascii, if_pos hdotted, List.mem_cons, List.mem_singleton] at h
    rcases h with rfl | rfl
    · exact (lowerChar_eq_iff_of_ascii (by decide)).2 (by decide)
    · exact lowerChar_of_rules.1
  obtain ⟨run, hrun, hholds, hshifted⟩ | ⟨hunheld, -⟩ := shifted_cases lowerRuns c.toNat
  · rw [lowerChar, if_neg hascii, if_neg hdotted, hshifted] at h
    obtain rfl := List.mem_singleton.1 h
    obtain ⟨habove, hundotted⟩ := lowerRuns_lead run hrun
    obtain ⟨hfirst, hlast, -⟩ := (run.holds_iff c.toNat).1 hholds
    have hcode := toNat_ofNat (c.toNat + run.shift).toNat
    by_cases hlow : (Char.ofNat (c.toNat + run.shift).toNat).toNat < 0x80
    · exact (lowerChar_eq_iff_of_ascii hlow).2 (by omega)
    · refine lowerChar_of_not_holds hlow (by omega) fun other hother => ?_
      rw [hcode.resolve_right (by omega)]
      exact holds_eq_false_of_form hrun hother hholds
  · have hself := lowerChar_of_not_holds hascii hdotted hunheld
    rw [hself] at h
    obtain rfl := List.mem_singleton.1 h
    exact hself

/-- What is its own lower-case form is no ASCII capital. -/
lemma toNat_of_lowerChar_eq {c : Char} (h : lowerChar c = [c]) : c.toNat < 65 ∨ 90 < c.toNat := by
  by_cases hascii : c.toNat < 0x80
  · exact (lowerChar_eq_iff_of_ascii hascii).1 h
  · omega

/-! ### Texts -/

lemma lowerFrom_eq_self {cs : List Char} (h : ∀ c ∈ cs, lowerChar c = [c]) (before : List Char) :
    lowerFrom before cs = cs := by
  induction cs generalizing before with
  | nil => rfl
  | cons c cs ih =>
    rw [List.forall_mem_cons] at h
    have hsigma : c ≠ 'Σ' := by
      rintro rfl
      exact lowerChar_of_rules.2.2.2 h.1
    rw [lowerFrom, if_neg hsigma, h.1, ih h.2]
    rfl

/-- In a lower-cased text each character is its own lower-case form, final sigmas too. -/
lemma lowerChar_of_mem_lowerFrom {x : Char} {before cs : List Char} (h : x ∈ lowerFrom before cs) :
    lowerChar x = [x] := by
  obtain ⟨-, hfinal, hinner, -⟩ := lowerChar_of_rules
  induction cs generalizing before with
  | nil => cases h
  | cons c cs ih =>
    rw [lowerFrom, List.mem_append] at h
    rcases h with h | h
    · split_ifs at h
      · rwa [List.mem_singleton.1 h]
      · rwa [List.mem_singleton.1 h]
      · exact lowerChar_of_mem_lowerChar h
    · exact ih h

lemma lowerChar_of_mem_lower {x : Char} {s : String} (h : x ∈ (lower s).toList) :
    lowerChar x = [x] := by
  rw [lower, String.toList_ofList] at h
  exact lowerChar_of_mem_lowerFrom h

/-- Lower-casing a text twice is lower-casing it once. -/
theorem lower_lower (s : String) : lower (lower s) = lower s := by
  have hself := lowerFrom_eq_self (fun c hc => lowerChar_of_mem_lower (s := s) hc) []
  rw [lower, hself, String.ofList_toList]

/-- An ASCII text is lower-cased character by character. -/
lemma lowerFrom_of_ascii {cs : List Char} (h : ∀ c ∈ cs, c.toNat < 0x80) (before : List Char) :
    lowerFrom before cs = cs.map Char.toLower := by
  induction cs generalizing before with
  | nil => rfl
  | cons c cs ih =>
    rw [List.forall_mem_cons] at h
    have hsigma : c ≠ 'Σ' := by
      rintro rfl
      exact absurd h.1 (by decide)
    rw [lowerFrom, if_neg hsigma, lowerChar_of_ascii h.1, ih h.2]
    rfl

end ApiDocs.Text
