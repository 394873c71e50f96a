import Mathlib.Data.List.DropRight
import Mathlib.Data.List.Find
import Mathlib.Data.List.Forall2
import Mathlib.Data.List.Infix
import Mathlib.Data.List.Nodup
import Mathlib.Data.List.Perm.Basic
import Mathlib.Tactic.Lemma
import ApiDocs.Name.Order

/-!
# Lists

What the other modules need to know of lists in general.  Nothing here says anything about a
document, a record or a graph, and no statement is about items of a particular type, except where
texts are joined.

A reference is made by selecting, sharing out and sorting, so that is what most of this is about.
Sharing a list out among places and putting it together again loses nothing
(`flatMap_filter_perm`), and changes nothing if the list goes through the places in their order
(`flatMap_filter_eq_self`).  Two graphs, or a graph and what is built of it, are compared item by
item: `List.Forall₂` is carried through each way of going through a list.
-/

namespace ApiDocs

variable {α β γ : Type*}

/-! ## Selecting -/

lemma map_filter_eq_flatMap (p : α → Bool) (f : α → β) (xs : List α) :
    (xs.filter p).map f = xs.flatMap fun x => if p x then [f x] else [] := by
  induction xs with
  | nil => rfl
  | cons x xs ih =>
    rw [List.flatMap_cons, ← ih, List.filter_cons]
    split <;> rfl

/-- Items with nothing to add can be left out. -/
lemma flatMap_filter_of_nil {p : α → Bool} {f : α → List β} (h : ∀ x, p x = false → f x = [])
    (xs : List α) : (xs.filter p).flatMap f = xs.flatMap f := by
  induction xs with
  | nil => rfl
  | cons x xs ih =>
    by_cases hp : p x = true
    · rw [List.filter_cons_of_pos hp, List.flatMap_cons, List.flatMap_cons, ih]
    · rw [List.filter_cons_of_neg hp, List.flatMap_cons, h x (Bool.of_not_eq_true hp), ih,
        List.nil_append]

/-- Of what a condition keeps, a narrower condition keeps the same as of everything. -/
lemma filter_filter_of_imp {keep narrower : α → Bool}
    (h : ∀ x, narrower x = true → keep x = true) (xs : List α) :
    (xs.filter keep).filter narrower = xs.filter narrower := by
  rw [List.filter_filter]
  refine List.filter_congr fun x _ => ?_
  cases hnarrower : narrower x with
  | true => rw [h x hnarrower, Bool.and_self]
  | false => rw [Bool.false_and]

/-- What passes a test comes first in a list in which nothing that passes it stands behind something
that does not. -/
lemma filter_append_filter_not {p : α → Bool} {xs : List α}
    (h : xs.Pairwise fun a b => p b = true → p a = true) :
    xs.filter p ++ xs.filter (fun a => !p a) = xs := by
  induction xs with
  | nil => rfl
  | cons x xs ih =>
    obtain ⟨hx, hxs⟩ := List.pairwise_cons.1 h
    by_cases hp : p x = true
    · rw [List.filter_cons_of_pos hp, List.filter_cons_of_neg (by simpa using hp), List.cons_append,
        ih hxs]
    · have hnone : xs.filter p = [] :=
        List.filter_eq_nil_iff.2 fun y hy hpy => hp (hx y hy hpy)
      have hall : xs.filter (fun a => !p a) = xs :=
        List.filter_eq_self.2 fun y hy => by simpa using fun hpy => hp (hx y hy hpy)
      rw [List.filter_cons_of_neg hp, List.filter_cons_of_pos (by simpa using hp), hnone, hall,
        List.nil_append]

/-! ## Sharing out -/

section

variable [DecidableEq β] {place : α → β} {places : List β}

/-- An item goes to one of the places, and only to that. -/
lemma flatMap_filter_singleton (hplaces : places.Nodup) {x : α} (hx : place x ∈ places) :
    (places.flatMap fun p => [x].filter fun y => place y = p) = [x] := by
  obtain ⟨before, after, rfl⟩ := List.append_of_mem hx
  rw [List.nodup_append, List.nodup_cons] at hplaces
  obtain ⟨-, ⟨hafter, -⟩, hbefore⟩ := hplaces
  have helsewhere {ps : List β} (hps : place x ∉ ps) :
      (ps.flatMap fun p => [x].filter fun y => place y = p) = [] := by
    rw [List.flatMap_eq_nil_iff]
    intro p hp
    have hne : place x ≠ p := fun heq => hps (heq ▸ hp)
    simp [hne]
  have hnotBefore : place x ∉ before := fun hmem =>
    hbefore (place x) hmem (place x) List.mem_cons_self rfl
  rw [List.flatMap_append, List.flatMap_cons, helsewhere hnotBefore, helsewhere hafter]
  simp

/-- Where a list is shared out among different places, nothing is lost or doubled. -/
lemma flatMap_filter_perm (hplaces : places.Nodup) {xs : List α} (h : ∀ x ∈ xs, place x ∈ places) :
    (places.flatMap fun p => xs.filter fun x => place x = p).Perm xs := by
  induction xs with
  | nil => simp
  | cons x rest ih =>
    have hrest := ih fun y hy => h y (List.mem_cons_of_mem x hy)
    have hfirst := flatMap_filter_singleton hplaces (h x List.mem_cons_self)
    have hsplit := List.flatMap_append_perm places (fun p => [x].filter fun y => place y = p)
      fun p => rest.filter fun y => place y = p
    simp only [← List.filter_append, List.singleton_append] at hsplit
    rw [hfirst] at hsplit
    exact hsplit.symm.trans (hrest.cons x)

/-- What is at one place is there when another place has been emptied. -/
lemma filter_filter_ne {p q : β} (h : q ≠ p) (xs : List α) :
    ((xs.filter fun x => !decide (place x = p)).filter fun x => place x = q) =
      xs.filter fun x => place x = q := by
  refine filter_filter_of_imp (fun x hxq => ?_) xs
  have hxp : place x ≠ p := fun hxp => h ((of_decide_eq_true hxq).symm.trans hxp)
  rw [decide_eq_false hxp]
  rfl

/-- Sharing a list out among places and putting it together again leaves it as it is if it goes
through the places in their order. -/
lemma flatMap_filter_eq_self (hplaces : places.Nodup) {xs : List α}
    (hin : ∀ x ∈ xs, place x ∈ places)
    (h : xs.Pairwise fun a b => places.idxOf (place a) ≤ places.idxOf (place b)) :
    (places.flatMap fun p => xs.filter fun x => place x = p) = xs := by
  induction places generalizing xs with
  | nil => exact (List.eq_nil_iff_forall_not_mem.2 fun x hx => List.not_mem_nil (hin x hx)).symm
  | cons p ps ih =>
    obtain ⟨hp, hps⟩ := List.nodup_cons.1 hplaces
    have hindex {q : β} (hq : q ≠ p) : (p :: ps).idxOf q = ps.idxOf q + 1 :=
      List.idxOf_cons_ne ps (Ne.symm hq)
    have hfirst : xs.Pairwise fun a b =>
        decide (place b = p) = true → decide (place a = p) = true := by
      refine h.imp fun {a b} hab hb => ?_
      rw [of_decide_eq_true hb, List.idxOf_cons_self] at hab
      by_contra ha
      rw [hindex (of_decide_eq_false (Bool.of_not_eq_true ha))] at hab
      omega
    have hsplit := filter_append_filter_not hfirst
    generalize hys : (xs.filter fun x => !decide (place x = p)) = ys at hsplit
    have hother {x : α} (hx : x ∈ ys) : x ∈ xs ∧ place x ≠ p := by
      rw [← hys, List.mem_filter] at hx
      exact ⟨hx.1, by simpa using hx.2⟩
    have hsorted : ys.Pairwise fun a b => ps.idxOf (place a) ≤ ps.idxOf (place b) := by
      have hkept : ys.Pairwise fun a b => (p :: ps).idxOf (place a) ≤ (p :: ps).idxOf (place b) :=
        hys ▸ h.filter _
      refine hkept.imp_of_mem fun {a b} ha hb hab => ?_
      rw [hindex (hother ha).2, hindex (hother hb).2] at hab
      exact Nat.le_of_succ_le_succ hab
    have hrest := ih hps (fun x hx => (List.mem_cons.1 (hin x (hother hx).1)).resolve_left
      (hother hx).2) hsorted
    have hplace : ∀ q ∈ ps, (xs.filter fun x => place x = q) = ys.filter fun x => place x = q :=
      fun q hq => hys ▸ (filter_filter_ne (ne_of_mem_of_not_mem hq hp) xs).symm
    rw [List.flatMap_cons, List.flatMap_congr hplace, hrest, hsplit]

end

/-! ## Keys -/

/-- Lists of the same items are the same if they look the same by a key that is not repeated. -/
lemma eq_of_perm_of_map_eq {key : α → β} {xs ys : List α} (h : xs.Perm ys)
    (hkeys : (xs.map key).Nodup) (hmap : xs.map key = ys.map key) : xs = ys := by
  induction xs generalizing ys with
  | nil => exact (List.nil_perm.1 h).symm
  | cons x xs ih =>
    cases ys with
    | nil => cases hmap
    | cons y ys =>
      obtain ⟨hkey, hrest⟩ := List.cons.inj hmap
      have hy : y ∈ x :: xs := h.mem_iff.2 List.mem_cons_self
      obtain rfl := List.inj_on_of_nodup_map hkeys List.mem_cons_self hy hkey
      rw [ih h.cons_inv (List.nodup_cons.1 hkeys).2 hrest]

/-- Of a list that is put together of parts with different keys, what comes from one part can be
told by its key. -/
lemma filter_flatMap_of_nodup [DecidableEq γ] {key : α → γ} {xs : List α}
    (hkeys : (xs.map key).Nodup) {part : α → List β} {x : α} (hx : x ∈ xs) :
    ((xs.flatMap fun a => (part a).map (a, ·)).filter fun p => key p.1 = key x).map (·.2) =
      part x := by
  have hpart (a : α) : (((part a).map (a, ·)).filter fun p => key p.1 = key x).map (·.2) =
      if key a = key x then part a else [] := by
    split
    · next hsame => simp [List.filter_map, Function.comp_def, hsame]
    · next hother => simp [List.filter_map, Function.comp_def, hother]
  rw [List.filter_flatMap, List.map_flatMap, List.flatMap_congr fun a _ => hpart a]
  induction xs with
  | nil => exact absurd hx List.not_mem_nil
  | cons a xs ih =>
    obtain ⟨ha, hxs⟩ := List.nodup_cons.1 hkeys
    rw [List.flatMap_cons]
    rcases List.mem_cons.1 hx with rfl | hx
    · have hnone : (xs.flatMap fun a => if key a = key x then part a else []) = [] :=
        List.flatMap_eq_nil_iff.2 fun b hb =>
          if_neg fun hsame => ha (List.mem_map.2 ⟨b, hb, hsame⟩)
      rw [if_pos rfl, hnone, List.append_nil]
    · have hother : key a ≠ key x := fun hsame => ha (List.mem_map.2 ⟨x, hx, hsame.symm⟩)
      rw [if_neg hother, List.nil_append, ih hxs hx]

/-- In lists of the same items the same one is found under a key that is not repeated. -/
lemma find?_eq_of_perm [BEq β] [LawfulBEq β] {key : α → β} {xs ys : List α} (h : xs.Perm ys)
    (hkeys : (ys.map key).Nodup) (k : β) : xs.find? (key · == k) = ys.find? (key · == k) := by
  have hkeys' : (xs.map key).Nodup := (h.map key).nodup_iff.2 hkeys
  refine List.find?_eq_find?_of_perm h fun x hx y hy => ?_
  have hsame : key x = key y := (beq_iff_eq.1 hx.2).trans (beq_iff_eq.1 hy.2).symm
  exact List.inj_on_of_nodup_map hkeys' hx.1 hy.1 hsame

section

variable [BEq α] [LawfulBEq α] {parts : List (α × β)} {key : α} {part : β}

/-- A part is found under its key. -/
lemma lookup_eq_some_of_mem (hkeys : (parts.map Prod.fst).Nodup) (h : (key, part) ∈ parts) :
    parts.lookup key = some part := by
  obtain ⟨before, after, rfl⟩ := List.append_of_mem h
  rw [List.map_append, List.map_cons, List.nodup_append] at hkeys
  refine List.lookup_eq_some_iff.2 ⟨before, after, rfl, fun p hp => ?_⟩
  rw [bne_iff_ne]
  exact (hkeys.2.2 p.1 (List.mem_map_of_mem hp) key List.mem_cons_self).symm

/-- A part is found at the place of its key. -/
lemma getElem?_idxOf_of_mem (hkeys : (parts.map Prod.fst).Nodup) (h : (key, part) ∈ parts) :
    parts[(parts.map Prod.fst).idxOf key]? = some (key, part) := by
  obtain ⟨index, hindex, hpart⟩ := List.getElem_of_mem h
  have hlength : index < (parts.map Prod.fst).length := by rwa [List.length_map]
  have hplace : (parts.map Prod.fst).idxOf (parts.map Prod.fst)[index] = index :=
    hkeys.idxOf_getElem index hlength
  rw [List.getElem_map, hpart] at hplace
  rw [hplace, List.getElem?_eq_getElem hindex, hpart]

end

/-! ## Searching -/

/-- What a search finds is given by the first item that gives anything. -/
lemma findSome?_eq_bind (f : α → Option β) (xs : List α) :
    xs.findSome? f = (xs.find? fun x => (f x).isSome).bind f := by
  induction xs with
  | nil => rfl
  | cons x xs ih =>
    rw [List.findSome?_cons, List.find?_cons, ih]
    cases h : f x with
    | none => simp
    | some b => simp [h]

/-- What is found before the last place has others behind it, and nothing like it before it. -/
lemma exists_append_of_find?_dropLast {p : α → Bool} {xs : List α} {x : α}
    (h : xs.dropLast.find? p = some x) :
    ∃ before after, xs = before ++ x :: after ∧ after ≠ [] ∧ p x = true ∧
      ∀ y ∈ before, p y = false := by
  obtain ⟨hx, before, after, hsplit, hbefore⟩ := List.find?_eq_some_iff_append.1 h
  have hne : xs ≠ [] := by
    rintro rfl
    simp at h
  have hlast : xs.dropLast ++ [xs.getLast hne] = xs := List.dropLast_append_getLast hne
  rw [hsplit, List.append_assoc, List.cons_append] at hlast
  exact ⟨before, after ++ [xs.getLast hne], hlast.symm, by simp, hx, by simpa using hbefore⟩

/-- A place is not reached by what changes at another one. -/
lemma getElem?_append_cons_of_ne {before after : List α} {x y : α} {index : Nat}
    (h : index ≠ before.length) :
    (before ++ x :: after)[index]? = (before ++ y :: after)[index]? := by
  induction before generalizing index with
  | nil =>
    obtain ⟨n, rfl⟩ := Nat.exists_eq_succ_of_ne_zero h
    rfl
  | cons first rest ih =>
    cases index with
    | zero => rfl
    | succ n => simpa using @ih n (by simpa using h)

/-! ## Item by item -/

lemma eq_of_map_eq_map {f : α → β} {xs ys : List α}
    (h : ∀ x ∈ xs, ∀ y ∈ ys, f x = f y → x = y) (heq : xs.map f = ys.map f) : xs = ys := by
  induction xs generalizing ys with
  | nil => exact (List.map_eq_nil_iff.1 heq.symm).symm
  | cons x rest ih =>
    obtain ⟨y, rest', rfl, hy, hrest⟩ := List.map_eq_cons_iff.1 heq.symm
    rw [h x List.mem_cons_self y List.mem_cons_self hy.symm,
      ih (fun z hz w hw => h z (List.mem_cons_of_mem x hz) w (List.mem_cons_of_mem y hw))
        hrest.symm]

section

variable {R : α → β → Prop} {xs : List α} {ys : List β}

lemma forall_mem_right_of_forall₂ {P : β → Prop} (h : List.Forall₂ R xs ys)
    (hP : ∀ x y, R x y → P y) : ∀ y ∈ ys, P y := by
  induction h with
  | nil => exact List.forall_mem_nil P
  | cons hxy _ ih => exact List.forall_mem_cons.2 ⟨hP _ _ hxy, ih⟩

lemma map_eq_of_forall₂ (h : List.Forall₂ R xs ys) {f : α → γ} {f' : β → γ}
    (hf : ∀ x y, R x y → f x = f' y) : xs.map f = ys.map f' := by
  rw [← List.forall₂_eq_eq_eq, List.forall₂_map_left_iff, List.forall₂_map_right_iff]
  exact h.imp hf

lemma filter_forall₂ (h : List.Forall₂ R xs ys) {p : α → Bool} {p' : β → Bool}
    (hp : ∀ x y, R x y → p x = p' y) : List.Forall₂ R (xs.filter p) (ys.filter p') :=
  List.rel_filter (fun x y hxy => Bool.eq_iff_iff.1 (hp x y hxy)) h

lemma findSome?_eq_of_forall₂ (h : List.Forall₂ R xs ys) {f : α → Option γ} {f' : β → Option γ}
    (hf : ∀ x y, R x y → f x = f' y) : xs.findSome? f = ys.findSome? f' := by
  have hmap := congrArg (List.findSome? id) (map_eq_of_forall₂ h hf)
  rwa [List.findSome?_map, List.findSome?_map] at hmap

lemma rel_find?_of_forall₂ (h : List.Forall₂ R xs ys) {p : α → Bool} {p' : β → Bool}
    (hp : ∀ x y, R x y → p x = p' y) : Option.Rel R (xs.find? p) (ys.find? p') := by
  induction h with
  | nil => exact .none
  | @cons x y xs ys hxy _ ih =>
    rw [List.find?_cons, List.find?_cons, hp x y hxy]
    cases p' y with
    | true => exact .some hxy
    | false => exact ih

lemma none_or_some_of_rel {x : Option α} {y : Option β} (h : Option.Rel R x y) :
    (x = none ∧ y = none) ∨ ∃ a b, x = some a ∧ y = some b ∧ R a b := by
  cases h with
  | none => exact .inl ⟨rfl, rfl⟩
  | some hab => exact .inr ⟨_, _, rfl, rfl, hab⟩

lemma flatMap_perm_of_forall₂ (h : List.Forall₂ R xs ys) {f : α → List γ} {f' : β → List γ}
    (hf : ∀ x y, R x y → (f' y).Perm (f x)) : (ys.flatMap f').Perm (xs.flatMap f) := by
  induction h with
  | nil => rfl
  | cons hxy _ ih =>
    rw [List.flatMap_cons, List.flatMap_cons]
    exact (hf _ _ hxy).append ih

lemma exists_pairs_of_forall₂ (h : List.Forall₂ R xs ys) :
    ∃ pairs : List { p : α × β // R p.1 p.2 },
      pairs.map (·.1.1) = xs ∧ pairs.map (·.1.2) = ys := by
  induction h with
  | nil => exact ⟨[], rfl, rfl⟩
  | @cons x y xs ys hxy _ ih =>
    obtain ⟨pairs, rfl, rfl⟩ := ih
    exact ⟨⟨(x, y), hxy⟩ :: pairs, rfl, rfl⟩

end

/-- What follows on some actions need only be known for as many results as there are actions. -/
lemma bind_mapM_congr {m : Type → Type*} [Monad m] [LawfulMonad m] {α β γ : Type}
    {next next' : List β → m γ} (act : α → m β) (xs : List α)
    (h : ∀ ys, ys.length = xs.length → next ys = next' ys) :
    xs.mapM act >>= next = xs.mapM act >>= next' := by
  induction xs generalizing next next' with
  | nil => simp [h]
  | cons x xs ih =>
    have hrest (y : β) : (xs.mapM act >>= fun ys => next (y :: ys)) =
        xs.mapM act >>= fun ys => next' (y :: ys) :=
      ih fun ys hys => h (y :: ys) (by simp [hys])
    simp only [List.mapM_cons, bind_assoc, pure_bind, hrest]

/-! ## Cutting and joining -/

/-- A prefix of two texts lies in the first one, or goes on with the beginning of the second. -/
lemma isPrefix_append_cases {l xs ys : List α} (h : l <+: xs ++ ys) :
    l <+: xs ∨ ∃ c zs, l = xs ++ c :: zs ∧ c :: zs <+: ys := by
  rcases List.prefix_or_prefix_of_prefix h (List.prefix_append xs ys) with hl | ⟨zs, rfl⟩
  · exact .inl hl
  · cases zs with
    | nil => exact .inl (by simp)
    | cons c zs => exact .inr ⟨c, zs, rfl, (List.prefix_append_right_inj xs).1 h⟩

/-- A text does not go on from one that does not stand at its beginning. -/
lemma ne_append_of_not_prefix {s t : String} (h : ¬ s.toList <+: t.toList) (rest : String) :
    t ≠ s ++ rest := by
  rintro rfl
  rw [String.toList_append] at h
  exact h (List.prefix_append _ _)

/-- What is dropped at the end of two texts: all of the second and some of the first, or only what
is dropped at the end of the second. -/
lemma rdropWhile_append (p : α → Bool) (xs ys : List α) :
    (xs ++ ys).rdropWhile p =
      if ys.rdropWhile p = [] then xs.rdropWhile p else xs ++ ys.rdropWhile p := by
  simp only [List.rdropWhile, List.reverse_append, List.dropWhile_append, List.isEmpty_iff,
    List.reverse_eq_nil_iff]
  split
  · rfl
  · simp

/-- Nothing in front of a character that stays is dropped. -/
lemma rdropWhile_append_cons {p : α → Bool} {c : α} (h : p c = false) (xs ys : List α) :
    (xs ++ c :: ys).rdropWhile p = xs ++ c :: ys.rdropWhile p := by
  have hcons : (c :: ys).rdropWhile p = c :: ys.rdropWhile p := by
    rw [← List.singleton_append, rdropWhile_append]
    split
    · next hys => simp [hys, List.rdropWhile_singleton, h]
    · simp
  rw [rdropWhile_append, hcons, if_neg (List.cons_ne_nil _ _)]

/-- What stands between separators, put together. -/
lemma flatten_splitOnP (p : α → Bool) (xs : List α) :
    (xs.splitOnP p).flatten = xs.filter fun x => !p x := by
  induction xs with
  | nil => rfl
  | cons x xs ih =>
    rw [List.splitOnP_cons_eq_if_modifyHead]
    by_cases hx : p x = true
    · rw [if_pos hx, List.flatten_cons, ih, List.filter_cons_of_neg (by simp [hx])]
      rfl
    · obtain ⟨part, parts, hparts⟩ := List.exists_cons_of_ne_nil (List.splitOnP_ne_nil p xs)
      rw [hparts] at ih
      rw [if_neg hx, hparts, List.modifyHead_cons, List.filter_cons_of_pos (by simp [hx]), ← ih]
      rfl

/-- The parts between the separators have no separator. -/
lemma not_mem_of_mem_splitOn [BEq α] [LawfulBEq α] {a : α} (xs : List α) :
    ∀ part ∈ xs.splitOn a, a ∉ part := by
  induction xs with
  | nil => simp
  | cons x xs ih =>
    obtain ⟨first, rest, hparts⟩ := List.exists_cons_of_ne_nil (List.splitOn_ne_nil a xs)
    rw [hparts, List.forall_mem_cons] at ih
    rw [List.splitOn_cons_eq_if_modifyHead, hparts]
    by_cases hx : x = a
    · simpa [hx] using ih
    · simpa [hx, Ne.symm hx] using ih

/-- Lines that are put together again, up to one of them and behind it. -/
lemma intercalate_append_cons {a : α} {ls : List (List α)} (h : ls ≠ []) (l : List α)
    (rest : List (List α)) :
    [a].intercalate (ls ++ l :: rest) =
      [a].intercalate ls ++ a :: [a].intercalate (l :: rest) := by
  induction ls with
  | nil => exact absurd rfl h
  | cons first ls ih =>
    cases ls with
    | nil => simp [List.intercalate_cons_cons]
    | cons second ls =>
      have hrest := ih (List.cons_ne_nil second ls)
      rw [List.cons_append] at hrest
      simp [List.intercalate_cons_cons, hrest]

/-- Parts in the middle may be joined before the whole is. -/
lemma intercalate_intercalate {middle : List String} (h : middle ≠ []) (separator a z : String) :
    separator.intercalate [a, separator.intercalate middle, z] =
      separator.intercalate (a :: (middle ++ [z])) := by
  have hrest : separator.intercalate (middle ++ [z]) =
      separator.intercalate middle ++ separator ++ z := by
    rw [String.intercalate_append_of_ne_nil h (List.cons_ne_nil z []), String.intercalate_singleton]
  rw [String.intercalate_cons_cons, String.intercalate_cons_cons, String.intercalate_singleton,
    String.intercalate_cons_of_ne_nil (List.append_ne_nil_of_left_ne_nil h _), hrest]

/-! ## Sorting by names -/

namespace Name

/-- Sorting and selecting may be done in either order. -/
lemma sortOn_filter (name : α → String) (keep : α → Bool) (items : List α) :
    sortOn name (items.filter keep) = (sortOn name items).filter keep :=
  ((stableSort_sortOn name items).filter keep).eq_sortOn.symm

/-- What is selected by two conditions can be sorted between them. -/
lemma sortOn_filter_and (name : α → String) (keep pick : α → Bool) (items : List α) :
    sortOn name (items.filter fun a => keep a && pick a) =
      (sortOn name (items.filter keep)).filter pick := by
  rw [← sortOn_filter, List.filter_filter]
  simp only [Bool.and_comm]

/-- Lists of the same items are sorted alike if no name is repeated. -/
lemma sortOn_eq_of_perm {name : α → String} {xs ys : List α} (h : xs.Perm ys)
    (hnames : (ys.map name).Nodup) : sortOn name xs = sortOn name ys := by
  have hsorted : (sortOn name xs).Perm (sortOn name ys) :=
    (sortOn_perm name xs).trans (h.trans (sortOn_perm name ys).symm)
  refine hsorted.eq_of_pairwise ?_ (pairwise_sortOn name xs) (pairwise_sortOn name ys)
  intro a b ha hb hab hba
  have ha' : a ∈ ys := h.mem_iff.1 (mem_sortOn.1 ha)
  exact List.inj_on_of_nodup_map hnames ha' (mem_sortOn.1 hb) (precedes_antisymm hab hba)

lemma sortOn_filter_eq_of_perm {name : α → String} {xs ys : List α} (h : ys.Perm xs)
    (hnames : (xs.map name).Nodup) (keep : α → Bool) :
    sortOn name (xs.filter keep) = sortOn name (ys.filter keep) := by
  have hkept : ((xs.filter keep).map name).Nodup := hnames.sublist (List.filter_sublist.map _)
  exact (sortOn_eq_of_perm (h.filter keep) hkept).symm

/-- Items that correspond and have the same names still correspond when they are sorted. -/
lemma forall₂_sortOn {R : α → β → Prop} {name : α → String} {name' : β → String} {xs : List α}
    {ys : List β} (h : List.Forall₂ R xs ys) (hname : ∀ x y, R x y → name x = name' y) :
    List.Forall₂ R (sortOn name xs) (sortOn name' ys) := by
  obtain ⟨pairs, rfl, rfl⟩ := exists_pairs_of_forall₂ h
  have hnames : (fun p : { p : α × β // R p.1 p.2 } => name p.1.1) = fun p => name' p.1.2 :=
    funext fun p => hname _ _ p.2
  rw [sortOn_map, sortOn_map, hnames, List.forall₂_map_left_iff, List.forall₂_map_right_iff,
    List.forall₂_same]
  exact fun p _ => p.2

end Name

end ApiDocs
