import ApiDocs.Text.Casing

/-!
# The order of names

Documented names are listed alphabetically with case ignored; between names that differ in case
alone, small letters come first.  The order does not depend on the reader's locale, so a reference
comes out the same wherever it is made.

Lists are sorted stably by this order, which only matters for names that are repeated: two names
compare as equal exactly when they are the same.
-/

namespace ApiDocs.Name

/-- The order of two names: by their lower-case forms, and between equal ones the reverse of the
code point order, which puts small letters before capitals. -/
def order (a b : String) : Ordering :=
  (compare (Text.lower a) (Text.lower b)).then (compare b a)

/-- Whether the first name may stand before the second. -/
def precedes (a b : String) : Bool := order a b != .gt

/-- A list in the order of the names of its members; members of one name keep their order. -/
def sortOn (name : α → String) (items : List α) : List α :=
  items.mergeSort fun a b => precedes (name a) (name b)

/-! ## A total order -/

theorem order_eq_eq_iff {a b : String} : order a b = .eq ↔ a = b := by
  simp only [order, Ordering.then_eq_eq, Std.compare_eq_iff_eq]
  exact ⟨fun h => h.2.symm, fun h => ⟨by rw [h], h.symm⟩⟩

/-- The order compares by two keys, one after the other, so it is as transitive as they are. -/
instance : Std.TransCmp order :=
  inferInstanceAs (Std.TransCmp (compareLex (compareOn Text.lower) fun a b => compare b a))

theorem precedes_eq_isLE (a b : String) : precedes a b = (order a b).isLE := by
  rw [precedes]
  cases order a b <;> rfl

theorem precedes_total (a b : String) : (precedes a b || precedes b a) = true := by
  have h : order a b = (order b a).swap := Std.OrientedCmp.eq_swap
  rw [precedes, precedes, h]
  cases order b a <;> rfl

theorem precedes_trans {a b c : String} (hab : precedes a b = true) (hbc : precedes b c = true) :
    precedes a c = true := by
  rw [precedes_eq_isLE] at hab hbc ⊢
  exact Std.TransCmp.isLE_trans hab hbc

theorem precedes_antisymm {a b : String} (hab : precedes a b = true) (hba : precedes b a = true) :
    a = b := by
  have h : order a b = (order b a).swap := Std.OrientedCmp.eq_swap
  refine order_eq_eq_iff.1 ?_
  rw [precedes, h] at hab
  rw [precedes] at hba
  rw [h]
  cases hcompare : order b a <;> simp_all

/-! ## Sorted lists -/

theorem sortOn_perm (name : α → String) (items : List α) : (sortOn name items).Perm items :=
  List.mergeSort_perm items _

theorem mem_sortOn {name : α → String} {items : List α} {a : α} :
    a ∈ sortOn name items ↔ a ∈ items :=
  (sortOn_perm name items).mem_iff

theorem pairwise_sortOn (name : α → String) (items : List α) :
    (sortOn name items).Pairwise fun a b => precedes (name a) (name b) = true :=
  List.pairwise_mergeSort (fun a b c hab hbc => @precedes_trans (name a) (name b) (name c) hab hbc)
    (fun a b => precedes_total (name a) (name b)) items

/-- What is sorted by a name can be put together before it is sorted or afterwards. -/
theorem sortOn_map (name : β → String) (f : α → β) (items : List α) :
    sortOn name (items.map f) = (sortOn (fun a => name (f a)) items).map f := by
  unfold sortOn
  exact (List.map_mergeSort (f := f) fun _ _ _ _ => rfl).symm

/-- The second list holds the items of the first in the order of their names, and items of one name
in the order in which the first has them. -/
structure StableSort (name : α → String) (items sorted : List α) : Prop where
  perm : sorted.Perm items
  ordered : sorted.Pairwise fun a b => precedes (name a) (name b) = true
  stable : ∀ n, sorted.filter (fun a => name a = n) = items.filter fun a => name a = n

theorem stableSort_sortOn (name : α → String) (items : List α) :
    StableSort name items (sortOn name items) where
  perm := sortOn_perm name items
  ordered := pairwise_sortOn name items
  stable n := by
    have htied : (items.filter fun a => name a = n).Pairwise
        fun a b => precedes (name a) (name b) = true := by
      rw [List.pairwise_filter]
      refine List.pairwise_of_forall fun a b ha hb => ?_
      rw [of_decide_eq_true ha, of_decide_eq_true hb, precedes_eq_isLE, Std.ReflCmp.isLE_rfl]
    -- the items of one name are sorted already, so they stand in the sorted list as they are
    have hsublist : (items.filter fun a => name a = n).Sublist (sortOn name items) :=
      List.sublist_mergeSort
        (fun a b c hab hbc => @precedes_trans (name a) (name b) (name c) hab hbc)
        (fun a b => precedes_total (name a) (name b)) htied List.filter_sublist
    have hfiltered := hsublist.filter fun a => name a = n
    simp only [List.filter_filter, Bool.and_self] at hfiltered
    exact (hfiltered.eq_of_length ((sortOn_perm name items).filter _).length_eq.symm).symm

theorem StableSort.filter {name : α → String} {items sorted : List α}
    (h : StableSort name items sorted) (keep : α → Bool) :
    StableSort name (items.filter keep) (sorted.filter keep) where
  perm := h.perm.filter keep
  ordered := h.ordered.filter keep
  stable n := by
    have hcomm (xs : List α) : (xs.filter keep).filter (fun a => name a = n) =
        (xs.filter fun a => name a = n).filter keep := by
      simp only [List.filter_filter, Bool.and_comm]
    rw [hcomm, hcomm, h.stable]

/-- Two sorted lists that have the same items of each name, in the same order, are the same: their
first items have one name, since each of the two comes first. -/
theorem eq_of_filter_name_eq {name : α → String} {xs ys : List α}
    (hxs : xs.Pairwise fun a b => precedes (name a) (name b) = true)
    (hys : ys.Pairwise fun a b => precedes (name a) (name b) = true)
    (h : ∀ n, xs.filter (fun a => name a = n) = ys.filter fun a => name a = n) : xs = ys := by
  induction xs generalizing ys with
  | nil =>
    cases ys with
    | nil => rfl
    | cons b ys => simpa using h (name b)
  | cons a xs ih =>
    cases ys with
    | nil => simpa using h (name a)
    | cons b ys =>
      rw [List.pairwise_cons] at hxs hys
      have hname : name a = name b := by
        have hb : b ∈ a :: xs := by
          have hmem : b ∈ (b :: ys).filter fun c => name c = name b := by simp
          exact (List.mem_filter.1 (h (name b) ▸ hmem)).1
        have ha : a ∈ b :: ys := by
          have hmem : a ∈ (a :: xs).filter fun c => name c = name a := by simp
          exact (List.mem_filter.1 (h (name a) ▸ hmem)).1
        rcases List.mem_cons.1 hb with rfl | hb
        · rfl
        · rcases List.mem_cons.1 ha with rfl | ha
          · rfl
          · exact precedes_antisymm (hxs.1 b hb) (hys.1 a ha)
      have hhead := h (name a)
      rw [List.filter_cons_of_pos (by simp), List.filter_cons_of_pos (by simp [hname])] at hhead
      obtain ⟨rfl, -⟩ := List.cons.inj hhead
      refine congrArg (a :: ·) (ih hxs.2 hys.2 fun n => ?_)
      by_cases hn : name a = n
      · have hn' := h n
        rw [List.filter_cons_of_pos (by simp [hn]), List.filter_cons_of_pos (by simp [hn])] at hn'
        exact (List.cons.inj hn').2
      · have hn' := h n
        rwa [List.filter_cons_of_neg (by simp [hn]), List.filter_cons_of_neg (by simp [hn])] at hn'

theorem StableSort.eq_sortOn {name : α → String} {items sorted : List α}
    (h : StableSort name items sorted) : sorted = sortOn name items :=
  eq_of_filter_name_eq h.ordered (pairwise_sortOn name items) fun n =>
    (h.stable n).trans ((stableSort_sortOn name items).stable n).symm

end ApiDocs.Name
