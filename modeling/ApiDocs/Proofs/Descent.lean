import Mathlib.Data.Finset.Card
import Mathlib.Data.List.Dedup
import Mathlib.Data.Finset.SDiff
import Mathlib.Tactic.Lemma
import ApiDocs.Graph.Ancestry

/-!
# Descent from the construct class

A class is a construct if its base classes lead to the construct class.  `Graph.isConstruct` finds
out by a walk that keeps the names it has seen and has room for a fixed number of steps.  Two things
have to be shown of it: the room is never used up, and a walk that stops at a name it has seen has
missed nothing.

The first needs a walk without a bound.  `Graph.turn` is what one turn of the walk does, and
`Graph.StopsAfter` says that turns lead to an answer, and after how many.  Each turn that goes on
has seen one name more, and all names are names of the graph, so a walk stops after one turn more
than there are names at the latest.

The second is the invariant `Graph.Passed`: from where the walk stands, the construct class is
nearer than it is from any class that the walk has come through.  A class that the walk comes to for
a second time would be nearer to the construct class than itself.
-/

namespace ApiDocs

/-- Whether a type is a class. -/
def TypeDecl.isClass (t : TypeDecl) : Bool :=
  match t.body with
  | .ofClass _ => true
  | _ => false

/-- Only a class has a base class. -/
lemma TypeDecl.isClass_of_base? {t : TypeDecl} {base : String} (h : t.base? = some base) :
    t.isClass = true := by
  unfold TypeDecl.base? at h
  unfold TypeDecl.isClass
  cases hbody : t.body <;> simp_all

namespace Graph

/-! ## Following base classes -/

/-- The class that a graph describes under a full name. -/
def class? (g : Graph) (fqn : String) : Option TypeDecl := (g.find? fqn).filter (·.isClass)

/-- The full name that base classes lead to, with a number of classes in between.  What lies in
between has to be described, as a class; what is named need not be. -/
def ancestor? (g : Graph) : Nat → TypeDecl → Option String
  | 0, t => t.base?
  | between + 1, t => (t.base?.bind g.class?).bind (g.ancestor? between)

section

variable {g : Graph} {t next : TypeDecl} {base : String}

lemma class?_eq_some_iff : g.class? base = some t ↔ g.find? base = some t ∧ t.isClass = true := by
  simp [class?, Option.filter_eq_some_iff]

/-- A class that is described under a name is described under its own. -/
lemma find?_of_find? (h : g.find? base = some t) : g.find? t.fqn = some t := by
  rwa [fqn_of_find? h]

lemma ancestor?_succ (hbase : t.base? = some base) (hnext : g.class? base = some next)
    (between : Nat) : g.ancestor? (between + 1) t = g.ancestor? between next := by
  rw [ancestor?, hbase, Option.bind_some, hnext, Option.bind_some]

/-- Only a class has ancestors. -/
lemma isClass_of_ancestor? {between : Nat} {name : String}
    (h : g.ancestor? between t = some name) : t.isClass = true := by
  cases between with
  | zero => exact TypeDecl.isClass_of_base? h
  | succ between =>
    rw [ancestor?, Option.bind_eq_some_iff] at h
    obtain ⟨next, hnext, -⟩ := h
    obtain ⟨base, hbase, -⟩ := Option.bind_eq_some_iff.1 hnext
    exact TypeDecl.isClass_of_base? hbase

/-- Base classes are followed on from the class that they have led to. -/
lemma ancestor?_add (n m : Nat) (t : TypeDecl) :
    g.ancestor? (n + 1 + m) t = ((g.ancestor? n t).bind g.class?).bind (g.ancestor? m) := by
  induction n generalizing t with
  | zero =>
    rw [Nat.zero_add, Nat.add_comm, ancestor?, ancestor?]
  | succ n ih =>
    rw [Nat.add_right_comm (n + 1) 1 m, ancestor?, ancestor?]
    cases t.base?.bind g.class? with
    | none => rfl
    | some next => simpa using ih next

/-- Where base classes come to a name for a second time they come to no new name any more. -/
lemma ancestor?_ne_of_cycle {i j : Nat} {name : String} (hij : i < j)
    (hcycle : g.ancestor? i t = g.ancestor? j t) (hbefore : ∀ k < j, g.ancestor? k t ≠ some name)
    (n : Nat) : g.ancestor? n t ≠ some name := by
  induction n using Nat.strong_induction_on with
  | _ n ih =>
    rcases Nat.lt_trichotomy n j with hlt | rfl | hgt
    · exact hbefore n hlt
    · rw [← hcycle]
      exact hbefore i hij
    · -- behind the second time, the names are those behind the first time
      obtain ⟨m, rfl⟩ : ∃ m, n = j + 1 + m := ⟨n - (j + 1), by omega⟩
      rw [ancestor?_add, ← hcycle, ← ancestor?_add]
      exact ih (i + 1 + m) (by omega)

end

/-! ## One turn of the walk -/

/-- What one turn of the walk comes to. -/
inductive Turn where
  /-- The walk stops with an answer. -/
  | stop (answer : Bool)
  /-- The walk goes on at the base class. -/
  | goOn (next : TypeDecl)

/-- One turn of the walk at a type, after the names that were seen. -/
def turn (g : Graph) (seen : List String) (t : TypeDecl) : Turn :=
  if t.fqn = constructFqn then .stop true
  else if t.fqn ∈ seen then .stop false
  else
    match t.base? with
    | none => .stop false
    | some base =>
      if base = constructFqn then .stop true
      else
        match g.find? base with
        | some next => .goOn next
        | none => .stop false

/-- The walk does its turns one after the other. -/
lemma descendsWithin_succ (g : Graph) (steps : Nat) (seen : List String) (t : TypeDecl) :
    g.descendsWithin (steps + 1) seen t =
      match g.turn seen t with
      | .stop answer => answer
      | .goOn next => g.descendsWithin steps (t.fqn :: seen) next := by
  rw [descendsWithin, turn]
  repeat' split
  all_goals simp_all

/-- The walk from a type, after the names that were seen, stops with the answer after so many
turns, the one that it stops in counted. -/
inductive StopsAfter (g : Graph) (answer : Bool) : Nat → List String → TypeDecl → Prop
  | stop {seen : List String} {t : TypeDecl} (stops : g.turn seen t = .stop answer) :
      StopsAfter g answer 1 seen t
  | goOn {turns : Nat} {seen : List String} {t next : TypeDecl}
      (goesOn : g.turn seen t = .goOn next)
      (rest : StopsAfter g answer turns (t.fqn :: seen) next) :
      StopsAfter g answer (turns + 1) seen t

section

variable {g : Graph} {seen : List String} {t next : TypeDecl} {answer : Bool} {turns : Nat}

/-- With room for all of its turns the walk has its answer. -/
lemma StopsAfter.descendsWithin_eq (h : g.StopsAfter answer turns seen t) {steps : Nat}
    (hsteps : turns ≤ steps) : g.descendsWithin steps seen t = answer := by
  induction h generalizing steps with
  | stop stops =>
    obtain ⟨steps, rfl⟩ := Nat.exists_eq_add_of_le' hsteps
    rw [descendsWithin_succ, stops]
  | goOn goesOn _ ih =>
    obtain ⟨steps, rfl⟩ := Nat.exists_eq_add_of_le' (Nat.le_of_add_left_le hsteps)
    rw [descendsWithin_succ, goesOn]
    exact ih (Nat.le_of_succ_le_succ hsteps)

/-- A turn after which the walk goes on: neither the type nor its base class is the construct class,
the type was not seen before, and the base class is described. -/
lemma turn_eq_goOn (h : g.turn seen t = .goOn next) :
    t.fqn ≠ constructFqn ∧ t.fqn ∉ seen ∧
      ∃ base, t.base? = some base ∧ base ≠ constructFqn ∧ g.find? base = some next := by
  unfold turn at h
  repeat' split at h
  all_goals simp_all

end

/-! ## The walk stops -/

/-- The full names of all types that a graph describes, its own and those of its dependencies. -/
def names (g : Graph) : Finset String := (g.allTypes.map (·.fqn)).toFinset

section

variable {g : Graph} {seen : List String} {t : TypeDecl}

lemma fqn_mem_names {fqn : String} (h : g.find? fqn = some t) : t.fqn ∈ g.names := by
  rw [find?_eq_find?_allTypes] at h
  exact List.mem_toFinset.2 (List.mem_map_of_mem (List.mem_of_find?_eq_some h))

/-- A walk stops after one turn more than there are names left to see, at the latest. -/
lemma exists_stopsAfter (ht : t.fqn ∈ g.names) :
    ∃ answer, ∃ turns ≤ (g.names \ seen.toFinset).card + 1, g.StopsAfter answer turns seen t := by
  induction hleft : (g.names \ seen.toFinset).card using Nat.strong_induction_on
    generalizing seen t with
  | _ left ih =>
    cases hturn : g.turn seen t with
    | stop answer => exact ⟨answer, 1, Nat.le_add_left 1 left, .stop hturn⟩
    | goOn next =>
      obtain ⟨-, hseen, base, -, -, hnext⟩ := turn_eq_goOn hturn
      have hfewer : (g.names \ (t.fqn :: seen).toFinset).card < left := by
        rw [← hleft]
        refine Finset.card_lt_card (Finset.ssubset_iff_of_subset ?_ |>.2 ⟨t.fqn, ?_, ?_⟩)
        · exact Finset.sdiff_subset_sdiff le_rfl (by simp)
        · simp [ht, hseen]
        · simp
      obtain ⟨answer, turns, hturns, hstops⟩ := ih _ hfewer (fqn_mem_names hnext) rfl
      exact ⟨answer, turns + 1, by omega, .goOn hturn hstops⟩

lemma card_names_le : g.names.card ≤ g.allTypes.length := by
  simpa [names] using (g.allTypes.map (·.fqn)).toFinset_card_le

/-- The walk stops with the answer that is given for the type. -/
lemma exists_stopsAfter_isConstruct (ht : t.fqn ∈ g.names) :
    ∃ turns ≤ g.names.card + 1, g.StopsAfter (g.isConstruct t) turns [] t := by
  have hstops : ∃ answer, ∃ turns ≤ (g.names \ ([] : List String).toFinset).card + 1,
      g.StopsAfter answer turns [] t := exists_stopsAfter ht
  rw [List.toFinset_nil, Finset.sdiff_empty] at hstops
  obtain ⟨answer, turns, hturns, hstops⟩ := hstops
  have hroom : turns ≤ g.allTypes.length + 2 := by
    have hnames := card_names_le (g := g)
    omega
  have hanswer : g.isConstruct t = answer := hstops.descendsWithin_eq hroom
  exact ⟨turns, hturns, hanswer ▸ hstops⟩

end

/-! ## What the answer says -/

/-- The class descends from the construct class: its base classes lead there. -/
def Descends (g : Graph) (t : TypeDecl) : Prop :=
  t.fqn = constructFqn ∨ ∃ between, g.ancestor? between t = some constructFqn

/-- The walk has come through the names that were seen and stands at the type: from a class of one
of these names the way to the construct class is longer than from here. -/
def Passed (g : Graph) (seen : List String) (t : TypeDecl) : Prop :=
  ∀ name ∈ seen, ∀ u, g.find? name = some u → ∀ n, g.ancestor? n u = some constructFqn →
    ∃ m < n, g.ancestor? m t = some constructFqn

section

variable {g : Graph} {seen : List String} {t next : TypeDecl} {answer : Bool} {turns : Nat}

/-- The way to the construct class goes on behind a base class that is not the construct class. -/
lemma exists_ancestor?_lt {base : String} (hbase : t.base? = some base) (hne : base ≠ constructFqn)
    (hnext : g.find? base = some next) {n : Nat} (hn : g.ancestor? n t = some constructFqn) :
    ∃ m < n, g.ancestor? m next = some constructFqn := by
  cases n with
  | zero =>
    rw [ancestor?, hbase] at hn
    exact absurd (Option.some.inj hn) hne
  | succ m =>
    rw [ancestor?, hbase, Option.bind_some, Option.bind_eq_some_iff] at hn
    obtain ⟨found, hfound, hm⟩ := hn
    obtain rfl : next = found :=
      Option.some.inj (hnext.symm.trans (class?_eq_some_iff.1 hfound).1)
    exact ⟨m, Nat.lt_succ_self m, hm⟩

/-- Whether a type descends from the construct class is decided by its base class, if that is
described. -/
lemma descends_iff_of_find? {base : String} (hself : t.fqn ≠ constructFqn)
    (hbase : t.base? = some base) (hnext : g.find? base = some next) :
    g.Descends t ↔ g.Descends next := by
  have hname : next.fqn = base := fqn_of_find? hnext
  by_cases hconstruct : base = constructFqn
  · exact iff_of_true (.inr ⟨0, by rw [ancestor?, hbase, hconstruct]⟩)
      (.inl (hname.trans hconstruct))
  · have hnextSelf : next.fqn ≠ constructFqn := by rwa [hname]
    simp only [Descends, hself, hnextSelf, false_or]
    constructor
    · rintro ⟨n, hn⟩
      obtain ⟨m, -, hm⟩ := exists_ancestor?_lt hbase hconstruct hnext hn
      exact ⟨m, hm⟩
    · rintro ⟨m, hm⟩
      have hclass : g.class? base = some next :=
        class?_eq_some_iff.2 ⟨hnext, isClass_of_ancestor? hm⟩
      exact ⟨m + 1, by rw [ancestor?_succ hbase hclass, hm]⟩

/-- A turn of the walk keeps the invariant. -/
lemma Passed.goOn (h : g.Passed seen t) (ht : g.find? t.fqn = some t)
    (hturn : g.turn seen t = .goOn next) : g.Passed (t.fqn :: seen) next := by
  obtain ⟨-, -, base, hbase, hne, hnext⟩ := turn_eq_goOn hturn
  intro name hname u hu n hn
  rcases List.mem_cons.1 hname with rfl | hseen
  · obtain rfl : t = u := Option.some.inj (ht.symm.trans hu)
    exact exists_ancestor?_lt hbase hne hnext hn
  · obtain ⟨m, hmn, hm⟩ := h name hseen u hu n hn
    obtain ⟨k, hkm, hk⟩ := exists_ancestor?_lt hbase hne hnext hm
    exact ⟨k, hkm.trans hmn, hk⟩

/-- From a class that the walk has come through before, there is no way to the construct class: it
would be shorter than itself. -/
lemma Passed.ancestor?_ne (h : g.Passed seen t) (ht : g.find? t.fqn = some t)
    (hseen : t.fqn ∈ seen) (n : Nat) : g.ancestor? n t ≠ some constructFqn := by
  induction n using Nat.strong_induction_on with
  | _ n ih =>
    intro hn
    obtain ⟨m, hmn, hm⟩ := h t.fqn hseen t ht n hn
    exact ih m hmn hm

/-- The turn that the walk stops in has the right answer. -/
lemma Passed.answer_iff (h : g.Passed seen t) (ht : g.find? t.fqn = some t)
    (hturn : g.turn seen t = .stop answer) : answer = true ↔ g.Descends t := by
  unfold turn at hturn
  unfold Descends
  split at hturn
  next hself =>
    cases hturn
    exact iff_of_true rfl (.inl hself)
  next hself =>
    split at hturn
    next hseen =>
      cases hturn
      simp [hself, h.ancestor?_ne ht hseen]
    next hseen =>
      cases hbase : t.base? with
      | none =>
        rw [hbase] at hturn
        cases hturn
        have hnone (n : Nat) : g.ancestor? n t = none := by
          cases n <;> simp [ancestor?, hbase]
        simp [hself, hnone]
      | some base =>
        simp only [hbase] at hturn
        split at hturn
        next hconstruct =>
          cases hturn
          exact iff_of_true rfl (.inr ⟨0, by rw [ancestor?, hbase, hconstruct]⟩)
        next hconstruct =>
          cases hfind : g.find? base with
          | some next => simp [hfind] at hturn
          | none =>
            rw [hfind] at hturn
            cases hturn
            have hne (n : Nat) : g.ancestor? n t ≠ some constructFqn := by
              cases n <;> simp [ancestor?, hbase, class?, hfind, hconstruct]
            simp [hself, hne]

/-- A walk that stops has the right answer. -/
lemma StopsAfter.answer_iff (h : g.StopsAfter answer turns seen t) (hpassed : g.Passed seen t)
    (ht : g.find? t.fqn = some t) : answer = true ↔ g.Descends t := by
  induction h with
  | stop stops => exact hpassed.answer_iff ht stops
  | goOn goesOn _ ih =>
    obtain ⟨hself, -, base, hbase, -, hnext⟩ := turn_eq_goOn goesOn
    rw [descends_iff_of_find? hself hbase hnext]
    exact ih (hpassed.goOn ht goesOn) (find?_of_find? hnext)

lemma isConstruct_iff (ht : g.find? t.fqn = some t) : g.isConstruct t = true ↔ g.Descends t := by
  obtain ⟨turns, -, hstops⟩ := exists_stopsAfter_isConstruct (fqn_mem_names ht)
  exact hstops.answer_iff (fun _ hname => absurd hname List.not_mem_nil) ht

end

/-- For a type that the graph finds under its own name, the walk along the base classes stops after
one turn more than there are names at the latest, whatever room it has beyond that.  Its answer is
whether the type is the construct class or comes to the name of that class along base classes that
are described.  So the answer for a type is the answer for its base class, and base classes that go
in circles without coming to that name make no construct. -/
theorem isConstruct_iff_descends {g : Graph} {t : TypeDecl} (ht : g.find? t.fqn = some t) :
    (∃ turns ≤ g.names.card + 1, g.StopsAfter (g.isConstruct t) turns [] t) ∧
    (∀ steps ≥ g.names.card + 1, g.descendsWithin steps [] t = g.isConstruct t) ∧
    (g.isConstruct t = true ↔
      t.fqn = constructFqn ∨ ∃ between, g.ancestor? between t = some constructFqn) ∧
    (∀ base next, t.fqn ≠ constructFqn → t.base? = some base → g.find? base = some next →
      (g.isConstruct t = true ↔ g.isConstruct next = true)) ∧
    ∀ i j name, t.fqn ≠ constructFqn → i < j → g.ancestor? i t = some name →
      g.ancestor? j t = some name → (∀ k < j, g.ancestor? k t ≠ some constructFqn) →
      g.isConstruct t = false := by
  obtain ⟨turns, hturns, hstops⟩ := exists_stopsAfter_isConstruct (fqn_mem_names ht)
  refine ⟨⟨turns, hturns, hstops⟩, fun steps hsteps => ?_, isConstruct_iff ht, ?_, ?_⟩
  · exact hstops.descendsWithin_eq (hturns.trans hsteps)
  · intro base next hself hbase hnext
    rw [isConstruct_iff ht, isConstruct_iff (find?_of_find? hnext)]
    exact descends_iff_of_find? hself hbase hnext
  · intro i j name hself hij hi hj hbefore
    have hne := ancestor?_ne_of_cycle hij (hi.trans hj.symm) hbefore
    refine Bool.eq_false_of_not_eq_true fun hconstruct => ?_
    rcases (isConstruct_iff ht).1 hconstruct with hfqn | ⟨between, hbetween⟩
    · exact hself hfqn
    · exact hne between hbetween

/-- A class of which only the base class matters. -/
def derived (fqn base : String) : TypeDecl :=
  { fqn, name := fqn, body := .ofClass { base := some base } }

/-- A step that comes to the construct class over a class of a dependency, and a knot and a loop
that are each other's base class. -/
def stairs : Graph where
  name := "lib"
  types := [
    derived "lib.Step" "kit.Base", derived "lib.Knot" "lib.Loop", derived "lib.Loop" "lib.Knot"]
  dependencies := [{ name := "kit", types := [derived "kit.Base" "constructs.Construct"] }]

/-- The step of the stairs is a construct, and the walk from the knot, which is none, takes no more
than five turns. -/
theorem isConstruct_iff_descends_stairs :
    stairs.isConstruct (derived "lib.Step" "kit.Base") = true ∧
      stairs.isConstruct (derived "lib.Knot" "lib.Loop") = false ∧
      ∃ turns ≤ 5, stairs.StopsAfter false turns [] (derived "lib.Knot" "lib.Loop") := by
  have hnames : stairs.names.card = 4 := by decide
  obtain ⟨-, -, hconstruct, -⟩ :=
    isConstruct_iff_descends (g := stairs) (t := derived "lib.Step" "kit.Base") rfl
  obtain ⟨⟨turns, hturns, hstops⟩, -, -, -, hcycle⟩ :=
    isConstruct_iff_descends (g := stairs) (t := derived "lib.Knot" "lib.Loop") rfl
  have hnone : stairs.isConstruct (derived "lib.Knot" "lib.Loop") = false :=
    hcycle 0 2 "lib.Loop" (by decide) (by decide) rfl rfl (by decide)
  rw [hnames] at hturns
  rw [hnone] at hstops
  exact ⟨hconstruct.2 (.inr ⟨1, rfl⟩), hnone, turns, hturns, hstops⟩

end Graph

end ApiDocs
