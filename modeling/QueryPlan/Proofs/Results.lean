import Mathlib.Data.List.Forall2

set_option autoImplicit false

/-! # Results of steps that may fail

Planning is a sequence of steps, each of which may fail. A sequence succeeds exactly when all its
steps do, and two sequences whose steps have related results have related results themselves. -/

namespace QueryPlan

variable {ε δ α β γ κ : Type}

/-! ## Success -/

/-- Two steps in a row succeed when the first does and the second does on its value. -/
theorem bind_eq_ok_iff {x : Except ε α} {f : α → Except ε β} {b : β} :
    x >>= f = .ok b ↔ ∃ a, x = .ok a ∧ f a = .ok b := by
  cases x with
  | error e => simp [bind, Except.bind]
  | ok a => simp [bind, Except.bind]

theorem pure_eq_ok_iff {a b : α} : (pure a : Except ε α) = .ok b ↔ a = b := by
  simp [pure, Except.pure]

theorem map_eq_ok_iff {f : α → β} {x : Except ε α} {b : β} :
    x.map f = .ok b ↔ ∃ a, x = .ok a ∧ f a = b := by
  cases x with
  | error e => simp [Except.map]
  | ok a => simp [Except.map]

/-- A row of checks succeeds when each of them does. -/
theorem forM_eq_ok_iff {f : α → Except ε Unit} {xs : List α} {u : Unit} :
    xs.forM f = .ok u ↔ ∀ x ∈ xs, f x = .ok () := by
  induction xs with
  | nil => simp [List.forM, pure, Except.pure]
  | cons x xs ih =>
    show (f x >>= fun _ => xs.forM f) = .ok u ↔ _
    rw [bind_eq_ok_iff, List.forall_mem_cons, ← ih]
    exact ⟨fun ⟨_, first, rest⟩ => ⟨first, rest⟩, fun ⟨first, rest⟩ => ⟨(), first, rest⟩⟩

/-- Checks that succeed may be left out in front of others. -/
theorem forM_append_of_ok {f : α → Except ε Unit} {xs ys : List α} (h : xs.forM f = .ok ()) :
    (xs ++ ys).forM f = ys.forM f := by
  rw [List.forM_eq_forM] at h ⊢
  rw [List.forM_append, h]
  rfl

/-- A row of steps succeeds with the values of its steps. -/
theorem mapM_eq_ok_iff {f : α → Except ε β} {xs : List α} {ys : List β} :
    xs.mapM f = .ok ys ↔ List.Forall₂ (fun x y => f x = .ok y) xs ys := by
  induction xs generalizing ys with
  | nil => simp [pure, Except.pure, eq_comm]
  | cons x xs ih =>
    rw [List.mapM_cons, bind_eq_ok_iff, List.forall₂_cons_left_iff]
    simp only [bind_eq_ok_iff, pure_eq_ok_iff, ih]
    constructor
    · rintro ⟨y, first, rest, related, rfl⟩
      exact ⟨y, rest, first, related, rfl⟩
    · rintro ⟨y, rest, first, related, rfl⟩
      exact ⟨y, first, rest, related, rfl⟩

/-- A row of steps has values when each of them has one. -/
theorem exists_mapM_eq_ok_iff {f : α → Except ε β} {xs : List α} :
    (∃ ys, xs.mapM f = .ok ys) ↔ ∀ x ∈ xs, ∃ y, f x = .ok y := by
  induction xs with
  | nil => simp [pure, Except.pure]
  | cons x xs ih =>
    rw [List.forall_mem_cons, ← ih]
    simp only [mapM_eq_ok_iff, List.forall₂_cons_left_iff]
    constructor
    · rintro ⟨_, y, ys, first, rest, rfl⟩
      exact ⟨⟨y, first⟩, ys, rest⟩
    · rintro ⟨⟨y, first⟩, ys, rest⟩
      exact ⟨_, y, ys, first, rest, rfl⟩

/-- A row of optional values has the values of its entries. -/
theorem mapM_eq_some_iff {f : α → Option β} {xs : List α} {ys : List β} :
    xs.mapM f = some ys ↔ List.Forall₂ (fun x y => f x = some y) xs ys := by
  induction xs generalizing ys with
  | nil => simp [eq_comm]
  | cons x xs ih =>
    rw [List.mapM_cons, List.forall₂_cons_left_iff]
    simp only [Option.bind_eq_bind, Option.bind_eq_some_iff, Option.pure_def, Option.some.injEq, ih]
    constructor
    · rintro ⟨y, first, rest, related, rfl⟩
      exact ⟨y, rest, first, related, rfl⟩
    · rintro ⟨y, rest, first, related, rfl⟩
      exact ⟨y, first, rest, related, rfl⟩

theorem exists_mapM_eq_some_iff {f : α → Option β} {xs : List α} :
    (∃ ys, xs.mapM f = some ys) ↔ ∀ x ∈ xs, ∃ y, f x = some y := by
  induction xs with
  | nil => simp
  | cons x xs ih =>
    rw [List.forall_mem_cons, ← ih]
    simp [List.mapM_cons, Option.bind_eq_some_iff]

/-! ## Failure -/

/-- Two steps in a row fail when the first does, or when it succeeds and the second fails on its
    value. -/
theorem bind_eq_error_iff {x : Except ε α} {f : α → Except ε β} {e : ε} :
    x >>= f = .error e ↔ x = .error e ∨ ∃ a, x = .ok a ∧ f a = .error e := by
  cases x with
  | error e' => simp [bind, Except.bind]
  | ok a => simp [bind, Except.bind]

theorem map_eq_error_iff {f : α → β} {x : Except ε α} {e : ε} :
    x.map f = .error e ↔ x = .error e := by
  cases x with
  | error e' => simp [Except.map]
  | ok a => simp [Except.map]

/-- A step that has no error has a value. -/
theorem exists_eq_ok_iff_forall_ne_error {x : Except ε α} :
    (∃ a, x = .ok a) ↔ ∀ e, x ≠ .error e := by
  cases x with
  | ok a => simp
  | error e => simp

/-- A check that has no error succeeds. -/
theorem eq_ok_iff_forall_ne_error {x : Except ε Unit} : x = .ok () ↔ ∀ e, x ≠ .error e := by
  cases x with
  | ok => simp
  | error e => simp

/-- A row of checks fails with the error of the first of them that does. -/
theorem forM_eq_error_iff {f : α → Except ε Unit} {xs : List α} {e : ε} :
    xs.forM f = .error e ↔
      ∃ before x after, xs = before ++ x :: after ∧ (∀ y ∈ before, f y = .ok ()) ∧
        f x = .error e := by
  constructor
  · intro h
    induction xs with
    | nil => cases h
    | cons x xs ih =>
      rcases bind_eq_error_iff.1 h with hfirst | ⟨_, hfirst, hrest⟩
      · exact ⟨[], x, xs, rfl, nofun, hfirst⟩
      · obtain ⟨before, y, after, rfl, hbefore, hy⟩ := ih hrest
        exact ⟨x :: before, y, after, rfl, List.forall_mem_cons.2 ⟨hfirst, hbefore⟩, hy⟩
  · rintro ⟨before, x, after, rfl, hbefore, hx⟩
    rw [forM_append_of_ok (forM_eq_ok_iff.2 hbefore)]
    exact bind_eq_error_iff.2 (.inl hx)

/-- Checks in the order of some relation fail with the error of one that does, if all those before
    it in this order succeed. -/
theorem forM_eq_error_iff_of_pairwise {r : α → α → Prop} (hasymm : ∀ x y, r x y → ¬r y x)
    {f : α → Except ε Unit} {xs : List α} (hsorted : xs.Pairwise r) {e : ε} :
    xs.forM f = .error e ↔
      ∃ x ∈ xs, f x = .error e ∧ ∀ y ∈ xs, r y x → f y = .ok () := by
  rw [forM_eq_error_iff]
  constructor
  · rintro ⟨before, x, after, rfl, hbefore, hx⟩
    refine ⟨x, by simp, hx, fun y hy hlt => ?_⟩
    obtain ⟨-, htail, -⟩ := List.pairwise_append.1 hsorted
    obtain ⟨hlast, -⟩ := List.pairwise_cons.1 htail
    -- What comes before this one in the order is none of those from this one on.
    rcases List.mem_append.1 hy with hfirst | hrest
    · exact hbefore y hfirst
    · rcases List.mem_cons.1 hrest with rfl | hlate
      · exact absurd hlt (hasymm _ _ hlt)
      · exact absurd hlt (hasymm _ _ (hlast y hlate))
  · rintro ⟨x, hmem, hx, hearlier⟩
    obtain ⟨before, after, rfl⟩ := List.append_of_mem hmem
    obtain ⟨-, -, hlt⟩ := List.pairwise_append.1 hsorted
    refine ⟨before, x, after, rfl, fun y hy => ?_, hx⟩
    exact hearlier y (List.mem_append_left _ hy) (hlt y hy x List.mem_cons_self)

/-- A row of steps fails with the error of the first of them that does. -/
theorem mapM_eq_error_iff {f : α → Except ε β} {xs : List α} {e : ε} :
    xs.mapM f = .error e ↔
      ∃ before x after, xs = before ++ x :: after ∧ (∀ y ∈ before, ∃ b, f y = .ok b) ∧
        f x = .error e := by
  induction xs with
  | nil => simp [pure, Except.pure]
  | cons x xs ih =>
    rw [List.mapM_cons, bind_eq_error_iff]
    constructor
    · rintro (first | ⟨b, first, rest⟩)
      · exact ⟨[], x, xs, rfl, nofun, first⟩
      · rcases bind_eq_error_iff.1 rest with rest | ⟨bs, -, last⟩
        · obtain ⟨before, y, after, rfl, hbefore, hy⟩ := ih.1 rest
          exact ⟨x :: before, y, after, rfl, List.forall_mem_cons.2 ⟨⟨b, first⟩, hbefore⟩, hy⟩
        · cases last
    · rintro ⟨before, y, after, heq, hbefore, hy⟩
      cases before with
      | nil =>
        obtain ⟨rfl, rfl⟩ := List.cons.inj heq
        exact .inl hy
      | cons z before =>
        obtain ⟨rfl, rfl⟩ := List.cons.inj heq
        obtain ⟨⟨b, first⟩, hbefore⟩ := List.forall_mem_cons.1 hbefore
        have rest := ih.2 ⟨before, y, after, rfl, hbefore, hy⟩
        exact .inr ⟨b, first, bind_eq_error_iff.2 (.inl rest)⟩

/-- Steps for the pieces of several entries are a row of rows. -/
theorem mapM_flatMap {f : α → List β} {g : β → Except ε γ} (xs : List α) :
    (xs.flatMap f).mapM g
      = (xs.mapM fun x => (f x).mapM g) >>= fun groups => pure groups.flatten := by
  induction xs with
  | nil => rfl
  | cons x xs ih =>
    rw [List.flatMap_cons, List.mapM_append, List.mapM_cons, ih]
    simp only [bind_assoc, pure_bind, List.flatten_cons]

/-- They fail with the error of the first entry whose row fails. -/
theorem mapM_flatMap_eq_error_iff {f : α → List β} {g : β → Except ε γ} {xs : List α} {e : ε} :
    (xs.flatMap f).mapM g = .error e ↔
      ∃ before x after, xs = before ++ x :: after ∧
        (∀ y ∈ before, ∃ zs, (f y).mapM g = .ok zs) ∧ (f x).mapM g = .error e := by
  rw [mapM_flatMap, bind_eq_error_iff, mapM_eq_error_iff]
  exact or_iff_left fun ⟨_, _, h⟩ => nomatch h

/-! ## Related results -/

/-- Two results are related when both are values and these are related by `R`, or both are errors
    and these are related by `E`. -/
inductive ResultRel (E : ε → δ → Prop) (R : α → β → Prop) : Except ε α → Except δ β → Prop
  | ok {a : α} {b : β} : R a b → ResultRel E R (.ok a) (.ok b)
  | error {e : ε} {d : δ} : E e d → ResultRel E R (.error e) (.error d)

namespace ResultRel

variable {E : ε → δ → Prop} {R : α → β → Prop} {S : γ → κ → Prop}

/-- Related steps, followed by steps that are related on related values, are related. -/
theorem bind {x : Except ε α} {y : Except δ β} {f : α → Except ε γ} {g : β → Except δ κ}
    (first : ResultRel E R x y) (next : ∀ a b, R a b → ResultRel E S (f a) (g b)) :
    ResultRel E S (x >>= f) (y >>= g) := by
  cases first with
  | ok related => exact next _ _ related
  | error related => exact .error related

/-- Equal results are related when errors are related to themselves. -/
theorem of_eq {E : ε → ε → Prop} {x y : Except ε α} (h : x = y) (refl : ∀ e, E e e) :
    ResultRel E Eq x y := by
  subst h
  cases x with
  | ok a => exact .ok rfl
  | error e => exact .error (refl e)

/-- Results that become equal are related: their errors are the same. -/
theorem of_map_eq {f : α → γ} {g : β → γ} {x : Except ε α} {y : Except ε β}
    (h : x.map f = y.map g) : ResultRel Eq (fun a b => f a = g b) x y := by
  cases x with
  | ok a =>
    cases y with
    | ok b => exact .ok (Except.ok.inj h)
    | error d => cases h
  | error e =>
    cases y with
    | ok b => cases h
    | error d => exact .error (Except.error.inj h)

/-- Results are related by a function when it takes the value of the first to that of the second. -/
theorem iff_eq_map {f : α → β} {x : Except ε α} {y : Except ε β} :
    ResultRel Eq (fun a b => b = f a) x y ↔ y = x.map f := by
  constructor
  · rintro (values | errors)
    · exact congrArg Except.ok values
    · exact congrArg Except.error errors.symm
  · rintro rfl
    cases x with
    | ok a => exact .ok rfl
    | error e => exact .error rfl

theorem imp {T : α → β → Prop} {x : Except ε α} {y : Except δ β} (related : ResultRel E R x y)
    (h : ∀ a b, x = .ok a → y = .ok b → R a b → T a b) : ResultRel E T x y := by
  cases related with
  | ok values => exact .ok (h _ _ rfl rfl values)
  | error errors => exact .error errors

theorem exists_of_ok {a : α} {y : Except δ β} (related : ResultRel E R (.ok a) y) :
    ∃ b, y = .ok b ∧ R a b := by
  cases related with
  | ok values => exact ⟨_, rfl, values⟩

theorem exists_ok_iff {x : Except ε α} {y : Except δ β} (related : ResultRel E R x y) :
    (∃ a, x = .ok a) ↔ ∃ b, y = .ok b := by
  cases related with
  | ok values => simp
  | error errors => simp

/-- Checks of related things, one by one, are related as a whole. -/
theorem forM {f : α → Except ε Unit} {g : β → Except δ Unit} {xs : List α} {ys : List β}
    (related : List.Forall₂ R xs ys) (step : ∀ x y, R x y → ResultRel E Eq (f x) (g y)) :
    ResultRel E Eq (xs.forM f) (ys.forM g) := by
  induction related with
  | nil => exact .ok rfl
  | cons head _ ih => exact (step _ _ head).bind fun _ _ _ => ih

end ResultRel

/-! ## Lists in step -/

/-- Lists stay in step in another way if this follows for the entries of the first. -/
theorem forall₂_imp_of_mem {R S : α → β → Prop} {xs : List α} {ys : List β}
    (related : List.Forall₂ R xs ys) (h : ∀ x ∈ xs, ∀ y, R x y → S x y) :
    List.Forall₂ S xs ys := by
  induction related with
  | nil => exact .nil
  | cons head _ ih =>
    obtain ⟨hhead, hrest⟩ := List.forall_mem_cons.1 h
    exact .cons (hhead _ head) (ih hrest)

/-- Lists stay in step when their entries are changed by what keeps them related. -/
theorem forall₂_mapIdx {R : α → β → Prop} {S : γ → κ → Prop} {f : Nat → α → γ} {g : Nat → β → κ}
    {xs : List α} {ys : List β} (related : List.Forall₂ R xs ys)
    (h : ∀ i x y, R x y → S (f i x) (g i y)) : List.Forall₂ S (xs.mapIdx f) (ys.mapIdx g) := by
  induction related generalizing f g with
  | nil => exact .nil
  | cons head _ ih =>
    rw [List.mapIdx_cons, List.mapIdx_cons]
    exact .cons (h 0 _ _ head) (ih fun i => h (i + 1))

/-- Lists in step on whose entries two functions agree are the same after these. -/
theorem map_eq_of_forall₂ {f : α → γ} {g : β → γ} {xs : List α} {ys : List β}
    (related : List.Forall₂ (fun x y => f x = g y) xs ys) : xs.map f = ys.map g := by
  rwa [← List.forall₂_eq_eq_eq, List.forall₂_map_left_iff, List.forall₂_map_right_iff]

theorem flatMap_eq_of_forall₂ {f : α → List γ} {g : β → List γ} {xs : List α} {ys : List β}
    (related : List.Forall₂ (fun x y => f x = g y) xs ys) : xs.flatMap f = ys.flatMap g := by
  rw [List.flatMap_def, List.flatMap_def, map_eq_of_forall₂ related]

/-- Lists in step on whose entries two functions agree yield the same where these yield some. -/
theorem filterMap_eq_of_forall₂ {f : α → Option γ} {g : β → Option γ} {xs : List α} {ys : List β}
    (related : List.Forall₂ (fun x y => f x = g y) xs ys) : xs.filterMap f = ys.filterMap g := by
  induction related with
  | nil => rfl
  | cons head _ ih => rw [List.filterMap_cons, List.filterMap_cons, head, ih]

theorem any_eq_of_forall₂ {f : α → Bool} {g : β → Bool} {xs : List α} {ys : List β}
    (related : List.Forall₂ (fun x y => f x = g y) xs ys) : xs.any f = ys.any g := by
  induction related with
  | nil => rfl
  | cons head _ ih => rw [List.any_cons, List.any_cons, head, ih]

/-- Checks of lists in step have the same outcome if those of entries in step have. -/
theorem forM_eq_of_forall₂ {f : α → Except ε Unit} {g : β → Except ε Unit} {xs : List α}
    {ys : List β} (related : List.Forall₂ (fun x y => f x = g y) xs ys) :
    xs.forM f = ys.forM g := by
  induction related with
  | nil => rfl
  | @cons x y xs ys head _ ih =>
    show (f x >>= fun _ => xs.forM f) = (g y >>= fun _ => ys.forM g)
    rw [head, ih]

/-- Of two lists in step, the pairs pass a test if the entries of the first list pass one that says
    the same. -/
theorem forall₂_iff_forall_mem {R S : α → β → Prop} {p : α → Prop} {xs : List α} {ys : List β}
    (related : List.Forall₂ R xs ys) (h : ∀ x y, R x y → (S x y ↔ p x)) :
    List.Forall₂ S xs ys ↔ ∀ x ∈ xs, p x := by
  induction related with
  | nil => simp
  | cons head _ ih => rw [List.forall₂_cons, List.forall_mem_cons, h _ _ head, ih]

/-- What holds of the second of two related entries holds of all entries of the second list. -/
theorem forall_mem_of_forall₂ {R : α → β → Prop} {p : β → Prop} {xs : List α} {ys : List β}
    (related : List.Forall₂ R xs ys) (h : ∀ x y, R x y → p y) : ∀ y ∈ ys, p y := by
  induction related with
  | nil => exact nofun
  | cons head _ ih => exact List.forall_mem_cons.2 ⟨h _ _ head, ih⟩

/-- Lists are in step in two ways at once if they are in each of them. -/
theorem forall₂_and_iff {R S : α → β → Prop} {xs : List α} {ys : List β} :
    List.Forall₂ (fun x y => R x y ∧ S x y) xs ys ↔
      List.Forall₂ R xs ys ∧ List.Forall₂ S xs ys := by
  constructor
  · intro h
    exact ⟨h.imp fun _ _ => And.left, h.imp fun _ _ => And.right⟩
  · rintro ⟨hR, hS⟩
    induction hR with
    | nil => exact .nil
    | cons head _ ih =>
      cases hS with
      | cons head' rest => exact .cons ⟨head, head'⟩ (ih rest)

/-- Two steps from list to list are one. -/
theorem forall₂_trans {R : α → β → Prop} {S : β → γ → Prop} {T : α → γ → Prop} {xs : List α}
    {ys : List β} {zs : List γ} (first : List.Forall₂ R xs ys) (second : List.Forall₂ S ys zs)
    (h : ∀ x y z, R x y → S y z → T x z) : List.Forall₂ T xs zs := by
  induction first generalizing zs with
  | nil =>
    cases second
    exact .nil
  | cons head _ ih =>
    cases second with
    | cons head' rest => exact .cons (h _ _ _ head head') (ih rest)

/-- What is in step with the pieces of several entries, one after the other, falls into groups: one
    for each entry, in step with its pieces. -/
theorem exists_groups_of_forall₂_flatMap {R : α → β → Prop} {f : γ → List α} {xs : List γ}
    {ys : List β} (related : List.Forall₂ R (xs.flatMap f) ys) :
    ∃ groups : List (List β), ys = groups.flatten ∧
      List.Forall₂ (fun x group => List.Forall₂ R (f x) group) xs groups := by
  induction xs generalizing ys with
  | nil =>
    cases related
    exact ⟨[], rfl, .nil⟩
  | cons x xs ih =>
    rw [List.flatMap_cons] at related
    have hfirst := List.forall₂_take_append ys (f x) (xs.flatMap f) related.flip
    have hrest := List.forall₂_drop_append ys (f x) (xs.flatMap f) related.flip
    obtain ⟨groups, hgroups, hall⟩ := ih hrest.flip
    refine ⟨ys.take (f x).length :: groups, ?_, .cons hfirst.flip hall⟩
    rw [List.flatten_cons, ← hgroups, List.take_append_drop]

/-- Lists are in step if they are of one length and related position by position. -/
theorem forall₂_of_getElem? {R : α → β → Prop} {xs : List α} {ys : List β}
    (hlength : xs.length = ys.length)
    (h : ∀ (i : Nat) (x : α) (y : β), xs[i]? = some x → ys[i]? = some y → R x y) :
    List.Forall₂ R xs ys := by
  refine List.forall₂_iff_get.2 ⟨hlength, fun i hx hy => ?_⟩
  exact h i _ _ (List.getElem?_eq_getElem hx) (List.getElem?_eq_getElem hy)

/-- Where one of two lists in step has an entry, the other has a related one. -/
theorem forall₂_getElem? {R : α → β → Prop} {xs : List α} {ys : List β} {i : Nat} {x : α}
    (related : List.Forall₂ R xs ys) (h : xs[i]? = some x) : ∃ y, ys[i]? = some y ∧ R x y := by
  induction related generalizing i with
  | nil => simp at h
  | cons head _ ih =>
    cases i with
    | zero =>
      obtain rfl := Option.some.inj h
      exact ⟨_, rfl, head⟩
    | succ i => exact ih h

theorem forall₂_getElem?_eq_none {R : α → β → Prop} {xs : List α} {ys : List β} {i : Nat}
    (related : List.Forall₂ R xs ys) (h : xs[i]? = none) : ys[i]? = none := by
  rw [List.getElem?_eq_none_iff] at h ⊢
  rwa [← related.length_eq]

end QueryPlan
