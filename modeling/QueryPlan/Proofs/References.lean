import QueryPlan.Proofs.ReadingOrder
import QueryPlan.Proofs.Trees

set_option autoImplicit false

/-! # Valid references

The check of references accepts exactly the queries in which every source and every field that an
expression mentions, at any depth, can be read. -/

namespace QueryPlan

/-! ## Sources -/

theorem sourceAt_eq_ok_iff {clause : Clause} {sources : List Source} {binding : Nat}
    {source : Source} :
    sourceAt clause sources binding = .ok source ↔ sources[binding]? = some source := by
  unfold sourceAt
  cases sources[binding]? with
  | none => simp
  | some s => simp

theorem sourceAt_eq_error_iff {clause : Clause} {sources : List Source} {binding : Nat}
    {e : PlanError} :
    sourceAt clause sources binding = .error e ↔
      sources[binding]? = none ∧ e = .bindingOutOfRange clause binding sources.length := by
  unfold sourceAt
  cases sources[binding]? with
  | none => simp [eq_comm]
  | some s => simp

/-- What is done with a source fails if there is no such source, or if it fails on the one there
    is. -/
theorem sourceAt_bind_eq_error_iff {α : Type} {clause : Clause} {sources : List Source}
    {binding : Nat} {f : Source → Except PlanError α} {e : PlanError} :
    sourceAt clause sources binding >>= f = .error e ↔
      (sources.length ≤ binding ∧ e = .bindingOutOfRange clause binding sources.length) ∨
        ∃ source, sources[binding]? = some source ∧ f source = .error e := by
  simp only [bind_eq_error_iff, sourceAt_eq_error_iff, sourceAt_eq_ok_iff,
    List.getElem?_eq_none_iff]

/-- There is a source with this index, and it has a model. -/
def HasModel (sources : List Source) (binding : Nat) : Prop :=
  ∃ source model, sources[binding]? = some source ∧ source.model = some model

theorem HasModel.lt_length {sources : List Source} {binding : Nat}
    (h : HasModel sources binding) : binding < sources.length := by
  obtain ⟨source, _, hsource, -⟩ := h
  exact (List.getElem?_eq_some_iff.1 hsource).1

/-! ## References -/

/-- A field can be read: its source exists and, if that has a model, declares the field with a type
    that is compatible with the expected one. -/
def FieldAccess.Valid (catalog : Catalog) (sources : List Source) (access : FieldAccess) : Prop :=
  ∃ source, sources[access.binding]? = some source ∧
    ∀ model, source.model = some model →
      ∃ actual, catalog.fieldType model access.name = some actual ∧
        ∀ expected, access.expected = some expected → actual.compatible expected = true

/-- All that an expression mentions, at any depth, can be read. -/
structure Expr.Valid (catalog : Catalog) (sources : List Source) (e : Expr) : Prop where
  binding : ∀ index, e.Occurs (.binding index) → index < sources.length
  field : ∀ access, e.Occurs (.field access) → access.Valid catalog sources

theorem FieldAccess.check_eq_ok_iff {catalog : Catalog} {sources : List Source} {clause : Clause}
    {location : Location} {access : FieldAccess} :
    access.check catalog sources clause location = .ok () ↔ access.Valid catalog sources := by
  simp only [FieldAccess.check, bind_eq_ok_iff, sourceAt_eq_ok_iff, FieldAccess.Valid]
  refine exists_congr fun source => and_congr_right fun _ => ?_
  cases hmodel : source.model with
  | none => simp
  | some model =>
    cases htype : catalog.fieldType model access.name with
    | none => simp [htype]
    | some actual =>
      cases hexpected : access.expected with
      | none => simp [htype]
      | some expected => simp [htype]

theorem Reference.check_eq_ok_iff {catalog : Catalog} {sources : List Source} {clause : Clause}
    {location : Location} {r : Reference} :
    r.check catalog sources clause location = .ok () ↔
      match r with
      | .binding index => index < sources.length
      | .field access => access.Valid catalog sources := by
  cases r with
  | binding index =>
    simp only [Reference.check, bind_eq_ok_iff, sourceAt_eq_ok_iff, pure_eq_ok_iff, and_true]
    constructor
    · rintro ⟨source, h⟩
      exact (List.getElem?_eq_some_iff.1 h).1
    · intro h
      exact ⟨_, List.getElem?_eq_getElem h⟩
  | field access => exact FieldAccess.check_eq_ok_iff

/-! ## Expressions and queries -/

theorem ClauseExpr.checkReferences_eq_ok_iff {catalog : Catalog} {sources : List Source}
    {clause : Clause} {e : ClauseExpr} :
    e.checkReferences catalog sources clause = .ok () ↔ e.expr.Valid catalog sources := by
  rw [ClauseExpr.checkReferences, forM_eq_ok_iff]
  simp only [Reference.check_eq_ok_iff, Expr.references, List.mem_filterMap, Expr.mem_atoms_iff]
  constructor
  · intro h
    exact ⟨fun index hoccurs => h (.binding index) ⟨_, hoccurs, rfl⟩,
      fun access hoccurs => h (.field access) ⟨_, hoccurs, rfl⟩⟩
  · rintro h r ⟨atom, hoccurs, hr⟩
    cases atom with
    | binding index =>
      cases hr
      exact h.binding index hoccurs
    | field access =>
      cases hr
      exact h.field access hoccurs
    | placeholder key => cases hr
    | literal value => cases hr

theorem Query.checkReferences_eq_ok_iff {catalog : Catalog} {q : Query} :
    q.checkReferences catalog = .ok () ↔
      ∀ clause, ∀ e ∈ q.clauseExprs clause, e.expr.Valid catalog q.sources := by
  rw [Query.checkReferences, forM_eq_ok_iff]
  simp only [ClauseExpr.checkReferences_eq_ok_iff]
  exact ⟨fun h clause e he => h (clause, e) (Query.mem_exprs.2 he),
    fun h row hrow => h row.1 row.2 (Query.mem_exprs.1 hrow)⟩

/-- The checks of two queries have the same outcome if those of the expressions in each clause
    have. -/
theorem Query.checkReferences_congr {catalog : Catalog} {p q : Query}
    (h : ∀ clause, List.Forall₂ (fun e e' => e.checkReferences catalog p.sources clause
      = e'.checkReferences catalog q.sources clause) (p.clauseExprs clause)
      (q.clauseExprs clause)) : p.checkReferences catalog = q.checkReferences catalog := by
  refine forM_eq_of_forall₂ ((Query.exprs_forall₂ h).imp ?_)
  rintro ⟨clause, e⟩ ⟨_, e'⟩ ⟨rfl, hsame⟩
  exact hsame

/-- Moving placeholders changes nothing that can be read. -/
theorem Expr.Valid.shift {catalog : Catalog} {sources : List Source} {e : Expr}
    (h : e.Valid catalog sources) (offset : Nat) : (e.shift offset).Valid catalog sources := by
  -- An atom that refers to something is the same before the shift.
  have hoccurs (a : Atom) (r : Reference) (hr : a.reference? = some r)
      (ha : (e.shift offset).Occurs a) : e.Occurs a := by
    rw [← Expr.mem_atoms_iff, Expr.shift, Expr.atoms_mapAtoms, List.mem_map] at ha
    obtain ⟨b, hb, rfl⟩ := ha
    rw [← Expr.mem_atoms_iff]
    cases b with
    | placeholder key => cases hr
    | binding index | field access | literal value => exact hb
  exact ⟨fun index ha => h.binding index (hoccurs _ _ rfl ha),
    fun access ha => h.field access (hoccurs _ _ rfl ha)⟩

/-! ## Output columns -/

/-- A column may be selected unless it is the row of a source without a model. -/
theorem Expr.checkColumn_eq_ok_iff {sources : List Source} {e : Expr} :
    e.checkColumn sources = .ok () ↔ ∀ index, e = .binding index → HasModel sources index := by
  unfold Expr.checkColumn
  split
  · next index =>
    rw [bind_eq_ok_iff]
    simp only [sourceAt_eq_ok_iff, Expr.atom.injEq, Atom.binding.injEq, forall_eq', HasModel]
    refine exists_congr fun source => ?_
    cases hmodel : source.model with
    | none => simp
    | some model => simp [pure_eq_ok_iff]
  · next hne =>
    refine ⟨fun _ index h => ?_, fun _ => rfl⟩
    exact absurd h (hne index)

theorem Expr.Occurs.of_mem_leaves {a : Atom} {e leaf : Expr} (hleaf : leaf ∈ e.leaves)
    (h : leaf.Occurs a) : e.Occurs a := by
  rw [← Expr.mem_atoms_iff, ← e.flatMap_atoms_leaves, List.mem_flatMap]
  exact ⟨leaf, hleaf, Expr.mem_atoms_iff.2 h⟩

theorem Expr.Valid.of_mem_leaves {catalog : Catalog} {sources : List Source} {e leaf : Expr}
    (h : e.Valid catalog sources) (hleaf : leaf ∈ e.leaves) : leaf.Valid catalog sources :=
  ⟨fun index ha => h.binding index (.of_mem_leaves hleaf ha),
    fun access ha => h.field access (.of_mem_leaves hleaf ha)⟩

/-- Groups are taken apart, at any depth. -/
theorem Expr.isGroup_of_mem_leaves {e : Expr} {form : Form} {args : List Expr}
    (h : .node form args ∈ e.leaves) : form.isGroup = false := by
  induction e using Expr.induction with
  | atom a =>
    rw [Expr.leaves, List.mem_singleton] at h
    cases h
  | node form' args' ih =>
    rw [Expr.leaves] at h
    split at h
    · rw [Expr.leavesAll_eq_flatMap, List.mem_flatMap] at h
      obtain ⟨arg, harg, h⟩ := h
      exact ih arg harg h
    · next hgroup =>
      rw [List.mem_singleton] at h
      cases h
      exact Bool.not_eq_true _ ▸ hgroup

end QueryPlan
