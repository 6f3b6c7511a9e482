import Mathlib
import QueryPlan.Proofs.Parallel
import QueryPlan.Proofs.Positions

set_option autoImplicit false

/-! # Invalid references

A query is refused for its first reference that cannot be read. Clauses and their expressions come
in the reading order; within an expression the first reference is the one at the first position of
its tree, however deep it stands. Placeholders and literals have no part in this, and neither has
the number from which placeholders are counted. -/

namespace QueryPlan

variable {catalog : Catalog} {sources : List Source} {clause : Clause} {location : Location}

/-! ## Atoms -/

/-- What an atom refers to, if it refers to something, can be read. -/
def Atom.Valid (catalog : Catalog) (sources : List Source) : Atom → Prop
  | .binding index => index < sources.length
  | .field access => access.Valid catalog sources
  | .placeholder _ | .literal _ => True

/-- The reasons why an atom cannot be read, in an expression of some clause: its source does not
    exist, or the model of its source does not declare the field, or not with a type that is
    compatible with the expected one. -/
inductive Atom.Invalid (catalog : Catalog) (sources : List Source) (clause : Clause)
    (location : Location) : Atom → PlanError → Prop
  | binding {index : Nat} : sources.length ≤ index →
    Invalid catalog sources clause location (.binding index)
      (.bindingOutOfRange clause index sources.length)
  | fieldOfNoSource {access : FieldAccess} : sources.length ≤ access.binding →
    Invalid catalog sources clause location (.field access)
      (.bindingOutOfRange clause access.binding sources.length)
  | unknownField {access : FieldAccess} {source : Source} {model : ModelName} :
    sources[access.binding]? = some source → source.model = some model →
    catalog.fieldType model access.name = none →
    Invalid catalog sources clause location (.field access)
      (.unknownField clause model access.name location)
  | typeMismatch {access : FieldAccess} {source : Source} {model : ModelName}
    {actual expected : FieldType} :
    sources[access.binding]? = some source → source.model = some model →
    catalog.fieldType model access.name = some actual → access.expected = some expected →
    actual.compatible expected = false →
    Invalid catalog sources clause location (.field access)
      (.typeMismatch clause model access.name actual expected location)

theorem FieldAccess.check_eq_error_iff {access : FieldAccess} {error : PlanError} :
    access.check catalog sources clause location = .error error ↔
      (Atom.field access).Invalid catalog sources clause location error := by
  rw [FieldAccess.check, sourceAt_bind_eq_error_iff]
  constructor
  · intro h
    rcases h with ⟨hle, rfl⟩ | ⟨source, hsource, h⟩
    · exact .fieldOfNoSource hle
    · split at h
      · cases h
      · next model hmodel =>
        split at h
        · next htype =>
          cases h
          exact .unknownField hsource hmodel htype
        · next actual htype =>
          split at h
          · cases h
          · next expected hexpected =>
            by_cases hcompatible : actual.compatible expected = true
            · simp [hcompatible] at h
            · rw [if_neg hcompatible] at h
              cases h
              exact .typeMismatch hsource hmodel htype hexpected (by simpa using hcompatible)
  · intro h
    cases h with
    | fieldOfNoSource hle => exact .inl ⟨hle, rfl⟩
    | unknownField hsource hmodel htype =>
      refine .inr ⟨_, hsource, ?_⟩
      simp only [hmodel, htype]
    | typeMismatch hsource hmodel htype hexpected hcompatible =>
      refine .inr ⟨_, hsource, ?_⟩
      simp [hmodel, htype, hexpected, hcompatible]

/-- An atom is valid if the check of what it refers to succeeds, or it refers to nothing. -/
theorem Atom.valid_iff {a : Atom} :
    a.Valid catalog sources ↔ ∀ r, a.reference? = some r →
      r.check catalog sources clause location = .ok () := by
  cases a <;> simp [Atom.Valid, Atom.reference?, Reference.check_eq_ok_iff]

theorem Atom.invalid_iff {a : Atom} {error : PlanError} :
    a.Invalid catalog sources clause location error ↔
      ∃ r, a.reference? = some r ∧ r.check catalog sources clause location = .error error := by
  cases a with
  | binding index =>
    simp only [Atom.reference?, Option.some.injEq, exists_eq_left', Reference.check,
      sourceAt_bind_eq_error_iff]
    constructor
    · intro h
      cases h with
      | binding hle => exact .inl ⟨hle, rfl⟩
    · intro h
      rcases h with ⟨hle, rfl⟩ | ⟨_, _, h⟩
      · exact .binding hle
      · cases h
  | field access =>
    simp only [Atom.reference?, Option.some.injEq, exists_eq_left', Reference.check,
      FieldAccess.check_eq_error_iff]
  | placeholder key | literal value =>
    constructor
    · intro h
      cases h
    · rintro ⟨r, hr, -⟩
      cases hr

/-! ## Expressions -/

/-- The error is that of the first position in an expression whose atom cannot be read. -/
def Expr.FirstInvalid (catalog : Catalog) (sources : List Source) (clause : Clause)
    (location : Location) (e : Expr) (error : PlanError) : Prop :=
  ∃ path a, e.AtomAt path a ∧ a.Invalid catalog sources clause location error ∧
    ∀ path' b, path' < path → e.AtomAt path' b → b.Valid catalog sources

theorem ClauseExpr.checkReferences_eq_error_iff {e : ClauseExpr} {error : PlanError} :
    e.checkReferences catalog sources clause = .error error ↔
      e.expr.FirstInvalid catalog sources clause e.location error := by
  have hreferences := e.expr.enumerates_atoms.filterMap Atom.reference?
  rw [ClauseExpr.checkReferences, Expr.references, hreferences.forM_eq_error_iff]
  constructor
  · rintro ⟨path, r, ⟨a, ha, hr⟩, hcheck, hearlier⟩
    refine ⟨path, a, ha, Atom.invalid_iff.2 ⟨r, hr, hcheck⟩, fun path' b hlt hb => ?_⟩
    exact Atom.valid_iff.2 fun r' hr' => hearlier path' r' hlt ⟨b, hb, hr'⟩
  · rintro ⟨path, a, ha, hinvalid, hearlier⟩
    obtain ⟨r, hr, hcheck⟩ := Atom.invalid_iff.1 hinvalid
    refine ⟨path, r, ⟨a, ha, hr⟩, hcheck, ?_⟩
    rintro path' r' hlt ⟨b, hb, hr'⟩
    exact Atom.valid_iff.1 (hearlier path' b hlt hb) r' hr'

/-! ## Queries -/

/-- The error is that of the first expression, in reading order, in which something cannot be
    read. -/
def Query.FirstInvalid (catalog : Catalog) (q : Query) (error : PlanError) : Prop :=
  ∃ before clause e after, q.exprs = before ++ (clause, e) :: after ∧
    (∀ row ∈ before, row.2.expr.Valid catalog q.sources) ∧
    e.expr.FirstInvalid catalog q.sources clause e.location error

theorem Query.checkReferences_eq_error_iff {q : Query} {error : PlanError} :
    q.checkReferences catalog = .error error ↔ q.FirstInvalid catalog error := by
  rw [Query.checkReferences, forM_eq_error_iff]
  simp only [ClauseExpr.checkReferences_eq_ok_iff, ClauseExpr.checkReferences_eq_error_iff]
  constructor
  · rintro ⟨before, ⟨clause, e⟩, after, hexprs, hbefore, hinvalid⟩
    exact ⟨before, clause, e, after, hexprs, hbefore, hinvalid⟩
  · rintro ⟨before, clause, e, after, hexprs, hbefore, hinvalid⟩
    exact ⟨before, (clause, e), after, hexprs, hbefore, hinvalid⟩

/-- Queries that refer to the same things in the same places. All else about their expressions may
    differ: the numbers of placeholders, the literals, and which of the two stands in a place. -/
structure Query.SameReferences (p q : Query) : Prop where
  sources : p.sources = q.sources
  exprs : ∀ clause, List.Forall₂
    (fun e e' : ClauseExpr => e.location = e'.location ∧ e.expr.Parallel e'.expr)
    (p.clauseExprs clause) (q.clauseExprs clause)

theorem Query.SameReferences.checkReferences_eq {p q : Query} (h : p.SameReferences q)
    (catalog : Catalog) : p.checkReferences catalog = q.checkReferences catalog := by
  refine Query.checkReferences_congr fun clause => (h.exprs clause).imp ?_
  rintro e e' ⟨hlocation, hparallel⟩
  rw [ClauseExpr.checkReferences, ClauseExpr.checkReferences, Expr.Parallel.references_eq hparallel,
    h.sources, hlocation]

/-! ## References in normalization -/

namespace Planner

/-- The check of references accepts exactly the queries in which everything that is mentioned can be
    read, and reports exactly the first reference that cannot. It treats queries that refer to the
    same things alike. Normalization from any number on, once it admits a query, fails with this
    error, or leaves the query to the later stages with its placeholders numbered. -/
theorem checkReferences_exact (planner : Planner) (q : Query) :
    (q.checkReferences planner.catalog = .ok () ↔
        ∀ clause, ∀ e ∈ q.clauseExprs clause, e.expr.Valid planner.catalog q.sources) ∧
      (∀ error, q.checkReferences planner.catalog = .error error ↔
        q.FirstInvalid planner.catalog error) ∧
      (∀ p : Query, p.SameReferences q →
        p.checkReferences planner.catalog = q.checkReferences planner.catalog) ∧
      ∀ counter options, q.checkOptions options = .ok () →
        (∀ error, q.FirstInvalid planner.catalog error →
          planner.normalize q counter options = .error error) ∧
        ((∀ clause, ∀ e ∈ q.clauseExprs clause, e.expr.Valid planner.catalog q.sources) →
          planner.normalize q counter options = (do
            let projected ← (q.renumber counter).projectFor options
            projected.checkPreload planner.catalog
            return { query := projected, counter := counter + q.placeholderCount })) := by
  refine ⟨Query.checkReferences_eq_ok_iff, fun error => Query.checkReferences_eq_error_iff,
    fun p h => h.checkReferences_eq planner.catalog, fun counter options hoptions => ⟨?_, ?_⟩⟩
  · intro error hinvalid
    rw [normalize_eq, hoptions, Query.checkReferences_eq_error_iff.2 hinvalid]
    rfl
  · intro hvalid
    rw [normalize_eq, hoptions, Query.checkReferences_eq_ok_iff.2 hvalid]
    rfl

/-- Users with some columns and a condition. Two things cannot be read: a column of the select
    clause is the name of a user, which is not declared, and the condition mentions a source that
    does not exist. -/
def usersWithNames (shown : Value) (key : Nat) : Query where
  fromRef := some (.model "user")
  filters := [{ expr := .eq (.binding 3) (.placeholder key), location := ⟨"users", 9⟩ }]
  select := some { expr := {
    expr := .node .tuple [.binding 0, .node (.apply .max) [.placeholder key, .node .list [
      .literal shown, .atom (.field { binding := 0, name := "age", expected := some .id }),
      .field 0 "name", .field 7 "id"]]]
    location := ⟨"users", 2⟩ } }
  sources := [⟨"users", some "user"⟩]

theorem checkReferences_exact_usersWithNames :
    (usersWithNames .null 0).checkOptions {} = .ok () ∧
      (usersWithNames .null 0).FirstInvalid postCatalog
        (.unknownField .select "user" "name" ⟨"users", 2⟩) ∧
      normalize { catalog := postCatalog } (usersWithNames .null 0) 5 {}
        = .error (.unknownField .select "user" "name" ⟨"users", 2⟩) ∧
      (usersWithNames (.int 4) 8).SameReferences (usersWithNames .null 0) ∧
      (usersWithNames (.int 4) 8).checkReferences postCatalog
        = .error (.unknownField .select "user" "name" ⟨"users", 2⟩) := by
  have hoptions : (usersWithNames .null 0).checkOptions {} = .ok () := rfl
  have hsame : (usersWithNames (.int 4) 8).SameReferences (usersWithNames .null 0) := by
    refine ⟨rfl, fun clause => ?_⟩
    cases clause with
    | select =>
      refine .cons ⟨rfl, .node _ (.cons (.atom rfl) (.cons (.node _ ?_) .nil))⟩ .nil
      have hrest (es : List Expr) : List.Forall₂ Expr.Parallel es es :=
        List.forall₂_same.2 fun e _ => .refl e
      exact .cons (.atom rfl) (.cons (.node _ (.cons (.atom rfl) (hrest _))) .nil)
    | filter => exact .cons ⟨rfl, .node _ (.cons (.atom rfl) (.cons (.atom rfl) .nil))⟩ .nil
    | distinct | join | groupBy | having | orderBy | limit | offset => exact .nil
  obtain ⟨-, herror, hcongr, hnormalize⟩ :=
    checkReferences_exact { catalog := postCatalog } (usersWithNames .null 0)
  have hcheck : (usersWithNames .null 0).checkReferences postCatalog
      = .error (.unknownField .select "user" "name" ⟨"users", 2⟩) := by
    cbv
  have hinvalid := (herror _).1 hcheck
  exact ⟨hoptions, hinvalid, (hnormalize 5 {} hoptions).1 _ hinvalid, hsame,
    (hcongr _ hsame).trans hcheck⟩

end Planner

end QueryPlan
