import QueryPlan.Planner
import QueryPlan.Proofs.Projection
import QueryPlan.Proofs.Walks

set_option autoImplicit false

/-! # The stages of planning

What each stage of planning does when it succeeds, in one statement for each: the stages before it
succeed, its checks hold, and this is its result. All that is proved of successful plans starts
here. -/

namespace QueryPlan

/-! ## The two phases -/

namespace Planner

variable {planner : Planner} {q : Query} {options : Options}

/-- The steps of preparation, whatever numbers are counted in: the parameters are cast one by one
    and then numbered. -/
theorem prepareWith_eq (planner : Planner) (counting : Counting) (q : Query) (base : Nat) :
    planner.prepareWith counting q base = (do
      let resolved ← q.resolve planner.catalog
      let values ← resolved.castParams planner.catalog planner.caster
      return { query := resolved.withoutParams
               params := Merged.cut counting (numberedFrom base values) }) := by
  simp only [prepareWith, Query.run_merge, bind_assoc, pure_bind]

theorem prepare_eq (planner : Planner) (q : Query) (base : Nat) :
    planner.prepare q base = (do
      let resolved ← q.resolve planner.catalog
      let values ← resolved.castParams planner.catalog planner.caster
      return { query := resolved.withoutParams, params := numberedFrom base values }) := by
  rw [prepare, prepareWith_eq]
  simp only [Merged.cut_unbounded]

/-- A prepared query is the resolved one without its parameters, which have all been cast. -/
theorem prepare_eq_ok_iff {base : Nat} {p : Prepared} :
    planner.prepare q base = .ok p ↔
      ∃ resolved values, q.resolve planner.catalog = .ok resolved ∧
        resolved.castParams planner.catalog planner.caster = .ok values ∧
        p = { query := resolved.withoutParams, params := numberedFrom base values } := by
  simp only [prepare_eq, bind_eq_ok_iff, pure_eq_ok_iff]
  constructor
  · rintro ⟨resolved, hresolved, values, hvalues, rfl⟩
    exact ⟨resolved, values, hresolved, hvalues, rfl⟩
  · rintro ⟨resolved, values, hresolved, hvalues, rfl⟩
    exact ⟨resolved, hresolved, values, hvalues, rfl⟩

/-- A query is not prepared when it is not resolved or, once it is, a parameter is refused. -/
theorem prepare_eq_error_iff {base : Nat} {e : PlanError} :
    planner.prepare q base = .error e ↔
      q.resolve planner.catalog = .error e ∨
        ∃ resolved, q.resolve planner.catalog = .ok resolved ∧
          resolved.castParams planner.catalog planner.caster = .error e := by
  simp only [prepare_eq, bind_eq_error_iff]
  refine or_congr_right (exists_congr fun resolved => and_congr_right fun _ => ?_)
  exact or_iff_left fun ⟨_, _, h⟩ => nomatch h

/-- The steps of normalization, whatever numbers are counted in: the references are all checked and
    then the placeholders numbered. -/
theorem normalizeWith_eq (planner : Planner) {counting : Counting} (q : Query) {counter : Nat}
    (h : counting.cut counter = counter) (options : Options) :
    planner.normalizeWith counting q counter options = (do
      q.checkOptions options
      q.checkReferences planner.catalog
      let projected ← ((q.renumber counter).rekeyExprs fun _ _ => counting.cut).projectFor options
      projected.checkPreload planner.catalog
      return { query := projected, counter := counting.cut (counter + q.placeholderCount) }) := by
  have hwalk := q.countsOn_assign counting planner.catalog counter
  rw [CountsOn, h] at hwalk
  simp only [normalizeWith, hwalk, Query.projectFor, bind_assoc, pure_bind]
  cases options.filterOnly <;> rfl

/-- The steps of normalization, one after the other. -/
theorem normalize_eq (planner : Planner) (q : Query) (counter : Nat) (options : Options) :
    planner.normalize q counter options = (do
      q.checkOptions options
      q.checkReferences planner.catalog
      let projected ← (q.renumber counter).projectFor options
      projected.checkPreload planner.catalog
      return { query := projected, counter := counter + q.placeholderCount }) := by
  rw [normalize, planner.normalizeWith_eq q rfl, Query.rekeyExprs_unbounded]
  rfl

/-- A normalized query has passed all checks, its placeholders are numbered from the counter on, and
    the counter is moved past them. -/
theorem normalize_eq_ok_iff {counter : Nat} {n : Normalized} :
    planner.normalize q counter options = .ok n ↔
      q.checkOptions options = .ok () ∧ q.checkReferences planner.catalog = .ok () ∧
        (q.renumber counter).projectFor options = .ok n.query ∧
        n.query.checkPreload planner.catalog = .ok () ∧
        n.counter = counter + q.placeholderCount := by
  obtain ⟨query, final⟩ := n
  simp only [normalize_eq, bind_eq_ok_iff, pure_eq_ok_iff, Normalized.mk.injEq]
  constructor
  · rintro ⟨_, hoptions, _, hreferences, _, hselect, _, hpreload, rfl, rfl⟩
    exact ⟨hoptions, hreferences, hselect, hpreload, rfl⟩
  · rintro ⟨hoptions, hreferences, hselect, hpreload, rfl⟩
    exact ⟨(), hoptions, (), hreferences, query, hselect, (), hpreload, rfl, rfl⟩

theorem plan_eq (planner : Planner) (q : Query) (bound : List Value) (options : Options) :
    planner.plan q bound options = (do
      let prepared ← planner.prepare q bound.length
      let normalized ← planner.normalize prepared.query bound.length options
      return { query := normalized.query, params := bound ++ prepared.values }) :=
  rfl

/-- A planned query is the prepared one, normalized behind the values that were bound before. -/
theorem plan_eq_ok_iff {bound : List Value} {p : Plan} :
    planner.plan q bound options = .ok p ↔
      ∃ prepared normalized, planner.prepare q bound.length = .ok prepared ∧
        planner.normalize prepared.query bound.length options = .ok normalized ∧
        p = { query := normalized.query, params := bound ++ prepared.values } := by
  simp only [plan_eq, bind_eq_ok_iff, pure_eq_ok_iff]
  constructor
  · rintro ⟨prepared, hprepared, normalized, hnormalized, rfl⟩
    exact ⟨prepared, normalized, hprepared, hnormalized, rfl⟩
  · rintro ⟨prepared, normalized, hprepared, hnormalized, rfl⟩
    exact ⟨prepared, hprepared, normalized, hnormalized, rfl⟩

/-- Normalization moves the placeholders of each expression past those read before it, and may add
    the row of the first source as the select clause. -/
theorem getElem?_of_normalize {counter : Nat} {n : Normalized}
    (h : planner.normalize q counter options = .ok n) (clause : Clause) (i : Nat) :
    (n.query.clauseExprs clause)[i]?
      = ((q.clauseExprs clause)[i]?.map (·.shift (counter + q.placeholdersBefore clause i))).or
          (options.addedExpr clause i) := by
  obtain ⟨-, -, hproject, -, -⟩ := normalize_eq_ok_iff.1 h
  rw [Query.getElem?_of_projectFor hproject, Query.renumber, Query.clauseExprs_mapExprs,
    List.getElem?_mapIdx]

theorem clauseExprs_of_normalize {counter : Nat} {n : Normalized}
    (h : planner.normalize q counter options = .ok n) (clause : Clause) :
    n.query.clauseExprs clause = (q.clauseExprs clause).mapIdx
        (fun i e => e.shift (counter + q.placeholdersBefore clause i)) ∨
      clause = .select ∧ q.clauseExprs clause = [] ∧
        n.query.clauseExprs clause = [{ expr := .binding 0 }] := by
  by_cases hadded : clause = .select ∧ options.filterOnly = false ∧ q.clauseExprs clause = []
  · obtain ⟨rfl, hfilter, hnil⟩ := hadded
    refine .inr ⟨rfl, hnil, List.ext_getElem? fun i => ?_⟩
    rw [getElem?_of_normalize h, hnil]
    cases i <;> simp [Options.addedExpr, hfilter]
  · refine .inl (List.ext_getElem? fun i => ?_)
    rw [getElem?_of_normalize h, List.getElem?_mapIdx]
    by_cases hplace : clause = .select ∧ i = 0 ∧ options.filterOnly = false
    -- Where one could be added, the clause has an expression.
    · obtain ⟨rfl, rfl, hfilter⟩ := hplace
      cases hexprs : q.clauseExprs .select with
      | nil => exact absurd ⟨rfl, hfilter, hexprs⟩ hadded
      | cons e es => rfl
    · rw [Options.addedExpr, if_neg hplace, Option.or_none]

theorem parts_of_normalize {counter : Nat} {n : Normalized}
    (h : planner.normalize q counter options = .ok n) :
    n.query = { q.renumber counter with select := n.query.select } :=
  Query.eq_of_projectFor (normalize_eq_ok_iff.1 h).2.2.1

/-- Nothing else but the expressions and the select clause is written. -/
theorem sameFrame_of_normalize {counter : Nat} {n : Normalized}
    (h : planner.normalize q counter options = .ok n) : q.SameFrame n.query := by
  have hframe : q.SameFrame (q.renumber counter) := Query.sameFrame_mapExprs _ q
  rw [parts_of_normalize h]
  exact hframe.withSelect n.query.select

theorem sources_of_normalize {counter : Nat} {n : Normalized}
    (h : planner.normalize q counter options = .ok n) : n.query.sources = q.sources :=
  (sameFrame_of_normalize h).sources

/-- A restricted query has no select clause. Any other has one with its fields filled in, none of
    which is the row of a source without a model. -/
theorem select_of_normalize {counter : Nat} {n : Normalized}
    (h : planner.normalize q counter options = .ok n) :
    options.filterOnly = true ∧ n.query.select = none ∨
      options.filterOnly = false ∧ ∃ s : Select,
        n.query.select = some (s.withFields n.query.assocs) ∧
        ∀ leaf ∈ s.expr.expr.leaves, leaf.checkColumn n.query.sources = .ok () := by
  obtain ⟨hoptions, -, hproject, -, -⟩ := normalize_eq_ok_iff.1 h
  unfold Query.projectFor at hproject
  split at hproject
  · next hfilter =>
    -- The guard has let the query pass, so it selects nothing.
    have hnone := Query.select_eq_none_of_checkOptions hoptions hfilter
    refine .inl ⟨hfilter, ?_⟩
    rw [← Except.ok.inj hproject]
    simp [Query.renumber, Query.mapExprs, hnone]
  · next hfilter =>
    obtain ⟨hcolumns, -, hquery⟩ := Query.project_eq_ok_iff.1 hproject
    rw [hquery]
    exact .inr ⟨Bool.not_eq_true _ ▸ hfilter, _, rfl, hcolumns⟩

end Planner

/-! ## A small schema -/

/-- Users with an age, and the posts they have written, which have a price. -/
def postCatalog : Catalog where
  table
    | "user" => some "users"
    | "post" => some "posts"
    | _ => none
  fieldType
    | "user", "id" => some .id
    | "user", "age" => some .integer
    | "post", "author" => some .id
    | "post", "price" => some .decimal
    | _, _ => none
  association
    | "user", "posts" => some { related := "post", ownerKey := "id", relatedKey := "author" }
    | _, _ => none

end QueryPlan
