import Mathlib
import QueryPlan.Proofs.Parameters
import QueryPlan.Proofs.Resolution
import QueryPlan.Proofs.Stages

set_option autoImplicit false

/-! # The order of parameters

A parameter belongs to the placeholder with its number, so it does not matter where in the list of
its expression it stands. Merging takes the parameters of an expression by their numbers, and
resolution hands the list of each expression on as it is. So queries whose parameters are listed in
other orders are planned alike, and if a parameter is refused it is the same one in each order. -/

namespace QueryPlan

/-! ## Expressions -/

/-- No two parameters of the expression have the same number. -/
def ClauseExpr.DistinctKeys (e : ClauseExpr) : Prop :=
  (e.params.map Prod.fst).Nodup

/-- Sorting by distinct numbers leaves no trace of the order before. -/
theorem ClauseExpr.sortedParams_eq_of_perm {e e' : ClauseExpr} (hkeys : e.DistinctKeys)
    (h : e.params.Perm e'.params) : e.sortedParams = e'.sortedParams := by
  have hperm : e.sortedParams.Perm e'.sortedParams :=
    (e.sortedParams_perm.trans h).trans e'.sortedParams_perm.symm
  refine hperm.eq_of_pairwise ?_ e.pairwise_sortedParams e'.pairwise_sortedParams
  intro row row' hrow hrow' hle hge
  have hmem : row ∈ e.params := e.sortedParams_perm.mem_iff.1 hrow
  have hmem' : row' ∈ e.params := e.sortedParams_perm.mem_iff.1 (hperm.mem_iff.2 hrow')
  exact List.inj_on_of_nodup_map hkeys hmem hmem' (Nat.le_antisymm hle hge)

/-! ## Queries -/

/-- Two queries that differ at most in the order in which the parameters of each expression are
    listed. -/
structure Query.Relisted (q q' : Query) : Prop where
  rest : q.withoutParams = q'.withoutParams
  params (clause : Clause) : List.Forall₂ (fun e e' => e.params.Perm e'.params)
    (q.clauseExprs clause) (q'.clauseExprs clause)

/-- No expression of the query has two parameters with the same number. -/
def Query.DistinctKeys (q : Query) : Prop :=
  ∀ clause, ∀ e ∈ q.clauseExprs clause, e.DistinctKeys

/-- Resolution neither looks at parameters nor drops any. -/
theorem Query.resolve_withoutParams (catalog : Catalog) (q : Query) :
    q.withoutParams.resolve catalog = (q.resolve catalog).map Query.withoutParams := by
  refine Query.resolve_mapExprs (fun _ e condition => ?_) q
  simp only [ClauseExpr.onlyIf, ClauseExpr.withoutParams]
  split <;> rfl

namespace Query.Relisted

variable {q q' : Query}

/-- The parameters come in the same order when they are merged. -/
theorem paramUses_eq (h : q.Relisted q') (hkeys : q.DistinctKeys) :
    q'.paramUses = q.paramUses := by
  refine Query.paramUses_congr fun clause => ?_
  have hrest : List.Forall₂ (fun e e' => e.withoutParams = e'.withoutParams)
      (q.clauseExprs clause) (q'.clauseExprs clause) := by
    have hclause := congrArg (·.clauseExprs clause) h.rest
    simp only [Query.clauseExprs_withoutParams] at hclause
    rwa [← List.forall₂_eq_eq_eq, List.forall₂_map_left_iff, List.forall₂_map_right_iff] at hclause
  refine forall₂_imp_of_mem (forall₂_and_iff.2 ⟨hrest, h.params clause⟩) ?_
  rintro e he e' ⟨hsame, hperm⟩
  have hsorted := ClauseExpr.sortedParams_eq_of_perm (hkeys clause e he) hperm
  have hlocation := congrArg ClauseExpr.location hsame
  simp only [ClauseExpr.withoutParams] at hlocation
  rw [ClauseExpr.paramUses, ClauseExpr.paramUses, hsorted, hlocation]

/-- Both queries are resolved to queries that agree without their parameters and have the same
    parameters to merge, or neither is, for the same reason. -/
theorem resolve (h : q.Relisted q') (hkeys : q.DistinctKeys) (catalog : Catalog) :
    ResultRel Eq (fun r r' => r.withoutParams = r'.withoutParams ∧ r'.paramUses = r.paramUses)
      (q.resolve catalog) (q'.resolve catalog) := by
  have hrest : (q.resolve catalog).map Query.withoutParams
      = (q'.resolve catalog).map Query.withoutParams := by
    rw [← Query.resolve_withoutParams, h.rest, Query.resolve_withoutParams]
  refine (ResultRel.of_map_eq hrest).imp fun r r' hr hr' hsame => ⟨hsame, ?_⟩
  have hparams := (Query.resolvesTo_of_resolve hr).paramUses
  have hparams' := (Query.resolvesTo_of_resolve hr').paramUses
  rw [hparams', h.paramUses_eq hkeys, hparams]

end Query.Relisted

/-! ## Planning -/

namespace Planner

theorem prepare_of_relisted {q q' : Query} (h : q.Relisted q') (hkeys : q.DistinctKeys)
    (planner : Planner) (base : Nat) : planner.prepare q base = planner.prepare q' base := by
  have hresolve := h.resolve hkeys planner.catalog
  rw [prepare_eq, prepare_eq]
  generalize q.resolve planner.catalog = resolved at hresolve ⊢
  generalize q'.resolve planner.catalog = resolved' at hresolve ⊢
  cases hresolve with
  | error he =>
    subst he
    rfl
  | @ok r r' hr =>
    obtain ⟨hrest, hparams⟩ := hr
    have hsources := congrArg Query.sources hrest
    simp only [Query.withoutParams, Query.sources_mapExprs] at hsources
    have hcast : r.castParams planner.catalog planner.caster
        = r'.castParams planner.catalog planner.caster := by
      rw [Query.castParams, Query.castParams, hparams, hsources]
    show (r.castParams planner.catalog planner.caster >>= _)
      = (r'.castParams planner.catalog planner.caster >>= _)
    rw [hcast, hrest]

/-- Whatever order the parameters of each expression are listed in, their numbers being distinct, a
    query is prepared with the same result, behind any base: the same query and with it the same
    key, the same parameters under the same numbers, or the same error. So it is planned with the
    same result behind any values and with any options. -/
theorem same_plan_of_relisted (planner : Planner) (q q' : Query) (h : q.Relisted q')
    (hkeys : q.DistinctKeys) :
    (∀ base, planner.prepare q base = planner.prepare q' base) ∧
      ∀ bound options, planner.plan q bound options = planner.plan q' bound options := by
  have hprepare := prepare_of_relisted h hkeys planner
  refine ⟨hprepare, fun bound options => ?_⟩
  rw [plan_eq, plan_eq, hprepare]

/-- Users of three ages with the posts of two authors. All parameters are listed in the order of
    their numbers, or none is in its place. -/
def usersByNumbers (inOrder : Bool) (age : Nat → Value) : Query where
  fromRef := some (.model "user")
  joins := [⟨.left, .association 0 "posts", {
    expr := .node (.apply .or) [.eq (.field 1 "author") (.placeholder 0),
      .eq (.field 1 "author") (.placeholder 1)]
    params :=
      let author (key : Nat) (value : Value) := (key, ⟨value, .ofField 1 "author"⟩)
      if inOrder then [author 0 (.int 7), author 1 (.text "8")]
      else [author 1 (.text "8"), author 0 (.int 7)]
    location := ⟨"users", 4⟩ }⟩]
  filters := [{
    expr := .node (.apply .member) [.field 0 "age",
      .node .list [.placeholder 2, .placeholder 1, .placeholder 0]]
    params :=
      let age (key : Nat) := (key, ⟨age key, .ofField 0 "age"⟩)
      if inOrder then [age 0, age 1, age 2] else [age 2, age 0, age 1]
    location := ⟨"users", 5⟩ }]

theorem relisted_usersByNumbers (age : Nat → Value) :
    (usersByNumbers false age).Relisted (usersByNumbers true age) := by
  refine ⟨rfl, fun clause => ?_⟩
  cases clause with
  | join => exact .cons (.swap _ _ _) .nil
  | filter => exact .cons ((List.Perm.swap _ _ _).trans ((List.Perm.swap _ _ _).cons _)) .nil
  | select | distinct | groupBy | having | orderBy | limit | offset => exact .nil

theorem distinctKeys_usersByNumbers (age : Nat → Value) :
    (usersByNumbers false age).DistinctKeys := by
  intro clause
  cases clause <;> simp [usersByNumbers, Query.clauseExprs, ClauseExpr.DistinctKeys]

/-- Three good ages, and three ages of which the last two are refused. -/
theorem same_plan_of_relisted_usersByNumbers :
    let planner : Planner := { catalog := postCatalog }
    let good (key : Nat) : Value := if key = 0 then .text "30" else .int 40
    let bad (key : Nat) : Value :=
      if key = 0 then .int 30 else if key = 1 then .text "old" else .null
    let refused := .error (.invalidParam .filter (.text "old") (.plain .integer)
      (some ("user", "age")) ⟨"users", 5⟩)
    (∀ age, (usersByNumbers false age).Relisted (usersByNumbers true age) ∧
        (usersByNumbers false age).DistinctKeys) ∧
      planner.prepare (usersByNumbers false good) 3 = planner.prepare (usersByNumbers true good) 3 ∧
      (planner.prepare (usersByNumbers true good) 3).map (·.params)
        = .ok [(3, .int 7), (4, .int 8), (5, .int 30), (6, .int 40), (7, .int 40)] ∧
      planner.plan (usersByNumbers true bad) [.null] {} = refused ∧
      planner.plan (usersByNumbers false bad) [.null] {} = refused := by
  intro planner good bad refused
  obtain ⟨hprepare, -⟩ := same_plan_of_relisted planner _ _ (relisted_usersByNumbers good)
    (distinctKeys_usersByNumbers good)
  obtain ⟨-, hplan⟩ := same_plan_of_relisted planner _ _ (relisted_usersByNumbers bad)
    (distinctKeys_usersByNumbers bad)
  have hrefused : planner.plan (usersByNumbers true bad) [.null] {} = refused := by
    cbv
  refine ⟨fun age => ⟨relisted_usersByNumbers age, distinctKeys_usersByNumbers age⟩,
    hprepare 3, ?_, hrefused, ?_⟩
  · cbv
  · rw [hplan, hrefused]

end Planner

end QueryPlan
