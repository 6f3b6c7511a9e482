import QueryPlan.Proofs.JoinedAssociations
import QueryPlan.Proofs.Positions

set_option autoImplicit false

/-! # Output columns

The fields of a select clause are its output columns, each in its place: those that stand in the
select expression from left to right, however deep in tuples and lists, and before them the rows of
the loaded associations, each before those below it. Only the row of the first source changes
places. Wherever and however often it is selected, it is read once, as the first field. -/

namespace QueryPlan

variable {sources : List Source} {assocs : AssocForest}

/-! ## Fields -/

/-- The select expression of a query whose placeholders are numbered from `counter` on. No other
    expression is read before it. A query without one selects the row of its first source. -/
def Query.selected (counter : Nat) (q : Query) : ClauseExpr :=
  match q.select with
  | none => { expr := .binding 0 }
  | some s => s.expr.shift counter

theorem Query.selectOrDefault_renumber (counter : Nat) (q : Query) :
    (q.renumber counter).selectOrDefault.expr = q.selected counter := by
  -- Select is the first of all clauses.
  have hbefore : q.placeholdersBefore .select 0 = 0 := rfl
  cases hselect : q.select with
  | none => simp [selectOrDefault, selected, renumber, mapExprs, hselect]
  | some s => simp [selectOrDefault, selected, renumber, mapExprs, hselect, hbefore]

/-- The select clause has the given expression, and its fields are the output columns of this and
    the rows of the loaded associations. -/
structure Select.Lists (s : Select) (selected : ClauseExpr) (assocs : AssocForest) : Prop where
  expr : s.expr = selected
  includesFrom : s.includesFrom = true ↔ ∃ path, selected.expr.ColumnAt path (.binding 0)
  fields : ∃ rows columns,
    Enumerates rows (fun path index =>
      ∃ edge, AssocForest.EdgeAt 0 assocs path edge ∧ edge.binding = index) ∧
    Enumerates columns (fun path column =>
      selected.expr.ColumnAt path column ∧ column ≠ .binding 0) ∧
    s.assocCount = rows.length ∧
    s.fields = (if s.includesFrom then [.binding 0] else []) ++ rows.map .binding ++ columns

theorem Expr.any_isFromRow_iff {e : Expr} :
    e.leaves.any Expr.isFromRow = true ↔ ∃ path, e.ColumnAt path (.binding 0) := by
  rw [List.any_eq_true, ← e.enumerates_leaves.mem_iff]
  constructor
  · rintro ⟨leaf, hleaf, hrow⟩
    rwa [← Expr.isFromRow_iff.1 hrow]
  · intro hleaf
    exact ⟨_, hleaf, rfl⟩

theorem Select.lists_withFields (s : Select) (assocs : AssocForest) :
    (s.withFields assocs).Lists s.expr assocs := by
  have hedges := AssocForest.enumerates_edges 0 assocs
  have hcolumns := s.expr.expr.enumerates_leaves.filter fun leaf => !leaf.isFromRow
  refine ⟨rfl, Expr.any_isFromRow_iff, AssocForest.bindings assocs, _, ?_, hcolumns.congr ?_, rfl,
    rfl⟩
  · rw [← AssocForest.map_binding_edges 0]
    exact hedges.map (·.binding)
  · intro path column
    rw [Bool.not_eq_true', ← Bool.not_eq_true, Expr.isFromRow_iff]

/-! ## Refused columns -/

/-- The reasons why the row of a source cannot be an output column: there is no such source, or it
    has no model. -/
inductive RowRefused (sources : List Source) (index : Nat) : PlanError → Prop
  | outOfRange : sources.length ≤ index →
    RowRefused sources index (.bindingOutOfRange .select index sources.length)
  | withoutModel {source : Source} : sources[index]? = some source → source.model = none →
    RowRefused sources index (.sourceWithoutModel .select index source.table)

theorem RowRefused.not_hasModel {index : Nat} {error : PlanError}
    (h : RowRefused sources index error) : ¬HasModel sources index := by
  rintro ⟨source, model, hsource, hmodel⟩
  cases h with
  | outOfRange hle =>
    rw [List.getElem?_eq_none hle] at hsource
    cases hsource
  | withoutModel hsource' hnone =>
    obtain rfl := Option.some.inj (hsource.symm.trans hsource')
    rw [hmodel] at hnone
    cases hnone

theorem Expr.checkColumn_eq_error_iff {e : Expr} {error : PlanError} :
    e.checkColumn sources = .error error ↔
      ∃ index, e = .binding index ∧ RowRefused sources index error := by
  unfold Expr.checkColumn
  split
  · next index =>
    rw [sourceAt_bind_eq_error_iff]
    constructor
    · intro h
      rcases h with ⟨hle, rfl⟩ | ⟨source, hsource, h⟩
      · exact ⟨index, rfl, .outOfRange hle⟩
      · split at h
        · cases h
        · next hmodel =>
          cases h
          exact ⟨index, rfl, .withoutModel hsource hmodel⟩
    · rintro ⟨_, heq, hrefused⟩
      cases heq
      cases hrefused with
      | outOfRange hle => exact .inl ⟨hle, rfl⟩
      | withoutModel hsource hmodel =>
        refine .inr ⟨_, hsource, ?_⟩
        simp only [hmodel]
  · next hne =>
    constructor
    · intro h
      cases h
    · rintro ⟨index, rfl, -⟩
      exact absurd rfl (hne index)

/-- The reasons why the columns of an expression cannot be the fields of a query. The first column
    that is refused is reported, whether or not the row of the first source is missing. -/
inductive Expr.ProjectionRefused (sources : List Source) (assocs : AssocForest) (e : Expr) :
    PlanError → Prop
  | column {path : List Nat} {index : Nat} {error : PlanError} :
    e.ColumnAt path (.binding index) → RowRefused sources index error →
    (∀ path' index', path' < path → e.ColumnAt path' (.binding index') →
      HasModel sources index') →
    ProjectionRefused sources assocs e error
  | fromNotSelected :
    (∀ path index, e.ColumnAt path (.binding index) → HasModel sources index) →
    assocs ≠ [] → (∀ path, ¬e.ColumnAt path (.binding 0)) →
    ProjectionRefused sources assocs e .fromNotSelected

/-- A column is accepted unless it is the row of a source without a model. -/
theorem Expr.checkColumns_eq_ok_iff {e : Expr} {u : Unit} :
    e.leaves.forM (Expr.checkColumn sources) = .ok u ↔
      ∀ path index, e.ColumnAt path (.binding index) → HasModel sources index := by
  rw [e.enumerates_leaves.forM_eq_ok_iff]
  simp only [Expr.checkColumn_eq_ok_iff]
  constructor
  · intro h path index hcolumn
    exact h path _ hcolumn index rfl
  · rintro h path _ hcolumn index rfl
    exact h path index hcolumn

theorem Expr.checkColumns_eq_error_iff {e : Expr} {error : PlanError} :
    e.leaves.forM (Expr.checkColumn sources) = .error error ↔
      ∃ path index, e.ColumnAt path (.binding index) ∧ RowRefused sources index error ∧
        ∀ path' index', path' < path → e.ColumnAt path' (.binding index') →
          HasModel sources index' := by
  rw [e.enumerates_leaves.forM_eq_error_iff]
  simp only [Expr.checkColumn_eq_error_iff, Expr.checkColumn_eq_ok_iff]
  constructor
  · rintro ⟨path, _, hcolumn, ⟨index, rfl, hrefused⟩, hearlier⟩
    exact ⟨path, index, hcolumn, hrefused, fun path' index' hlt hcolumn' =>
      hearlier path' _ hlt hcolumn' index' rfl⟩
  · rintro ⟨path, index, hcolumn, hrefused, hearlier⟩
    refine ⟨path, _, hcolumn, ⟨index, rfl, hrefused⟩, ?_⟩
    rintro path' _ hlt hcolumn' index' rfl
    exact hearlier path' index' hlt hcolumn'

namespace Query

variable {q : Query}

theorem project_eq_error_iff {error : PlanError} :
    q.project = .error error ↔
      q.selectOrDefault.expr.expr.ProjectionRefused q.sources q.assocs error := by
  unfold project
  rw [bind_eq_error_iff, Expr.checkColumns_eq_error_iff]
  simp only [Expr.checkColumns_eq_ok_iff]
  constructor
  · intro h
    rcases h with ⟨path, index, hcolumn, hrefused, hearlier⟩ | ⟨_, hcolumns, h⟩
    · exact .column hcolumn hrefused hearlier
    · by_cases hmissing : (!q.assocs.isEmpty
          && !q.selectOrDefault.expr.expr.leaves.any Expr.isFromRow) = true
      · rw [if_pos hmissing] at h
        cases h
        simp only [Bool.and_eq_true, Bool.not_eq_true', ← Bool.not_eq_true,
          Expr.any_isFromRow_iff, List.isEmpty_iff, not_exists] at hmissing
        exact .fromNotSelected hcolumns hmissing.1 hmissing.2
      · rw [if_neg hmissing] at h
        cases h
  · intro h
    cases h with
    | column hcolumn hrefused hearlier => exact .inl ⟨_, _, hcolumn, hrefused, hearlier⟩
    | fromNotSelected hcolumns hassocs hrow =>
      refine .inr ⟨(), hcolumns, if_pos ?_⟩
      simp only [Bool.and_eq_true, Bool.not_eq_true', ← Bool.not_eq_true,
        Expr.any_isFromRow_iff, List.isEmpty_iff, not_exists]
      exact ⟨hassocs, hrow⟩

/-- There is a reason to refuse the columns of a query exactly if some row is refused, or the row of
    the first source is missing. -/
theorem exists_project_eq_error_iff :
    (∃ error, q.project = .error error) ↔
      (∃ path index error, q.selectOrDefault.expr.expr.ColumnAt path (.binding index) ∧
          RowRefused q.sources index error) ∨
        q.assocs ≠ [] ∧ ∀ path, ¬q.selectOrDefault.expr.expr.ColumnAt path (.binding 0) := by
  simp only [project_eq_error_iff]
  constructor
  · rintro ⟨error, h⟩
    cases h with
    | column hcolumn hrefused _ => exact .inl ⟨_, _, _, hcolumn, hrefused⟩
    | fromNotSelected _ hassocs hrow => exact .inr ⟨hassocs, hrow⟩
  · intro h
    -- Either the columns are all accepted, or there is a first one that is not.
    cases hcheck : q.selectOrDefault.expr.expr.leaves.forM (Expr.checkColumn q.sources) with
    | error error =>
      obtain ⟨_, _, hcolumn, hrefused, hearlier⟩ := Expr.checkColumns_eq_error_iff.1 hcheck
      exact ⟨error, .column hcolumn hrefused hearlier⟩
    | ok =>
      have hcolumns := Expr.checkColumns_eq_ok_iff.1 hcheck
      rcases h with ⟨path, index, _, hcolumn, hrefused⟩ | ⟨hassocs, hrow⟩
      · exact absurd (hcolumns path index hcolumn) hrefused.not_hasModel
      · exact ⟨_, .fromNotSelected hcolumns hassocs hrow⟩

end Query

/-! ## The select clause in normalization -/

namespace Planner

/-- With the options by default, a normalized query reads exactly the output columns of its select
    expression and the rows of its loaded associations. The select clause is refused exactly if a
    column is, or if associations are loaded without the row that they hang on, and reports the
    first refused column if there is one. -/
theorem columns_exact (planner : Planner) (q : Query) (counter : Nat) :
    (∀ n, planner.normalize q counter {} = .ok n →
        ∃ s, n.query.select = some s ∧ s.Lists (q.selected counter) q.assocs) ∧
      ((∃ error, (q.renumber counter).project = .error error) ↔
        (∃ path index error, (q.selected counter).expr.ColumnAt path (.binding index) ∧
            RowRefused q.sources index error) ∨
          q.assocs ≠ [] ∧ ∀ path, ¬(q.selected counter).expr.ColumnAt path (.binding 0)) ∧
      (∀ error, (q.renumber counter).project = .error error ↔
        (q.selected counter).expr.ProjectionRefused q.sources q.assocs error) ∧
      (q.checkReferences planner.catalog = .ok () → ∀ error,
        (q.selected counter).expr.ProjectionRefused q.sources q.assocs error →
          planner.normalize q counter {} = .error error) := by
  have hselected := q.selectOrDefault_renumber counter
  have herror (error : PlanError) : (q.renumber counter).project = .error error ↔
      (q.selected counter).expr.ProjectionRefused q.sources q.assocs error := by
    rw [Query.project_eq_error_iff, hselected]
    exact Iff.rfl
  refine ⟨fun n h => ?_, ?_, herror, fun hreferences error hrefused => ?_⟩
  · obtain ⟨-, -, hproject, -, -⟩ := normalize_eq_ok_iff.1 h
    obtain ⟨-, -, hquery⟩ := Query.project_eq_ok_iff.1 hproject
    refine ⟨_, congrArg Query.select hquery, ?_⟩
    rw [← hselected]
    exact Select.lists_withFields _ _
  · rw [Query.exists_project_eq_error_iff, hselected]
    exact Iff.rfl
  · have hproject : (q.renumber counter).projectFor {} = .error error := (herror error).2 hrefused
    rw [normalize_eq, hreferences, hproject]
    rfl

/-- `usersWithManagers` with some columns. Their own rows are selected twice, inside of others. -/
def managersByColumns : Query where
  fromRef := some (.model "user")
  joins := [⟨.left, .association 0 "manager", .always⟩]
  sources := [⟨"users", some "user"⟩, ⟨"users", some "user"⟩]
  select := some { expr := { expr := .node .tuple [
    .field 1 "id",
    .node .list [.binding 0, .node .tuple [.eq (.placeholder 0) (.binding 0), .binding 1]],
    .binding 0] } }
  assocs := [⟨"manager", 1, [⟨"manager", 0, []⟩]⟩, ⟨"manager", 1, []⟩]

/-- The audit log has no model, so its rows are no columns; nor is there a column for the rows of
    the users, with which the associations are to be loaded. -/
def managersByAudits : Query where
  fromRef := some (.model "user")
  joins := [⟨.cross, .explicit (.table "audits"), .always⟩]
  sources := [⟨"users", some "user"⟩, ⟨"audits", none⟩]
  select := some { expr := { expr := .node .list [.field 0 "id", .node .tuple [.binding 1]] } }
  assocs := [⟨"manager", 0, []⟩]

theorem columns_exact_managers :
    (∃ n s, normalize { catalog := staffCatalog } managersByColumns 4 {} = .ok n ∧
        n.query.select = some s ∧
        s.Lists (managersByColumns.selected 4) managersByColumns.assocs ∧
        s.includesFrom = true ∧ s.assocCount = 3 ∧
        s.fields = [.binding 0, .binding 1, .binding 0, .binding 1, .field 1 "id",
          .eq (.placeholder 4) (.binding 0), .binding 1]) ∧
      managersByAudits.checkReferences staffCatalog = .ok () ∧
      (managersByAudits.selected 4).expr.ProjectionRefused managersByAudits.sources
        managersByAudits.assocs (.sourceWithoutModel .select 1 "audits") ∧
      normalize { catalog := staffCatalog } managersByAudits 4 {}
        = .error (.sourceWithoutModel .select 1 "audits") := by
  have hcheck : managersByAudits.checkReferences staffCatalog = .ok () := by
    cbv
  have hproject : (managersByAudits.renumber 4).project
      = .error (.sourceWithoutModel .select 1 "audits") := by
    cbv
  obtain ⟨-, -, herror, hnormalize⟩ :=
    columns_exact { catalog := staffCatalog } managersByAudits 4
  have hrefused := (herror _).1 hproject
  have hn : normalize { catalog := staffCatalog } managersByColumns 4 {} = .ok {
      query := { managersByColumns.renumber 4 with select := some {
        expr := managersByColumns.selected 4
        fields := [.binding 0, .binding 1, .binding 0, .binding 1, .field 1 "id",
          .eq (.placeholder 4) (.binding 0), .binding 1]
        includesFrom := true
        assocCount := 3 } }
      counter := 5 } := by
    cbv
  obtain ⟨hlists, -⟩ := columns_exact { catalog := staffCatalog } managersByColumns 4
  obtain ⟨s, hs, hs'⟩ := hlists _ hn
  cases hs
  exact ⟨⟨_, _, hn, rfl, hs', rfl, rfl, rfl⟩, hcheck, hrefused, hnormalize hcheck _ hrefused⟩

end Planner

end QueryPlan
