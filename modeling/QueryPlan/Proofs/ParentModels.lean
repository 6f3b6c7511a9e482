import QueryPlan.Proofs.LoadableAssociations
import QueryPlan.Proofs.RestrictedQueries

set_option autoImplicit false

/-! # Parents have models

The check of a loaded association begins with the model of its parent. There is always one when the
check gets that far: the first source has a model, because associations are only loaded with its
row, and every other parent is the source of an association that was checked before. So the refusal
for a parent without a model is never given. -/

namespace QueryPlan

/-! ## The walk over loaded associations -/

/-- The check of the loaded associations of a query gets to the one at this position: all those at
    earlier positions have been accepted. -/
structure Query.WalksTo (catalog : Catalog) (q : Query) (path : List Nat) (edge : AssocEdge) :
    Prop where
  stands : AssocForest.EdgeAt 0 q.assocs path edge
  earlier (path' : List Nat) (edge' : AssocEdge) : path' < path →
    AssocForest.EdgeAt 0 q.assocs path' edge' → edge'.check catalog q = .ok ()

namespace Query

variable {catalog : Catalog} {q : Query} {path : List Nat} {edge : AssocEdge}

/-- Loading fails where the walk gets to an association that is refused, and nowhere else. -/
theorem checkPreload_eq_error_iff_walksTo {error : PlanError} :
    q.checkPreload catalog = .error error ↔
      ∃ path edge, q.WalksTo catalog path edge ∧ edge.check catalog q = .error error := by
  rw [checkPreload, (AssocForest.enumerates_edges 0 q.assocs).forM_eq_error_iff]
  constructor
  · rintro ⟨path, edge, hedge, hrefused, hearlier⟩
    exact ⟨path, edge, ⟨hedge, hearlier⟩, hrefused⟩
  · rintro ⟨path, edge, hwalk, hrefused⟩
    exact ⟨path, edge, hwalk.stands, hrefused, hwalk.earlier⟩

/-- An association that is accepted is a parent with a model for those below it. -/
theorem exists_modelAt_of_check (h : edge.check catalog q = .ok ()) :
    ∃ model, q.modelAt edge.binding = some model := by
  rw [AssocEdge.check_eq_ok_iff] at h
  obtain ⟨_, _, association, child, -, -, -, hchild, hrelated⟩ := h.related
  exact ⟨association.related, modelAt_eq_some_iff.2 ⟨child, hchild, hrelated⟩⟩

/-- If the first source has a model, so has every parent that the walk gets to. -/
theorem WalksTo.exists_modelAt_parent (h : q.WalksTo catalog path edge)
    (hroot : q.assocs ≠ [] → ∃ model, q.modelAt 0 = some model) :
    ∃ model, q.modelAt edge.parent = some model := by
  rcases h.stands.exists_parent with hzero | ⟨path', edge', hlt, hedge', hparent⟩
  · rw [hzero]
    exact hroot h.stands.forest_ne_nil
  · rw [← hparent]
    exact exists_modelAt_of_check (h.earlier path' edge' hlt hedge')

theorem lt_length_of_modelAt {index : Nat} {model : ModelName}
    (h : q.modelAt index = some model) : index < q.sources.length := by
  obtain ⟨source, hsource, -⟩ := modelAt_eq_some_iff.1 h
  exact (List.getElem?_eq_some_iff.1 hsource).1

end Query

/-! ## The refusal that is never given -/

/-- The error is that a source without a model was to be the parent of a loaded association. -/
def PlanError.IsParentWithoutModel (error : PlanError) : Prop :=
  ∃ binding table, error = .sourceWithoutModel .preload binding table

namespace Query

variable {catalog : Catalog} {q : Query} {options : Options} {error : PlanError}

theorem not_isParentWithoutModel_of_checkOptions (h : q.checkOptions options = .error error) :
    ¬error.IsParentWithoutModel := by
  rintro ⟨binding, table, rfl⟩
  unfold checkOptions at h
  split at h <;> cases h

theorem not_isParentWithoutModel_of_checkReferences (h : q.checkReferences catalog = .error error) :
    ¬error.IsParentWithoutModel := by
  rintro ⟨binding, table, rfl⟩
  obtain ⟨_, _, _, _, -, -, _, _, -, hinvalid, -⟩ := checkReferences_eq_error_iff.1 h
  cases hinvalid

/-- A column is refused for want of a model as well, but not as a parent. -/
theorem not_isParentWithoutModel_of_projectFor (h : q.projectFor options = .error error) :
    ¬error.IsParentWithoutModel := by
  rintro ⟨binding, table, rfl⟩
  unfold projectFor at h
  split at h
  · cases h
  · rw [project_eq_error_iff] at h
    cases h with
    | column _ hrefused _ => cases hrefused

theorem not_isParentWithoutModel_of_checkPreload (h : q.checkPreload catalog = .error error)
    (hroot : q.assocs ≠ [] → ∃ model, q.modelAt 0 = some model) :
    ¬error.IsParentWithoutModel := by
  rintro ⟨binding, table, rfl⟩
  obtain ⟨path, edge, hwalk, hcheck⟩ := checkPreload_eq_error_iff_walksTo.1 h
  obtain ⟨model, hmodel⟩ := hwalk.exists_modelAt_parent hroot
  cases AssocEdge.refused_of_check hmodel hcheck

end Query

/-! ## Normalization -/

namespace Planner

/-- Normalization gets to the loaded associations: the options admit the query, its references are
    valid, and `projected` is what it is with its placeholders numbered and its select clause filled
    in as the options ask for. -/
structure Projects (planner : Planner) (q : Query) (counter : Nat) (options : Options)
    (projected : Query) : Prop where
  admitted : q.checkOptions options = .ok ()
  references : q.checkReferences planner.catalog = .ok ()
  project : (q.renumber counter).projectFor options = .ok projected

variable {planner : Planner} {q projected : Query} {counter : Nat} {options : Options}

/-- From there on, only the loaded associations are left to be checked. -/
theorem Projects.normalize_eq (h : planner.Projects q counter options projected) :
    planner.normalize q counter options = (do
      projected.checkPreload planner.catalog
      return { query := projected, counter := counter + q.placeholderCount }) := by
  rw [Planner.normalize_eq, h.admitted, h.references, h.project]
  rfl

/-- The first source has a model if anything is to be loaded with its row. A query that may have
    filters only loads nothing; any other has passed the check of its columns. -/
theorem Projects.exists_modelAt_zero (h : planner.Projects q counter options projected)
    (hassocs : projected.assocs ≠ []) : ∃ model, projected.modelAt 0 = some model := by
  have hframe : q.SameFrame projected := by
    rw [Query.eq_of_projectFor h.project]
    exact Query.SameFrame.withSelect (Query.sameFrame_mapExprs _ q) _
  rw [hframe.assocs] at hassocs
  by_cases hfilter : options.filterOnly = true
  · have hadmitted := h.admitted
    unfold Query.checkOptions at hadmitted
    split at hadmitted
    · cases hadmitted
    · next honly =>
      simp only [hfilter, Bool.true_and, Bool.not_eq_true', Bool.not_eq_false] at honly
      exact absurd (Query.hasOnlyFilters_iff.1 honly).assocs hassocs
  · have hproject := h.project
    rw [Query.projectFor, if_neg hfilter] at hproject
    obtain ⟨model, hmodel⟩ := Query.exists_modelAt_zero_of_project hproject hassocs
    refine ⟨model, ?_⟩
    rw [Query.modelAt, hframe.sources]
    exact hmodel

/-- Normalization never reports a parent without a model, whatever the query, its sources and its
    joins. Once it gets to the loaded associations, it fails exactly with the error of one that its
    walk gets to, and wherever this walk gets to, at any depth, the parent is a source of the query
    and has a model. -/
theorem parents_have_models (planner : Planner) (q : Query) (counter : Nat) (options : Options) :
    (∀ binding table, planner.normalize q counter options
        ≠ .error (.sourceWithoutModel .preload binding table)) ∧
      ∀ projected, planner.Projects q counter options projected →
        (∀ error, planner.normalize q counter options = .error error ↔
          ∃ path edge, projected.WalksTo planner.catalog path edge ∧
            edge.check planner.catalog projected = .error error) ∧
        ∀ path edge, projected.WalksTo planner.catalog path edge →
          edge.parent < projected.sources.length ∧
            ∃ model, projected.modelAt edge.parent = some model := by
  refine ⟨fun binding table h => ?_, fun projected hprojects => ⟨fun error => ?_, ?_⟩⟩
  · have hparent : (PlanError.sourceWithoutModel .preload binding table).IsParentWithoutModel :=
      ⟨binding, table, rfl⟩
    rw [normalize_eq, bind_eq_error_iff] at h
    rcases h with h | ⟨⟨⟩, hoptions, h⟩
    · exact Query.not_isParentWithoutModel_of_checkOptions h hparent
    rcases bind_eq_error_iff.1 h with h | ⟨⟨⟩, hreferences, h⟩
    · exact Query.not_isParentWithoutModel_of_checkReferences h hparent
    rcases bind_eq_error_iff.1 h with h | ⟨projected, hproject, h⟩
    · exact Query.not_isParentWithoutModel_of_projectFor h hparent
    rcases bind_eq_error_iff.1 h with h | ⟨_, _, h⟩
    · have hprojects : planner.Projects q counter options projected :=
        ⟨hoptions, hreferences, hproject⟩
      exact Query.not_isParentWithoutModel_of_checkPreload h hprojects.exists_modelAt_zero hparent
    · cases h
  · rw [hprojects.normalize_eq, bind_eq_error_iff, Query.checkPreload_eq_error_iff_walksTo]
    exact or_iff_left fun ⟨_, _, h⟩ => nomatch h
  · intro path edge hwalk
    obtain ⟨model, hmodel⟩ := hwalk.exists_modelAt_parent hprojects.exists_modelAt_zero
    exact ⟨Query.lt_length_of_modelAt hmodel, model, hmodel⟩

/-- Below the managers, the walk gets to an association whose parent is the second source. The one
    below that is refused, but not for its parent. -/
theorem parents_have_models_usersLoading :
    Projects { catalog := staffCatalog } (usersLoading managersUnloadable) 4 {}
        (usersLoadingProjected managersUnloadable) ∧
      (usersLoadingProjected managersUnloadable).WalksTo staffCatalog [0, 0] ⟨1, "manager", 0⟩ ∧
      (∃ model, (usersLoadingProjected managersUnloadable).modelAt 1 = some model) ∧
      ∃ error, normalize { catalog := staffCatalog } (usersLoading managersUnloadable) 4 {}
        = .error error := by
  have hprojects : Projects { catalog := staffCatalog } (usersLoading managersUnloadable) 4 {}
      (usersLoadingProjected managersUnloadable) := ⟨rfl, rfl, rfl⟩
  have hwalk : (usersLoadingProjected managersUnloadable).WalksTo staffCatalog [0, 0]
      ⟨1, "manager", 0⟩ := by
    have hchild (node : AssocNode) :
        AssocForest.EdgeAt 1 [node] [0] ⟨1, node.name, node.binding⟩ := .root rfl
    refine ⟨.child rfl (hchild _), fun path edge hlt hedge => ?_⟩
    cases hedge with
    | @root _ _ i node hnode =>
      -- The only earlier root is the parent itself.
      have hi : i = 0 := by
        rcases List.cons_lt_cons_iff.1 hlt with hi | ⟨hi, -⟩
        · omega
        · exact hi
      subst hi
      cases hnode
      rfl
    | @child _ _ i node rest _ hnode hrest =>
      obtain ⟨j, rest, rfl⟩ := List.exists_cons_of_ne_nil hrest.ne_nil
      rcases List.cons_lt_cons_iff.1 hlt with hi | ⟨-, hj⟩
      · omega
      · rcases List.cons_lt_cons_iff.1 hj with hj | ⟨-, hnil⟩
        · omega
        · exact absurd hnil (List.not_lt_nil _)
  obtain ⟨-, hwalks⟩ := parents_have_models { catalog := staffCatalog }
    (usersLoading managersUnloadable) 4 {}
  obtain ⟨herror, hparents⟩ := hwalks _ hprojects
  obtain ⟨-, hmodel⟩ := hparents _ _ hwalk
  refine ⟨hprojects, hwalk, hmodel, .unsuitableJoin "user" "manager" .right, ?_⟩
  cbv

end Planner

end QueryPlan
