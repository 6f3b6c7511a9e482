import QueryPlan.Proofs.OutputColumns

set_option autoImplicit false

/-! # Loadable associations

Which associations can be loaded is a question to each node of the forest and its parent alone, at
any depth: the association is declared on the model of the parent, the node reads a source with the
related model, and the join of this source keeps parent rows. A query that gets as far as this check
is normalized exactly if all its nodes pass, and otherwise reports the first one that does not. -/

namespace QueryPlan

variable {catalog : Catalog} {q : Query} {edge : AssocEdge}

theorem Query.modelAt_eq_some_iff {index : Nat} {model : ModelName} :
    q.modelAt index = some model ↔
      ∃ source, q.sources[index]? = some source ∧ source.model = some model := by
  rw [Query.modelAt, Option.bind_eq_some_iff]

theorem Query.joinOf_eq_some_iff {index : Nat} {join : Join} :
    q.joinOf index = some join ↔ 1 ≤ index ∧ q.joins[index - 1]? = some join := by
  cases index with
  | zero => simp [Query.joinOf]
  | succ position => simp [Query.joinOf]

/-! ## Associations that can be loaded -/

/-- An association that can be loaded leads from the model of its parent to the model of its source.
    This is the first source, or that of a join which keeps parent rows. -/
structure AssocEdge.Loadable (catalog : Catalog) (q : Query) (edge : AssocEdge) : Prop where
  related : ∃ model association, q.modelAt edge.parent = some model ∧
    catalog.association model edge.name = some association ∧
    edge.binding < q.sources.length ∧ q.modelAt edge.binding = some association.related
  joined : edge.binding = 0 ∨ q.KeepsParents edge.binding

theorem AssocEdge.loadable_iff_valid (hlength : q.sources.length = 1 + q.joins.length) :
    edge.Loadable catalog q ↔ edge.Valid catalog q := by
  constructor
  · rintro ⟨⟨model, association, hparent, hassociation, -, hchild⟩, hjoined⟩
    obtain ⟨parent, hparent, hmodel⟩ := Query.modelAt_eq_some_iff.1 hparent
    obtain ⟨child, hchild, hrelated⟩ := Query.modelAt_eq_some_iff.1 hchild
    refine ⟨⟨parent, model, association, child, hparent, hmodel, hassociation, hchild, hrelated⟩,
      fun join hjoin => ?_⟩
    obtain ⟨hpos, hjoin⟩ := Query.joinOf_eq_some_iff.1 hjoin
    rcases hjoined with hzero | ⟨-, -, join', hjoin', hkind⟩
    · omega
    · rw [hjoin] at hjoin'
      cases hjoin'
      exact JoinKind.allowsPreload_iff.2 hkind
  · intro hvalid
    obtain ⟨parent, model, association, child, hparent, hmodel, hassociation, hchild, hrelated⟩ :=
      hvalid.related
    have hbound := (List.getElem?_eq_some_iff.1 hchild).1
    exact ⟨⟨model, association, Query.modelAt_eq_some_iff.2 ⟨parent, hparent, hmodel⟩, hassociation,
      hbound, Query.modelAt_eq_some_iff.2 ⟨child, hchild, hrelated⟩⟩, hvalid.keepsParents hlength⟩

/-! ## Associations that cannot -/

/-- The reasons why an association of a parent with a model cannot be loaded, each of which holds
    only if those before it do not. -/
inductive AssocEdge.Refused (catalog : Catalog) (q : Query) (edge : AssocEdge) : PlanError → Prop
  | undeclared {model : ModelName} :
    q.modelAt edge.parent = some model → catalog.association model edge.name = none →
    Refused catalog q edge (.notAnAssociation model edge.name)
  | outOfRange {model : ModelName} {association : Association} :
    q.modelAt edge.parent = some model → catalog.association model edge.name = some association →
    q.sources.length ≤ edge.binding →
    Refused catalog q edge (.bindingOutOfRange .select edge.binding q.sources.length)
  | otherModel {model : ModelName} {association : Association} :
    q.modelAt edge.parent = some model → catalog.association model edge.name = some association →
    edge.binding < q.sources.length → q.modelAt edge.binding ≠ some association.related →
    Refused catalog q edge
      (.associationMismatch model edge.name association.related (q.modelAt edge.binding))
  | losesParents {model : ModelName} {association : Association} {join : Join} :
    q.modelAt edge.parent = some model → catalog.association model edge.name = some association →
    q.modelAt edge.binding = some association.related →
    1 ≤ edge.binding → q.joins[edge.binding - 1]? = some join →
    join.kind ≠ .inner → join.kind ≠ .left →
    Refused catalog q edge (.unsuitableJoin model edge.name join.kind)

theorem AssocEdge.Refused.check_eq_error {error : PlanError} (h : edge.Refused catalog q error) :
    edge.check catalog q = .error error := by
  cases h with
  | undeclared hmodel hassociation =>
    obtain ⟨parent, hparent, hmodel⟩ := Query.modelAt_eq_some_iff.1 hmodel
    simp [check, sourceAt, bind, Except.bind, hparent, hmodel, hassociation]
  | outOfRange hmodel hassociation hle =>
    obtain ⟨parent, hparent, hmodel⟩ := Query.modelAt_eq_some_iff.1 hmodel
    have hnone := List.getElem?_eq_none_iff.2 hle
    simp [check, sourceAt, bind, Except.bind, hparent, hmodel, hassociation, hnone]
  | otherModel hmodel hassociation hlt hrelated =>
    obtain ⟨parent, hparent, hmodel⟩ := Query.modelAt_eq_some_iff.1 hmodel
    have hchild := List.getElem?_eq_getElem hlt
    simp only [Query.modelAt, hchild, Option.bind_some] at hrelated ⊢
    simp [check, sourceAt, bind, Except.bind, hparent, hmodel, hassociation, hchild, hrelated]
  | losesParents hmodel hassociation hrelated hpos hjoin hinner hleft =>
    obtain ⟨parent, hparent, hmodel⟩ := Query.modelAt_eq_some_iff.1 hmodel
    obtain ⟨child, hchild, hrelated⟩ := Query.modelAt_eq_some_iff.1 hrelated
    have hjoin := Query.joinOf_eq_some_iff.2 ⟨hpos, hjoin⟩
    have hloses := mt JoinKind.allowsPreload_iff.1 (not_or.2 ⟨hinner, hleft⟩)
    simp [check, sourceAt, bind, Except.bind, hparent, hmodel, hassociation, hchild, hrelated,
      hjoin, hloses]

/-- If the parent has a model, the check fails for no other reason. -/
theorem AssocEdge.refused_of_check {model : ModelName} {error : PlanError}
    (hmodel : q.modelAt edge.parent = some model) (h : edge.check catalog q = .error error) :
    edge.Refused catalog q error := by
  obtain ⟨parent, hparent, hsome⟩ := Query.modelAt_eq_some_iff.1 hmodel
  simp only [check, sourceAt_eq_ok_iff.2 hparent, bind, Except.bind, hsome] at h
  split at h
  · next hnone =>
    cases h
    exact .undeclared hmodel hnone
  · next association hassociation =>
    rcases sourceAt_bind_eq_error_iff.1 h with ⟨hle, rfl⟩ | ⟨child, hchild, h⟩
    · exact .outOfRange hmodel hassociation hle
    · have hbound := (List.getElem?_eq_some_iff.1 hchild).1
      have hat : q.modelAt edge.binding = child.model := by simp [Query.modelAt, hchild]
      rw [← hat] at h
      by_cases hrelated : q.modelAt edge.binding = some association.related
      · rw [if_neg (not_not.2 hrelated)] at h
        split at h
        · cases h
        · next join hjoin =>
          obtain ⟨hpos, hjoin⟩ := Query.joinOf_eq_some_iff.1 hjoin
          split at h
          · cases h
          · next hloses =>
            cases h
            rw [JoinKind.allowsPreload_iff, not_or] at hloses
            exact .losesParents hmodel hassociation hrelated hpos hjoin hloses.1 hloses.2
      · rw [if_pos hrelated] at h
        cases h
        exact .otherModel hmodel hassociation hbound hrelated

/-! ## Forests -/

namespace Query

/-- All associations of a query can be loaded. -/
def AllLoadable (catalog : Catalog) (q : Query) : Prop :=
  ∀ path edge, AssocForest.EdgeAt 0 q.assocs path edge → edge.Loadable catalog q

/-- The first association of a query that cannot be loaded is refused with this error. -/
def FirstUnloadable (catalog : Catalog) (q : Query) (error : PlanError) : Prop :=
  ∃ path edge, AssocForest.EdgeAt 0 q.assocs path edge ∧ edge.Refused catalog q error ∧
    ∀ path' edge', path' < path → AssocForest.EdgeAt 0 q.assocs path' edge' →
      edge'.Loadable catalog q

theorem checkPreload_eq_ok_iff_allLoadable (hlength : q.sources.length = 1 + q.joins.length) :
    q.checkPreload catalog = .ok () ↔ q.AllLoadable catalog := by
  rw [checkPreload, (AssocForest.enumerates_edges 0 q.assocs).forM_eq_ok_iff]
  simp only [AssocEdge.check_eq_ok_iff, ← AssocEdge.loadable_iff_valid hlength]
  exact Iff.rfl

theorem checkPreload_eq_error_iff (hlength : q.sources.length = 1 + q.joins.length)
    (hroot : q.assocs ≠ [] → ∃ model, q.modelAt 0 = some model) {error : PlanError} :
    q.checkPreload catalog = .error error ↔ q.FirstUnloadable catalog error := by
  rw [checkPreload, (AssocForest.enumerates_edges 0 q.assocs).forM_eq_error_iff]
  simp only [AssocEdge.check_eq_ok_iff, ← AssocEdge.loadable_iff_valid hlength]
  refine exists_congr fun path => exists_congr fun edge => and_congr_right fun hedge => ?_
  refine and_congr_left fun hearlier => ⟨fun h => ?_, fun h => h.check_eq_error⟩
  -- The parent is the first source, or that of an earlier node, which can be loaded.
  have hparent : ∃ model, q.modelAt edge.parent = some model := by
    rcases hedge.exists_parent with hzero | ⟨path', edge', hlt, hedge', hparent⟩
    · rw [hzero]
      exact hroot hedge.forest_ne_nil
    · obtain ⟨-, association, -, -, -, hmodel⟩ := (hearlier path' edge' hlt hedge').related
      rw [← hparent]
      exact ⟨_, hmodel⟩
  obtain ⟨model, hmodel⟩ := hparent
  exact AssocEdge.refused_of_check hmodel h

/-- Nothing is loaded without the row of the first source, which has a model. -/
theorem exists_modelAt_zero_of_project {projected : Query} (h : q.project = .ok projected)
    (hassocs : q.assocs ≠ []) : ∃ model, q.modelAt 0 = some model := by
  obtain ⟨hcolumns, hrow, -⟩ := project_eq_ok_iff.1 h
  obtain ⟨leaf, hleaf, hfrom⟩ := List.any_eq_true.1 (hrow hassocs)
  have hcheck := hcolumns leaf hleaf
  rw [Expr.checkColumn_eq_ok_iff] at hcheck
  obtain ⟨source, model, hsource, hmodel⟩ := hcheck 0 (Expr.isFromRow_iff.1 hfrom)
  exact ⟨model, modelAt_eq_some_iff.2 ⟨source, hsource, hmodel⟩⟩

end Query

/-! ## Loaded associations in normalization -/

namespace Planner

/-- With the options by default, a query with a join for each source but the first, whose references
    are valid and whose columns can be selected, is normalized exactly if all its associations can
    be loaded. It fails exactly with the error of the first that cannot. -/
theorem preload_exact (planner : Planner) (q : Query) (counter : Nat) (projected : Query)
    (hlength : q.sources.length = 1 + q.joins.length)
    (hreferences : q.checkReferences planner.catalog = .ok ())
    (hproject : (q.renumber counter).project = .ok projected) :
    ((∃ n, planner.normalize q counter {} = .ok n) ↔ q.AllLoadable planner.catalog) ∧
      ∀ error, planner.normalize q counter {} = .error error ↔
        q.FirstUnloadable planner.catalog error := by
  have hprojectFor : (q.renumber counter).projectFor {} = .ok projected := hproject
  have hframe : q.SameFrame projected := by
    rw [Query.eq_of_projectFor hprojectFor]
    exact Query.SameFrame.withSelect (Query.sameFrame_mapExprs _ q) _
  have hnormalize : planner.normalize q counter {} = (do
      q.checkPreload planner.catalog
      return { query := projected, counter := counter + q.placeholderCount }) := by
    rw [normalize_eq, hreferences, hprojectFor,
      ← Query.checkPreload_congr hframe.assocs hframe.sources hframe.joins]
    rfl
  have hroot := Query.exists_modelAt_zero_of_project hproject
  rw [hnormalize]
  refine ⟨?_, fun error => ?_⟩
  · rw [← Query.checkPreload_eq_ok_iff_allLoadable hlength]
    simp only [bind_eq_ok_iff, pure_eq_ok_iff]
    constructor
    · intro h
      obtain ⟨_, _, hpreload, _⟩ := h
      exact hpreload
    · intro hpreload
      exact ⟨_, (), hpreload, rfl⟩
  · rw [← Query.checkPreload_eq_error_iff hlength hroot, bind_eq_error_iff]
    exact or_iff_left fun ⟨_, _, h⟩ => nomatch h

/-- Users, their managers and any other users. Only the first join keeps parent rows. -/
def usersLoading (assocs : AssocForest) : Query where
  fromRef := some (.model "user")
  joins := [⟨.left, .explicit (.model "user"), .always⟩,
    ⟨.right, .explicit (.model "user"), .always⟩]
  sources := [⟨"users", some "user"⟩, ⟨"users", some "user"⟩, ⟨"users", some "user"⟩]
  assocs

/-- `usersLoading`, normalized. -/
def usersLoadingProjected (assocs : AssocForest) : Query :=
  { usersLoading assocs with
    select := some (Select.withFields { expr := { expr := .binding 0 } } assocs) }

/-- Associations that lead back to the first source and from there to the second one. -/
def managersLoadable : AssocForest :=
  [⟨"manager", 0, []⟩, ⟨"manager", 1, [⟨"manager", 0, [⟨"manager", 1, []⟩]⟩]⟩]

/-- The third source cannot be loaded at any depth. The association to the right of it is not even
    declared. -/
def managersUnloadable : AssocForest :=
  [⟨"manager", 1, [⟨"manager", 0, [⟨"manager", 2, []⟩]⟩]⟩, ⟨"reports", 9, []⟩]

theorem preload_exact_usersLoading :
    (∀ assocs, (usersLoading assocs).sources.length = 1 + (usersLoading assocs).joins.length ∧
        (usersLoading assocs).checkReferences staffCatalog = .ok () ∧
        ((usersLoading assocs).renumber 4).project = .ok (usersLoadingProjected assocs)) ∧
      (usersLoading managersLoadable).AllLoadable staffCatalog ∧
      (usersLoading managersUnloadable).FirstUnloadable staffCatalog
        (.unsuitableJoin "user" "manager" .right) := by
  have hlength (assocs : AssocForest) :
      (usersLoading assocs).sources.length = 1 + (usersLoading assocs).joins.length := rfl
  have hreferences (assocs : AssocForest) :
      (usersLoading assocs).checkReferences staffCatalog = .ok () := by
    rfl
  have hproject (assocs : AssocForest) :
      ((usersLoading assocs).renumber 4).project = .ok (usersLoadingProjected assocs) := by
    cases assocs <;> rfl
  obtain ⟨hloadable, -⟩ := preload_exact { catalog := staffCatalog } _ 4 _
    (hlength managersLoadable) (hreferences _) (hproject _)
  obtain ⟨-, herror⟩ := preload_exact { catalog := staffCatalog } _ 4 _
    (hlength managersUnloadable) (hreferences _) (hproject _)
  refine ⟨fun assocs => ⟨hlength assocs, hreferences assocs, hproject assocs⟩,
    hloadable.1 ⟨{ query := usersLoadingProjected managersLoadable, counter := 4 }, ?_⟩,
    (herror _).1 ?_⟩
  · cbv
  · cbv

end Planner

end QueryPlan
