import Mathlib
import QueryPlan.Proofs.AssociationJoins
import QueryPlan.Proofs.Parameters
import QueryPlan.Query.Building

set_option autoImplicit false

/-! # Joinable schemas

A schema that is valid answers all that joins through its associations need, in every query. And it
has to be valid for that: the plain join through an association, with nothing else in the query, can
only be planned if the validation accepts the association. -/

namespace QueryPlan

variable {catalog : Catalog}

/-! ## The plain join -/

/-- The rows of a model with those behind one of its associations. -/
def Query.joinThrough (model : ModelName) (kind : JoinKind) (name : String) : Query :=
  (Query.ofSource (.model model)).build (.joinAssociation kind 0 name .always)

/-- `Query.joinThrough`, resolved. -/
def Association.joined (association : Association) (model : ModelName) (kind : JoinKind)
    (table relatedTable : String) : Query where
  fromRef := some (.model model)
  joins := [{
    kind
    target := .explicit (.modelAt relatedTable association.related)
    on := { expr := association.keysEqual 1 0 } }]
  sources := [{ table, model := some model },
    { table := relatedTable, model := some association.related }]

theorem Query.resolve_joinThrough_eq_ok_iff {model : ModelName} {kind : JoinKind} {name : String}
    {r : Query} :
    (Query.joinThrough model kind name).resolve catalog = .ok r ↔
      ∃ table association relatedTable, catalog.table model = some table ∧
        catalog.association model name = some association ∧
        catalog.table association.related = some relatedTable ∧
        r = association.joined model kind table relatedTable := by
  constructor
  · intro h
    obtain ⟨ref, first, joins, more, href, hfirst, hjoins, rfl⟩ := Query.resolve_eq_ok_iff.1 h
    obtain ⟨joined, source, _, _, hjoin, hnil, rfl, rfl⟩ := resolveJoins_cons_eq_ok_iff.1 hjoins
    cases href
    cases hnil
    cases hfirst with
    | @model _ table htable =>
      cases hjoin with
      | explicit htarget _ => cases htarget
      | @association _ _ _ _ association relatedTable htarget howner hmodel hassociation
          hrelated =>
        cases htarget
        cases howner
        cases hmodel
        exact ⟨table, association, relatedTable, htable, hassociation, hrelated, rfl⟩
  · rintro ⟨table, association, relatedTable, htable, hassociation, hrelated, rfl⟩
    refine Query.resolve_eq_ok_iff.2 ⟨.model model, _, _, _, rfl, .model htable, ?_, rfl⟩
    exact resolveJoins_cons_eq_ok_iff.2
      ⟨_, _, [], [], .association rfl rfl rfl hassociation hrelated, rfl, rfl, rfl⟩

/-- The plain join through an association that can be joined passes all stages. -/
theorem Association.Joinable.exists_plan {planner : Planner} {association : Association}
    {model : ModelName} {table name : String} (h : association.Joinable planner.catalog model)
    (htable : planner.catalog.table model = some table)
    (hassociation : planner.catalog.association model name = some association)
    (kind : JoinKind) (bound : List Value) :
    ∃ p, planner.plan (Query.joinThrough model kind name) bound {} = .ok p := by
  obtain ⟨relatedTable, hrelated⟩ := h.related
  have hresolve : (Query.joinThrough model kind name).resolve planner.catalog
      = .ok (association.joined model kind table relatedTable) :=
    Query.resolve_joinThrough_eq_ok_iff.2
      ⟨table, association, relatedTable, htable, hassociation, hrelated, rfl⟩
  generalize hr : association.joined model kind table relatedTable = r at hresolve
  have hvalues : r.castParams planner.catalog planner.caster = .ok [] := by
    refine Query.castParams_of_paramCount_eq_zero ?_
    rw [← hr]
    rfl
  have hreferences : r.withoutParams.checkReferences planner.catalog = .ok () := by
    refine forM_eq_ok_iff.2 fun row hrow => ?_
    -- The keys are the only expression of the query.
    rw [← hr] at hrow ⊢
    obtain rfl := List.mem_singleton.1 hrow
    exact forM_eq_ok_iff.2
      ((Association.checkKeys_eq_ok_iff rfl rfl rfl).2 ⟨h.relatedKey, h.ownerKey⟩)
  obtain ⟨projected, hproject⟩ :
      ∃ projected, (r.withoutParams.renumber bound.length).project = .ok projected := by
    refine ⟨_, Query.project_eq_ok_iff.2 ⟨fun leaf hleaf => ?_, fun hassocs => ?_, rfl⟩⟩
    · rw [← hr] at hleaf ⊢
      obtain rfl := List.mem_singleton.1 hleaf
      rfl
    · rw [← hr] at hassocs
      exact absurd rfl hassocs
  have hpreload : projected.checkPreload planner.catalog = .ok () := by
    obtain ⟨-, -, rfl⟩ := Query.project_eq_ok_iff.1 hproject
    rw [← hr]
    rfl
  have hprepared : planner.prepare (Query.joinThrough model kind name) bound.length
      = .ok { query := r.withoutParams, params := numberedFrom bound.length [] } :=
    Planner.prepare_eq_ok_iff.2 ⟨r, [], hresolve, hvalues, rfl⟩
  have hnormalized : planner.normalize r.withoutParams bound.length {}
      = .ok { query := projected, counter := bound.length + r.withoutParams.placeholderCount } :=
    Planner.normalize_eq_ok_iff.2 ⟨rfl, hreferences, hproject, hpreload, rfl⟩
  exact ⟨_, Planner.plan_eq_ok_iff.2 ⟨_, _, hprepared, hnormalized, rfl⟩⟩

/-- The plain join through an association can be planned if the association can be joined. -/
theorem Planner.exists_plan_joinThrough_iff {planner : Planner} {model : ModelName}
    {kind : JoinKind} {name : String} {bound : List Value} :
    (∃ p, planner.plan (Query.joinThrough model kind name) bound {} = .ok p) ↔
      ∃ table association, planner.catalog.table model = some table ∧
        planner.catalog.association model name = some association ∧
        association.Joinable planner.catalog model := by
  constructor
  · rintro ⟨p, hplan⟩
    obtain ⟨prepared, n, hprepared, hnormalized, -⟩ := plan_eq_ok_iff.1 hplan
    obtain ⟨r, values, hresolve, -, rfl⟩ := prepare_eq_ok_iff.1 hprepared
    obtain ⟨table, association, relatedTable, htable, hassociation, hrelated, rfl⟩ :=
      Query.resolve_joinThrough_eq_ok_iff.1 hresolve
    obtain ⟨-, hreferences, -⟩ := normalize_eq_ok_iff.1 hnormalized
    have hkeys := forM_eq_ok_iff.1 hreferences (.join, { expr := association.keysEqual 1 0 })
      (Query.mem_exprs.2 (List.mem_singleton_self _))
    have hdeclared := (Association.checkKeys_eq_ok_iff rfl rfl rfl).1 (forM_eq_ok_iff.1 hkeys)
    exact ⟨table, association, htable, hassociation, ⟨relatedTable, hrelated⟩, hdeclared.2,
      hdeclared.1⟩
  · rintro ⟨table, association, htable, hassociation, hjoinable⟩
    exact hjoinable.exists_plan htable hassociation kind bound

/-! ## Schemas -/

/-- If its models have tables, a schema is valid exactly when the plain join through each of its
    associations can be planned. In a valid schema no query, however it joins, misses the related
    model of an association, and all keys that resolution writes into its conditions pass the check
    of references. -/
theorem Schema.validate_eq_ok_iff_plans (schema : Schema) (caster : Caster)
    (htables : ∀ (model : ModelName) (decl : ModelDecl), schema.models[model]? = some decl →
      decl.table ≠ "") :
    (∀ kind bound, schema.validate = .ok () ↔
      ∀ (model : ModelName) (decl : ModelDecl) (name : String), schema.models[model]? = some decl →
        name ∈ decl.associations →
          ∃ p, Planner.plan { catalog := schema.catalog, caster }
            (Query.joinThrough model kind name) bound {} = .ok p) ∧
      (schema.validate = .ok () → ∀ q base,
        (∀ model, Planner.prepare { catalog := schema.catalog, caster } q base
            = .error (.unknownModel model) →
          (q.fromRef = some (.model model) ∨
            ∃ join ∈ q.joins, join.target = .explicit (.model model)) ∧
          ∀ owner name association, schema.catalog.association owner name = some association →
            association.related ≠ model) ∧
        ∀ p, Planner.prepare { catalog := schema.catalog, caster } q base = .ok p →
          q.KeysChecked schema.catalog p.query) := by
  have hvalid : schema.validate = .ok () ↔ schema.catalog.Joinable :=
    Schema.validate_eq_ok_iff.trans (and_iff_right htables)
  refine ⟨fun kind bound => ?_, fun h q base => ?_⟩
  · rw [hvalid]
    constructor
    · intro hjoinable model decl name hdecl hname
      obtain ⟨association, hassociation⟩ :=
        Option.isSome_iff_exists.1 (Std.ExtTreeMap.mem_iff_isSome_getElem?.1 hname)
      have hknown := Schema.association_eq_some_iff.2 ⟨decl, hdecl, hassociation⟩
      exact (hjoinable model name association hknown).exists_plan
        (Schema.table_eq_of_declared hdecl) hknown kind bound
    · intro hplans model name association hknown
      obtain ⟨decl, hdecl, hassociation⟩ := Schema.association_eq_some_iff.1 hknown
      have hname : name ∈ decl.associations :=
        Std.ExtTreeMap.mem_iff_isSome_getElem?.2 (Option.isSome_iff_exists.2 ⟨_, hassociation⟩)
      obtain ⟨_, association', -, hknown', hjoinable⟩ :=
        Planner.exists_plan_joinThrough_iff.1 (hplans model decl name hdecl hname)
      obtain rfl := Option.some.inj (hknown.symm.trans hknown')
      exact hjoinable
  · have hjoinable := hvalid.1 h
    refine ⟨fun model hunknown => ?_, fun p hprepare => ?_⟩
    · obtain ⟨hwritten, hmissing⟩ := Planner.ref_of_prepare_eq_unknownModel hjoinable hunknown
      refine ⟨hwritten, fun owner name association hknown hrelated => ?_⟩
      obtain ⟨table, htable⟩ := (hjoinable owner name association hknown).related
      rw [hrelated, hmissing] at htable
      cases htable
    · obtain ⟨r, values, hresolve, -, rfl⟩ := Planner.prepare_eq_ok_iff.1 hprepare
      exact Query.keysChecked_of_resolve hjoinable hresolve

/-- Users and posts, which know each other. -/
def postSchema : Schema :=
  (({} : Schema).model "user" (({ table := "users" : ModelDecl }.field "id" .id).association
      "posts" { related := "post", ownerKey := "id", relatedKey := "author" })).model
    "post" (({ table := "posts" : ModelDecl }.field "author" .id).association
      "author" { related := "user", ownerKey := "author", relatedKey := "id" })

/-- Users in another table, their posts, and the authors of these with a condition. -/
def authorsOfPosts : Query where
  fromRef := some (.modelAt "old_users" "user")
  joins := [⟨.left, .association 0 "posts", .always⟩,
    ⟨.inner, .association 1 "author", { expr := .eq (.field 2 "id") (.field 0 "id") }⟩]

/-- `authorsOfPosts`, resolved. -/
def authorsOfPostsPrepared : Query where
  fromRef := some (.modelAt "old_users" "user")
  joins := [
    ⟨.left, .explicit (.modelAt "posts" "post"),
      { expr := .eq (.field 1 "author") (.field 0 "id") }⟩,
    ⟨.inner, .explicit (.modelAt "users" "user"),
      { expr := .and (.eq (.field 2 "id") (.field 1 "author"))
          (.eq (.field 2 "id") (.field 0 "id")) }⟩]
  sources := [⟨"old_users", some "user"⟩, ⟨"posts", some "post"⟩, ⟨"users", some "user"⟩]

theorem validate_eq_ok_iff_plans_postSchema :
    postSchema.validate = .ok () ∧
      (∃ p, Planner.plan { catalog := postSchema.catalog }
        (Query.joinThrough "post" .right "author") [.null] {} = .ok p) ∧
      Planner.prepare { catalog := postSchema.catalog } authorsOfPosts 0
        = .ok { query := authorsOfPostsPrepared, params := [] } ∧
      authorsOfPosts.KeysChecked postSchema.catalog authorsOfPostsPrepared := by
  have hvalid : postSchema.validate = .ok () := by
    cbv
  have hprepare : Planner.prepare { catalog := postSchema.catalog } authorsOfPosts 0
      = .ok { query := authorsOfPostsPrepared, params := [] } := by
    cbv
  have hschema := Schema.validate_eq_ok_iff_plans postSchema .standard
    (Schema.validate_eq_ok_iff.1 hvalid).1
  obtain ⟨decl, hdecl, hname⟩ : ∃ decl, postSchema.models["post"]? = some decl ∧
      "author" ∈ decl.associations := ⟨_, rfl, by decide⟩
  exact ⟨hvalid, (hschema.1 .right [.null]).1 hvalid _ _ _ hdecl hname, hprepare,
    (hschema.2 hvalid authorsOfPosts 0).2 _ hprepare⟩

end QueryPlan
