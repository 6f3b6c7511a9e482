import QueryPlan.Proofs.CastRules
import QueryPlan.Proofs.Declarations
import QueryPlan.Proofs.Resolution
import QueryPlan.Proofs.Stages

set_option autoImplicit false

/-! # Joins through associations

A join through an association needs three answers of the catalog, and asks for them at different
times: resolution looks up the related model, and the check of references the two keys that
resolution has written into the condition. If every association of a catalog can be joined, no join
through one fails for want of an answer: what may fail is what the query itself has written. -/

namespace QueryPlan

variable {catalog : Catalog} {sources : List Source}

/-! ## Keys -/

theorem FieldAccess.check_eq_ok_iff_declared {clause : Clause} {location : Location}
    {access : FieldAccess} {source : Source} {model : ModelName}
    (hsource : sources[access.binding]? = some source) (hmodel : source.model = some model)
    (huntyped : access.expected = none) :
    access.check catalog sources clause location = .ok () ↔
      ∃ type, catalog.fieldType model access.name = some type := by
  simp [FieldAccess.check_eq_ok_iff, FieldAccess.Valid, hsource, hmodel, huntyped]

/-- The keys of an association can be read if they are declared. -/
theorem Association.checkKeys_eq_ok_iff {association : Association} {index binding : Nat}
    {owner : Source} {model : ModelName} {table : String} {clause : Clause} {location : Location}
    (howner : sources[binding]? = some owner) (hmodel : owner.model = some model)
    (hrelated : sources[index]? = some { table, model := some association.related }) :
    (∀ r ∈ (association.keysEqual index binding).references,
        r.check catalog sources clause location = .ok ()) ↔
      (∃ type, catalog.fieldType association.related association.relatedKey = some type) ∧
        ∃ type, catalog.fieldType model association.ownerKey = some type := by
  have hreferences : (association.keysEqual index binding).references
      = [.field { binding := index, name := association.relatedKey },
        .field { binding, name := association.ownerKey }] := rfl
  rw [hreferences, List.forall_mem_cons, List.forall_mem_singleton]
  exact and_congr (FieldAccess.check_eq_ok_iff_declared hrelated rfl rfl)
    (FieldAccess.check_eq_ok_iff_declared howner hmodel rfl)

/-- A condition in front whose own references are good changes nothing in the outcome of the check
    of an expression. -/
theorem ClauseExpr.checkReferences_onlyIf {clause : Clause} {e : ClauseExpr} {condition : Expr}
    (hcondition : ∀ r ∈ condition.references,
      r.check catalog sources clause e.location = .ok ()) :
    (e.onlyIf condition).checkReferences catalog sources clause
      = e.checkReferences catalog sources clause := by
  have hgood : condition.references.forM (Reference.check catalog sources clause e.location)
      = .ok () := forM_eq_ok_iff.2 hcondition
  unfold ClauseExpr.onlyIf
  split
  · next htrue =>
    -- The literal true had no references.
    simp only [ClauseExpr.checkReferences, htrue, hgood]
    rfl
  · have hand : (Expr.and condition e.expr).references
        = condition.references ++ e.expr.references := by
      simp only [Expr.references, Expr.atoms, Expr.atomsAll, List.append_nil,
        List.filterMap_append]
    rw [ClauseExpr.checkReferences, hand]
    exact forM_append_of_ok hgood

/-! ## Unknown models -/

/-- If all associations can be joined, the models that joins do not know are those that the joins
    name themselves. -/
theorem Join.Refused.target_of_unknownModel (hcatalog : catalog.Joinable) {join : Join}
    {model : ModelName} (h : join.Refused catalog sources (.unknownModel model)) :
    join.target = .explicit (.model model) ∧ catalog.table model = none := by
  cases h with
  | explicit htarget href =>
    cases href with
    | unknownModel htable => exact ⟨htarget, htable⟩
  | unknownRelated _ _ _ hassociation htable =>
    -- The related model has a table.
    obtain ⟨table, hknown⟩ := (hcatalog _ _ _ hassociation).related
    rw [htable] at hknown
    cases hknown

theorem Query.ref_of_resolve_eq_unknownModel (hcatalog : catalog.Joinable) {q : Query}
    {model : ModelName} (h : q.resolve catalog = .error (.unknownModel model)) :
    (q.fromRef = some (.model model) ∨ ∃ join ∈ q.joins, join.target = .explicit (.model model)) ∧
      catalog.table model = none := by
  rcases Query.resolve_eq_error_iff.1 h with ⟨-, hmissing⟩ | ⟨ref, href, hrefused | ⟨first, -, h⟩⟩
  · cases hmissing
  · cases hrefused with
    | unknownModel htable => exact ⟨.inl href, htable⟩
  · obtain ⟨i, join, _, _, hi, -, hrefused⟩ := resolveJoins_eq_error_iff.1 h
    obtain ⟨htarget, htable⟩ := hrefused.target_of_unknownModel hcatalog
    exact ⟨.inr ⟨join, List.mem_of_getElem? hi, htarget⟩, htable⟩

/-- Types of parameters do not look up tables. -/
theorem ParamType.Unresolved.ne_unknownModel {clause : Clause} {location : Location}
    {type : ParamType} {e : PlanError} (h : type.Unresolved catalog sources clause location e)
    (model : ModelName) : e ≠ .unknownModel model := by
  induction h with
  | outOfRange _ => exact nofun
  | unknownField _ _ _ => exact nofun
  | listOf _ ih => exact ih

theorem LocalParam.Refused.ne_unknownModel {caster : Caster} {clause : Clause}
    {location : Location} {param : LocalParam} {e : PlanError}
    (h : param.Refused catalog caster sources clause location e) (model : ModelName) :
    e ≠ .unknownModel model := by
  cases h with
  | unresolved h => exact h.ne_unknownModel model
  | null _ _ => exact nofun
  | invalid _ _ _ => exact nofun

theorem Planner.ref_of_prepare_eq_unknownModel {planner : Planner}
    (hcatalog : planner.catalog.Joinable) {q : Query} {base : Nat} {model : ModelName}
    (h : planner.prepare q base = .error (.unknownModel model)) :
    (q.fromRef = some (.model model) ∨ ∃ join ∈ q.joins, join.target = .explicit (.model model)) ∧
      planner.catalog.table model = none := by
  rcases prepare_eq_error_iff.1 h with h | ⟨r, -, h⟩
  · exact Query.ref_of_resolve_eq_unknownModel hcatalog h
  · obtain ⟨_, use, _, -, -, hcast⟩ := mapM_eq_error_iff.1 h
    exact absurd rfl ((ParamUse.cast_eq_error_iff.1 hcast).ne_unknownModel model)

/-! ## Conditions in prepared queries -/

/-- The keys of an association that can be joined can be read where resolution writes them. -/
theorem Association.Joinable.checkKeys {association : Association} {model : ModelName}
    (h : association.Joinable catalog model) {index binding : Nat} {owner : Source}
    {table : String} (howner : sources[binding]? = some owner) (hmodel : owner.model = some model)
    (hrelated : sources[index]? = some { table, model := some association.related })
    (clause : Clause) (location : Location) :
    ∀ r ∈ (association.keysEqual index binding).references,
      r.check catalog sources clause location = .ok () :=
  (Association.checkKeys_eq_ok_iff howner hmodel hrelated).2 ⟨h.relatedKey, h.ownerKey⟩

/-- A resolved query joins through an association of its catalog where the written one says so. -/
theorem Query.exists_association_of_resolve {q r : Query} (h : q.resolve catalog = .ok r) {i : Nat}
    {join : Join} {binding : Nat} {name : String} (hi : q.joins[i]? = some join)
    (htarget : join.target = .association binding name) :
    ∃ joined owner model association table, r.joins[i]? = some joined ∧
      r.sources[binding]? = some owner ∧ owner.model = some model ∧
      catalog.association model name = some association ∧
      r.sources[i + 1]? = some { table, model := some association.related } ∧
      joined = {
        kind := join.kind
        target := .explicit (.modelAt table association.related)
        on := join.on.onlyIf (association.keysEqual (i + 1) binding) } := by
  obtain ⟨joined, source, hjoined, hsource, hresolves⟩ := Query.resolvesAs_of_resolve h hi
  cases hresolves with
  | explicit hexplicit _ =>
    rw [htarget] at hexplicit
    cases hexplicit
  | @association binding' name' owner model association table htarget' howner hmodel hassociation
      htable =>
    rw [htarget] at htarget'
    cases htarget'
    have hlength : (r.sources.take (i + 1)).length = i + 1 := by
      have hlt := (List.getElem?_eq_some_iff.1 hsource).1
      rw [List.length_take, Nat.min_eq_left (Nat.le_of_lt hlt)]
    have howner' : r.sources[binding]? = some owner := by
      obtain ⟨hlt, -⟩ := List.getElem?_eq_some_iff.1 howner
      rw [hlength] at hlt
      rwa [List.getElem?_take_of_lt hlt] at howner
    rw [hlength] at hjoined
    exact ⟨_, owner, model, association, table, hjoined, howner', hmodel, hassociation, hsource,
      rfl⟩

/-- How a prepared query joins through the associations of the written one: the keys stand in front
    of the written condition and can be read, so the check of references has the outcome that it
    would have on the written conditions. -/
structure Query.KeysChecked (catalog : Catalog) (q prepared : Query) : Prop where
  keys (i : Nat) (join : Join) (binding : Nat) (name : String) :
    q.joins[i]? = some join → join.target = .association binding name →
      ∃ owner model association e, prepared.sources[binding]? = some owner ∧
        owner.model = some model ∧ catalog.association model name = some association ∧
        (prepared.clauseExprs .join)[i]? = some e ∧
        e = (join.on.onlyIf (association.keysEqual (i + 1) binding)).withoutParams ∧
        ∀ r ∈ (association.keysEqual (i + 1) binding).references,
          r.check catalog prepared.sources .join e.location = .ok ()
  outcome : prepared.checkReferences catalog
    = Query.checkReferences catalog { q with sources := prepared.sources }

/-- The check of a resolved condition has the outcome of the check of the written one. -/
theorem Query.checkReferences_on_of_resolve (hcatalog : catalog.Joinable) {q r : Query}
    (h : q.resolve catalog = .ok r) {i : Nat} {join joined : Join} (hi : q.joins[i]? = some join)
    (hjoined : r.joins[i]? = some joined) :
    joined.on.checkReferences catalog r.sources .join
      = join.on.checkReferences catalog r.sources .join := by
  cases htarget : join.target with
  | explicit ref =>
    obtain ⟨joined', source, hjoined', -, hresolves⟩ := Query.resolvesAs_of_resolve h hi
    obtain rfl := Option.some.inj (hjoined.symm.trans hjoined')
    cases hresolves with
    | explicit _ _ => rfl
    | association hassociation _ _ _ _ =>
      rw [htarget] at hassociation
      cases hassociation
  | association binding name =>
    obtain ⟨joined', owner, model, association, table, hjoined', howner, hmodel, hassociation,
      hrelated, rfl⟩ := Query.exists_association_of_resolve h hi htarget
    obtain rfl := Option.some.inj (hjoined.symm.trans hjoined')
    exact ClauseExpr.checkReferences_onlyIf
      ((hcatalog _ _ _ hassociation).checkKeys howner hmodel hrelated .join _)

theorem Query.keysChecked_of_resolve (hcatalog : catalog.Joinable) {q r : Query}
    (h : q.resolve catalog = .ok r) : q.KeysChecked catalog r.withoutParams := by
  have hresolves := Query.resolvesTo_of_resolve h
  refine ⟨fun i join binding name hi htarget => ?_, ?_⟩
  · obtain ⟨joined, owner, model, association, table, hjoined, howner, hmodel, hassociation,
      hrelated, rfl⟩ := Query.exists_association_of_resolve h hi htarget
    refine ⟨owner, model, association, _, howner, hmodel, hassociation, ?_, rfl,
      (hcatalog _ _ _ hassociation).checkKeys howner hmodel hrelated .join _⟩
    rw [Query.clauseExprs_withoutParams, Query.clauseExprs, List.getElem?_map, List.getElem?_map,
      hjoined]
    rfl
  · refine Query.checkReferences_congr fun clause => ?_
    rw [Query.clauseExprs_withoutParams, List.forall₂_map_left_iff]
    by_cases hclause : clause = .join
    · subst hclause
      simp only [Query.clauseExprs, List.forall₂_map_left_iff, List.forall₂_map_right_iff]
      refine forall₂_of_getElem? hresolves.joins.length_eq.symm fun i joined join hjoined hi => ?_
      exact Query.checkReferences_on_of_resolve hcatalog h hi hjoined
    · rw [hresolves.clauseExprs_eq hclause]
      have hsame : Query.clauseExprs { q with sources := r.withoutParams.sources } clause
          = q.clauseExprs clause := by
        cases clause <;> rfl
      rw [hsame]
      exact List.forall₂_same.2 fun e _ => rfl

end QueryPlan
