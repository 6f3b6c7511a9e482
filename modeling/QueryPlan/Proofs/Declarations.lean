import QueryPlan.Proofs.Results
import QueryPlan.Schema.Declaration

set_option autoImplicit false

/-! # Valid schemas

The validation of a schema accepts exactly the schemas in which every model has a table and every
association can be joined. Whether it can be joined is said of the lookups that the schema answers,
as planning sees them. -/

namespace QueryPlan

/-- All that a join through an association of `owner` looks up is there: the default table of the
    related model, and the two keys on their models. -/
structure Association.Joinable (catalog : Catalog) (owner : ModelName)
    (association : Association) : Prop where
  related : ∃ table, catalog.table association.related = some table
  ownerKey : ∃ type, catalog.fieldType owner association.ownerKey = some type
  relatedKey : ∃ type, catalog.fieldType association.related association.relatedKey = some type

/-- Every association that a catalog knows can be joined. -/
def Catalog.Joinable (catalog : Catalog) : Prop :=
  ∀ model name association, catalog.association model name = some association →
    association.Joinable catalog model

namespace Schema

variable {schema : Schema} {model : ModelName} {decl : ModelDecl}

/-! ## Lookups -/

theorem exists_table_iff : (∃ table, schema.catalog.table model = some table) ↔
    ∃ decl, schema.models[model]? = some decl := by
  simp [catalog]

theorem table_eq_of_declared (hdecl : schema.models[model]? = some decl) :
    schema.catalog.table model = some decl.table := by
  simp [catalog, hdecl]

theorem exists_fieldType_iff (hdecl : schema.models[model]? = some decl) (field : String) :
    (∃ type, schema.catalog.fieldType model field = some type) ↔ field ∈ decl.fields := by
  rw [Std.ExtTreeMap.mem_iff_isSome_getElem?, Option.isSome_iff_exists]
  simp [catalog, hdecl]

theorem association_eq_some_iff {name : String} {association : Association} :
    schema.catalog.association model name = some association ↔
      ∃ decl, schema.models[model]? = some decl ∧ decl.associations[name]? = some association := by
  simp [catalog, Option.bind_eq_some_iff]

/-! ## Validation -/

theorem checkAssociation_eq_ok_iff (hdecl : schema.models[model]? = some decl) {name : String}
    {association : Association} :
    schema.checkAssociation model decl name association = .ok () ↔
      association.Joinable schema.catalog model := by
  unfold checkAssociation
  cases hrelated : schema.models[association.related]? with
  | none =>
    refine ⟨nofun, fun h => ?_⟩
    obtain ⟨related, hsome⟩ := exists_table_iff.1 h.related
    rw [hrelated] at hsome
    cases hsome
  | some related =>
    have howner := exists_fieldType_iff hdecl association.ownerKey
    have hother := exists_fieldType_iff hrelated association.relatedKey
    constructor
    · intro h
      dsimp only at h
      split at h
      · cases h
      · next hownerKey =>
        split at h
        · cases h
        · next hrelatedKey =>
          exact ⟨exists_table_iff.2 ⟨related, hrelated⟩, howner.2 (not_not.1 hownerKey),
            hother.2 (not_not.1 hrelatedKey)⟩
    · intro h
      dsimp only
      rw [if_neg (not_not.2 (howner.1 h.ownerKey)), if_neg (not_not.2 (hother.1 h.relatedKey))]

theorem checkModel_eq_ok_iff :
    schema.checkModel model decl = .ok () ↔
      decl.table ≠ "" ∧ ∀ name association, decl.associations[name]? = some association →
        schema.checkAssociation model decl name association = .ok () := by
  unfold checkModel
  split
  · next hempty => simp [hempty]
  · next hnonempty =>
    simp only [forM_eq_ok_iff, Prod.forall, Std.ExtTreeMap.mem_toList_iff_getElem?_eq_some]
    exact ⟨fun h => ⟨hnonempty, h⟩, fun h => h.2⟩

/-- A schema is valid when its models have tables and its associations can be joined. -/
theorem validate_eq_ok_iff :
    schema.validate = .ok () ↔
      (∀ (model : ModelName) (decl : ModelDecl), schema.models[model]? = some decl →
        decl.table ≠ "") ∧ schema.catalog.Joinable := by
  simp only [validate, forM_eq_ok_iff, Prod.forall,
    Std.ExtTreeMap.mem_toList_iff_getElem?_eq_some, checkModel_eq_ok_iff]
  constructor
  · intro h
    refine ⟨fun model decl hdecl => (h model decl hdecl).1, fun model name association hname => ?_⟩
    obtain ⟨decl, hdecl, hassociation⟩ := association_eq_some_iff.1 hname
    have hcheck := (h model decl hdecl).2 name association hassociation
    exact (checkAssociation_eq_ok_iff hdecl).1 hcheck
  · rintro ⟨htables, hjoinable⟩ model decl hdecl
    refine ⟨htables model decl hdecl, fun name association hassociation => ?_⟩
    have hname := association_eq_some_iff.2 ⟨decl, hdecl, hassociation⟩
    exact (checkAssociation_eq_ok_iff hdecl).2 (hjoinable model name association hname)

end Schema

end QueryPlan
