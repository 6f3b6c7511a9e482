import QueryPlan.Proofs.Compatibility
import QueryPlan.Proofs.InvalidReferences

set_option autoImplicit false

/-! # Field lookups

A field is looked up in two places: in preparation for the type of a parameter that is compared with
it, inside any number of lists, and in normalization for a reference to it. Both find the field or
refuse it for the same reason, and the type that a parameter is cast to is the one that a reference
has to be compatible with. So a query is not accepted by one phase and refused by the other for the
same field. -/

namespace QueryPlan

variable {catalog : Catalog} {sources : List Source} {clause : Clause} {location : Location}
  {binding : Nat} {name : String}

/-! ## Lists around a type -/

namespace ParamType

/-- Lists around a type neither add a reason to refuse it nor take one away. -/
theorem unresolved_iterate_listOf_iff {type : ParamType} {depth : Nat} {error : PlanError} :
    (Nat.iterate .listOf depth type).Unresolved catalog sources clause location error ↔
      type.Unresolved catalog sources clause location error := by
  induction depth with
  | zero => rfl
  | succ depth ih =>
    rw [Function.iterate_succ_apply', ← ih]
    constructor
    · intro h
      cases h with
      | listOf hinner => exact hinner
    · exact .listOf

/-- As many lists are around the type that is found as around the one that is written. -/
theorem resolvesAs_iterate_listOf_iff {type : ParamType} {depth : Nat} {castType : CastType} :
    (Nat.iterate .listOf depth type).ResolvesAs catalog sources castType ↔
      ∃ inner, type.ResolvesAs catalog sources inner ∧
        castType = Nat.iterate .listOf depth inner := by
  induction depth generalizing castType with
  | zero => simp
  | succ depth ih =>
    rw [Function.iterate_succ_apply']
    constructor
    · intro h
      cases h with
      | listOf hitems =>
        obtain ⟨inner, hinner, rfl⟩ := ih.1 hitems
        exact ⟨inner, hinner, (Function.iterate_succ_apply' _ _ _).symm⟩
    · rintro ⟨inner, hinner, rfl⟩
      rw [Function.iterate_succ_apply']
      exact .listOf (ih.2 ⟨inner, hinner, rfl⟩)

end ParamType

@[simp] theorem CastType.fieldType_iterate_listOf (type : CastType) (depth : Nat) :
    (Nat.iterate .listOf depth type).fieldType = type.fieldType := by
  induction depth with
  | zero => rfl
  | succ depth ih => rw [Function.iterate_succ_apply', fieldType, ih]

/-! ## The field in the middle -/

/-- The type of a field is not known for the reasons for which a reference to it cannot be read. -/
theorem ParamType.unresolved_ofField_iff {error : PlanError} :
    (ParamType.ofField binding name).Unresolved catalog sources clause location error ↔
      (Atom.field { binding, name }).Invalid catalog sources clause location error := by
  constructor
  · intro h
    cases h with
    | outOfRange hle => exact .fieldOfNoSource hle
    | unknownField hsource hmodel htype => exact .unknownField hsource hmodel htype
  · intro h
    cases h with
    | fieldOfNoSource hle => exact .outOfRange hle
    | unknownField hsource hmodel htype => exact .unknownField hsource hmodel htype
    | typeMismatch _ _ _ hexpected _ => cases hexpected

namespace ParamType.ResolvesAs

variable {type : CastType}

/-- The type that is found decides which types a reference to the field may expect. A source without
    a model gives `any`, and there a reference may expect everything. -/
theorem valid_iff (h : (ParamType.ofField binding name).ResolvesAs catalog sources type)
    (expected : Option FieldType) :
    ({ binding, name, expected } : FieldAccess).Valid catalog sources ↔
      ∀ t, expected = some t → type.fieldType.compatible t = true := by
  cases h with
  | withoutModel hsource hmodel =>
    simp [FieldAccess.Valid, hsource, hmodel, CastType.fieldType]
  | declared hsource hmodel htype =>
    simp [FieldAccess.Valid, hsource, hmodel, htype, CastType.fieldType]

/-- Where the source has a model, the type is the declared one. -/
theorem eq_declared (h : (ParamType.ofField binding name).ResolvesAs catalog sources type)
    {source : Source} {model : ModelName} (hsource : sources[binding]? = some source)
    (hmodel : source.model = some model) :
    catalog.fieldType model name = some type.fieldType := by
  cases h with
  | withoutModel hsource' hmodel' =>
    obtain rfl := Option.some.inj (hsource.symm.trans hsource')
    cases hmodel.symm.trans hmodel'
  | declared hsource' hmodel' htype =>
    obtain rfl := Option.some.inj (hsource.symm.trans hsource')
    obtain rfl := Option.some.inj (hmodel.symm.trans hmodel')
    exact htype

end ParamType.ResolvesAs

/-! ## The two phases -/

/-- Preparation has found every field that a parameter is compared with, inside any number of lists.
    So the references to this field in the prepared query can be read, in every clause, unless they
    expect what is not compatible with the type that was found. -/
theorem Planner.valid_iff_of_prepare {planner : Planner} {q : Query} {base : Nat} {p : Prepared}
    (h : planner.prepare q base = .ok p) {use : ParamUse} (huse : use ∈ q.paramUses) {depth : Nat}
    (hfield : use.param.type = Nat.iterate .listOf depth (.ofField binding name)) :
    ∃ type, use.param.type.ResolvesAs planner.catalog p.query.sources type ∧
      ∀ expected,
        ({ binding, name, expected } : FieldAccess).Valid planner.catalog p.query.sources ↔
          ∀ t, expected = some t → type.fieldType.compatible t = true := by
  obtain ⟨r, values, hresolve, hvalues, rfl⟩ := prepare_eq_ok_iff.1 h
  rw [← (Query.resolvesTo_of_resolve hresolve).paramUses] at huse
  have hcast := exists_mapM_eq_ok_iff.1 ⟨values, hvalues⟩ use huse
  obtain ⟨type, htype, -⟩ := ParamUse.exists_cast_eq_ok_iff.1 hcast
  refine ⟨type, htype, fun expected => ?_⟩
  rw [hfield] at htype
  obtain ⟨inner, hinner, rfl⟩ := ParamType.resolvesAs_iterate_listOf_iff.1 htype
  rw [CastType.fieldType_iterate_listOf]
  exact hinner.valid_iff expected

/-- The two lookups of a field agree. The type of a parameter that is compared with the field,
    inside any number of lists, is refused exactly if a reference to the field is, with the same
    error, and both are accepted exactly if the field can be read. The type that is found is then
    the one that decides which types a reference may expect: those that are compatible with it, and
    so itself. If the source has a model it is the declared type, which is also the one that the
    error for any other expected type reports. -/
theorem FieldAccess.lookups_agree (catalog : Catalog) (sources : List Source) (clause : Clause)
    (location : Location) (binding : Nat) (name : String) (depth : Nat) :
    let resolution := (Nat.iterate ParamType.listOf depth (.ofField binding name)).resolve catalog
      sources clause location
    let check := fun (expected : Option FieldType) =>
      Reference.check catalog sources clause location (.field { binding, name, expected })
    (∀ error, resolution = .error error ↔ check none = .error error) ∧
      ((∃ resolved, resolution = .ok resolved) ↔ check none = .ok ()) ∧
      (check none = .ok () ↔ ({ binding, name } : FieldAccess).Valid catalog sources) ∧
      ∀ resolved, resolution = .ok resolved →
        (∀ expected, check (some expected) = .ok () ↔
          resolved.type.fieldType.compatible expected = true) ∧
        check (some resolved.type.fieldType) = .ok () ∧
        ∀ source model, sources[binding]? = some source → source.model = some model →
          catalog.fieldType model name = some resolved.type.fieldType ∧
          ∀ expected, resolved.type.fieldType.compatible expected = false →
            check (some expected) = .error
              (.typeMismatch clause model name resolved.type.fieldType expected location) := by
  intro resolution check
  have herror (error : PlanError) : resolution = .error error ↔ check none = .error error := by
    rw [ParamType.resolve_eq_error_iff, ParamType.unresolved_iterate_listOf_iff,
      ParamType.unresolved_ofField_iff]
    exact FieldAccess.check_eq_error_iff.symm
  refine ⟨herror, ?_, FieldAccess.check_eq_ok_iff, fun resolved hresolved => ?_⟩
  · rw [exists_eq_ok_iff_forall_ne_error, eq_ok_iff_forall_ne_error]
    exact forall_congr' fun error => not_congr (herror error)
  · obtain ⟨_, hlists, rfl⟩ := ParamType.resolve_eq_ok_iff.1 hresolved
    obtain ⟨type, htype, rfl⟩ := ParamType.resolvesAs_iterate_listOf_iff.1 hlists
    simp only [CastType.fieldType_iterate_listOf]
    have hcheck (expected : FieldType) :
        check (some expected) = .ok () ↔ type.fieldType.compatible expected = true := by
      have hexpected := htype.valid_iff (some expected)
      simp only [Option.some.injEq, forall_eq'] at hexpected
      exact FieldAccess.check_eq_ok_iff.trans hexpected
    refine ⟨hcheck, (hcheck _).2 (FieldType.compatible_refl _), ?_⟩
    intro source model hsource hmodel
    have hdeclared := htype.eq_declared hsource hmodel
    refine ⟨hdeclared, fun expected hcompatible => ?_⟩
    exact FieldAccess.check_eq_error_iff.2
      (.typeMismatch hsource hmodel hdeclared rfl hcompatible)

/-- Users are compared with lists of lists of ages, and with names, which are not declared. -/
theorem FieldAccess.lookups_agree_users :
    let sources : List Source := [⟨"audit", none⟩, ⟨"users", some "user"⟩]
    let resolution := fun (name : String) =>
      (ParamType.listOf (.listOf (.ofField 1 name))).resolve postCatalog sources .having {}
    let check := fun (name : String) (expected : Option FieldType) =>
      Reference.check postCatalog sources .having {} (.field { binding := 1, name, expected })
    let ages : ResolvedType := ⟨.listOf (.listOf (.plain .integer)), some ("user", "age")⟩
    resolution "age" = .ok ages ∧
      check "age" none = .ok () ∧ check "age" (some .integer) = .ok () ∧
      check "age" (some .id) = .ok () ∧
      sources[1]? = some ⟨"users", some "user"⟩ ∧
      postCatalog.fieldType "user" "age" = some .integer ∧
      FieldType.integer.compatible .string = false ∧
      check "age" (some .string)
        = .error (.typeMismatch .having "user" "age" .integer .string {}) ∧
      resolution "name" = .error (.unknownField .having "user" "name" {}) ∧
      check "name" none = .error (.unknownField .having "user" "name" {}) := by
  intro sources resolution check ages
  obtain ⟨-, hage, -, hfound⟩ := lookups_agree postCatalog sources .having {} 1 "age" 2
  obtain ⟨hname, -⟩ := lookups_agree postCatalog sources .having {} 1 "name" 2
  have hages : resolution "age" = .ok ages := rfl
  have hunknown : resolution "name" = .error (.unknownField .having "user" "name" {}) := rfl
  obtain ⟨hcheck, hself, hmodel⟩ := hfound ages hages
  obtain ⟨hdeclared, hmismatch⟩ := hmodel ⟨"users", some "user"⟩ "user" rfl rfl
  exact ⟨hages, hage.1 ⟨ages, hages⟩, hself, (hcheck .id).2 rfl, rfl, hdeclared, rfl,
    hmismatch .string rfl, hunknown, (hname _).1 hunknown⟩

end QueryPlan
