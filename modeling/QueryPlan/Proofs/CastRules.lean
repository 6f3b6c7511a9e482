import QueryPlan.Proofs.Parameters
import QueryPlan.Proofs.References

set_option autoImplicit false

/-! # Rules for parameters

To which type a parameter is cast, and the reasons to refuse one. The reasons exclude each other: a
type that is not known is reported before a null, and a null before a value that the caster does not
take. -/

namespace QueryPlan

variable {catalog : Catalog} {caster : Caster} {sources : List Source} {clause : Clause}
  {location : Location}

/-! ## Types -/

/-- The type that parameters of a written type are cast to. -/
inductive ParamType.ResolvesAs (catalog : Catalog) (sources : List Source) :
    ParamType → CastType → Prop
  | plain (type : FieldType) : ResolvesAs catalog sources (.plain type) (.plain type)
  | withoutModel {binding : Nat} {name : String} {source : Source} :
    sources[binding]? = some source → source.model = none →
    ResolvesAs catalog sources (.ofField binding name) (.plain .any)
  | declared {binding : Nat} {name : String} {source : Source} {model : ModelName}
    {type : FieldType} :
    sources[binding]? = some source → source.model = some model →
    catalog.fieldType model name = some type →
    ResolvesAs catalog sources (.ofField binding name) (.plain type)
  | listOf {inner : ParamType} {type : CastType} : ResolvesAs catalog sources inner type →
    ResolvesAs catalog sources (.listOf inner) (.listOf type)

/-- The written type inside all lists. -/
def ParamType.innermost : ParamType → ParamType
  | .plain type => .plain type
  | .ofField binding name => .ofField binding name
  | .listOf inner => inner.innermost

/-- The field that a parameter is compared with, if the source of this field has a model. -/
def ParamType.fieldContext (sources : List Source) (type : ParamType) :
    Option (ModelName × String) :=
  match type.innermost with
  | .ofField binding name => (sources[binding]?.bind (·.model)).map (·, name)
  | _ => none

theorem ParamType.ResolvesAs.resolve_eq {type : ParamType} {castType : CastType}
    (h : type.ResolvesAs catalog sources castType) (clause : Clause) (location : Location) :
    type.resolve catalog sources clause location
      = .ok { type := castType, field := type.fieldContext sources } := by
  induction h with
  | plain type => rfl
  | withoutModel hsource hmodel =>
    refine bind_eq_ok_iff.2 ⟨_, sourceAt_eq_ok_iff.2 hsource, ?_⟩
    simp [fieldContext, innermost, hsource, hmodel]
  | declared hsource hmodel htype =>
    refine bind_eq_ok_iff.2 ⟨_, sourceAt_eq_ok_iff.2 hsource, ?_⟩
    simp [fieldContext, innermost, hsource, hmodel, htype]
  | listOf _ ih => exact bind_eq_ok_iff.2 ⟨_, ih, rfl⟩

theorem ParamType.resolve_eq_ok_iff {type : ParamType} {resolved : ResolvedType} :
    type.resolve catalog sources clause location = .ok resolved ↔
      ∃ castType, type.ResolvesAs catalog sources castType ∧
        resolved = { type := castType, field := type.fieldContext sources } := by
  constructor
  · intro h
    -- A type that resolves follows one of the rules, and these give what they say.
    obtain ⟨castType, htype⟩ : ∃ castType, type.ResolvesAs catalog sources castType := by
      induction type generalizing resolved with
      | plain type => exact ⟨_, .plain type⟩
      | ofField binding name =>
        obtain ⟨source, hsource, h⟩ := bind_eq_ok_iff.1 h
        rw [sourceAt_eq_ok_iff] at hsource
        split at h
        · next hmodel => exact ⟨_, .withoutModel hsource hmodel⟩
        · next model hmodel =>
          split at h
          · cases h
          · next type htype => exact ⟨_, .declared hsource hmodel htype⟩
      | listOf inner ih =>
        obtain ⟨_, hitem, -⟩ := bind_eq_ok_iff.1 h
        obtain ⟨castType, htype⟩ := ih hitem
        exact ⟨_, .listOf htype⟩
    refine ⟨castType, htype, ?_⟩
    rw [htype.resolve_eq] at h
    exact (Except.ok.inj h).symm
  · rintro ⟨castType, htype, rfl⟩
    exact htype.resolve_eq clause location

/-- The reasons why the type of a parameter is not known: the source or the declaration of a field,
    inside any number of lists, is missing. -/
inductive ParamType.Unresolved (catalog : Catalog) (sources : List Source) (clause : Clause)
    (location : Location) : ParamType → PlanError → Prop
  | outOfRange {binding : Nat} {name : String} : sources.length ≤ binding →
    Unresolved catalog sources clause location (.ofField binding name)
      (.bindingOutOfRange clause binding sources.length)
  | unknownField {binding : Nat} {name : String} {source : Source} {model : ModelName} :
    sources[binding]? = some source → source.model = some model →
    catalog.fieldType model name = none →
    Unresolved catalog sources clause location (.ofField binding name)
      (.unknownField clause model name location)
  | listOf {inner : ParamType} {e : PlanError} :
    Unresolved catalog sources clause location inner e →
    Unresolved catalog sources clause location (.listOf inner) e

theorem ParamType.resolve_eq_error_iff {type : ParamType} {e : PlanError} :
    type.resolve catalog sources clause location = .error e ↔
      type.Unresolved catalog sources clause location e := by
  constructor
  · intro h
    induction type with
    | plain type => cases h
    | ofField binding name =>
      rcases sourceAt_bind_eq_error_iff.1 h with ⟨hle, rfl⟩ | ⟨source, hsource, h⟩
      · exact .outOfRange hle
      · split at h
        · cases h
        · next model hmodel =>
          split at h
          · next htype =>
            cases h
            exact .unknownField hsource hmodel htype
          · cases h
    | listOf inner ih =>
      rcases bind_eq_error_iff.1 h with h | ⟨_, _, h⟩
      · exact .listOf (ih h)
      · cases h
  · intro h
    induction h with
    | outOfRange hle => exact sourceAt_bind_eq_error_iff.2 (.inl ⟨hle, rfl⟩)
    | unknownField hsource hmodel htype =>
      refine sourceAt_bind_eq_error_iff.2 (.inr ⟨_, hsource, ?_⟩)
      simp only [hmodel, htype]
    | listOf _ ih => exact bind_eq_error_iff.2 (.inl ih)

/-! ## Parameters -/

/-- A parameter that is cast: its type is known, it is not null, and the caster takes it. -/
def LocalParam.Castable (catalog : Catalog) (caster : Caster) (sources : List Source)
    (param : LocalParam) : Prop :=
  ∃ type, param.type.ResolvesAs catalog sources type ∧ param.value ≠ .null ∧
    ∃ value, caster.castParam type param.value = some value

/-- The reasons to refuse a parameter of an expression in a clause. The value that is reported is
    the one that was written. -/
inductive LocalParam.Refused (catalog : Catalog) (caster : Caster) (sources : List Source)
    (clause : Clause) (location : Location) (param : LocalParam) : PlanError → Prop
  | unresolved {e : PlanError} : param.type.Unresolved catalog sources clause location e →
    Refused catalog caster sources clause location param e
  | null {type : CastType} : param.type.ResolvesAs catalog sources type → param.value = .null →
    Refused catalog caster sources clause location param (.nullParam clause type location)
  | invalid {type : CastType} : param.type.ResolvesAs catalog sources type → param.value ≠ .null →
    caster.castParam type param.value = none →
    Refused catalog caster sources clause location param
      (.invalidParam clause param.value type (param.type.fieldContext sources) location)

theorem ParamUse.exists_cast_eq_ok_iff {use : ParamUse} :
    (∃ value, use.cast catalog caster sources = .ok value) ↔
      use.param.Castable catalog caster sources := by
  constructor
  · rintro ⟨value, h⟩
    obtain ⟨resolved, hresolve, hnull, hcast⟩ := ParamUse.cast_eq_ok_iff.1 h
    obtain ⟨type, htype, rfl⟩ := ParamType.resolve_eq_ok_iff.1 hresolve
    exact ⟨type, htype, hnull, value, hcast⟩
  · rintro ⟨type, htype, hnull, value, hcast⟩
    exact ⟨value, ParamUse.cast_eq_ok_iff.2 ⟨_, htype.resolve_eq _ _, hnull, hcast⟩⟩

theorem ParamUse.cast_eq_error_iff {use : ParamUse} {e : PlanError} :
    use.cast catalog caster sources = .error e ↔
      use.param.Refused catalog caster sources use.clause use.location e := by
  rw [ParamUse.cast, bind_eq_error_iff, ParamType.resolve_eq_error_iff]
  constructor
  · rintro (h | ⟨resolved, hresolve, h⟩)
    · exact .unresolved h
    · obtain ⟨type, htype, rfl⟩ := ParamType.resolve_eq_ok_iff.1 hresolve
      split at h
      · next hnull =>
        cases h
        exact .null htype (Value.isNull_iff.1 hnull)
      · next hnull =>
        rw [Value.isNull_iff] at hnull
        split at h
        · cases h
        · next hcast =>
          cases h
          exact .invalid htype hnull hcast
  · intro h
    cases h with
    | unresolved h => exact .inl h
    | null htype hnull =>
      refine .inr ⟨_, htype.resolve_eq _ _, ?_⟩
      rw [if_pos (Value.isNull_iff.2 hnull)]
    | invalid htype hnull hcast =>
      refine .inr ⟨_, htype.resolve_eq _ _, ?_⟩
      rw [if_neg fun h => hnull (Value.isNull_iff.1 h)]
      simp only [hcast]

end QueryPlan
