import Mathlib
import QueryPlan.Proofs.CastRules
import QueryPlan.Proofs.Resolution
import QueryPlan.Proofs.Stages

set_option autoImplicit false

/-! # Casting

Which values a type has shows in their shape. The standard caster makes a value of the type of all
that it accepts, and it leaves the values of the type as they are, so a second cast changes nothing.
Lists are cast item by item. This is done in two places, for membership lists around a caster and
for arrays by the standard caster itself; the two agree, so it does not matter in which of them a
level of nesting is written. -/

namespace QueryPlan

/-! ## Lists -/

namespace Caster

/-- Casts a list by casting each of its items. Other values are refused. -/
def castItems (cast : Value → Option Value) : Value → Option Value
  | .list items => (items.mapM cast).map .list
  | _ => none

theorem castParam_listOf (caster : Caster) (inner : CastType) :
    caster.castParam (.listOf inner) = castItems (caster.castParam inner) := by
  funext value
  cases value <;> rfl

theorem standardCast_array (inner : FieldType) :
    standardCast (.array inner) = castItems (standardCast inner) := by
  funext value
  cases value <;> rfl

section castItems

variable {cast : Value → Option Value} {value result : Value}

/-- The items of the result are those of the list, cast one by one and in their places. -/
theorem castItems_eq_some_iff :
    castItems cast value = some result ↔
      ∃ items items', value = .list items ∧ result = .list items' ∧
        List.Forall₂ (fun item item' => cast item = some item') items items' := by
  cases value with
  | list items => simp [castItems, mapM_eq_some_iff, eq_comm, and_comm]
  | null | bool _ | int _ | float _ | decimal _ | text _ | blob _ | date _ | timestamp _ =>
    simp [castItems]

theorem exists_castItems_iff :
    (∃ result, castItems cast value = some result) ↔
      ∃ items, value = .list items ∧ ∀ item ∈ items, ∃ item', cast item = some item' := by
  cases value with
  | list items => simp [castItems, ← exists_mapM_eq_some_iff]
  | null | bool _ | int _ | float _ | decimal _ | text _ | blob _ | date _ | timestamp _ =>
    simp [castItems]

/-- A list has been cast into a list of what its items have been cast into. -/
theorem exists_items_of_castItems (h : castItems cast value = some result) :
    ∃ items, result = .list items ∧ ∀ item ∈ items, ∃ written, cast written = some item := by
  obtain ⟨_, items, -, rfl, hitems⟩ := castItems_eq_some_iff.1 h
  exact ⟨items, rfl, forall_mem_of_forall₂ hitems fun written _ hcast => ⟨written, hcast⟩⟩

theorem castItems_eq_self {items : List Value} (h : ∀ item ∈ items, cast item = some item) :
    castItems cast (.list items) = some (.list items) :=
  castItems_eq_some_iff.2 ⟨items, items, rfl, rfl, List.forall₂_same.2 h⟩

end castItems

/-- Nested membership lists around a field type are cast by the standard caster like arrays nested as
    deep. With any caster, a membership list needs a list, each of whose items is accepted, and gives
    the list of the cast items: as many as there were, and in their order. -/
theorem lists_cast_alike :
    (∀ (type : FieldType) (depth : Nat) (value : Value),
      standard.castParam (Nat.iterate .listOf depth (.plain type)) value
        = standard.cast (Nat.iterate .array depth type) value) ∧
      ∀ (caster : Caster) (inner : CastType) (value : Value),
        ((∃ result, caster.castParam (.listOf inner) value = some result) ↔
          ∃ items, value = .list items ∧
            ∀ item ∈ items, ∃ item', caster.castParam inner item = some item') ∧
        ∀ result, caster.castParam (.listOf inner) value = some result ↔
          ∃ items items', value = .list items ∧ result = .list items' ∧
            List.Forall₂ (fun item item' => caster.castParam inner item = some item')
              items items' := by
  refine ⟨fun type depth value => ?_, fun caster inner value => ?_⟩
  · have hcasts : standard.castParam (Nat.iterate .listOf depth (.plain type))
        = standardCast (Nat.iterate .array depth type) := by
      induction depth with
      | zero => rfl
      | succ depth ih =>
        rw [Function.iterate_succ_apply', Function.iterate_succ_apply', castParam_listOf,
          standardCast_array, ih]
    exact congrFun hcasts value
  · rw [castParam_listOf]
    exact ⟨exists_castItems_iff, fun result => castItems_eq_some_iff⟩

/-- An item that cannot be cast spoils the list, whether its type is a membership list or an array. -/
example : standard.castParam (.listOf (.plain (.array .integer)))
      (.list [.list [.text "7"], .list [.bool true]]) = none ∧
    standard.castParam (.plain (.array (.array .integer)))
      (.list [.list [.text "7"], .list [.bool true]]) = none := by
  constructor <;> cbv

end Caster

/-! ## Values of a type -/

/-- The values of a field type, by their shape. -/
inductive FieldType.Admits : FieldType → Value → Prop
  | any (value : Value) : Admits .any value
  | id (value : Int64) : Admits .id (.int value)
  | integer (value : Int64) : Admits .integer (.int value)
  | float (value : Binary64) : Admits .float (.float value)
  | decimal (value : Decimal) : Admits .decimal (.decimal value)
  | boolean (value : Bool) : Admits .boolean (.bool value)
  | string (value : String) : Admits .string (.text value)
  | binary (bytes : List UInt8) : Admits .binary (.blob bytes)
  | date (value : Date) : Admits .date (.date value)
  | timestamp (value : Timestamp) : Admits .timestamp (.timestamp value)
  | array {inner : FieldType} {items : List Value} :
    (∀ item ∈ items, Admits inner item) → Admits (.array inner) (.list items)

/-- The values of a parameter type. -/
inductive CastType.Admits : CastType → Value → Prop
  | plain {type : FieldType} {value : Value} : type.Admits value → Admits (.plain type) value
  | listOf {inner : CastType} {items : List Value} :
    (∀ item ∈ items, Admits inner item) → Admits (.listOf inner) (.list items)

namespace Caster

theorem admits_of_standardCast {type : FieldType} {value result : Value}
    (h : standardCast type value = some result) : type.Admits result := by
  induction type generalizing value result with
  | any => exact .any result
  | array inner ih =>
    rw [standardCast_array] at h
    obtain ⟨items, rfl, hitems⟩ := exists_items_of_castItems h
    refine .array fun item hitem => ?_
    obtain ⟨_, hcast⟩ := hitems item hitem
    exact ih hcast
  | id | integer | float | decimal | boolean | string | binary | date | timestamp =>
    -- Each entry of the table makes a value of its own type of what it has read or found.
    unfold standardCast at h
    split at h <;> grind [FieldType.Admits, Option.map_eq_some_iff]

theorem standardCast_of_admits {type : FieldType} {value : Value} (h : type.Admits value) :
    standardCast type value = some value := by
  induction h with
  | array _ ih =>
    rw [standardCast_array]
    exact castItems_eq_self ih
  | any | id | integer | float | decimal | boolean | string | binary | date | timestamp => rfl

theorem admits_of_castParam {type : CastType} {value result : Value}
    (h : standard.castParam type value = some result) : type.Admits result := by
  induction type generalizing value result with
  | plain type => exact .plain (admits_of_standardCast h)
  | listOf inner ih =>
    rw [castParam_listOf] at h
    obtain ⟨items, rfl, hitems⟩ := exists_items_of_castItems h
    refine .listOf fun item hitem => ?_
    obtain ⟨_, hcast⟩ := hitems item hitem
    exact ih hcast

theorem castParam_of_admits {type : CastType} {value : Value} (h : type.Admits value) :
    standard.castParam type value = some value := by
  induction h with
  | plain h => exact standardCast_of_admits h
  | listOf _ ih =>
    rw [castParam_listOf]
    exact castItems_eq_self ih

end Caster

/-! ## Merged values -/

/-- With the standard caster a parameter is merged into a value of the type that it was found to
    have. -/
theorem ParamUse.admits_of_cast {catalog : Catalog} {sources : List Source} {use : ParamUse}
    {merged : Value} (h : use.cast catalog .standard sources = .ok merged) :
    ∃ type, use.param.type.ResolvesAs catalog sources type ∧ type.Admits merged := by
  obtain ⟨_, hresolve, -, hcast⟩ := ParamUse.cast_eq_ok_iff.1 h
  obtain ⟨type, htype, rfl⟩ := ParamType.resolve_eq_ok_iff.1 hresolve
  exact ⟨type, htype, Caster.admits_of_castParam hcast⟩

namespace Planner

/-- The standard caster is a retraction onto the values of a type: what it gives has the type, what
    has the type stays as it is, and so a second cast changes nothing. All values that a query has
    been prepared with have the types of their parameters. -/
theorem standard_retraction :
    (∀ (type : CastType) (value result : Value),
      Caster.standard.castParam type value = some result → type.Admits result) ∧
    (∀ (type : CastType) (value : Value),
      type.Admits value → Caster.standard.castParam type value = some value) ∧
    (∀ (type : CastType) (value result : Value),
      Caster.standard.castParam type value = some result →
        Caster.standard.castParam type result = some result) ∧
    ∀ (catalog : Catalog) (q : Query) (base : Nat) (p : Prepared),
      prepare { catalog } q base = .ok p →
        List.Forall₂ (fun use merged => ∃ type,
          use.param.type.ResolvesAs catalog p.query.sources type ∧ type.Admits merged)
          q.paramUses p.values := by
  refine ⟨fun _ _ _ => Caster.admits_of_castParam, fun _ _ => Caster.castParam_of_admits,
    fun _ _ _ h => Caster.castParam_of_admits (Caster.admits_of_castParam h), ?_⟩
  intro catalog q base p h
  obtain ⟨r, values, hresolve, hvalues, rfl⟩ := prepare_eq_ok_iff.1 h
  have hr := Query.resolvesTo_of_resolve hresolve
  rw [Prepared.values, map_snd_numberedFrom, ← hr.paramUses]
  exact (Query.castParams_eq_ok_iff.1 hvalues).imp fun _ _ => ParamUse.admits_of_cast

/-- Two ages as they were typed in, one of them between blanks. -/
def typedAges : LocalParam :=
  ⟨.list [.text " 18 ", .int 60], .listOf (.ofField 0 "age")⟩

/-- The users of these ages. -/
def usersByAges : Query where
  fromRef := some (.model "user")
  filters := [{
    expr := .node (.apply .member) [.field 0 "age", .placeholder 0]
    params := [(0, typedAges)] }]

/-- `usersByAges`, prepared. -/
def usersByAgesPrepared : Prepared where
  query := {
    fromRef := some (.model "user")
    filters := [{ expr := .node (.apply .member) [.field 0 "age", .placeholder 0] }]
    sources := [⟨"users", some "user"⟩] }
  params := [(0, .list [.int 18, .int 60])]

theorem standard_retraction_usersByAges :
    let ages : CastType := .listOf (.plain .integer)
    Caster.standard.castParam ages typedAges.value = some (.list [.int 18, .int 60]) ∧
      ages.Admits (.list [.int 18, .int 60]) ∧
      Caster.standard.castParam ages (.list [.int 18, .int 60])
        = some (.list [.int 18, .int 60]) ∧
      prepare { catalog := postCatalog } usersByAges 0 = .ok usersByAgesPrepared ∧
      ∃ type, typedAges.type.ResolvesAs postCatalog [⟨"users", some "user"⟩] type ∧
        type.Admits (.list [.int 18, .int 60]) := by
  intro ages
  obtain ⟨hadmits, hsame, -, hmerged⟩ := standard_retraction
  have hcast : Caster.standard.castParam ages typedAges.value
      = some (.list [.int 18, .int 60]) := by
    cbv
  have hprepare : prepare { catalog := postCatalog } usersByAges 0 = .ok usersByAgesPrepared := by
    cbv
  have huses : usersByAges.paramUses
      = [{ clause := .filter, location := {}, param := typedAges }] := by
    cbv
  have hall := hmerged _ _ _ _ hprepare
  rw [huses] at hall
  have hages := hadmits _ _ _ hcast
  exact ⟨hcast, hages, hsame _ _ hages, hprepare, (List.forall₂_cons.1 hall).1⟩

end Planner

end QueryPlan
