import Mathlib
import QueryPlan.Proofs.Casting

set_option autoImplicit false

/-! # Null items

No parameter is merged into null. The items of membership lists are not looked at, though: they are
cast one by one, and it is left to the caster to refuse a null. The standard caster does so for all
types but `any`. This is also the type of the fields of a source without a model, so a list that is
compared with such a field keeps the nulls that were written into it, at any depth. -/

namespace QueryPlan

variable {catalog : Catalog} {caster : Caster} {sources : List Source}

/-! ## Items of nested lists -/

/-- The item at a position in nested lists. -/
def Value.itemAt? : Value → List Nat → Option Value
  | value, [] => some value
  | .list items, i :: path => items[i]?.bind fun item => item.itemAt? path
  | _, _ :: _ => none

@[simp] theorem Value.itemAt?_nil (value : Value) : value.itemAt? [] = some value := by
  rw [Value.itemAt?]

@[simp] theorem Value.itemAt?_list (items : List Value) (i : Nat) (path : List Nat) :
    (Value.list items).itemAt? (i :: path) = items[i]?.bind fun item => item.itemAt? path := by
  rw [Value.itemAt?]

/-- How many membership lists a written type has around its innermost type. -/
def ParamType.depth : ParamType → Nat
  | .plain _ => 0
  | .ofField _ _ => 0
  | .listOf inner => inner.depth + 1

/-- How many membership lists a type has around its field type. -/
def CastType.depth : CastType → Nat
  | .plain _ => 0
  | .listOf inner => inner.depth + 1

theorem ParamType.ResolvesAs.depth_eq {type : ParamType} {castType : CastType}
    (h : type.ResolvesAs catalog sources castType) : castType.depth = type.depth := by
  induction h with
  | plain _ => rfl
  | withoutModel _ _ => rfl
  | declared _ _ _ => rfl
  | listOf _ ih => rw [CastType.depth, ParamType.depth, ih]

/-! ## Casting item by item -/

/-- The items inside all membership lists are cast, each in its place. -/
theorem itemAt?_of_castParam {type : CastType} {value merged : Value}
    (h : caster.castParam type value = some merged) {path : List Nat}
    (hpath : path.length = type.depth) :
    merged.itemAt? path = (value.itemAt? path).bind (caster.cast type.fieldType) := by
  induction type generalizing value merged path with
  | plain type =>
    obtain rfl := List.length_eq_zero_iff.1 hpath
    rw [Value.itemAt?_nil, Value.itemAt?_nil]
    exact h.symm
  | listOf inner ih =>
    obtain ⟨i, rest, rfl⟩ := List.exists_cons_of_length_eq_add_one hpath
    rw [Caster.castParam_listOf, Caster.castItems_eq_some_iff] at h
    obtain ⟨items, mergedItems, rfl, rfl, hitems⟩ := h
    rw [Value.itemAt?_list, Value.itemAt?_list]
    cases hitem : items[i]? with
    | none => rw [forall₂_getElem?_eq_none hitems hitem, Option.bind_none, Option.bind_none]
    | some item =>
      obtain ⟨mergedItem, hmergedItem, hcast⟩ := forall₂_getElem? hitems hitem
      rw [hmergedItem]
      exact ih hcast (Nat.succ.inj hpath)

/-- The standard caster makes a null of nothing but a null of any type. -/
theorem standardCast_eq_null_iff {type : FieldType} {value : Value} :
    Caster.standardCast type value = some .null ↔ type = .any ∧ value = .null := by
  constructor
  · intro h
    -- Null has no type but `any`, which lets every value pass.
    cases Caster.admits_of_standardCast h with
    | any => exact ⟨rfl, Option.some.inj h⟩
  · rintro ⟨rfl, rfl⟩
    rfl

theorem ne_null_of_castParam_standard {type : CastType} {value merged : Value}
    (h : Caster.standard.castParam type value = some merged) (hvalue : value ≠ .null) :
    merged ≠ .null := by
  intro hnull
  rw [hnull] at h
  cases type with
  | plain type => exact hvalue (standardCast_eq_null_iff.1 h).2
  | listOf inner => cases Caster.admits_of_castParam h

/-! ## Merged values -/

/-- The type inside all membership lists is `any`, written so or found for a field. -/
def ParamType.AcceptsAnything (catalog : Catalog) (sources : List Source) (type : ParamType) :
    Prop :=
  ∃ castType, type.ResolvesAs catalog sources castType ∧ castType.fieldType = .any

theorem ParamType.ResolvesAs.acceptsAnything_iff {type : ParamType} {castType : CastType}
    (h : type.ResolvesAs catalog sources castType) :
    type.AcceptsAnything catalog sources ↔ castType.fieldType = .any := by
  constructor
  · intro hany
    obtain ⟨castType', h', hfieldType⟩ := hany
    -- A type resolves in one way only.
    have hresolve := (h.resolve_eq .select {}).symm.trans (h'.resolve_eq .select {})
    cases hresolve
    exact hfieldType
  · intro hfieldType
    exact ⟨castType, h, hfieldType⟩

/-- A value that a parameter may be merged into if nulls are refused everywhere: neither it nor, if
    it is a membership list, an item inside all lists is null. -/
structure LocalParam.WithoutNulls (param : LocalParam) (merged : Value) : Prop where
  ne_null : merged ≠ .null
  item_ne_null : 1 ≤ param.type.depth → ∀ path, path.length = param.type.depth →
    merged.itemAt? path ≠ some .null

/-- A value that is not null itself. Its items inside all lists are null just where a null was
    written, in a list whose items may be anything. -/
structure LocalParam.NullsKept (catalog : Catalog) (sources : List Source) (param : LocalParam)
    (merged : Value) : Prop where
  ne_null : merged ≠ .null
  item_eq_null_iff (path : List Nat) : path.length = param.type.depth →
    (merged.itemAt? path = some .null ↔
      param.type.AcceptsAnything catalog sources ∧ param.value.itemAt? path = some .null)

/-- A parameter that does not have a null item in a list whose items may be anything. -/
def LocalParam.WritesNoNull (catalog : Catalog) (sources : List Source) (param : LocalParam) :
    Prop :=
  param.type.AcceptsAnything catalog sources → ∀ path, path.length = param.type.depth →
    param.value.itemAt? path ≠ some .null

theorem LocalParam.NullsKept.withoutNulls_iff {param : LocalParam} {merged : Value}
    (h : param.NullsKept catalog sources merged) :
    param.WithoutNulls merged ↔ param.WritesNoNull catalog sources := by
  constructor
  · intro hwithout hany path hpath hwritten
    have hmerged := (h.item_eq_null_iff path hpath).2 ⟨hany, hwritten⟩
    by_cases hlist : 1 ≤ param.type.depth
    · exact hwithout.item_ne_null hlist path hpath hmerged
    -- Without a list around it, the item is the value itself.
    · obtain rfl : path = [] := List.length_eq_zero_iff.1 (by omega)
      rw [Value.itemAt?_nil] at hmerged
      exact h.ne_null (Option.some.inj hmerged)
  · intro hwrites
    refine ⟨h.ne_null, fun _ path hpath hnull => ?_⟩
    obtain ⟨hany, hwritten⟩ := (h.item_eq_null_iff path hpath).1 hnull
    exact hwrites hany path hpath hwritten

theorem ParamUse.nullsKept_of_cast {use : ParamUse} {merged : Value}
    (h : use.cast catalog .standard sources = .ok merged) :
    use.param.NullsKept catalog sources merged := by
  obtain ⟨_, hresolve, hvalue, hcast⟩ := ParamUse.cast_eq_ok_iff.1 h
  obtain ⟨castType, htype, rfl⟩ := ParamType.resolve_eq_ok_iff.1 hresolve
  refine ⟨ne_null_of_castParam_standard hcast hvalue, fun path hpath => ?_⟩
  rw [← htype.depth_eq] at hpath
  rw [itemAt?_of_castParam hcast hpath, Option.bind_eq_some_iff, htype.acceptsAnything_iff]
  constructor
  · intro hitem
    obtain ⟨item, hwritten, hnull⟩ := hitem
    obtain ⟨hany, rfl⟩ := standardCast_eq_null_iff.1 hnull
    exact ⟨hany, hwritten⟩
  · intro hitem
    obtain ⟨hany, hwritten⟩ := hitem
    exact ⟨.null, hwritten, standardCast_eq_null_iff.2 ⟨hany, rfl⟩⟩

namespace Planner

/-- With the standard caster each parameter of a prepared query is merged into a value that is not
    null. A null stays inside of membership lists exactly where it was written and the items may be
    anything, so that the merged values are without nulls just if no such null was written. -/
theorem nulls_kept_of_prepare (catalog : Catalog) (q : Query) (base : Nat) (p : Prepared)
    (h : prepare { catalog } q base = .ok p) :
    List.Forall₂ (fun use merged => use.param.NullsKept catalog p.query.sources merged)
        q.paramUses p.values ∧
      (List.Forall₂ (fun use merged => use.param.WithoutNulls merged) q.paramUses p.values ↔
        ∀ use ∈ q.paramUses, use.param.WritesNoNull catalog p.query.sources) := by
  obtain ⟨r, values, hresolve, hvalues, rfl⟩ := prepare_eq_ok_iff.1 h
  have hr := Query.resolvesTo_of_resolve hresolve
  have hkept : List.Forall₂ (fun use merged => use.param.NullsKept catalog r.sources merged)
      q.paramUses values := by
    rw [← hr.paramUses]
    exact (Query.castParams_eq_ok_iff.1 hvalues).imp fun use merged => ParamUse.nullsKept_of_cast
  rw [Prepared.values, map_snd_numberedFrom]
  exact ⟨hkept, forall₂_iff_forall_mem hkept fun use merged hkept => hkept.withoutNulls_iff⟩

/-- Two codes to look for in an audit log, the first of which is null. -/
def auditCodes : LocalParam :=
  ⟨.list [.null, .int 1], .listOf (.ofField 0 "code")⟩

/-- The rows of the audit log, which has no model, with one of these codes. -/
def auditsByCode : Query where
  fromRef := some (.table "audit")
  filters := [{
    expr := .node (.apply .member) [.field 0 "code", .placeholder 0]
    params := [(0, auditCodes)] }]

/-- `auditsByCode`, prepared. -/
def auditsByCodePrepared : Prepared where
  query := {
    fromRef := some (.table "audit")
    filters := [{ expr := .node (.apply .member) [.field 0 "code", .placeholder 0] }]
    sources := [⟨"audit", none⟩] }
  params := [(0, .list [.null, .int 1])]

theorem prepare_auditsByCode :
    prepare { catalog := postCatalog } auditsByCode 0 = .ok auditsByCodePrepared := by
  cbv

theorem paramUses_auditsByCode :
    auditsByCode.paramUses = [{ clause := .filter, location := {}, param := auditCodes }] := by
  cbv

theorem nulls_kept_auditsByCode :
    prepare { catalog := postCatalog } auditsByCode 0 = .ok auditsByCodePrepared ∧
      auditCodes.NullsKept postCatalog [⟨"audit", none⟩] (.list [.null, .int 1]) ∧
      auditCodes.type.AcceptsAnything postCatalog [⟨"audit", none⟩] ∧
      auditCodes.value.itemAt? [0] = some .null ∧
      ¬auditCodes.WithoutNulls (.list [.null, .int 1]) := by
  obtain ⟨hall, -⟩ := nulls_kept_of_prepare _ _ _ _ prepare_auditsByCode
  rw [paramUses_auditsByCode] at hall
  have hkept : auditCodes.NullsKept postCatalog [⟨"audit", none⟩] (.list [.null, .int 1]) :=
    (List.forall₂_cons.1 hall).1
  have hany : auditCodes.type.AcceptsAnything postCatalog [⟨"audit", none⟩] :=
    ⟨_, .listOf (.withoutModel rfl rfl), rfl⟩
  have hwritten : auditCodes.value.itemAt? [0] = some .null := by
    simp [auditCodes]
  refine ⟨prepare_auditsByCode, hkept, hany, hwritten, fun hwithout => ?_⟩
  exact hkept.withoutNulls_iff.1 hwithout hany [0] rfl hwritten

/-- Not every value that a parameter is merged into is without nulls. -/
theorem not_withoutNulls_of_prepare : ¬∀ (catalog : Catalog) (q : Query) (base : Nat)
    (p : Prepared), prepare { catalog } q base = .ok p →
    List.Forall₂ (fun use merged => use.param.WithoutNulls merged) q.paramUses p.values := by
  intro hall
  have hwithout := hall _ _ _ _ prepare_auditsByCode
  rw [paramUses_auditsByCode] at hwithout
  obtain ⟨hfirst, -⟩ := List.forall₂_cons.1 hwithout
  exact hfirst.item_ne_null (by decide) [0] rfl (by simp)

end Planner

end QueryPlan
