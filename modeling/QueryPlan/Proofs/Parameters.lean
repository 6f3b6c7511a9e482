import Mathlib.Data.List.Forall2
import QueryPlan.Proofs.ReadingOrder

set_option autoImplicit false

/-! # Parameters and their values

Merging gives one value for each parameter of a query, in the reading order and within an expression
in the order of the parameters' numbers. So the value of a parameter stands behind the values of
all parameters of the expressions read before, as far as its number says. -/

namespace QueryPlan

/-! ## Casting -/

/-- A parameter is cast when its type is known, it is not null, and the caster takes it. -/
theorem ParamUse.cast_eq_ok_iff {catalog : Catalog} {caster : Caster} {sources : List Source}
    {use : ParamUse} {value : Value} :
    use.cast catalog caster sources = .ok value ↔
      ∃ resolved, use.param.type.resolve catalog sources use.clause use.location = .ok resolved ∧
        use.param.value ≠ .null ∧ caster.castParam resolved.type use.param.value = some value := by
  rw [ParamUse.cast, bind_eq_ok_iff]
  refine exists_congr fun resolved => and_congr_right fun _ => ?_
  by_cases hnull : use.param.value = .null
  · simp [hnull, Value.isNull]
  · have hn : use.param.value.isNull = false := by
      rw [← Bool.not_eq_true, Value.isNull_iff]
      exact hnull
    rw [hn, if_neg Bool.false_ne_true]
    cases hcast : caster.castParam resolved.type use.param.value with
    | none => simp
    | some v => simp [hnull]

/-- Merging succeeds with the values of all parameters. -/
theorem Query.castParams_eq_ok_iff {catalog : Catalog} {caster : Caster} {q : Query}
    {values : List Value} :
    q.castParams catalog caster = .ok values ↔
      List.Forall₂ (fun use value => use.cast catalog caster q.sources = .ok value)
        q.paramUses values :=
  mapM_eq_ok_iff

/-! ## Numbers within an expression -/

namespace ClauseExpr

variable {e : ClauseExpr}

theorem sortedParams_perm (e : ClauseExpr) : e.sortedParams.Perm e.params :=
  List.mergeSort_perm _ _

theorem pairwise_sortedParams (e : ClauseExpr) :
    e.sortedParams.Pairwise fun p q => p.1 ≤ q.1 := by
  have h : e.sortedParams.Pairwise fun p q => decide (p.1 ≤ q.1) = true :=
    List.pairwise_mergeSort (fun _ _ _ => by simpa using Nat.le_trans)
      (fun a b => by simpa using Nat.le_total a.1 b.1) e.params
  exact h.imp fun hle => of_decide_eq_true hle

@[simp] theorem length_paramUses (clause : Clause) (e : ClauseExpr) :
    (e.paramUses clause).length = e.params.length := by
  rw [paramUses, List.length_map, e.sortedParams_perm.length_eq]

/-- An expression whose `n` parameters have the numbers from 0 to `n - 1`, listed in any order, for
    `n` placeholders with such numbers. -/
structure Balanced (e : ClauseExpr) : Prop where
  keys : (e.params.map Prod.fst).Perm (List.range e.params.length)
  count : e.placeholderCount = e.params.length
  lt : ∀ key ∈ e.expr.placeholders, key < e.params.length

instance (e : ClauseExpr) : Decidable e.Balanced :=
  decidable_of_iff ((e.params.map Prod.fst).Perm (List.range e.params.length) ∧
      e.placeholderCount = e.params.length ∧ ∀ key ∈ e.expr.placeholders, key < e.params.length)
    ⟨fun h => ⟨h.1, h.2.1, h.2.2⟩, fun h => ⟨h.keys, h.count, h.lt⟩⟩

/-- Consecutive numbers are the positions after sorting. -/
theorem Balanced.map_fst_sortedParams (h : e.Balanced) :
    e.sortedParams.map Prod.fst = List.range e.params.length := by
  -- Two sorted lists with the same entries are equal.
  have hperm : (e.sortedParams.map Prod.fst).Perm (List.range e.params.length) :=
    (e.sortedParams_perm.map _).trans h.keys
  have hsorted : (e.sortedParams.map Prod.fst).Pairwise (· ≤ ·) :=
    List.pairwise_map.2 e.pairwise_sortedParams
  exact hperm.eq_of_pairwise (fun _ _ _ _ => Nat.le_antisymm) hsorted List.pairwise_le_range

/-- The parameter of each number in range is the one in its place after sorting. -/
theorem Balanced.exists_param (h : e.Balanced) (clause : Clause) {key : Nat}
    (hkey : key < e.params.length) :
    ∃ param, (key, param) ∈ e.params ∧
      (e.paramUses clause)[key]? = some { clause, location := e.location, param } := by
  have hlength : key < e.sortedParams.length := by rwa [e.sortedParams_perm.length_eq]
  rcases hrow : e.sortedParams[key] with ⟨fst, param⟩
  -- The number in this place is the place itself.
  have hfst : fst = key := by
    have hget := congrArg (·[key]?) h.map_fst_sortedParams
    simpa [hlength, hkey, hrow] using hget
  subst hfst
  refine ⟨param, ?_, ?_⟩
  · exact e.sortedParams_perm.mem_iff.1 (hrow ▸ List.getElem_mem hlength)
  · rw [paramUses, List.getElem?_map, List.getElem?_eq_getElem hlength, hrow]
    rfl

end ClauseExpr

/-! ## Places in the whole query -/

namespace Query

/-- The number of parameters that are read before the expression at a position of a clause. -/
def paramsBefore (q : Query) (clause : Clause) (position : Nat) : Nat :=
  ((q.exprsBefore clause position).flatMap fun row => row.2.params).length

variable {q : Query} {clause : Clause} {i : Nat} {e : ClauseExpr}

theorem length_flatMap_paramUses (rows : List (Clause × ClauseExpr)) :
    (rows.flatMap fun row => row.2.paramUses row.1).length
      = (rows.flatMap fun row => row.2.params).length := by
  simp only [List.length_flatMap, ClauseExpr.length_paramUses]

/-- An expression's parameters come behind those of the expressions read before. -/
theorem getElem?_paramUses (he : (q.clauseExprs clause)[i]? = some e) {k : Nat} {use : ParamUse}
    (huse : (e.paramUses clause)[k]? = some use) :
    q.paramUses[q.paramsBefore clause i + k]? = some use := by
  have hexprs := exprs_eq_append he
  have hk : k < (e.paramUses clause).length := (List.getElem?_eq_some_iff.1 huse).1
  rw [paramUses, hexprs, List.flatMap_append, List.flatMap_cons, paramsBefore,
    ← length_flatMap_paramUses, List.getElem?_append_right (Nat.le_add_right _ _),
    Nat.add_sub_cancel_left, List.getElem?_append_left hk]
  exact huse

/-- An expression's parameters end within those of the query. -/
theorem paramsBefore_add_le (he : (q.clauseExprs clause)[i]? = some e) :
    q.paramsBefore clause i + e.params.length ≤ q.paramCount := by
  have hexprs := exprs_eq_append he
  rw [paramCount, hexprs, List.flatMap_append, List.flatMap_cons, List.length_append,
    List.length_append, paramsBefore, ← Nat.add_assoc]
  exact Nat.le_add_right _ _

/-- If every expression has as many placeholders as parameters, so have the ones before a place. -/
theorem placeholdersBefore_eq_paramsBefore (h : ∀ row ∈ q.exprs, row.2.Balanced) (clause : Clause)
    (position : Nat) : q.placeholdersBefore clause position = q.paramsBefore clause position := by
  rw [placeholdersBefore_eq, paramsBefore, List.length_flatMap, List.length_flatMap]
  refine congrArg List.sum (List.map_congr_left fun row hrow => ?_)
  exact (h row (mem_exprs_of_mem_exprsBefore hrow)).count

theorem length_of_castParams {catalog : Catalog} {caster : Caster} {values : List Value}
    (h : q.castParams catalog caster = .ok values) : values.length = q.paramCount := by
  rw [← (castParams_eq_ok_iff.1 h).length_eq, paramUses, length_flatMap_paramUses, paramCount]

/-- A query without parameters has none to cast. -/
theorem castParams_of_paramCount_eq_zero {catalog : Catalog} {caster : Caster}
    (h : q.paramCount = 0) : q.castParams catalog caster = .ok [] := by
  have huses : q.paramUses = [] := by
    rw [← List.length_eq_zero_iff, paramUses, length_flatMap_paramUses]
    exact h
  rw [castParams_eq_ok_iff, huses]
  exact .nil

end Query

end QueryPlan
