import QueryPlan.Planning.Parameters
import QueryPlan.Planning.References

set_option autoImplicit false

/-! # The passes without their walks

What the walks over a query come to, said without a state: all casts or checks in a row, and then all
expressions changed at once, each by what its place and the expressions read before it say. Nothing
here is run; the walks are proved to come to this, and all else that is known of planning is derived
from it. -/

namespace QueryPlan

namespace Query

/-! ## Changing all expressions -/

/-- Changes every expression, given its clause and its position in that clause. -/
def mapExprs (f : Clause → Nat → ClauseExpr → ClauseExpr) (q : Query) : Query :=
  { q with
    select := q.select.map fun s => { s with expr := f .select 0 s.expr }
    distincts := q.distincts.mapIdx (f .distinct)
    joins := q.joins.mapIdx fun i j => { j with on := f .join i j.on }
    filters := q.filters.mapIdx (f .filter)
    groupings := q.groupings.mapIdx (f .groupBy)
    havings := q.havings.mapIdx (f .having)
    orderings := q.orderings.mapIdx (f .orderBy)
    limit := q.limit.map (f .limit 0)
    offset := q.offset.map (f .offset 0) }

/-- The change reaches every expression of a clause, in its place. -/
theorem clauseExprs_mapExprs (f : Clause → Nat → ClauseExpr → ClauseExpr) (q : Query) (c : Clause) :
    (q.mapExprs f).clauseExprs c = (q.clauseExprs c).mapIdx (f c) := by
  cases c with
  | select => cases h : q.select <;> simp [clauseExprs, mapExprs, h]
  | limit => cases h : q.limit <;> simp [clauseExprs, mapExprs, h]
  | offset => cases h : q.offset <;> simp [clauseExprs, mapExprs, h]
  | join => exact List.ext_getElem? fun i => by simp [clauseExprs, mapExprs, Option.map_map]; rfl
  | distinct | filter | groupBy | having | orderBy => rfl

/-! ## Merging -/

/-- All parameters of a query in reading order. -/
def paramUses (q : Query) : List ParamUse :=
  q.exprs.flatMap fun row => row.2.paramUses row.1

/-- Casts all parameters of a query, in reading order, up to the first that is refused. -/
def castParams (catalog : Catalog) (caster : Caster) (q : Query) :
    Except PlanError (List Value) :=
  q.paramUses.mapM (ParamUse.cast catalog caster q.sources)

/-- Drops the local parameters of all expressions. -/
def withoutParams (q : Query) : Query :=
  q.mapExprs fun _ _ e => e.withoutParams

@[simp] theorem clauseExprs_withoutParams (q : Query) (c : Clause) :
    q.withoutParams.clauseExprs c = (q.clauseExprs c).map (·.withoutParams) := by
  rw [withoutParams, clauseExprs_mapExprs]
  exact List.ext_getElem? fun i => by simp

@[simp] theorem paramCount_withoutParams (q : Query) : q.withoutParams.paramCount = 0 := by
  rw [paramCount, List.length_eq_zero_iff, List.flatMap_eq_nil_iff]
  rintro ⟨clause, e⟩ he
  rw [mem_exprs, clauseExprs_withoutParams, List.mem_map] at he
  obtain ⟨_, _, rfl⟩ := he
  rfl

end Query

/-- Values under consecutive numbers from `base` on. -/
def numberedFrom (base : Nat) (values : List Value) : List (Nat × Value) :=
  values.mapIdx fun i value => (base + i, value)

@[simp] theorem map_snd_numberedFrom (base : Nat) (values : List Value) :
    (numberedFrom base values).map Prod.snd = values := by
  refine List.ext_getElem? fun i => ?_
  simp [numberedFrom, Option.map_map, Function.comp_def]

/-! ## Numbering -/

/-- Checks the references of an expression from left to right. -/
def ClauseExpr.checkReferences (catalog : Catalog) (sources : List Source) (clause : Clause)
    (e : ClauseExpr) : Except PlanError Unit :=
  e.expr.references.forM (Reference.check catalog sources clause e.location)

namespace Query

/-- Checks the references of all expressions in reading order. -/
def checkReferences (catalog : Catalog) (q : Query) : Except PlanError Unit :=
  q.exprs.forM fun row => row.2.checkReferences catalog q.sources row.1

/-- The number of placeholders that are read before the expression at a position of a clause. -/
def placeholdersBefore (q : Query) (clause : Clause) (position : Nat) : Nat :=
  let earlier := (Clause.all.takeWhile (· ≠ clause)).flatMap q.clauseExprs
  ((earlier ++ (q.clauseExprs clause).take position).flatMap (·.expr.placeholders)).length

/-- Numbers the placeholders of the whole query from `counter` on. Each expression has its own
    numbers from 0 on before; they are moved past the placeholders of the expressions read
    earlier. -/
def renumber (counter : Nat) (q : Query) : Query :=
  q.mapExprs fun clause position e => e.shift (counter + q.placeholdersBefore clause position)

end Query

end QueryPlan
