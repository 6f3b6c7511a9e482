import QueryPlan.Planning.Error
import QueryPlan.Query.Exprs

set_option autoImplicit false

/-! # Projection

The select clause is flattened into the list of fields that are read: the row of the first source
if it is selected, the rows of the associations that are loaded with it, and the other output
columns from left to right. A query without a select clause selects the row of its first source. -/

namespace QueryPlan

/-! ## Associations in order -/

mutual

/-- The sources of an association and of those below it, each before its children. -/
def AssocNode.bindings : AssocNode → List Nat
  | ⟨_, binding, children⟩ => binding :: AssocForest.bindings children

/-- The sources of associations in the order in which they are read. -/
def AssocForest.bindings : List AssocNode → List Nat
  | [] => []
  | node :: forest => AssocNode.bindings node ++ AssocForest.bindings forest

end

/-! ## Output columns -/

/-- Whether an output column is the row of the first source. -/
def Expr.isFromRow : Expr → Bool
  | .atom (.binding 0) => true
  | _ => false

/-- Checks an output column: the row of a source is an object of its model, so the source needs
    one. -/
def Expr.checkColumn (sources : List Source) : Expr → Except PlanError Unit
  | .atom (.binding index) => do
    let source ← sourceAt .select sources index
    match source.model with
    | some _ => return ()
    | none => .error (.sourceWithoutModel .select index source.table)
  | _ => .ok ()

/-- The select clause of a query, or the row of the first source. -/
def Query.selectOrDefault (q : Query) : Select :=
  q.select.getD { expr := { expr := .binding 0 } }

/-- Fills in the fields of a select clause whose columns have been checked. -/
def Select.withFields (s : Select) (assocs : AssocForest) : Select :=
  let leaves := s.expr.expr.leaves
  let fromRow := leaves.any Expr.isFromRow
  let rows := AssocForest.bindings assocs
  { expr := s.expr
    fields :=
      (if fromRow then [.binding 0] else []) ++ rows.map .binding ++
        leaves.filter fun leaf => !leaf.isFromRow
    includesFrom := fromRow
    assocCount := rows.length }

/-- Normalizes the select clause. Associations can only be loaded together with the row of the
    first source, which they hang on. -/
def Query.project (q : Query) : Except PlanError Query := do
  let select := q.selectOrDefault
  let leaves := select.expr.expr.leaves
  leaves.forM (Expr.checkColumn q.sources)
  if !q.assocs.isEmpty && !leaves.any Expr.isFromRow then .error .fromNotSelected
  else return { q with select := some (select.withFields q.assocs) }

end QueryPlan
