import QueryPlan.Query
import QueryPlan.Value.Cast
import QueryPlan.Value.Text

set_option autoImplicit false

/-! # Planning errors

Every way in which planning can refuse a query, by its cause, and the wording of each. -/

namespace QueryPlan

/-- What was to be done with a source that has no model. -/
inductive SourceUse
  | join
  | select
  | preload
deriving DecidableEq

/-- The words for a use of a source. -/
def SourceUse.text : SourceUse → String
  | join => "join on"
  | select => "select"
  | preload => "preload"

/-- Why a query cannot be planned. -/
inductive PlanError
  | missingFrom
  | unknownModel (model : ModelName)
  | sourceWithoutModel (use : SourceUse) (binding : Nat) (table : String)
  | unknownAssociation (model : ModelName) (name : String)
  | bindingOutOfRange (clause : Clause) (binding sources : Nat)
  | unknownField (clause : Clause) (model : ModelName) (field : String) (location : Location)
  | typeMismatch (clause : Clause) (model : ModelName) (field : String)
      (actual expected : FieldType) (location : Location)
  | fromNotSelected
  | notAnAssociation (model : ModelName) (name : String)
  | associationMismatch (model : ModelName) (name : String) (expected : ModelName)
      (found : Option ModelName)
  | unsuitableJoin (model : ModelName) (name : String) (kind : JoinKind)
  | notOnlyFilters
  /-- A parameter is null. -/
  | nullParam (clause : Clause) (type : CastType) (location : Location)
  /-- A parameter cannot be cast to its type, which may be that of a field of a model. -/
  | invalidParam (clause : Clause) (value : Value) (type : CastType)
      (field : Option (ModelName × String)) (location : Location)

namespace PlanError

/-- The clause an error is about, as it stands in messages. -/
def inClause (clause : Clause) : String :=
  " in `" ++ clause.text ++ "`"

/-- A name between single quotes. -/
def named (name : String) : String :=
  "'" ++ name ++ "'"

/-- The wording of an error. -/
def message : PlanError → String
  | missingFrom => "query must have a from expression"
  | unknownModel model => "model " ++ named model ++ " has no source table in the schema"
  | sourceWithoutModel use binding table =>
    "cannot " ++ use.text ++ " source " ++ named table ++ " at binding " ++ toString binding ++
      " because it has no model"
  | unknownAssociation model name =>
    "could not find association " ++ named name ++ " on model " ++ named model
  | bindingOutOfRange clause binding sources =>
    "binding " ++ toString binding ++ inClause clause ++ " is out of range, query has " ++
      toString sources ++ " source(s)"
  | unknownField clause model field location =>
    "field " ++ named (model ++ "." ++ field) ++ inClause clause ++
      " does not exist in source at " ++ location.text
  | typeMismatch clause model field actual expected location =>
    "field " ++ named (model ++ "." ++ field) ++ inClause clause ++
      " does not type check: it has type " ++ actual.text ++ " but " ++ expected.text ++
      " was expected at " ++ location.text
  | fromNotSelected => "from binding must be selected when preload is used"
  | notAnAssociation model name =>
    named name ++ " is not an association of model " ++ named model
  | associationMismatch model name expected found =>
    "association " ++ named (model ++ "." ++ name) ++
      " in preload doesn't match join model: expected " ++ named expected ++ ", got " ++
      (match found with
        | none => "a source without model"
        | some model => named model)
  | unsuitableJoin model name kind =>
    "association " ++ named (model ++ "." ++ name) ++
      " in preload requires an inner or left join, got " ++ kind.text ++ " join"
  | notOnlyFilters => "only filter expressions are allowed in this query"
  | nullParam clause type location =>
    "value nil" ++ inClause clause ++ " cannot be cast to type " ++ type.text ++ " at " ++
      location.text ++
      ": comparison with nil is forbidden as it is unsafe, use an is-null check instead"
  | invalidParam clause value type field location =>
    "value `" ++ value.render ++ "`" ++ inClause clause ++ " cannot be cast to type " ++
      type.text ++
      (match field with
        | none => ""
        | some (model, field) => " (field " ++ named (model ++ "." ++ field) ++ ")") ++
      " at " ++ location.text

end PlanError

/-- The source of a binding, for a use in the given clause. -/
def sourceAt (clause : Clause) (sources : List Source) (binding : Nat) :
    Except PlanError Source :=
  match sources[binding]? with
  | some source => .ok source
  | none => .error (.bindingOutOfRange clause binding sources.length)

end QueryPlan
