import QueryPlan.Schema.FieldType
import QueryPlan.Value

set_option autoImplicit false

/-! # Casting

A caster turns values into values of a field type, or refuses. Parameters that stand for a list of
alternatives have a composite type; they are cast item by item, so that a caster sees field types
only. -/

namespace QueryPlan

/-- The type a parameter is cast to. -/
inductive CastType
  | plain (type : FieldType)
  /-- A list, each item of the inner type, to test membership in. -/
  | listOf (inner : CastType)
deriving DecidableEq

namespace CastType

/-- The name of a type; membership lists name the type of their items in parentheses. -/
def text : CastType → String
  | plain type => type.text
  | listOf inner => "in(" ++ inner.text ++ ")"

/-- The field type inside all lists. -/
def fieldType : CastType → FieldType
  | plain type => type
  | listOf inner => inner.fieldType

end CastType

/-- A way to cast values to field types; `none` refuses the value. -/
structure Caster where
  cast : FieldType → Value → Option Value

namespace Caster

/-- Casts a value to a parameter type. A membership list needs a list value, all of whose items
    are cast. -/
def castParam (caster : Caster) : CastType → Value → Option Value
  | .plain type, value => caster.cast type value
  | .listOf inner, .list items => (items.mapM (caster.castParam inner)).map .list
  | .listOf _, _ => none

end Caster

end QueryPlan
