set_option autoImplicit false

/-! # Field types

The declared types of model fields, and the compatibility of a declared type with an expected
one. -/

namespace QueryPlan

/-- The type of a model field. `any` stands for an unknown type. -/
inductive FieldType
  | any
  | array (inner : FieldType)
  | binary
  | boolean
  | date
  | decimal
  | float
  | id
  | integer
  | string
  | timestamp
deriving DecidableEq

namespace FieldType

/-- The name of a type; an array names its element type in parentheses. -/
def text : FieldType → String
  | any => "any"
  | array inner => "array(" ++ inner.text ++ ")"
  | binary => "binary"
  | boolean => "boolean"
  | date => "date"
  | decimal => "decimal"
  | float => "float"
  | id => "id"
  | integer => "integer"
  | string => "string"
  | timestamp => "timestamp"

/-- Whether a field of one type may stand where the other is expected: equal types, with `any`
    compatible with everything and `id` with `integer`, also inside arrays. Numbers do not
    widen. -/
def compatible : FieldType → FieldType → Bool
  | any, _ => true
  | _, any => true
  | array left, array right => compatible left right
  | id, integer => true
  | integer, id => true
  | left, right => left = right

@[simp] theorem any_compatible (t : FieldType) : any.compatible t = true := by
  simp [compatible]

@[simp] theorem compatible_any (t : FieldType) : t.compatible any = true := by
  cases t <;> simp [compatible]

@[simp] theorem array_compatible_array (s t : FieldType) :
    (array s).compatible (array t) = s.compatible t := by
  simp [compatible]

end FieldType

end QueryPlan
