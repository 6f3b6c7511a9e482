import QueryPlan.JoinKind
import QueryPlan.Schema.FieldType

set_option autoImplicit false

/-! # Catalogs

A catalog is all that planning knows about models: three lookups that may each have no answer. Any
functions will do; a declared schema is one source of them. -/

namespace QueryPlan

/-- The name of a model. -/
abbrev ModelName := String

/-- A link from one model to another. Joining through it asks for equal values of `ownerKey` on the
    owning model and `relatedKey` on the related one. -/
structure Association where
  related : ModelName
  ownerKey : String
  relatedKey : String
  /-- The kind of join that suits the association. -/
  hint : JoinKind := .inner
deriving DecidableEq

/-- What is known about models. -/
structure Catalog where
  /-- The default table of a model, if there is such a model. -/
  table : ModelName → Option String
  /-- The declared type of a field of a model. -/
  fieldType : ModelName → String → Option FieldType
  /-- The association of this name on a model. -/
  association : ModelName → String → Option Association

end QueryPlan
