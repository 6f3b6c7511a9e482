import QueryPlan.Schema.Catalog
import Std.Data.ExtTreeMap

set_option autoImplicit false

/-! # Declared schemas

A schema is a finite collection of models, each with its table, its typed fields and its
associations, all of them kept by name; declaring a name again replaces what it stood for. Schemas
are equal when they declare the same things, in whatever order that was done. `Schema.validate`
checks that every association can be joined. -/

namespace QueryPlan

/-- The description of one model. -/
structure ModelDecl where
  table : String
  fields : Std.ExtTreeMap String FieldType compare := ∅
  associations : Std.ExtTreeMap String Association compare := ∅

namespace ModelDecl

/-- Declares a field. -/
def field (decl : ModelDecl) (name : String) (type : FieldType) : ModelDecl :=
  { decl with fields := decl.fields.insert name type }

/-- Declares an association. -/
def association (decl : ModelDecl) (name : String) (association : Association) : ModelDecl :=
  { decl with associations := decl.associations.insert name association }

end ModelDecl

/-- A collection of models. -/
structure Schema where
  models : Std.ExtTreeMap ModelName ModelDecl compare := ∅

/-- A defect of a schema. -/
inductive SchemaError
  | emptyTable (model : ModelName)
  | unknownRelated (model : ModelName) (association : String) (related : ModelName)
  /-- The model named here is the one that lacks the key. -/
  | unknownKey (model : ModelName) (association : String) (key : String)
deriving DecidableEq

/-- The wording of a defect. -/
def SchemaError.message : SchemaError → String
  | emptyTable model => "model '" ++ model ++ "' has an empty source table"
  | unknownRelated model association related =>
    "association '" ++ model ++ "." ++ association ++ "' points at unknown model '" ++ related ++
      "'"
  | unknownKey model association key =>
    "association '" ++ association ++ "' references unknown key '" ++ model ++ "." ++ key ++ "'"

namespace Schema

/-- Declares a model. -/
def model (schema : Schema) (name : ModelName) (decl : ModelDecl) : Schema :=
  { schema with models := schema.models.insert name decl }

/-- The lookups that a schema answers. -/
def catalog (schema : Schema) : Catalog where
  table model := schema.models[model]?.map (·.table)
  fieldType model field := schema.models[model]?.bind (·.fields[field]?)
  association model name := schema.models[model]?.bind (·.associations[name]?)

/-! ## Validation -/

/-- Checks one association of a model: the related model is declared, the owner's key is a field of
    the model and the related key a field of the related model. -/
def checkAssociation (schema : Schema) (model : ModelName) (decl : ModelDecl) (name : String)
    (association : Association) : Except SchemaError Unit :=
  match schema.models[association.related]? with
  | none => .error (.unknownRelated model name association.related)
  | some related =>
    if association.ownerKey ∉ decl.fields then .error (.unknownKey model name association.ownerKey)
    else if association.relatedKey ∉ related.fields then
      .error (.unknownKey association.related name association.relatedKey)
    else .ok ()

/-- Checks the table of a model and then its associations in the order of their names. -/
def checkModel (schema : Schema) (model : ModelName) (decl : ModelDecl) :
    Except SchemaError Unit :=
  if decl.table = "" then .error (.emptyTable model)
  else decl.associations.toList.forM fun row => schema.checkAssociation model decl row.1 row.2

/-- Checks the models in the order of their names and gives the first defect. -/
def validate (schema : Schema) : Except SchemaError Unit :=
  schema.models.toList.forM fun row => schema.checkModel row.1 row.2

end Schema

end QueryPlan
