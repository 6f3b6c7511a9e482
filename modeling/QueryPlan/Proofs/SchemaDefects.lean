import Mathlib.Data.String.Basic
import QueryPlan.Proofs.Declarations

set_option autoImplicit false

/-! # Defects of schemas

A schema is written down model by model, and a model by its fields and associations. A name that is
written again stands for its last declaration alone. What validation finds is said of these texts:
the defect of the least model that has one, and there the missing table or else the defect of the
least association that has one. The order in which different names are declared does not matter. -/

namespace QueryPlan

variable {α β ε : Type}

/-! ## Declarations by name -/

/-- The declarations for a name, in the order in which they are made. -/
def declarationsOf (name : String) (rows : List (String × α)) : List α :=
  rows.filterMap fun row => if row.1 = name then some row.2 else none

/-- What a name stands for after all declarations: what is declared for it last. -/
def declared? (name : String) (rows : List (String × α)) : Option α :=
  (declarationsOf name rows).getLast?

variable {name : String} {rows : List (String × α)}

theorem mem_declarationsOf_iff {a : α} : a ∈ declarationsOf name rows ↔ (name, a) ∈ rows := by
  simp [declarationsOf, and_comm]

/-- Neighbours that are declarations for different names may change places. -/
theorem declarationsOf_swap {row row' : String × α} (h : row.1 ≠ row'.1)
    (before after : List (String × α)) :
    declarationsOf name (before ++ row :: row' :: after)
      = declarationsOf name (before ++ row' :: row :: after) := by
  unfold declarationsOf
  simp only [List.filterMap_append, List.filterMap_cons]
  by_cases hrow : row.1 = name
  · have hrow' : row'.1 ≠ name := fun h' => h (hrow.trans h'.symm)
    simp only [if_pos hrow, if_neg hrow']
  · simp only [if_neg hrow]

theorem exists_declared?_iff : (∃ a, declared? name rows = some a) ↔ ∃ a, (name, a) ∈ rows := by
  rw [← Option.isSome_iff_exists, declared?, List.getLast?_isSome, ne_eq,
    List.eq_nil_iff_forall_not_mem]
  simp only [not_forall, not_not, mem_declarationsOf_iff]

/-- What comes first is replaced by what follows for the same name. -/
theorem declared?_cons (row : String × α) :
    declared? name (row :: rows)
      = (declared? name rows).or (if row.1 = name then some row.2 else none) := by
  rw [declared?, declarationsOf, List.filterMap_cons, ← declarationsOf]
  by_cases h : row.1 = name
  · simp only [if_pos h, List.getLast?_cons, declared?]
    cases (declarationsOf name rows).getLast? <;> rfl
  · simp only [if_neg h, Option.or_none, declared?]

/-- A map that is filled row by row has what is declared last. -/
theorem getElem?_foldl_insert (f : α → β) (rows : List (String × α))
    (map : Std.ExtTreeMap String β compare) (name : String) :
    (rows.foldl (fun map row => map.insert row.1 (f row.2)) map)[name]?
      = ((declared? name rows).map f).or map[name]? := by
  induction rows generalizing map with
  | nil => rfl
  | cons row rows ih =>
    rw [List.foldl_cons, ih, Std.ExtTreeMap.getElem?_insert, declared?_cons]
    simp only [compare_eq_iff_eq]
    by_cases h : row.1 = name
    · rw [if_pos h, if_pos h]
      cases declared? name rows <;> rfl
    · rw [if_neg h, if_neg h, Option.or_none]

/-- Checks of all entries of a map fail with the error of the least name whose check does. -/
theorem forM_toList_eq_error_iff {map : Std.ExtTreeMap String α compare}
    {f : String × α → Except ε Unit} {e : ε} :
    map.toList.forM f = .error e ↔
      ∃ name a, map[name]? = some a ∧ f (name, a) = .error e ∧
        ∀ name' a', name' < name → map[name']? = some a' → f (name', a') = .ok () := by
  have hsorted : map.toList.Pairwise fun row row' => row.1 < row'.1 :=
    Std.ExtTreeMap.ordered_keys_toList.imp fun h => compare_lt_iff_lt.1 h
  rw [forM_eq_error_iff_of_pairwise (fun _ _ => lt_asymm) hsorted]
  simp only [Prod.exists, Prod.forall, Std.ExtTreeMap.mem_toList_iff_getElem?_eq_some]
  constructor
  · rintro ⟨name, a, ha, hfails, hearlier⟩
    exact ⟨name, a, ha, hfails, fun name' a' hlt ha' => hearlier name' a' ha' hlt⟩
  · rintro ⟨name, a, ha, hfails, hearlier⟩
    exact ⟨name, a, ha, hfails, fun name' a' ha' hlt => hearlier name' a' hlt ha'⟩

/-! ## Texts of models -/

/-- A field or an association that is declared of a model. -/
inductive ModelStep
  | field (name : String) (type : FieldType)
  | association (name : String) (association : Association)

/-- A model as it is written down: its table and what is declared of it, in this order. -/
structure ModelText where
  table : String
  steps : List ModelStep := []

/-- The field that is declared, if it is one. -/
def ModelStep.field? : ModelStep → Option (String × FieldType)
  | field name declared => some (name, declared)
  | association .. => none

/-- The association that is declared, if it is one. -/
def ModelStep.association? : ModelStep → Option (String × Association)
  | field .. => none
  | association name declared => some (name, declared)

theorem ModelStep.field?_eq_some_iff {step : ModelStep} {name : String} {type : FieldType} :
    step.field? = some (name, type) ↔ step = .field name type := by
  cases step <;> simp [field?]

/-- Takes one declaration into the description of a model. -/
def ModelDecl.take (decl : ModelDecl) : ModelStep → ModelDecl
  | .field name type => decl.field name type
  | .association name association => decl.association name association

/-- The fields and the associations are filled apart. -/
theorem ModelDecl.foldl_take (steps : List ModelStep) (decl : ModelDecl) :
    steps.foldl take decl =
      { decl with
        fields := (steps.filterMap ModelStep.field?).foldl
          (fun map row => map.insert row.1 row.2) decl.fields
        associations := (steps.filterMap ModelStep.association?).foldl
          (fun map row => map.insert row.1 row.2) decl.associations } := by
  induction steps generalizing decl with
  | nil => rfl
  | cons step steps ih =>
    rw [List.foldl_cons, ih]
    cases step <;> rfl

/-- A model is known by its lookups. -/
theorem ModelDecl.eq_of_getElem?_eq {decl decl' : ModelDecl} (htable : decl.table = decl'.table)
    (hfields : ∀ name : String, decl.fields[name]? = decl'.fields[name]?)
    (hassociations : ∀ name : String, decl.associations[name]? = decl'.associations[name]?) :
    decl = decl' := by
  cases decl
  cases decl'
  rw [ModelDecl.mk.injEq]
  exact ⟨htable, Std.ExtTreeMap.ext_getElem? hfields, Std.ExtTreeMap.ext_getElem? hassociations⟩

namespace ModelText

/-- The model that a text describes. -/
def decl (text : ModelText) : ModelDecl :=
  text.steps.foldl ModelDecl.take { table := text.table }

/-- The fields of a text, with all their repetitions. -/
def fields (text : ModelText) : List (String × FieldType) :=
  text.steps.filterMap ModelStep.field?

/-- The associations of a text, with all their repetitions. -/
def associations (text : ModelText) : List (String × Association) :=
  text.steps.filterMap ModelStep.association?

/-- The text declares such a field. -/
def HasField (text : ModelText) (name : String) : Prop :=
  ∃ type, .field name type ∈ text.steps

/-- The association that counts under this name. -/
def association? (text : ModelText) (name : String) : Option Association :=
  declared? name text.associations

/-- Two texts differ only in the order in which different names are declared. -/
structure SameDeclarations (text text' : ModelText) : Prop where
  table : text.table = text'.table
  fields : ∀ name, declarationsOf name text.fields = declarationsOf name text'.fields
  associations : ∀ name,
    declarationsOf name text.associations = declarationsOf name text'.associations

variable {text text' : ModelText}

theorem decl_table (text : ModelText) : text.decl.table = text.table := by
  rw [decl, ModelDecl.foldl_take]

theorem decl_fields (text : ModelText) (name : String) :
    text.decl.fields[name]? = declared? name text.fields := by
  rw [decl, ModelDecl.foldl_take]
  simpa [fields] using getElem?_foldl_insert id text.fields ∅ name

theorem decl_associations (text : ModelText) (name : String) :
    text.decl.associations[name]? = text.association? name := by
  rw [decl, ModelDecl.foldl_take]
  simpa [associations, association?] using getElem?_foldl_insert id text.associations ∅ name

theorem mem_decl_fields_iff : name ∈ text.decl.fields ↔ text.HasField name := by
  rw [Std.ExtTreeMap.mem_iff_isSome_getElem?, decl_fields, Option.isSome_iff_exists,
    exists_declared?_iff]
  simp [fields, HasField, ModelStep.field?_eq_some_iff]

/-- The order of different names leaves no trace in the model. -/
theorem SameDeclarations.decl_eq (same : SameDeclarations text text') : text.decl = text'.decl := by
  refine ModelDecl.eq_of_getElem?_eq ?_ (fun name => ?_) fun name => ?_
  · rw [decl_table, decl_table, same.table]
  · rw [decl_fields, decl_fields, declared?, declared?, same.fields]
  · simp only [decl_associations, association?, declared?, same.associations]

end ModelText

namespace Schema

/-! ## Texts of schemas -/

/-- The schema that results when these models are declared one after the other. -/
def declareAll (rows : List (ModelName × ModelText)) : Schema :=
  rows.foldl (fun schema row => schema.model row.1 row.2.decl) {}

/-- Two rows of models differ only in the order in which different names are declared, be it for
    the models or inside of them. -/
def SameDeclarations (rows rows' : List (ModelName × ModelText)) : Prop :=
  ∀ model, List.Forall₂ ModelText.SameDeclarations (declarationsOf model rows)
    (declarationsOf model rows')

variable {rows rows' : List (ModelName × ModelText)} {model : ModelName} {text : ModelText}

theorem models_foldl (rows : List (ModelName × ModelText)) (schema : Schema) :
    (rows.foldl (fun schema row => schema.model row.1 row.2.decl) schema).models
      = rows.foldl (fun map row => map.insert row.1 row.2.decl) schema.models := by
  induction rows generalizing schema with
  | nil => rfl
  | cons row rows ih => exact ih _

theorem models_declareAll (rows : List (ModelName × ModelText)) (model : ModelName) :
    (declareAll rows).models[model]? = (declared? model rows).map ModelText.decl := by
  have hfill := getElem?_foldl_insert ModelText.decl rows ∅ model
  rw [declareAll, models_foldl]
  simpa using hfill

theorem exists_model_iff {decl : ModelDecl} :
    (declareAll rows).models[model]? = some decl ↔
      ∃ text, declared? model rows = some text ∧ text.decl = decl := by
  rw [models_declareAll, Option.map_eq_some_iff]

/-- The order of different names leaves no trace in the schema. -/
theorem SameDeclarations.declareAll_eq (same : SameDeclarations rows rows') :
    declareAll rows = declareAll rows' := by
  have hmodels : (declareAll rows).models = (declareAll rows').models := by
    refine Std.ExtTreeMap.ext_getElem? fun model => ?_
    have hdecls : (declarationsOf model rows).map ModelText.decl
        = (declarationsOf model rows').map ModelText.decl :=
      map_eq_of_forall₂ ((same model).imp fun _ _ h => h.decl_eq)
    rw [models_declareAll, models_declareAll, declared?, declared?, ← List.getLast?_map, hdecls,
      List.getLast?_map]
  exact congrArg Schema.mk hmodels

/-! ## Defects -/

/-- What is wrong with an association of a model: the related model is not declared; or it is, and
    the owner lacks its key; or the owner has it, and the related model lacks the other. -/
inductive AssociationDefect (rows : List (ModelName × ModelText)) (model : ModelName)
    (text : ModelText) (name : String) (association : Association) : SchemaError → Prop
  | unknownRelated (hrelated : declared? association.related rows = none) :
    AssociationDefect rows model text name association
      (.unknownRelated model name association.related)
  | ownerKey {related : ModelText} (hrelated : declared? association.related rows = some related)
      (hkey : ¬text.HasField association.ownerKey) :
    AssociationDefect rows model text name association
      (.unknownKey model name association.ownerKey)
  | relatedKey {related : ModelText} (hrelated : declared? association.related rows = some related)
      (howner : text.HasField association.ownerKey)
      (hkey : ¬related.HasField association.relatedKey) :
    AssociationDefect rows model text name association
      (.unknownKey association.related name association.relatedKey)

/-- What is wrong with a model: it has no table; or it has one, and the least name of an association
    with a defect is this one. -/
inductive ModelDefect (rows : List (ModelName × ModelText)) (model : ModelName) (text : ModelText) :
    SchemaError → Prop
  | emptyTable (htable : text.table = "") : ModelDefect rows model text (.emptyTable model)
  | association {name : String} {association : Association} {error : SchemaError}
      (htable : text.table ≠ "") (hname : text.association? name = some association)
      (hdefect : AssociationDefect rows model text name association error)
      (hfirst : ∀ name' association' error', name' < name →
        text.association? name' = some association' →
          ¬AssociationDefect rows model text name' association' error') :
    ModelDefect rows model text error

/-- The defect of the least model that has one. -/
def FirstDefect (rows : List (ModelName × ModelText)) (error : SchemaError) : Prop :=
  ∃ model text, declared? model rows = some text ∧ ModelDefect rows model text error ∧
    ∀ model' text' error', model' < model → declared? model' rows = some text' →
      ¬ModelDefect rows model' text' error'

/-- Every model has a table, and every association leads from a field of its model to a field of a
    declared one. -/
structure Valid (rows : List (ModelName × ModelText)) : Prop where
  tables : ∀ model text, declared? model rows = some text → text.table ≠ ""
  associations : ∀ model text name association, declared? model rows = some text →
    text.association? name = some association →
      ∃ related, declared? association.related rows = some related ∧
        text.HasField association.ownerKey ∧ related.HasField association.relatedKey

theorem checkAssociation_eq_error_iff {name : String} {association : Association}
    {error : SchemaError} :
    (declareAll rows).checkAssociation model text.decl name association = .error error ↔
      AssociationDefect rows model text name association error := by
  unfold checkAssociation
  rw [models_declareAll]
  cases hrelated : declared? association.related rows with
  | none =>
    constructor
    · rintro ⟨⟩
      exact .unknownRelated hrelated
    · intro h
      cases h with
      | unknownRelated => rfl
      | ownerKey hrelated' | relatedKey hrelated' =>
        rw [hrelated] at hrelated'
        cases hrelated'
  | some related =>
    have howner : association.ownerKey ∉ text.decl.fields ↔ ¬text.HasField association.ownerKey :=
      not_congr ModelText.mem_decl_fields_iff
    have hother : association.relatedKey ∉ related.decl.fields ↔
        ¬related.HasField association.relatedKey := not_congr ModelText.mem_decl_fields_iff
    dsimp only [Option.map_some]
    constructor
    · intro h
      split at h
      · next hmissing =>
        cases h
        exact .ownerKey hrelated (howner.1 hmissing)
      · next hfound =>
        split at h
        · next hmissing =>
          cases h
          exact .relatedKey hrelated (ModelText.mem_decl_fields_iff.1 (not_not.1 hfound))
            (hother.1 hmissing)
        · cases h
    · intro h
      cases h with
      | unknownRelated hrelated' =>
        rw [hrelated] at hrelated'
        cases hrelated'
      | ownerKey _ hkey => rw [if_pos (howner.2 hkey)]
      | relatedKey hrelated' hfound hkey =>
        obtain rfl := Option.some.inj (hrelated.symm.trans hrelated')
        have hfound' := ModelText.mem_decl_fields_iff.2 hfound
        rw [if_neg (not_not.2 hfound'), if_pos (hother.2 hkey)]

theorem checkModel_eq_error_iff {error : SchemaError} :
    (declareAll rows).checkModel model text.decl = .error error ↔
      ModelDefect rows model text error := by
  unfold checkModel
  rw [ModelText.decl_table]
  by_cases htable : text.table = ""
  · rw [if_pos htable]
    constructor
    · rintro ⟨⟩
      exact .emptyTable htable
    · intro h
      cases h with
      | emptyTable => rfl
      | association htable' => exact absurd htable htable'
  · rw [if_neg htable, forM_toList_eq_error_iff]
    simp only [ModelText.decl_associations, eq_ok_iff_forall_ne_error, ne_eq,
      checkAssociation_eq_error_iff]
    constructor
    · rintro ⟨name, association, hname, hdefect, hearlier⟩
      exact .association htable hname hdefect fun name' association' error' hlt hname' =>
        hearlier name' association' hlt hname' error'
    · intro h
      cases h with
      | emptyTable htable' => exact absurd htable' htable
      | association _ hname hdefect hfirst =>
        exact ⟨_, _, hname, hdefect, fun name' association' hlt hname' error' =>
          hfirst name' association' error' hlt hname'⟩

theorem validate_eq_error_iff {error : SchemaError} :
    (declareAll rows).validate = .error error ↔ FirstDefect rows error := by
  unfold validate
  rw [forM_toList_eq_error_iff]
  simp only [exists_model_iff, eq_ok_iff_forall_ne_error, ne_eq]
  constructor
  · rintro ⟨model, _, ⟨text, htext, rfl⟩, hdefect, hearlier⟩
    refine ⟨model, text, htext, checkModel_eq_error_iff.1 hdefect, ?_⟩
    intro model' text' error' hlt htext' hdefect'
    exact hearlier model' _ hlt ⟨text', htext', rfl⟩ error' (checkModel_eq_error_iff.2 hdefect')
  · rintro ⟨model, text, htext, hdefect, hfirst⟩
    refine ⟨model, _, ⟨text, htext, rfl⟩, checkModel_eq_error_iff.2 hdefect, ?_⟩
    rintro model' _ hlt ⟨text', htext', rfl⟩ error' hdefect'
    exact hfirst model' text' error' hlt htext' (checkModel_eq_error_iff.1 hdefect')

theorem validate_eq_ok_iff_valid : (declareAll rows).validate = .ok () ↔ Valid rows := by
  rw [validate_eq_ok_iff]
  constructor
  · rintro ⟨htables, hjoinable⟩
    refine ⟨fun model text htext => ?_, fun model text name association htext hname => ?_⟩
    · have htable := htables model _ (exists_model_iff.2 ⟨text, htext, rfl⟩)
      rwa [ModelText.decl_table] at htable
    · have hmodel := exists_model_iff.2 ⟨text, htext, rfl⟩
      have hknown := association_eq_some_iff.2
        ⟨text.decl, hmodel, (text.decl_associations name).trans hname⟩
      obtain ⟨hrelated, hownerKey, hrelatedKey⟩ := hjoinable model name association hknown
      obtain ⟨_, hrelated'⟩ := exists_table_iff.1 hrelated
      obtain ⟨related, hdeclared, rfl⟩ := exists_model_iff.1 hrelated'
      rw [exists_fieldType_iff hmodel, ModelText.mem_decl_fields_iff] at hownerKey
      rw [exists_fieldType_iff hrelated', ModelText.mem_decl_fields_iff] at hrelatedKey
      exact ⟨related, hdeclared, hownerKey, hrelatedKey⟩
  · rintro ⟨htables, hassociations⟩
    refine ⟨fun model decl hmodel => ?_, fun model name association hknown => ?_⟩
    · obtain ⟨text, htext, rfl⟩ := exists_model_iff.1 hmodel
      rw [ModelText.decl_table]
      exact htables model text htext
    · obtain ⟨_, hmodel, hassociation⟩ := association_eq_some_iff.1 hknown
      obtain ⟨text, htext, rfl⟩ := exists_model_iff.1 hmodel
      obtain ⟨related, hdeclared, hownerKey, hrelatedKey⟩ :=
        hassociations model text name association htext
          ((text.decl_associations name).symm.trans hassociation)
      have hrelated := exists_model_iff.2 ⟨related, hdeclared, rfl⟩
      rw [← ModelText.mem_decl_fields_iff] at hownerKey hrelatedKey
      exact ⟨exists_table_iff.2 ⟨_, hrelated⟩, (exists_fieldType_iff hmodel _).2 hownerKey,
        (exists_fieldType_iff hrelated _).2 hrelatedKey⟩

/-- A schema is accepted when it is valid. Otherwise the error tells its first defect. The order in
    which different names are declared counts for neither. -/
theorem validate_exact (rows : List (ModelName × ModelText)) :
    ((declareAll rows).validate = .ok () ↔ Valid rows) ∧
      (∀ error, (declareAll rows).validate = .error error ↔ FirstDefect rows error) ∧
      ∀ rows', SameDeclarations rows rows' →
        (declareAll rows').validate = (declareAll rows).validate := by
  refine ⟨validate_eq_ok_iff_valid, fun error => validate_eq_error_iff, fun rows' same => ?_⟩
  rw [same.declareAll_eq]

/-- Users, declared a second time after their posts, whose key they get wrong. -/
def userTexts : List (ModelName × ModelText) := [
  ("user", ⟨"accounts", [.association "manager" ⟨"user", "manager", "id", .inner⟩]⟩),
  ("post", ⟨"posts", [.field "author" .id,
    .association "author" ⟨"user", "author", "id", .inner⟩]⟩),
  ("user", ⟨"users", [.field "id" .integer, .field "age" .integer,
    .association "posts" ⟨"post", "id", "writer", .left⟩, .field "id" .id]⟩)]

/-- The same with the posts at the end and the age of a user in front of the rest. -/
def userTextsReordered : List (ModelName × ModelText) := [
  ("user", ⟨"accounts", [.association "manager" ⟨"user", "manager", "id", .inner⟩]⟩),
  ("user", ⟨"users", [.field "age" .integer, .field "id" .integer,
    .association "posts" ⟨"post", "id", "writer", .left⟩, .field "id" .id]⟩),
  ("post", ⟨"posts", [.association "author" ⟨"user", "author", "id", .inner⟩,
    .field "author" .id]⟩)]

theorem sameDeclarations_userTexts : SameDeclarations userTexts userTextsReordered := by
  intro model
  by_cases huser : "user" = model
  · subst huser
    refine .cons ⟨rfl, fun name => rfl, fun name => rfl⟩
      (.cons ⟨rfl, fun name => ?_, fun name => rfl⟩ .nil)
    exact @declarationsOf_swap FieldType name ("id", .integer) ("age", .integer) (by decide) []
      [("id", .id)]
  · by_cases hpost : "post" = model
    · subst hpost
      exact .cons ⟨rfl, fun name => rfl, fun name => rfl⟩ .nil
    · simp [declarationsOf, userTexts, userTextsReordered, huser, hpost]

theorem validate_exact_userTexts :
    SameDeclarations userTexts userTextsReordered ∧
      FirstDefect userTexts (.unknownKey "post" "posts" "writer") ∧
      (declareAll userTextsReordered).validate = .error (.unknownKey "post" "posts" "writer") := by
  have herror : (declareAll userTexts).validate = .error (.unknownKey "post" "posts" "writer") := by
    rfl
  obtain ⟨-, hfirst, hsame⟩ := validate_exact userTexts
  have hreordered := hsame userTextsReordered sameDeclarations_userTexts
  exact ⟨sameDeclarations_userTexts, (hfirst _).1 herror, hreordered.trans herror⟩

end Schema

end QueryPlan
