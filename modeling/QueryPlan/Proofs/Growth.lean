import QueryPlan.Proofs.CastRules
import QueryPlan.Proofs.Preload
import QueryPlan.Proofs.Sources
import QueryPlan.Proofs.WellFormed

set_option autoImplicit false

/-! # Growing catalogs

A catalog may learn new models, fields and associations while plans that were made with it are in
use. They stay right: each pass needs the answers that a catalog gives, and none takes a missing
answer for a reason to go on in another way. So what a pass makes of a query with one catalog it
makes of it with every larger one. -/

namespace QueryPlan

/-- A catalog that gives every answer of another one, and perhaps more. -/
structure Catalog.Within (small large : Catalog) : Prop where
  table (model : ModelName) (table : String) :
    small.table model = some table → large.table model = some table
  fieldType (model : ModelName) (field : String) (type : FieldType) :
    small.fieldType model field = some type → large.fieldType model field = some type
  association (model : ModelName) (name : String) (association : Association) :
    small.association model name = some association →
      large.association model name = some association

variable {small large : Catalog}

/-! ## Resolution -/

section Resolution

variable {sources : List Source}

theorem TableRef.Denotes.mono {ref : TableRef} {source : Source} (h : ref.Denotes small source)
    (hgrow : small.Within large) : ref.Denotes large source := by
  cases h with
  | table name => exact .table name
  | model htable => exact .model (hgrow.table _ _ htable)
  | modelAt location name => exact .modelAt location name

theorem Join.ResolvesAs.mono {join joined : Join} {source : Source}
    (h : join.ResolvesAs small sources joined source) (hgrow : small.Within large) :
    join.ResolvesAs large sources joined source := by
  cases h with
  | explicit htarget hsource => exact .explicit htarget (hsource.mono hgrow)
  | association htarget howner hmodel hassociation htable =>
    exact .association htarget howner hmodel (hgrow.association _ _ _ hassociation)
      (hgrow.table _ _ htable)

theorem resolveJoins_mono (hgrow : small.Within large) {joins joins' : List Join}
    {more : List Source} (h : resolveJoins small sources joins = .ok (joins', more)) :
    resolveJoins large sources joins = .ok (joins', more) := by
  induction joins generalizing sources joins' more with
  | nil => exact h
  | cons join rest ih =>
    obtain ⟨joined, source, rest', sources', hjoin, hrest, rfl, rfl⟩ :=
      resolveJoins_cons_eq_ok_iff.1 h
    exact resolveJoins_cons_eq_ok_iff.2
      ⟨joined, source, rest', sources', hjoin.mono hgrow, ih hrest, rfl, rfl⟩

theorem Query.resolve_mono (hgrow : small.Within large) {q r : Query}
    (h : q.resolve small = .ok r) : q.resolve large = .ok r := by
  obtain ⟨ref, first, joins, more, href, hfirst, hjoins, rfl⟩ := Query.resolve_eq_ok_iff.1 h
  exact Query.resolve_eq_ok_iff.2 ⟨ref, first, joins, more, href, hfirst.mono hgrow,
    resolveJoins_mono hgrow hjoins, rfl⟩

end Resolution

/-! ## Parameters -/

theorem ParamType.ResolvesAs.mono {sources : List Source} {type : ParamType} {castType : CastType}
    (h : type.ResolvesAs small sources castType) (hgrow : small.Within large) :
    type.ResolvesAs large sources castType := by
  induction h with
  | plain type => exact .plain type
  | withoutModel hsource hmodel => exact .withoutModel hsource hmodel
  | declared hsource hmodel htype =>
    exact .declared hsource hmodel (hgrow.fieldType _ _ _ htype)
  | listOf _ ih => exact .listOf ih

theorem Query.castParams_mono (hgrow : small.Within large) {caster : Caster} {q : Query}
    {values : List Value} (h : q.castParams small caster = .ok values) :
    q.castParams large caster = .ok values := by
  rw [Query.castParams_eq_ok_iff] at h ⊢
  refine h.imp fun use value huse => ?_
  obtain ⟨resolved, hresolve, hnull, hcast⟩ := ParamUse.cast_eq_ok_iff.1 huse
  obtain ⟨type, htype, rfl⟩ := ParamType.resolve_eq_ok_iff.1 hresolve
  exact ParamUse.cast_eq_ok_iff.2 ⟨_, (htype.mono hgrow).resolve_eq _ _, hnull, hcast⟩

/-! ## Checks -/

theorem FieldAccess.Valid.mono {sources : List Source} {access : FieldAccess}
    (h : access.Valid small sources) (hgrow : small.Within large) :
    access.Valid large sources := by
  obtain ⟨source, hsource, hdeclared⟩ := h
  refine ⟨source, hsource, fun model hmodel => ?_⟩
  obtain ⟨actual, hactual, hexpected⟩ := hdeclared model hmodel
  exact ⟨actual, hgrow.fieldType _ _ _ hactual, hexpected⟩

theorem Query.checkReferences_mono (hgrow : small.Within large) {q : Query}
    (h : q.checkReferences small = .ok ()) : q.checkReferences large = .ok () := by
  rw [Query.checkReferences_eq_ok_iff] at h ⊢
  intro clause e he
  have hvalid := h clause e he
  exact ⟨hvalid.binding, fun access haccess => (hvalid.field access haccess).mono hgrow⟩

theorem AssocEdge.Valid.mono {q : Query} {edge : AssocEdge} (h : edge.Valid small q)
    (hgrow : small.Within large) : edge.Valid large q := by
  obtain ⟨parent, model, association, child, hparent, hmodel, hassociation, hchild⟩ := h.related
  exact ⟨⟨parent, model, association, child, hparent, hmodel,
    hgrow.association _ _ _ hassociation, hchild⟩, h.joined⟩

theorem Query.checkPreload_mono (hgrow : small.Within large) {q : Query}
    (h : q.checkPreload small = .ok ()) : q.checkPreload large = .ok () := by
  rw [Query.checkPreload_eq_ok_iff] at h ⊢
  exact fun edge hedge => (h edge hedge).mono hgrow

/-! ## Planning -/

namespace Planner

variable {caster : Caster} {q : Query}

theorem prepare_mono (hgrow : small.Within large) {base : Nat} {p : Prepared}
    (h : prepare { catalog := small, caster } q base = .ok p) :
    prepare { catalog := large, caster } q base = .ok p := by
  obtain ⟨r, values, hresolve, hvalues, rfl⟩ := prepare_eq_ok_iff.1 h
  exact prepare_eq_ok_iff.2
    ⟨r, values, Query.resolve_mono hgrow hresolve, Query.castParams_mono hgrow hvalues, rfl⟩

theorem normalize_mono (hgrow : small.Within large) {counter : Nat} {options : Options}
    {n : Normalized} (h : normalize { catalog := small, caster } q counter options = .ok n) :
    normalize { catalog := large, caster } q counter options = .ok n := by
  obtain ⟨hoptions, hreferences, hproject, hpreload, hcounter⟩ := normalize_eq_ok_iff.1 h
  exact normalize_eq_ok_iff.2 ⟨hoptions, Query.checkReferences_mono hgrow hreferences, hproject,
    Query.checkPreload_mono hgrow hpreload, hcounter⟩

theorem plan_mono (hgrow : small.Within large) {bound : List Value} {options : Options} {p : Plan}
    (h : plan { catalog := small, caster } q bound options = .ok p) :
    plan { catalog := large, caster } q bound options = .ok p := by
  obtain ⟨prepared, normalized, hprepared, hnormalized, rfl⟩ := plan_eq_ok_iff.1 h
  exact plan_eq_ok_iff.2
    ⟨prepared, normalized, prepare_mono hgrow hprepared, normalize_mono hgrow hnormalized, rfl⟩

/-- What is prepared, normalized or planned with a catalog comes out the same, with the parameters,
    the cache key and the number of the next placeholder, with every catalog that gives all of its
    answers. -/
theorem same_plan_of_within (small large : Catalog) (hgrow : small.Within large)
    (caster : Caster) (q : Query) :
    (∀ base p, prepare { catalog := small, caster } q base = .ok p →
      prepare { catalog := large, caster } q base = .ok p) ∧
    (∀ counter options n, normalize { catalog := small, caster } q counter options = .ok n →
      normalize { catalog := large, caster } q counter options = .ok n) ∧
    (∀ bound options p, plan { catalog := small, caster } q bound options = .ok p →
      plan { catalog := large, caster } q bound options = .ok p) :=
  ⟨fun _ _ => prepare_mono hgrow, fun _ _ _ => normalize_mono hgrow, fun _ _ _ => plan_mono hgrow⟩

/-- `postCatalog` before posts had a price. -/
def unpricedCatalog : Catalog :=
  { postCatalog with
    fieldType := fun model field =>
      if field = "price" then none else postCatalog.fieldType model field }

theorem unpricedCatalog_within : unpricedCatalog.Within postCatalog where
  table _ _ h := h
  fieldType model field type h := by
    by_cases hprice : field = "price"
    · simp [unpricedCatalog, hprice] at h
    · simpa [unpricedCatalog, hprice] using h
  association _ _ _ h := h

/-- `usersWithPosts`, prepared behind one value. -/
def usersWithPostsPrepared : Prepared where
  query := {
    fromRef := some (.model "user")
    joins := [⟨.left, .explicit (.modelAt "posts" "post"),
      { expr := .eq (.field 1 "author") (.field 0 "id") }⟩]
    filters := [{
      expr := .eq (.atom (.field { binding := 0, name := "age", expected := some .integer }))
        (.placeholder 0) }]
    sources := [⟨"users", some "user"⟩, ⟨"posts", some "post"⟩]
    select := some { expr := { expr := .node .tuple [.node .list [.field 0 "age"], .binding 0] } }
    assocs := [⟨"posts", 1, []⟩] }
  params := [(1, .int 30)]

theorem same_plan_of_within_unpriced :
    unpricedCatalog.fieldType "post" "price" ≠ postCatalog.fieldType "post" "price" ∧
      prepare { catalog := postCatalog } usersWithPosts 1 = .ok usersWithPostsPrepared ∧
      normalize { catalog := postCatalog } usersWithPostsPrepared.query 1 {}
        = .ok { query := usersWithPostsPlanned, counter := 2 } ∧
      plan { catalog := postCatalog } usersWithPosts [.null] {}
        = .ok { query := usersWithPostsPlanned, params := [.null, .int 30] } := by
  have hprepare : prepare { catalog := unpricedCatalog } usersWithPosts 1
      = .ok usersWithPostsPrepared := by
    cbv
  have hnormalize : normalize { catalog := unpricedCatalog } usersWithPostsPrepared.query 1 {}
      = .ok { query := usersWithPostsPlanned, counter := 2 } := by
    cbv
  have hplan : plan { catalog := unpricedCatalog } usersWithPosts [.null] {}
      = .ok { query := usersWithPostsPlanned, params := [.null, .int 30] } := by
    cbv
  have hsame := same_plan_of_within _ _ unpricedCatalog_within Caster.standard
  exact ⟨by decide, (hsame usersWithPosts).1 _ _ hprepare,
    (hsame usersWithPostsPrepared.query).2.1 _ _ _ hnormalize,
    (hsame usersWithPosts).2.2 _ _ _ hplan⟩

end Planner

end QueryPlan
