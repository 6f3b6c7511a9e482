import QueryPlan.Proofs.Encoding.Queries
import QueryPlan.Proofs.Numbering

set_option autoImplicit false

/-! # What parameters cannot tell

A prepared query is kept and used again for requests with other values. None of them shows in it:
resolution and merging treat the trees of a query in the same way whatever its parameters and
locations are, and neither are among the bytes of a query. -/

namespace QueryPlan

/-! ## Queries without locations -/

/-- The expression as if it were written nowhere. -/
def ClauseExpr.withoutLocation (e : ClauseExpr) : ClauseExpr :=
  { e with location := {} }

/-- Drops the locations of all expressions. -/
def Query.withoutLocations (q : Query) : Query :=
  q.mapExprs fun _ _ e => e.withoutLocation

namespace Query

variable {q q' : Query}

/-- What resolution makes of a query does not depend on its parameters and locations. -/
theorem withoutLocations_of_resolve {catalog : Catalog} {r r' : Query}
    (hsame : q.withoutParams.withoutLocations = q'.withoutParams.withoutLocations)
    (h : q.resolve catalog = .ok r) (h' : q'.resolve catalog = .ok r') :
    r.withoutParams.withoutLocations = r'.withoutParams.withoutLocations := by
  simp only [withoutParams, withoutLocations, mapExprs_mapExprs] at hsame ⊢
  have honlyIf (e : ClauseExpr) (condition : Expr) :
      e.withoutParams.withoutLocation.onlyIf condition
        = (e.onlyIf condition).withoutParams.withoutLocation := by
    simp only [ClauseExpr.onlyIf, ClauseExpr.withoutLocation, ClauseExpr.withoutParams]
    split <;> rfl
  have hresolve {q r : Query} (h : q.resolve catalog = .ok r) :
      (q.mapExprs fun _ _ e => e.withoutParams.withoutLocation).resolve catalog
        = .ok (r.mapExprs fun _ _ e => e.withoutParams.withoutLocation) := by
    rw [resolve_mapExprs fun _ => honlyIf, h]
    rfl
  have hresolved := hresolve h
  rw [hsame, hresolve h'] at hresolved
  exact (Except.ok.inj hresolved).symm

theorem encode_congr (hsame : q.withoutLocations = q'.withoutLocations) : q.encode = q'.encode := by
  have hencode := encode_mapExprs (f := fun _ _ e => e.withoutLocation) fun _ _ _ => rfl
  rw [← hencode q, ← hencode q']
  exact congrArg encode hsame

theorem paramCount_congr (h : ∀ clause, (q.clauseExprs clause).map (·.params.length)
    = (q'.clauseExprs clause).map (·.params.length)) : q.paramCount = q'.paramCount := by
  refine length_flatMap_exprs_congr fun clause => ?_
  rw [List.length_flatMap, List.length_flatMap, h clause]

end Query

/-! ## Preparation -/

namespace Planner

/-- Queries that differ in nothing but parameters and locations are prepared, if they can be, with
    results that differ at most in locations and have the same key. If besides corresponding
    expressions have equally many parameters and the bases are the same, the parameters have the
    same keys. -/
theorem noninterference (planner : Planner) (q q' : Query) (base base' : Nat) (p p' : Prepared)
    (hsame : q.withoutParams.withoutLocations = q'.withoutParams.withoutLocations)
    (h : planner.prepare q base = .ok p) (h' : planner.prepare q' base' = .ok p') :
    p.query.withoutLocations = p'.query.withoutLocations ∧ p.cacheKey = p'.cacheKey ∧
      ((∀ clause, (q.clauseExprs clause).map (·.params.length)
          = (q'.clauseExprs clause).map (·.params.length)) →
        base = base' → p.params.map Prod.fst = p'.params.map Prod.fst) := by
  have hquery : p.query.withoutLocations = p'.query.withoutLocations := by
    obtain ⟨r, values, hresolve, -, rfl⟩ := prepare_eq_ok_iff.1 h
    obtain ⟨r', values', hresolve', -, rfl⟩ := prepare_eq_ok_iff.1 h'
    exact Query.withoutLocations_of_resolve hsame hresolve hresolve'
  refine ⟨hquery, CacheKey.ofQuery_congr (Query.encode_congr hquery), fun hcounts hbase => ?_⟩
  rw [(mergesTo_of_prepare h).keys, (mergesTo_of_prepare h').keys, hbase,
    Query.paramCount_congr hcounts]

/-- Users of some age, with their posts, as written at some line. -/
def usersWithAge (age : LocalParam) (line : Nat) : Query where
  fromRef := some (.model "user")
  joins := [⟨.left, .association 0 "posts", {
    expr := .literal (.bool true)
    location := { line } }⟩]
  filters := [{
    expr := .eq (.field 0 "age") (.placeholder 0)
    params := [(0, age)]
    location := { line } }]

/-- `usersWithAge`, prepared. -/
def usersWithAgePrepared (line : Nat) : Query where
  fromRef := some (.model "user")
  joins := [⟨.left, .explicit (.modelAt "posts" "post"), {
    expr := .eq (.field 1 "author") (.field 0 "id")
    location := { line } }⟩]
  filters := [{ expr := .eq (.field 0 "age") (.placeholder 0), location := { line } }]
  sources := [⟨"users", some "user"⟩, ⟨"posts", some "post"⟩]

/-- Whether the age is a number or a text and where the query is written makes no difference. -/
theorem noninterference_usersWithAge :
    let planner : Planner := { catalog := postCatalog }
    let number : LocalParam := ⟨.int 30, .ofField 0 "age"⟩
    let text : LocalParam := ⟨.text "40", .plain .integer⟩
    let p : Prepared := ⟨usersWithAgePrepared 3, [(2, .int 30)]⟩
    let p' : Prepared := ⟨usersWithAgePrepared 8, [(2, .int 40)]⟩
    (usersWithAge number 3).withoutParams.withoutLocations
        = (usersWithAge text 8).withoutParams.withoutLocations ∧
      planner.prepare (usersWithAge number 3) 2 = .ok p ∧
      planner.prepare (usersWithAge text 8) 2 = .ok p' ∧
      p.query.withoutLocations = p'.query.withoutLocations ∧ p.cacheKey = p'.cacheKey ∧
      p.params.map Prod.fst = p'.params.map Prod.fst := by
  intro planner number text p p'
  have hsame : (usersWithAge number 3).withoutParams.withoutLocations
      = (usersWithAge text 8).withoutParams.withoutLocations := rfl
  have h : planner.prepare (usersWithAge number 3) 2 = .ok p := by
    cbv
  have h' : planner.prepare (usersWithAge text 8) 2 = .ok p' := by
    cbv
  have hcounts (clause : Clause) :
      ((usersWithAge number 3).clauseExprs clause).map (·.params.length)
        = ((usersWithAge text 8).clauseExprs clause).map (·.params.length) := by
    cases clause <;> rfl
  obtain ⟨hquery, hkey, hkeys⟩ := noninterference planner _ _ 2 2 p p' hsame h h'
  exact ⟨hsame, h, h', hquery, hkey, hkeys hcounts rfl⟩

end Planner

end QueryPlan
