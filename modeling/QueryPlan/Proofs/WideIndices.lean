import Mathlib
import QueryPlan.Proofs.Encoding.Wrapping
import QueryPlan.Proofs.Parallel

set_option autoImplicit false

/-! # Wide indices

Preparation takes indices of any size; normalization refuses those that no source has. The bytes of
a query only show what is left of an index in four bytes, so a query with a wide index may share them
with one that is accepted. A hit then stands in for a query that a miss refuses, and this happens
for wide indices only: the numbers of placeholders, which are wrapped as well, are not looked at. -/

namespace QueryPlan

/-! ## Indices -/

/-- The source that a reference leads to. -/
def Reference.index : Reference → Nat
  | .binding index => index
  | .field access => access.binding

/-- The indices of the sources that a query mentions, in its expressions and as the sources of
    loaded associations. -/
def Query.indices (q : Query) : List Nat :=
  (q.exprs.flatMap fun row => row.2.expr.references.map Reference.index) ++
    AssocForest.bindings q.assocs

/-- All indices and numbers of placeholders are below the first number that eight bytes cannot
    hold. -/
structure Query.Addressable (q : Query) : Prop where
  indices : ∀ index ∈ q.indices, index < 18446744073709551616
  placeholders : ∀ row ∈ q.exprs, ∀ key ∈ row.2.expr.placeholders, key < 18446744073709551616

theorem Query.forall_mem_indices {q : Query} {P : Nat → Prop} :
    (∀ index ∈ q.indices, P index) ↔
      (∀ clause, ∀ e ∈ q.clauseExprs clause, ∀ r ∈ e.expr.references, P r.index) ∧
        ∀ index ∈ AssocForest.bindings q.assocs, P index := by
  rw [Query.indices, List.forall_mem_append, List.forall_mem_flatMap]
  refine and_congr_left fun _ => ?_
  simp only [List.forall_mem_map]
  exact ⟨fun h clause e he => h (clause, e) (Query.mem_exprs.2 he),
    fun h row hrow => h row.1 row.2 (Query.mem_exprs.1 hrow)⟩

theorem Reference.index_lt_of_check {catalog : Catalog} {sources : List Source} {clause : Clause}
    {location : Location} {r : Reference} (h : r.check catalog sources clause location = .ok ()) :
    r.index < sources.length := by
  rw [Reference.check_eq_ok_iff] at h
  cases r with
  | binding index => exact h
  | field access =>
    obtain ⟨source, hsource, -⟩ := h
    exact (List.getElem?_eq_some_iff.1 hsource).1

/-- All indices in a query that is accepted are those of sources. -/
theorem Planner.index_lt_of_normalize {planner : Planner} {q : Query} {counter : Nat}
    {options : Options} {n : Normalized} (h : planner.normalize q counter options = .ok n) :
    ∀ index ∈ q.indices, index < q.sources.length := by
  obtain ⟨-, hreferences, -, hpreload, -⟩ := normalize_eq_ok_iff.1 h
  have hframe := sameFrame_of_normalize h
  refine Query.forall_mem_indices.2 ⟨fun clause e he r hr => ?_, fun index hindex => ?_⟩
  · have hchecked := forM_eq_ok_iff.1 hreferences (clause, e) (Query.mem_exprs.2 he)
    exact Reference.index_lt_of_check (forM_eq_ok_iff.1 hchecked r hr)
  · rw [← hframe.assocs] at hindex
    rw [← hframe.sources]
    exact (Query.hasModel_of_checkPreload hpreload hindex).lt_length

/-! ## Wrapped queries -/

theorem Atom.parallel_wrap {a : Atom}
    (h : ∀ r, a.reference? = some r → r.index < Encoding.limit) : a.Parallel a.wrap := by
  cases a with
  | binding index =>
    have hlt : index < Encoding.limit := h _ rfl
    rw [Atom.wrap, Encoding.wrap_of_lt hlt]
    rfl
  | field access =>
    have hlt : access.binding < Encoding.limit := h _ rfl
    rw [Atom.wrap, Encoding.wrap_of_lt hlt]
    rfl
  | placeholder key => rfl
  | literal value => rfl

/-- Without wide indices, wrapping changes nothing but the numbers of placeholders. -/
theorem Query.parallel_wrap {q : Query} (h : ∀ index ∈ q.indices, index < Encoding.limit) :
    q.Parallel q.wrap := by
  obtain ⟨hreferences, hassocs⟩ := Query.forall_mem_indices.1 h
  have hframe := Query.sameFrame_mapExprs (fun _ _ e => e.wrap) q
  refine ⟨⟨hframe.fromRef, hframe.joins, hframe.sources, hframe.preloads, ?_, hframe.lock⟩,
    fun clause => ?_⟩
  · exact AssocForest.wrap_of_lt q.assocs hassocs
  · rw [Query.clauseExprs_wrap, List.forall₂_map_right_iff, List.forall₂_same]
    intro e he
    refine Expr.sameShape_mapAtoms fun a ha => Atom.parallel_wrap fun r hr => ?_
    exact hreferences clause e he r (List.mem_filterMap.2 ⟨a, ha, hr⟩)

/-! ## Hits and misses -/

namespace Planner

/-- A query with the bytes of one that is accepted is accepted itself exactly when four bytes can
    hold all indices in it. -/
theorem accepted_iff_of_encode_eq (planner : Planner) (p q : Query) (counter : Nat)
    (options : Options) (n : Normalized) (hp : p.LengthsFit) (hq : q.LengthsFit)
    (hencode : p.encode = q.encode) (hn : planner.normalize p counter options = .ok n) :
    (∃ m, planner.normalize q counter options = .ok m) ↔
      ∀ index ∈ q.indices, index < Encoding.limit := by
  constructor
  · rintro ⟨m, hm⟩ index hindex
    exact (index_lt_of_normalize hm index hindex).trans hq.length_sources
  · intro hnarrow
    have hnarrow' : ∀ index ∈ p.indices, index < Encoding.limit := fun index hindex =>
      (index_lt_of_normalize hn index hindex).trans hp.length_sources
    have halike := (Query.encode_eq_iff_wrap_alike hp hq).1 hencode
    have hfirst := normalize_parallel (Query.parallel_wrap hnarrow') planner counter counter options
    have hsecond := normalize_parallel halike.parallel planner counter counter options
    have hthird := normalize_parallel (Query.parallel_wrap hnarrow) planner counter counter options
    exact hthird.exists_ok_iff.2 (hsecond.exists_ok_iff.1 (hfirst.exists_ok_iff.1 ⟨n, hn⟩))

/-- Users of the age of 30, which is read from some source. -/
def agedThirty (index : Nat) : Query where
  fromRef := some (.model "user")
  filters := [{ expr := .eq (.field index "age") (.literal (.int 30)) }]
  sources := [⟨"users", some "user"⟩]

theorem wrap_agedThirty : (agedThirty Encoding.limit).wrap = agedThirty 0 :=
  rfl

theorem lengthsFit_agedThirty :
    (agedThirty 0).LengthsFit ∧ (agedThirty Encoding.limit).LengthsFit := by
  have hsources : Encoding.fitsList Source.fits [⟨"users", some "user"⟩] := by decide
  have hfits : (agedThirty 0).Fits :=
    ⟨rfl, rfl, hsources, fun clause => by cases clause <;> exact rfl, rfl, rfl, rfl⟩
  exact ⟨hfits, hfits⟩

/-- The first wide index leaves the bytes as they are. -/
theorem encode_agedThirty : (agedThirty 0).encode = (agedThirty Encoding.limit).encode := by
  rw [← Query.encode_wrap (agedThirty Encoding.limit), wrap_agedThirty]

/-- `agedThirty`, normalized. -/
def agedThirtyNormalized : Query where
  __ := agedThirty 0
  select := some { expr := { expr := .binding 0 }, fields := [.binding 0], includesFrom := true }

theorem normalize_agedThirty : normalize { catalog := postCatalog } (agedThirty 0) 0 {}
    = .ok { query := agedThirtyNormalized, counter := 0 } := by
  cbv

/-- A query with a wide index is refused, though its bytes are those of one that is accepted. -/
theorem refused_agedThirty :
    normalize { catalog := postCatalog } (agedThirty Encoding.limit) 0 {}
      = .error (.bindingOutOfRange .filter Encoding.limit 1) := by
  cbv

theorem accepted_iff_of_encode_eq_agedThirty :
    (agedThirty 0).LengthsFit ∧ (agedThirty Encoding.limit).LengthsFit ∧
      (agedThirty 0).encode = (agedThirty Encoding.limit).encode ∧
      normalize { catalog := postCatalog } (agedThirty 0) 0 {}
        = .ok { query := agedThirtyNormalized, counter := 0 } ∧
      ¬∃ m, normalize { catalog := postCatalog } (agedThirty Encoding.limit) 0 {} = .ok m := by
  obtain ⟨hnarrow, hwide⟩ := lengthsFit_agedThirty
  refine ⟨hnarrow, hwide, encode_agedThirty, normalize_agedThirty, ?_⟩
  rw [accepted_iff_of_encode_eq _ _ _ _ _ _ hnarrow hwide encode_agedThirty normalize_agedThirty]
  decide

/-- The bytes of a prepared query do not decide whether it is accepted. -/
theorem not_accepted_of_encode_eq : ¬∀ (planner : Planner) (q q' : Query) (base base' : Nat)
    (p p' : Prepared) (counter : Nat) (options : Options) (n : Normalized),
    planner.prepare q base = .ok p → planner.prepare q' base' = .ok p' →
    p.query.LengthsFit → p'.query.LengthsFit → p.query.Addressable → p'.query.Addressable →
    p.query.encode = p'.query.encode → planner.normalize p.query counter options = .ok n →
    ∃ m, planner.normalize p'.query counter options = .ok m := by
  intro hall
  obtain ⟨hnarrow, hwide⟩ := lengthsFit_agedThirty
  have hprepare : prepare { catalog := postCatalog } (agedThirty 0) 0
      = .ok { query := agedThirty 0, params := [] } := by
    cbv
  have hprepare' : prepare { catalog := postCatalog } (agedThirty Encoding.limit) 0
      = .ok { query := agedThirty Encoding.limit, params := [] } := by
    cbv
  obtain ⟨m, hm⟩ := hall _ _ _ _ _ _ _ _ _ _ hprepare hprepare' hnarrow hwide
    ⟨by decide, by decide⟩ ⟨by decide, by decide⟩ encode_agedThirty normalize_agedThirty
  rw [refused_agedThirty] at hm
  cases hm

end Planner

end QueryPlan
