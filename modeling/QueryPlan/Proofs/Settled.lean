import QueryPlan.Proofs.Numbering
import QueryPlan.Proofs.WellFormed

set_option autoImplicit false

/-! # Settled queries

Preparing a query settles it: it has no parameters, and its sources are those that its text names.
A settled query may go through the planner any number of times, in any order of calls. Preparing it
again gives it back as it is. Normalizing moves its placeholders and may add a select clause, but
nothing that resolution or merging looks at. -/

namespace QueryPlan

variable {catalog : Catalog} {sources : List Source}

/-! ## Named sources -/

/-- The source that the target of a resolved join stands for. -/
def JoinTarget.Denotes (catalog : Catalog) (target : JoinTarget) (source : Source) : Prop :=
  ∃ ref, target = .explicit ref ∧ ref.Denotes catalog source

/-- The sources of a query are those that `fromRef` and the targets of its joins stand for. -/
def Query.NamesSources (catalog : Catalog) (q : Query) : Prop :=
  ∃ ref first more, q.fromRef = some ref ∧ ref.Denotes catalog first ∧
    List.Forall₂ (JoinTarget.Denotes catalog) (q.joins.map (·.target)) more ∧
    q.sources = first :: more

theorem Join.ResolvesAs.denotes {join joined : Join} {source : Source}
    (h : join.ResolvesAs catalog sources joined source) :
    joined.target.Denotes catalog source := by
  cases h with
  | explicit htarget hdenotes => exact ⟨_, htarget, hdenotes⟩
  | association => exact ⟨_, rfl, .modelAt _ _⟩

/-- Resolution names the sources that it finds. -/
theorem denotes_of_resolveJoins {joins joins' : List Join} {more : List Source}
    (h : resolveJoins catalog sources joins = .ok (joins', more)) :
    List.Forall₂ (JoinTarget.Denotes catalog) (joins'.map (·.target)) more := by
  induction joins generalizing sources joins' more with
  | nil =>
    cases h
    exact .nil
  | cons join rest ih =>
    obtain ⟨joined, source, rest', sources', hjoin, hrest, rfl, rfl⟩ :=
      resolveJoins_cons_eq_ok_iff.1 h
    exact .cons hjoin.denotes (ih hrest)

/-- Joins that name their sources are resolved to themselves, over whatever sources. -/
theorem resolveJoins_of_denotes {joins : List Join} {more : List Source}
    (h : List.Forall₂ (JoinTarget.Denotes catalog) (joins.map (·.target)) more) :
    resolveJoins catalog sources joins = .ok (joins, more) := by
  induction joins generalizing sources more with
  | nil =>
    cases h
    rfl
  | cons join rest ih =>
    cases h with
    | cons hjoin hrest =>
      obtain ⟨ref, htarget, hdenotes⟩ := hjoin
      exact resolveJoins_cons_eq_ok_iff.2
        ⟨join, _, rest, _, .explicit htarget hdenotes, ih hrest, rfl, rfl⟩

namespace Query

variable {q r : Query}

theorem namesSources_of_resolve (h : q.resolve catalog = .ok r) : r.NamesSources catalog := by
  obtain ⟨ref, first, joins, more, href, hfirst, hjoins, rfl⟩ := resolve_eq_ok_iff.1 h
  exact ⟨ref, first, more, href, hfirst, denotes_of_resolveJoins hjoins, rfl⟩

theorem NamesSources.resolve_eq (h : q.NamesSources catalog) : q.resolve catalog = .ok q := by
  obtain ⟨ref, first, more, href, hfirst, hmore, hsources⟩ := h
  refine resolve_eq_ok_iff.2
    ⟨ref, first, q.joins, more, href, hfirst, resolveJoins_of_denotes hmore, ?_⟩
  rw [← hsources]

/-- Conditions of joins and other expressions have no part in it. -/
theorem NamesSources.of_sameFrame (h : q.NamesSources catalog) (hframe : q.SameFrame r) :
    r.NamesSources catalog := by
  have htargets : r.joins.map (·.target) = q.joins.map (·.target) := by
    have hsnd := congrArg (List.map Prod.snd) hframe.joins
    rwa [List.map_map, List.map_map] at hsnd
  unfold NamesSources
  rwa [hframe.fromRef, htargets, hframe.sources]

/-! ## Settled queries -/

/-- A resolved query with the sources that it names. -/
structure Settled (catalog : Catalog) (q : Query) : Prop extends q.Resolved where
  names : q.NamesSources catalog

theorem Settled.withoutParams_eq (h : q.Settled catalog) : q.withoutParams = q := by
  refine mapExprs_eq_self fun clause _ e he => ?_
  have hnone := h.params clause e he
  rw [ClauseExpr.withoutParams, ← hnone]

end Query

/-! ## Calls of the planner -/

namespace Planner

/-- A use of the planner on some query. -/
inductive Call
  | prepare (base : Nat)
  | normalize (counter : Nat) (options : Options)
  | plan (bound : List Value) (options : Options)

/-- The query that a call returns. -/
def run (planner : Planner) (q : Query) : Call → Except PlanError Query
  | .prepare base => do
    let prepared ← planner.prepare q base
    return prepared.query
  | .normalize counter options => do
    let normalized ← planner.normalize q counter options
    return normalized.query
  | .plan bound options => do
    let plan ← planner.plan q bound options
    return plan.query

/-- Makes calls one after another, each on the query that the one before it has returned. -/
def runAll (planner : Planner) (q : Query) (calls : List Call) : Except PlanError Query :=
  calls.foldlM planner.run q

variable {planner : Planner} {q r : Query}

/-- Preparing a settled query changes nothing, whatever the base. -/
theorem prepare_of_settled (h : q.Settled planner.catalog) (base : Nat) :
    planner.prepare q base = .ok { query := q, params := [] } := by
  have hnone : q.paramCount = 0 := by
    rw [← h.withoutParams_eq]
    exact q.paramCount_withoutParams
  refine prepare_eq_ok_iff.2
    ⟨q, [], h.names.resolve_eq, Query.castParams_of_paramCount_eq_zero hnone, ?_⟩
  rw [h.withoutParams_eq]
  rfl

theorem settled_of_prepare {base : Nat} {p : Prepared} (h : planner.prepare q base = .ok p) :
    p.query.Settled planner.catalog := by
  have hresolved := resolved_of_prepare h
  obtain ⟨r, values, hresolve, -, rfl⟩ := prepare_eq_ok_iff.1 h
  have hframe := Query.sameFrame_mapExprs (fun _ _ e => e.withoutParams) r
  exact ⟨hresolved, (Query.namesSources_of_resolve hresolve).of_sameFrame hframe⟩

end Planner

/-! ## What calls keep -/

/-- What a settled query keeps through all calls: everything but the placeholders of its
    expressions, which may be moved, and the derived parts of the select clause. If it has no select
    clause, it may get the row of the first source as one. -/
structure Query.Keeps (q r : Query) : Prop extends q.SameFrame r where
  exprs : ∀ clause,
    List.Forall₂ (fun e e' => ∃ offset, e.Moved offset e') (q.clauseExprs clause)
        (r.clauseExprs clause) ∨
      clause = .select ∧ q.clauseExprs clause = [] ∧
        r.clauseExprs clause = [{ expr := .binding 0 }]

namespace Query.Keeps

theorem refl (q : Query) : q.Keeps q where
  toSameFrame := .refl q
  exprs _ := .inl (List.forall₂_same.2 fun e _ => ⟨0, .refl e⟩)

theorem trans {q₁ q₂ q₃ : Query} (h₁ : q₁.Keeps q₂) (h₂ : q₂.Keeps q₃) : q₁.Keeps q₃ where
  toSameFrame := h₁.toSameFrame.trans h₂.toSameFrame
  exprs clause := by
    rcases h₁.exprs clause with hfirst | ⟨rfl, hnil, hadded⟩
    · rcases h₂.exprs clause with hsecond | ⟨rfl, hnil, hadded⟩
      · exact .inl (forall₂_trans hfirst hsecond fun _ _ _ ⟨m, hm⟩ ⟨n, hn⟩ =>
          ⟨n + m, hm.trans hn⟩)
      · rw [hnil, List.forall₂_nil_right_iff] at hfirst
        exact .inr ⟨rfl, hfirst, hadded⟩
    -- The row of the first source has no placeholders, so it stays as it was added.
    · rcases h₂.exprs .select with hsecond | ⟨-, hnil', -⟩
      · refine .inr ⟨rfl, hnil, ?_⟩
        rw [hadded, List.forall₂_cons_left_iff] at hsecond
        obtain ⟨e, es, ⟨offset, he⟩, hes, heq⟩ := hsecond
        rw [List.forall₂_nil_left_iff] at hes
        rw [heq, hes, he.eq_shift]
        rfl
      · rw [hadded] at hnil'
        cases hnil'

end Query.Keeps

namespace Planner

variable {planner : Planner} {q r : Query}

theorem keeps_of_normalize {counter : Nat} {options : Options} {n : Normalized}
    (h : planner.normalize q counter options = .ok n) : q.Keeps n.query where
  toSameFrame := sameFrame_of_normalize h
  exprs clause := by
    rcases clauseExprs_of_normalize h clause with hmoved | hadded
    · refine .inl ?_
      rw [hmoved]
      refine forall₂_of_getElem? List.length_mapIdx.symm fun i e e' he he' => ?_
      rw [List.getElem?_mapIdx, he, Option.map_some, Option.some.injEq] at he'
      exact ⟨_, he' ▸ e.moved_shift _⟩
    · exact .inr hadded

theorem settled_of_normalize {counter : Nat} {options : Options} {n : Normalized}
    (h : planner.normalize q counter options = .ok n) (hq : q.Settled planner.catalog) :
    n.query.Settled planner.catalog :=
  ⟨resolved_of_normalize h hq.toResolved, hq.names.of_sameFrame (sameFrame_of_normalize h)⟩

/-- Each call keeps a query settled. -/
theorem keeps_of_run {call : Call} (hq : q.Settled planner.catalog)
    (h : planner.run q call = .ok r) : r.Settled planner.catalog ∧ q.Keeps r := by
  cases call with
  | prepare base =>
    rw [run, prepare_of_settled hq] at h
    obtain rfl := Except.ok.inj h
    exact ⟨hq, .refl q⟩
  | normalize counter options =>
    obtain ⟨n, hn, hr⟩ := bind_eq_ok_iff.1 h
    obtain rfl := pure_eq_ok_iff.1 hr
    exact ⟨settled_of_normalize hn hq, keeps_of_normalize hn⟩
  | plan bound options =>
    obtain ⟨p, hp, hr⟩ := bind_eq_ok_iff.1 h
    obtain rfl := pure_eq_ok_iff.1 hr
    obtain ⟨prepared, n, hprepare, hn, rfl⟩ := plan_eq_ok_iff.1 hp
    rw [prepare_of_settled hq] at hprepare
    obtain rfl := Except.ok.inj hprepare
    exact ⟨settled_of_normalize hn hq, keeps_of_normalize hn⟩

/-- Any number of calls keep a query settled. -/
theorem keeps_of_runAll_of_settled {calls : List Call} (hq : q.Settled planner.catalog)
    (h : planner.runAll q calls = .ok r) : r.Settled planner.catalog ∧ q.Keeps r := by
  induction calls generalizing q with
  | nil =>
    obtain rfl := pure_eq_ok_iff.1 h
    exact ⟨hq, .refl q⟩
  | cons call calls ih =>
    rw [runAll, List.foldlM_cons, bind_eq_ok_iff] at h
    obtain ⟨next, hcall, hcalls⟩ := h
    obtain ⟨hnext, hfirst⟩ := keeps_of_run hq hcall
    obtain ⟨hr, hrest⟩ := ih hnext hcalls
    exact ⟨hr, hfirst.trans hrest⟩

/-- Whatever calls follow on a preparation, in any order, keep the prepared query but for the
    numbers of its placeholders and a select clause by default, and preparing it again, at any
    base, gives it back as it is. -/
theorem keeps_of_runAll (planner : Planner) (q : Query) (base : Nat) (p : Prepared)
    (calls : List Call) (r : Query) (hprepare : planner.prepare q base = .ok p)
    (hcalls : planner.runAll p.query calls = .ok r) :
    p.query.Keeps r ∧ (∀ row ∈ r.exprs, row.2.params = []) ∧
      ∀ base', planner.prepare r base' = .ok { query := r, params := [] } := by
  obtain ⟨hr, hkeeps⟩ := keeps_of_runAll_of_settled (settled_of_prepare hprepare) hcalls
  exact ⟨hkeeps, fun row hrow => hr.params row.1 row.2 (Query.mem_exprs.1 hrow),
    prepare_of_settled hr⟩

/-- Five users with their posts, as far as these have one author. -/
def postsByAuthor : Query where
  fromRef := some (.model "user")
  joins := [⟨.left, .association 0 "posts", {
    expr := .eq (.field 1 "author") (.placeholder 0)
    params := [(0, ⟨.int 7, .ofField 1 "author"⟩)]
    location := ⟨"posts", 3⟩ }⟩]
  limit := some { expr := .placeholder 0, params := [(0, ⟨.int 5, .plain .integer⟩)] }

/-- `postsByAuthor`, resolved, with these numbers in the condition of the join and in the limit. -/
def postsByAuthorSettled (on limit : Nat) (select : Option Select) : Query where
  fromRef := some (.model "user")
  joins := [⟨.left, .explicit (.modelAt "posts" "post"), {
    expr := .and (.eq (.field 1 "author") (.field 0 "id"))
      (.eq (.field 1 "author") (.placeholder on))
    location := ⟨"posts", 3⟩ }⟩]
  limit := some { expr := .placeholder limit }
  sources := [⟨"users", some "user"⟩, ⟨"posts", some "post"⟩]
  select := select

theorem keeps_of_runAll_postsByAuthor :
    let prepared := postsByAuthorSettled 0 0 none
    let last := postsByAuthorSettled 4 6 (some {
      expr := { expr := .binding 0 }
      fields := [.binding 0]
      includesFrom := true })
    prepare { catalog := postCatalog } postsByAuthor 2
        = .ok { query := prepared, params := [(2, .int 7), (3, .int 5)] } ∧
      runAll { catalog := postCatalog } prepared [.normalize 3 {}, .prepare 7, .plan [.null] {}]
        = .ok last ∧
      prepared.Keeps last ∧ (∀ row ∈ last.exprs, row.2.params = []) ∧
      ∀ base, prepare { catalog := postCatalog } last base
        = .ok { query := last, params := [] } := by
  intro prepared last
  have hprepare : prepare { catalog := postCatalog } postsByAuthor 2
      = .ok { query := prepared, params := [(2, .int 7), (3, .int 5)] } := by
    cbv
  have hcalls : runAll { catalog := postCatalog } prepared
      [.normalize 3 {}, .prepare 7, .plan [.null] {}] = .ok last := by
    cbv
  exact ⟨hprepare, hcalls, keeps_of_runAll _ _ _ _ _ _ hprepare hcalls⟩

end Planner

end QueryPlan
