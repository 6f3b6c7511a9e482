import QueryPlan.Proofs.Joinable

set_option autoImplicit false

/-! # Exact resolution

Resolution takes the joins from left to right and each of them may look at all sources found so far.
What it accepts can still be said without running it: some list of sources satisfies, position by
position, a rule that looks at the part of the list in front of the position. There is at most one
such list. If there is none, the error is that of the first position without a source. -/

namespace QueryPlan

variable {catalog : Catalog} {sources : List Source}

/-! ## The sources of a query -/

/-- The source that the target of a join finds, given the sources in front of the join. -/
inductive JoinTarget.Finds (catalog : Catalog) (sources : List Source) : JoinTarget → Source → Prop
  | explicit {ref : TableRef} {source : Source} : ref.Denotes catalog source →
    Finds catalog sources (.explicit ref) source
  | association {binding : Nat} {name : String} {owner : Source} {model : ModelName}
    {association : Association} {table : String} : binding < sources.length →
    sources[binding]? = some owner → owner.model = some model →
    catalog.association model name = some association →
    catalog.table association.related = some table →
    Finds catalog sources (.association binding name)
      { table, model := some association.related }

/-- These are the sources of a query: the first one is that of `fromRef`, the one in position `k` is
    found by the `k`-th join among those in front of it. -/
structure Query.FindsSources (catalog : Catalog) (q : Query) (sources : List Source) : Prop where
  length : sources.length = 1 + q.joins.length
  first : ∃ ref source, q.fromRef = some ref ∧ sources[0]? = some source ∧
    ref.Denotes catalog source
  joins (i : Nat) (join : Join) : q.joins[i]? = some join →
    ∃ source, sources[i + 1]? = some source ∧
      join.target.Finds catalog (sources.take (i + 1)) source

theorem Join.finds_iff {join : Join} {source : Source} :
    join.target.Finds catalog sources source ↔
      ∃ joined, join.ResolvesAs catalog sources joined source := by
  constructor
  · intro h
    cases htarget : join.target with
    | explicit ref =>
      rw [htarget] at h
      cases h with
      | explicit hdenotes => exact ⟨join, .explicit htarget hdenotes⟩
    | association binding name =>
      rw [htarget] at h
      cases h with
      | association _ howner hmodel hassociation htable =>
        exact ⟨_, .association htarget howner hmodel hassociation htable⟩
  · rintro ⟨joined, h⟩
    cases h with
    | explicit htarget hdenotes =>
      rw [htarget]
      exact .explicit hdenotes
    | association htarget howner hmodel hassociation htable =>
      have hlt := (List.getElem?_eq_some_iff.1 howner).1
      rw [htarget]
      exact .association hlt howner hmodel hassociation htable

/-- Joins are resolved when there is one source for each, found among those in front of it. -/
theorem exists_resolveJoins_iff {joins : List Join} {more : List Source} :
    (∃ joins', resolveJoins catalog sources joins = .ok (joins', more)) ↔
      more.length = joins.length ∧ ∀ (i : Nat) (join : Join), joins[i]? = some join →
        ∃ source, more[i]? = some source ∧
          join.target.Finds catalog (sources ++ more.take i) source := by
  constructor
  · rintro ⟨joins', h⟩
    obtain ⟨hjoins, hlength⟩ := resolvesTo_of_resolveJoins h
    refine ⟨hlength.trans hjoins.length_eq.symm, fun i join hi => ?_⟩
    obtain ⟨joined, source, -, hsource, hresolves⟩ := resolvesAs_of_resolveJoins h hi
    exact ⟨source, hsource, Join.finds_iff.2 ⟨joined, hresolves⟩⟩
  · rintro ⟨hlength, hfinds⟩
    induction joins generalizing sources more with
    | nil =>
      obtain rfl := List.length_eq_zero_iff.1 hlength
      exact ⟨[], rfl⟩
    | cons join rest ih =>
      cases more with
      | nil => cases hlength
      | cons source added =>
        obtain ⟨_, hsource, hfirst⟩ := hfinds 0 join rfl
        cases hsource
        rw [List.take_zero, List.append_nil] at hfirst
        obtain ⟨joined, hjoin⟩ := Join.finds_iff.1 hfirst
        -- For the other joins, the source found first is one of those given.
        have hothers : ∃ rest', resolveJoins catalog (sources ++ [source]) rest
            = .ok (rest', added) := by
          refine ih (Nat.succ.inj hlength) fun i join hi => ?_
          obtain ⟨found, hfound, hrule⟩ := hfinds (i + 1) join hi
          rw [List.take_succ_cons, List.append_cons] at hrule
          exact ⟨found, hfound, hrule⟩
        obtain ⟨rest', hrest⟩ := hothers
        exact ⟨joined :: rest',
          resolveJoins_cons_eq_ok_iff.2 ⟨joined, source, rest', added, hjoin, hrest, rfl, rfl⟩⟩

/-- A query is resolved when it has sources, and gets these. -/
theorem Query.findsSources_iff {q : Query} :
    q.FindsSources catalog sources ↔ ∃ r, q.resolve catalog = .ok r ∧ r.sources = sources := by
  constructor
  · rintro ⟨hlength, ⟨ref, first, href, hfirst, hdenotes⟩, hjoins⟩
    cases sources with
    | nil => cases hfirst
    | cons source more =>
      cases hfirst
      rw [List.length_cons, Nat.add_comm, Nat.add_left_cancel_iff] at hlength
      obtain ⟨joins, hmore⟩ : ∃ joins, resolveJoins catalog [first] q.joins = .ok (joins, more) :=
        exists_resolveJoins_iff.2 ⟨hlength, hjoins⟩
      exact ⟨_, Query.resolve_eq_ok_iff.2 ⟨ref, first, joins, more, href, hdenotes, hmore, rfl⟩, rfl⟩
  · rintro ⟨r, h, rfl⟩
    obtain ⟨ref, first, joins, more, href, hdenotes, hmore, rfl⟩ := Query.resolve_eq_ok_iff.1 h
    obtain ⟨hlength, hjoins⟩ := exists_resolveJoins_iff.1 ⟨joins, hmore⟩
    refine ⟨?_, ⟨ref, first, href, rfl, hdenotes⟩, hjoins⟩
    rw [List.length_cons, hlength, Nat.add_comm]

theorem Query.FindsSources.unique {q : Query} {sources' : List Source}
    (h : q.FindsSources catalog sources) (h' : q.FindsSources catalog sources') :
    sources = sources' := by
  obtain ⟨r, hr, rfl⟩ := Query.findsSources_iff.1 h
  obtain ⟨r', hr', rfl⟩ := Query.findsSources_iff.1 h'
  rw [Except.ok.inj (hr.symm.trans hr')]

/-! ## The joins of a resolved query -/

/-- What a join through an association becomes: the related model on its table, joined in the same
    way. The equality of the keys is its condition, in front of the written one unless this was the
    literal true. -/
structure Join.BecomesExplicit (association : Association) (table : String) (index binding : Nat)
    (join joined : Join) : Prop where
  kind : joined.kind = join.kind
  target : joined.target = .explicit (.modelAt table association.related)
  params : joined.on.params = join.on.params
  location : joined.on.location = join.on.location
  keysOnly : join.on.expr = .literal (.bool true) →
    joined.on.expr = .eq (.field index association.relatedKey) (.field binding association.ownerKey)
  keysFirst : join.on.expr ≠ .literal (.bool true) →
    joined.on.expr = .and
      (.eq (.field index association.relatedKey) (.field binding association.ownerKey)) join.on.expr

theorem ClauseExpr.onlyIf_of_eq_true {e : ClauseExpr} (condition : Expr)
    (h : e.expr = .literal (.bool true)) : e.onlyIf condition = { e with expr := condition } := by
  simp only [ClauseExpr.onlyIf, h]

theorem ClauseExpr.onlyIf_of_ne_true {e : ClauseExpr} (condition : Expr)
    (h : e.expr ≠ .literal (.bool true)) :
    e.onlyIf condition = { e with expr := .and condition e.expr } := by
  unfold ClauseExpr.onlyIf
  split
  · next htrue => exact absurd htrue h
  · rfl

/-- Resolution keeps a query but for its sources and its joins through associations. -/
structure Query.KeepsExplicit (catalog : Catalog) (q r : Query) : Prop where
  rest : r = { q with joins := r.joins, sources := r.sources }
  length_joins : r.joins.length = q.joins.length
  explicit (i : Nat) (join : Join) (ref : TableRef) :
    q.joins[i]? = some join → join.target = .explicit ref → r.joins[i]? = some join
  association (i : Nat) (join : Join) (binding : Nat) (name : String) :
    q.joins[i]? = some join → join.target = .association binding name →
      ∃ joined owner model association table, r.joins[i]? = some joined ∧
        r.sources[binding]? = some owner ∧ owner.model = some model ∧
        catalog.association model name = some association ∧
        r.sources[i + 1]? = some { table, model := some association.related } ∧
        join.BecomesExplicit association table (i + 1) binding joined

theorem Join.BecomesExplicit.of_onlyIf (join : Join) (association : Association) (table : String)
    (index binding : Nat) :
    join.BecomesExplicit association table index binding
      { kind := join.kind
        target := .explicit (.modelAt table association.related)
        on := join.on.onlyIf (association.keysEqual index binding) } := by
  by_cases htrue : join.on.expr = .literal (.bool true)
  · rw [ClauseExpr.onlyIf_of_eq_true _ htrue]
    exact ⟨rfl, rfl, rfl, rfl, fun _ => rfl, fun h => absurd htrue h⟩
  · rw [ClauseExpr.onlyIf_of_ne_true _ htrue]
    exact ⟨rfl, rfl, rfl, rfl, fun h => absurd h htrue, fun _ => rfl⟩

theorem Query.keepsExplicit_of_resolve {q r : Query} (h : q.resolve catalog = .ok r) :
    q.KeepsExplicit catalog r := by
  have hr := Query.resolvesTo_of_resolve h
  refine ⟨hr.rest, hr.joins.length_eq.symm, ?_, ?_⟩
  · intro i join ref hi htarget
    obtain ⟨joined, source, hjoined, -, hresolves⟩ := Query.resolvesAs_of_resolve h hi
    cases hresolves with
    | explicit _ _ => exact hjoined
    | association hassociation _ _ _ _ =>
      rw [htarget] at hassociation
      cases hassociation
  · intro i join binding name hi htarget
    obtain ⟨joined, owner, model, association, table, hjoined, howner, hmodel, hassociation,
      hrelated, rfl⟩ := Query.exists_association_of_resolve h hi htarget
    exact ⟨_, owner, model, association, table, hjoined, howner, hmodel, hassociation, hrelated,
      .of_onlyIf join association table (i + 1) binding⟩

theorem Query.resolve_take {q r : Query} (h : q.resolve catalog = .ok r) (n : Nat) :
    Query.resolve catalog { q with joins := q.joins.take n }
      = .ok { r with joins := r.joins.take n, sources := r.sources.take (n + 1) } := by
  obtain ⟨ref, first, joins, more, href, hfirst, hjoins, rfl⟩ := Query.resolve_eq_ok_iff.1 h
  exact Query.resolve_eq_ok_iff.2
    ⟨ref, first, _, _, href, hfirst, resolveJoins_take hjoins n, rfl⟩

/-! ## The first reason to refuse -/

/-- The reason to refuse a query: it has no first source, or this is refused, or a join is, while
    all sources in front of the join are found. -/
inductive Query.Refused (catalog : Catalog) (q : Query) : PlanError → Prop
  | missingFrom : q.fromRef = none → Refused catalog q .missingFrom
  | fromRef {ref : TableRef} {e : PlanError} :
    q.fromRef = some ref → ref.Refused catalog e → Refused catalog q e
  | join {i : Nat} {join : Join} {sources : List Source} {e : PlanError} :
    q.joins[i]? = some join →
    Query.FindsSources catalog { q with joins := q.joins.take i } sources →
    join.Refused catalog sources e → Refused catalog q e

theorem Query.resolve_eq_error_iff_refused {q : Query} {e : PlanError} :
    q.resolve catalog = .error e ↔ q.Refused catalog e := by
  rw [Query.resolve_eq_error_iff]
  constructor
  · rintro (⟨hmissing, rfl⟩ | ⟨ref, href, hrefused | ⟨first, hfirst, hjoins⟩⟩)
    · exact .missingFrom hmissing
    · exact .fromRef href hrefused
    · obtain ⟨i, join, joins', more, hi, htake, hrefused⟩ := resolveJoins_eq_error_iff.1 hjoins
      have hsources : Query.FindsSources catalog { q with joins := q.joins.take i }
          (first :: more) :=
        Query.findsSources_iff.2 ⟨_, Query.resolve_eq_ok_iff.2
          ⟨ref, first, joins', more, href, hfirst, htake, rfl⟩, rfl⟩
      exact .join hi hsources hrefused
  · intro h
    cases h with
    | missingFrom hmissing => exact .inl ⟨hmissing, rfl⟩
    | fromRef href hrefused => exact .inr ⟨_, href, .inl hrefused⟩
    | @join i join _ _ hi hsources hrefused =>
      obtain ⟨r, hresolve, rfl⟩ := Query.findsSources_iff.1 hsources
      obtain ⟨ref, first, joins', more, href, hfirst, htake, rfl⟩ :=
        Query.resolve_eq_ok_iff.1 hresolve
      have hjoins := resolveJoins_eq_error_iff.2 ⟨i, join, joins', more, hi, htake, hrefused⟩
      exact .inr ⟨ref, href, .inr ⟨first, hfirst, hjoins⟩⟩

/-! ## Resolution as a whole -/

/-- Resolution succeeds exactly for the queries that have sources. It gives these, keeps everything
    else but the joins through associations, and resolves the first joins of a query in the same
    way without the others. It fails exactly for the first reason to refuse. -/
theorem Query.resolve_exact (catalog : Catalog) (q : Query) :
    ((∃ r, q.resolve catalog = .ok r) ↔ ∃ sources, q.FindsSources catalog sources) ∧
      (∀ r, q.resolve catalog = .ok r →
        q.FindsSources catalog r.sources ∧ q.KeepsExplicit catalog r ∧
        ∀ n, Query.resolve catalog { q with joins := q.joins.take n }
          = .ok { r with joins := r.joins.take n, sources := r.sources.take (n + 1) }) ∧
      ∀ e, q.resolve catalog = .error e ↔ q.Refused catalog e := by
  refine ⟨⟨?_, ?_⟩, fun r h => ⟨?_, ?_, ?_⟩, fun e => Query.resolve_eq_error_iff_refused⟩
  · rintro ⟨r, h⟩
    exact ⟨r.sources, Query.findsSources_iff.2 ⟨r, h, rfl⟩⟩
  · rintro ⟨sources, hsources⟩
    obtain ⟨r, h, -⟩ := Query.findsSources_iff.1 hsources
    exact ⟨r, h⟩
  · exact Query.findsSources_iff.2 ⟨r, h, rfl⟩
  · exact Query.keepsExplicit_of_resolve h
  · exact Query.resolve_take h

/-- `authorsOfPosts` with a second join that names its own source as the owner. -/
def postsJoinedToThemselves : Query :=
  { authorsOfPosts with
    joins := [⟨.left, .association 0 "posts", .always⟩, ⟨.inner, .association 2 "author", .always⟩] }

theorem resolve_exact_authorsOfPosts :
    authorsOfPosts.FindsSources postSchema.catalog authorsOfPostsPrepared.sources ∧
      authorsOfPosts.KeepsExplicit postSchema.catalog authorsOfPostsPrepared ∧
      Query.resolve postSchema.catalog { authorsOfPosts with joins := authorsOfPosts.joins.take 1 }
        = .ok { authorsOfPostsPrepared with
            joins := authorsOfPostsPrepared.joins.take 1
            sources := authorsOfPostsPrepared.sources.take 2 } ∧
      postsJoinedToThemselves.Refused postSchema.catalog (.bindingOutOfRange .join 2 2) := by
  have hresolve : authorsOfPosts.resolve postSchema.catalog = .ok authorsOfPostsPrepared := by
    cbv
  have herror : postsJoinedToThemselves.resolve postSchema.catalog
      = .error (.bindingOutOfRange .join 2 2) := by
    cbv
  obtain ⟨-, hexact, -⟩ := Query.resolve_exact postSchema.catalog authorsOfPosts
  obtain ⟨-, -, hrefused⟩ := Query.resolve_exact postSchema.catalog postsJoinedToThemselves
  obtain ⟨hsources, hkeeps, htake⟩ := hexact _ hresolve
  exact ⟨hsources, hkeeps, htake 1, (hrefused _).1 herror⟩

end QueryPlan
