import QueryPlan.Planning.Resolution
import QueryPlan.Proofs.References

set_option autoImplicit false

/-! # Resolved sources

What resolution finds for a written source and for a join, as rules: each rule names the answers of
the catalog that it needs. A join is resolved over the sources of the joins before it, so the rule
for the join in a position speaks of the resolved sources up to that position. Beside the rules
stand the reasons to refuse, one for each answer that may be missing. -/

namespace QueryPlan

variable {catalog : Catalog} {sources : List Source}

/-! ## Written sources -/

theorem Catalog.requireTable_eq_ok_iff {model : ModelName} {table : String} :
    catalog.requireTable model = .ok table ↔ catalog.table model = some table := by
  unfold Catalog.requireTable
  cases catalog.table model with
  | none => simp
  | some t => simp

theorem Catalog.requireTable_eq_error_iff {model : ModelName} {e : PlanError} :
    catalog.requireTable model = .error e ↔ catalog.table model = none ∧ e = .unknownModel model := by
  unfold Catalog.requireTable
  cases catalog.table model with
  | none => simp [eq_comm]
  | some t => simp

/-- The source that a written source stands for. Only the default table of a model is looked up. -/
inductive TableRef.Denotes (catalog : Catalog) : TableRef → Source → Prop
  | table (name : String) : Denotes catalog (.table name) { table := name }
  | model {name : ModelName} {table : String} : catalog.table name = some table →
    Denotes catalog (.model name) { table, model := some name }
  | modelAt (location : String) (name : ModelName) :
    Denotes catalog (.modelAt location name) { table := location, model := some name }

theorem TableRef.resolve_eq_ok_iff {ref : TableRef} {source : Source} :
    ref.resolve catalog = .ok source ↔ ref.Denotes catalog source := by
  constructor
  · intro h
    cases ref with
    | table name =>
      cases h
      exact .table name
    | model name =>
      obtain ⟨table, htable, h⟩ := bind_eq_ok_iff.1 h
      cases h
      exact .model (Catalog.requireTable_eq_ok_iff.1 htable)
    | modelAt location name =>
      cases h
      exact .modelAt location name
  · intro h
    cases h with
    | table name => rfl
    | model htable => exact bind_eq_ok_iff.2 ⟨_, Catalog.requireTable_eq_ok_iff.2 htable, rfl⟩
    | modelAt location name => rfl

/-- The reason to refuse a written source: a model without a default table. -/
inductive TableRef.Refused (catalog : Catalog) : TableRef → PlanError → Prop
  | unknownModel {name : ModelName} : catalog.table name = none →
    Refused catalog (.model name) (.unknownModel name)

theorem TableRef.resolve_eq_error_iff {ref : TableRef} {e : PlanError} :
    ref.resolve catalog = .error e ↔ ref.Refused catalog e := by
  constructor
  · intro h
    cases ref with
    | table name => cases h
    | modelAt location name => cases h
    | model name =>
      rcases bind_eq_error_iff.1 h with h | ⟨_, _, h⟩
      · obtain ⟨htable, rfl⟩ := Catalog.requireTable_eq_error_iff.1 h
        exact .unknownModel htable
      · cases h
  · intro h
    cases h with
    | unknownModel htable =>
      exact bind_eq_error_iff.2 (.inl (Catalog.requireTable_eq_error_iff.2 ⟨htable, rfl⟩))

/-! ## Joins -/

/-- What a join becomes and the source that it adds, given the sources before it. -/
inductive Join.ResolvesAs (catalog : Catalog) (sources : List Source) : Join → Join → Source → Prop
  | explicit {join : Join} {ref : TableRef} {source : Source} :
    join.target = .explicit ref → ref.Denotes catalog source →
    ResolvesAs catalog sources join join source
  | association {join : Join} {binding : Nat} {name : String} {owner : Source} {model : ModelName}
    {association : Association} {table : String} :
    join.target = .association binding name → sources[binding]? = some owner →
    owner.model = some model → catalog.association model name = some association →
    catalog.table association.related = some table →
    ResolvesAs catalog sources join
      { kind := join.kind
        target := .explicit (.modelAt table association.related)
        on := join.on.onlyIf (association.keysEqual sources.length binding) }
      { table, model := some association.related }

theorem Join.resolve_eq_ok_iff {join joined : Join} {source : Source} :
    join.resolve catalog sources = .ok (joined, source) ↔
      join.ResolvesAs catalog sources joined source := by
  unfold Join.resolve
  constructor
  · intro h
    split at h
    · next ref htarget =>
      obtain ⟨_, hsource, h⟩ := bind_eq_ok_iff.1 h
      cases h
      exact .explicit htarget (TableRef.resolve_eq_ok_iff.1 hsource)
    · next binding name htarget =>
      obtain ⟨owner, howner, h⟩ := bind_eq_ok_iff.1 h
      split at h
      · cases h
      · next model hmodel =>
        split at h
        · cases h
        · next association hassociation =>
          obtain ⟨table, htable, h⟩ := bind_eq_ok_iff.1 h
          cases h
          exact .association htarget (sourceAt_eq_ok_iff.1 howner) hmodel hassociation
            (Catalog.requireTable_eq_ok_iff.1 htable)
  · intro h
    cases h with
    | explicit htarget hsource =>
      rw [htarget]
      exact bind_eq_ok_iff.2 ⟨_, TableRef.resolve_eq_ok_iff.2 hsource, rfl⟩
    | association htarget howner hmodel hassociation htable =>
      rw [htarget]
      refine bind_eq_ok_iff.2 ⟨_, sourceAt_eq_ok_iff.2 howner, ?_⟩
      rw [hmodel]
      dsimp only
      rw [hassociation]
      exact bind_eq_ok_iff.2 ⟨_, Catalog.requireTable_eq_ok_iff.2 htable, rfl⟩

/-- The reasons to refuse a join, given the sources before it: each supposes that what is looked for
    before was found. -/
inductive Join.Refused (catalog : Catalog) (sources : List Source) (join : Join) : PlanError → Prop
  | explicit {ref : TableRef} {e : PlanError} :
    join.target = .explicit ref → ref.Refused catalog e → Refused catalog sources join e
  | outOfRange {binding : Nat} {name : String} :
    join.target = .association binding name → sources[binding]? = none →
    Refused catalog sources join (.bindingOutOfRange .join binding sources.length)
  | withoutModel {binding : Nat} {name : String} {owner : Source} :
    join.target = .association binding name → sources[binding]? = some owner →
    owner.model = none → Refused catalog sources join (.sourceWithoutModel .join binding owner.table)
  | unknownAssociation {binding : Nat} {name : String} {owner : Source} {model : ModelName} :
    join.target = .association binding name → sources[binding]? = some owner →
    owner.model = some model → catalog.association model name = none →
    Refused catalog sources join (.unknownAssociation model name)
  | unknownRelated {binding : Nat} {name : String} {owner : Source} {model : ModelName}
    {association : Association} :
    join.target = .association binding name → sources[binding]? = some owner →
    owner.model = some model → catalog.association model name = some association →
    catalog.table association.related = none →
    Refused catalog sources join (.unknownModel association.related)

theorem Join.resolve_eq_error_iff {join : Join} {e : PlanError} :
    join.resolve catalog sources = .error e ↔ join.Refused catalog sources e := by
  unfold Join.resolve
  constructor
  · intro h
    split at h
    · next ref htarget =>
      rcases bind_eq_error_iff.1 h with h | ⟨_, _, h⟩
      · exact .explicit htarget (TableRef.resolve_eq_error_iff.1 h)
      · cases h
    · next binding name htarget =>
      rcases bind_eq_error_iff.1 h with h | ⟨owner, howner, h⟩
      · obtain ⟨hnone, rfl⟩ := sourceAt_eq_error_iff.1 h
        exact .outOfRange htarget hnone
      · rw [sourceAt_eq_ok_iff] at howner
        split at h
        · next hmodel =>
          cases h
          exact .withoutModel htarget howner hmodel
        · next model hmodel =>
          split at h
          · next hassociation =>
            cases h
            exact .unknownAssociation htarget howner hmodel hassociation
          · next association hassociation =>
            rcases bind_eq_error_iff.1 h with h | ⟨_, _, h⟩
            · obtain ⟨htable, rfl⟩ := Catalog.requireTable_eq_error_iff.1 h
              exact .unknownRelated htarget howner hmodel hassociation htable
            · cases h
  · intro h
    cases h with
    | explicit htarget href =>
      rw [htarget]
      exact bind_eq_error_iff.2 (.inl (TableRef.resolve_eq_error_iff.2 href))
    | outOfRange htarget hnone =>
      rw [htarget]
      exact bind_eq_error_iff.2 (.inl (sourceAt_eq_error_iff.2 ⟨hnone, rfl⟩))
    | withoutModel htarget howner hmodel =>
      rw [htarget]
      refine bind_eq_error_iff.2 (.inr ⟨_, sourceAt_eq_ok_iff.2 howner, ?_⟩)
      simp only [hmodel]
    | unknownAssociation htarget howner hmodel hassociation =>
      rw [htarget]
      refine bind_eq_error_iff.2 (.inr ⟨_, sourceAt_eq_ok_iff.2 howner, ?_⟩)
      simp only [hmodel, hassociation]
    | unknownRelated htarget howner hmodel hassociation htable =>
      rw [htarget]
      refine bind_eq_error_iff.2 (.inr ⟨_, sourceAt_eq_ok_iff.2 howner, ?_⟩)
      simp only [hmodel, hassociation]
      exact bind_eq_error_iff.2 (.inl (Catalog.requireTable_eq_error_iff.2 ⟨htable, rfl⟩))

/-- A join is resolved first, and the rest over its source as well. -/
theorem resolveJoins_cons_eq_ok_iff {join : Join} {rest joins' : List Join} {more : List Source} :
    resolveJoins catalog sources (join :: rest) = .ok (joins', more) ↔
      ∃ joined source joins added, join.ResolvesAs catalog sources joined source ∧
        resolveJoins catalog (sources ++ [source]) rest = .ok (joins, added) ∧
        joins' = joined :: joins ∧ more = source :: added := by
  rw [resolveJoins, bind_eq_ok_iff]
  constructor
  · rintro ⟨⟨joined, source⟩, hjoin, h⟩
    obtain ⟨⟨joins, added⟩, hrest, h⟩ := bind_eq_ok_iff.1 h
    cases h
    exact ⟨joined, source, joins, added, Join.resolve_eq_ok_iff.1 hjoin, hrest, rfl, rfl⟩
  · rintro ⟨joined, source, joins, added, hjoin, hrest, rfl, rfl⟩
    exact ⟨(joined, source), Join.resolve_eq_ok_iff.2 hjoin,
      bind_eq_ok_iff.2 ⟨(joins, added), hrest, rfl⟩⟩

/-! ## Queries -/

/-- A query is resolved when it has a first source, and this and its joins are resolved. -/
theorem Query.resolve_eq_ok_iff {q r : Query} :
    q.resolve catalog = .ok r ↔
      ∃ ref first joins more, q.fromRef = some ref ∧ ref.Denotes catalog first ∧
        resolveJoins catalog [first] q.joins = .ok (joins, more) ∧
        r = { q with joins, sources := first :: more } := by
  unfold Query.resolve
  cases q.fromRef with
  | none => simp
  | some ref =>
    simp only [bind_eq_ok_iff, TableRef.resolve_eq_ok_iff, pure_eq_ok_iff, Option.some.injEq]
    constructor
    · rintro ⟨first, hfirst, ⟨joins, more⟩, hjoins, rfl⟩
      exact ⟨ref, first, joins, more, rfl, hfirst, hjoins, rfl⟩
    · rintro ⟨_, first, joins, more, rfl, hfirst, hjoins, rfl⟩
      exact ⟨first, hfirst, (joins, more), hjoins, rfl⟩

/-- A query is refused when it has no first source, or for the reason to refuse this or its joins. -/
theorem Query.resolve_eq_error_iff {q : Query} {e : PlanError} :
    q.resolve catalog = .error e ↔ q.fromRef = none ∧ e = .missingFrom ∨
      ∃ ref, q.fromRef = some ref ∧ (ref.Refused catalog e ∨
        ∃ first, ref.Denotes catalog first ∧ resolveJoins catalog [first] q.joins = .error e) := by
  unfold Query.resolve
  cases q.fromRef with
  | none => simp [eq_comm]
  | some ref =>
    simp only [bind_eq_error_iff, TableRef.resolve_eq_error_iff, TableRef.resolve_eq_ok_iff,
      Option.some.injEq, reduceCtorEq, false_and, false_or, exists_eq_left']
    refine or_congr_right (exists_congr fun first => and_congr_right fun _ => ?_)
    exact or_iff_left fun ⟨_, _, h⟩ => nomatch h

/-! ## Joins in their positions -/

/-- Every join is resolved over the sources given and those of the joins before it. -/
theorem resolvesAs_of_resolveJoins {joins joins' : List Join} {more : List Source}
    (h : resolveJoins catalog sources joins = .ok (joins', more)) {i : Nat} {join : Join}
    (hi : joins[i]? = some join) :
    ∃ joined source, joins'[i]? = some joined ∧ more[i]? = some source ∧
      join.ResolvesAs catalog (sources ++ more.take i) joined source := by
  induction joins generalizing sources joins' more i with
  | nil => cases hi
  | cons first rest ih =>
    obtain ⟨first', source, rest', sources', hfirst, hrest, rfl, rfl⟩ :=
      resolveJoins_cons_eq_ok_iff.1 h
    cases i with
    | zero =>
      cases hi
      refine ⟨first', source, rfl, rfl, ?_⟩
      rwa [List.take_zero, List.append_nil]
    | succ i =>
      obtain ⟨joined, added, hjoined, hadded, hresolves⟩ := ih hrest hi
      refine ⟨joined, added, hjoined, hadded, ?_⟩
      rwa [List.take_succ_cons, List.append_cons]

/-- The first joins are resolved in the same way if there are no others. -/
theorem resolveJoins_take {joins joins' : List Join} {more : List Source}
    (h : resolveJoins catalog sources joins = .ok (joins', more)) (n : Nat) :
    resolveJoins catalog sources (joins.take n) = .ok (joins'.take n, more.take n) := by
  induction joins generalizing sources joins' more n with
  | nil =>
    cases h
    simp only [List.take_nil]
    rfl
  | cons join rest ih =>
    obtain ⟨joined, source, rest', sources', hjoin, hrest, rfl, rfl⟩ :=
      resolveJoins_cons_eq_ok_iff.1 h
    cases n with
    | zero => rfl
    | succ n =>
      exact resolveJoins_cons_eq_ok_iff.2 ⟨joined, source, _, _, hjoin, ih hrest n, rfl, rfl⟩

/-- Joins are refused for the reason to refuse one of them, over the sources of those before it,
    which are resolved. -/
theorem resolveJoins_eq_error_iff {joins : List Join} {e : PlanError} :
    resolveJoins catalog sources joins = .error e ↔
      ∃ i join joins' more, joins[i]? = some join ∧
        resolveJoins catalog sources (joins.take i) = .ok (joins', more) ∧
        join.Refused catalog (sources ++ more) e := by
  induction joins generalizing sources with
  | nil => simp [resolveJoins]
  | cons join rest ih =>
    rw [resolveJoins, bind_eq_error_iff]
    constructor
    · rintro (h | ⟨⟨joined, source⟩, hjoin, h⟩)
      · refine ⟨0, join, [], [], rfl, rfl, ?_⟩
        rw [List.append_nil]
        exact Join.resolve_eq_error_iff.1 h
      · rcases bind_eq_error_iff.1 h with h | ⟨_, _, h⟩
        · obtain ⟨i, refused, joins', more, hi, htake, hrefused⟩ := ih.1 h
          refine ⟨i + 1, refused, joined :: joins', source :: more, hi, ?_, ?_⟩
          · exact resolveJoins_cons_eq_ok_iff.2
              ⟨joined, source, joins', more, Join.resolve_eq_ok_iff.1 hjoin, htake, rfl, rfl⟩
          · rwa [List.append_cons]
        · cases h
    · rintro ⟨i, refused, joins', more, hi, htake, hrefused⟩
      cases i with
      | zero =>
        cases hi
        cases htake
        rw [List.append_nil] at hrefused
        exact .inl (Join.resolve_eq_error_iff.2 hrefused)
      | succ i =>
        obtain ⟨joined, source, joins', more, hjoin, hfirst, rfl, rfl⟩ :=
          resolveJoins_cons_eq_ok_iff.1 htake
        rw [List.append_cons] at hrefused
        have hrest := ih.2 ⟨i, refused, joins', more, hi, hfirst, hrefused⟩
        exact .inr ⟨(joined, source), Join.resolve_eq_ok_iff.2 hjoin,
          bind_eq_error_iff.2 (.inl hrest)⟩

/-- The join in a position is resolved over the sources up to there, and its own comes next. -/
theorem Query.resolvesAs_of_resolve {q r : Query} (h : q.resolve catalog = .ok r) {i : Nat}
    {join : Join} (hi : q.joins[i]? = some join) :
    ∃ joined source, r.joins[i]? = some joined ∧ r.sources[i + 1]? = some source ∧
      join.ResolvesAs catalog (r.sources.take (i + 1)) joined source := by
  obtain ⟨ref, first, joins, more, -, -, hjoins, rfl⟩ := Query.resolve_eq_ok_iff.1 h
  exact resolvesAs_of_resolveJoins hjoins hi

end QueryPlan
