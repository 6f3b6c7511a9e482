import QueryPlan.Proofs.Numbering
import QueryPlan.Proofs.Parallel
import QueryPlan.Proofs.WellFormed

set_option autoImplicit false

/-! # Shifted queries

Placeholders are moved in whole queries, each expression by an offset of its own. No stage of
planning looks at the number of a placeholder: a shifted query passes every check that the query
itself passes, fails with the same error otherwise, and its select clause is filled in with the
shifted fields. So the number that planning starts from does nothing but shift the result. -/

namespace QueryPlan

/-! ## Queries that differ in placeholders -/

/-- Select clauses that differ in nothing but placeholders, moved by `offset`, also in the fields to
    read. -/
structure Select.Moved (offset : Nat) (s s' : Select) : Prop where
  expr : s.expr.Moved offset s'.expr
  fields : List.Forall₂ (Expr.Moved offset) s.fields s'.fields
  includesFrom : s'.includesFrom = s.includesFrom
  assocCount : s'.assocCount = s.assocCount

/-- Queries that differ in nothing but placeholders: the expression in each place has them moved by
    the offset for this place. -/
structure Query.Moved (offset : Clause → Nat → Nat) (q q' : Query) : Prop
    extends q.SameFrame q' where
  exprs (clause : Clause) (i : Nat) : Option.Rel (ClauseExpr.Moved (offset clause i))
    (q.clauseExprs clause)[i]? (q'.clauseExprs clause)[i]?
  select : Option.Rel (Select.Moved (offset .select 0)) q.select q'.select

/-! ## Shifting -/

/-- Moves the placeholders of a select clause, those of its fields included. -/
def Select.shift (offset : Nat) (s : Select) : Select :=
  { s with expr := s.expr.shift offset, fields := s.fields.map (Expr.shift offset) }

namespace Query

/-- Moves the placeholders of all expressions, but not of the fields to read. -/
def shiftExprs (offset : Clause → Nat → Nat) (q : Query) : Query :=
  q.mapExprs fun clause i e => e.shift (offset clause i)

/-- Moves all placeholders. -/
def shift (offset : Clause → Nat → Nat) (q : Query) : Query :=
  { q.shiftExprs offset with select := q.select.map (Select.shift (offset .select 0)) }

variable (offset : Clause → Nat → Nat) (q : Query)

theorem clauseExprs_shift (clause : Clause) : (q.shift offset).clauseExprs clause
    = (q.clauseExprs clause).mapIdx fun i e => e.shift (offset clause i) := by
  rw [← clauseExprs_mapExprs fun clause i e => e.shift (offset clause i)]
  cases clause with
  | select => cases h : q.select <;> simp [shift, clauseExprs, mapExprs, Select.shift, h]
  | distinct | join | filter | groupBy | having | orderBy | limit | offset => rfl

theorem moved_shift : q.Moved offset (q.shift offset) where
  toSameFrame := SameFrame.withSelect (r := q.shiftExprs offset) (sameFrame_mapExprs _ q) _
  exprs clause i := by
    rw [clauseExprs_shift, List.getElem?_mapIdx]
    cases (q.clauseExprs clause)[i]? with
    | none => exact .none
    | some e => exact .some (e.moved_shift _)
  select := by
    show Option.Rel _ q.select (q.select.map _)
    cases q.select with
    | none => exact .none
    | some s =>
      refine .some ⟨s.expr.moved_shift _, ?_, rfl, rfl⟩
      exact List.forall₂_map_right_iff.2 (List.forall₂_same.2 fun field _ => field.moved_shift _)

/-- Renumbering is shifting, by the placeholders read before. -/
theorem renumber_eq_shiftExprs (counter : Nat) : q.renumber counter
    = q.shiftExprs fun clause i => counter + q.placeholdersBefore clause i :=
  rfl

/-- Numbers from a counter on are the numbers from zero on, shifted by the counter. -/
theorem renumber_eq_shiftExprs_renumber (counter : Nat) :
    q.renumber counter = (q.renumber 0).shiftExprs fun _ _ => counter := by
  rw [shiftExprs, renumber, renumber, mapExprs_mapExprs]
  simp only [ClauseExpr.shift, Expr.shift_shift, Nat.zero_add]

end Query

/-! ## Numbers and the select clause -/

/-- Gives the placeholders of a select clause other numbers, those of its fields included. -/
def Select.rekey (f : Nat → Nat) (s : Select) : Select :=
  { s with expr := s.expr.rekey f, fields := s.fields.map (Expr.rekey f) }

/-- The fields are found in the same way whatever the numbers of placeholders: which columns come
    first does not depend on them. -/
theorem Select.withFields_rekey (f : Nat → Nat) (s : Select) (assocs : AssocForest) :
    ({ s with expr := s.expr.rekey f } : Select).withFields assocs
      = (s.withFields assocs).rekey f := by
  have hfirst : (if s.expr.expr.leaves.any Expr.isFromRow then [Expr.binding 0] else []).map
      (Expr.rekey f) = if s.expr.expr.leaves.any Expr.isFromRow then [Expr.binding 0] else [] := by
    split <;> rfl
  have hrows : ((AssocForest.bindings assocs).map Expr.binding).map (Expr.rekey f)
      = (AssocForest.bindings assocs).map Expr.binding := by
    rw [List.map_map]
    rfl
  have hcolumns : (s.expr.expr.rekey f).leaves.filter (fun leaf => !leaf.isFromRow)
      = (s.expr.expr.leaves.filter fun leaf => !leaf.isFromRow).map (Expr.rekey f) := by
    rw [Expr.leaves_rekey, List.filter_map]
    simp only [Function.comp_def, ← (Expr.parallel_rekey f _).isFromRow_eq]
  simp only [Select.withFields, Select.rekey, ClauseExpr.rekey,
    ← (s.expr.expr.parallel_rekey f).any_isFromRow_eq, hcolumns, List.map_append, hfirst, hrows]

namespace Query

section rekey

/-- Gives all placeholders other numbers, those of the fields to read included. -/
def rekey (f : Clause → Nat → Nat → Nat) (q : Query) : Query :=
  { q.rekeyExprs f with select := q.select.map (Select.rekey (f .select 0)) }

variable (f : Clause → Nat → Nat → Nat) (q : Query)

theorem selectOrDefault_rekeyExprs : (q.rekeyExprs f).selectOrDefault
    = { q.selectOrDefault with expr := q.selectOrDefault.expr.rekey (f .select 0) } := by
  cases h : q.select with
  | none =>
    simp only [selectOrDefault, rekeyExprs, mapExprs, h, Option.map_none, Option.getD_none]
    rfl
  | some s => simp [selectOrDefault, rekeyExprs, mapExprs, h]

/-- Under other numbers, the select clause is filled in with the same fields under other numbers, or
    refused for the same reason. -/
theorem project_rekeyExprs : ResultRel Eq (fun p p' => p' = p.rekey f) q.project
    (q.rekeyExprs f).project := by
  have hparallel := q.selectOrDefault.expr.expr.parallel_rekey (f .select 0)
  unfold project
  simp only [selectOrDefault_rekeyExprs, Select.withFields_rekey]
  refine ResultRel.bind (.of_eq (hparallel.checkColumns_eq q.sources) fun _ => rfl) fun _ _ _ => ?_
  show ResultRel _ _
    (if !q.assocs.isEmpty && !q.selectOrDefault.expr.expr.leaves.any Expr.isFromRow then _ else _)
    (if !q.assocs.isEmpty && !(q.selectOrDefault.expr.expr.rekey _).leaves.any Expr.isFromRow
      then _ else _)
  rw [hparallel.any_isFromRow_eq]
  split
  · exact .error rfl
  · exact .ok rfl

theorem projectFor_rekeyExprs {options : Options} (h : q.checkOptions options = .ok ()) :
    ResultRel Eq (fun p p' => p' = p.rekey f) (q.projectFor options)
      ((q.rekeyExprs f).projectFor options) := by
  unfold projectFor
  by_cases hfilter : options.filterOnly = true
  · rw [if_pos hfilter, if_pos hfilter]
    -- There is no select clause, so there are no fields.
    have hnone := select_eq_none_of_checkOptions h hfilter
    refine .ok ?_
    simp only [rekey, rekeyExprs, mapExprs, hnone, Option.map_none]
  · rw [if_neg hfilter, if_neg hfilter]
    exact q.project_rekeyExprs f

/-- Nothing but the expressions and the select clause is written. -/
theorem sameFrame_rekey : q.SameFrame (q.rekey f) :=
  SameFrame.withSelect (sameFrame_mapExprs _ q) _

end rekey

variable (offset : Clause → Nat → Nat) (q : Query)

/-- Shifting is one way to change the numbers. -/
theorem rekeyExprs_add : q.rekeyExprs (fun clause i => (offset clause i + ·))
    = q.shiftExprs offset := by
  simp only [rekeyExprs, ClauseExpr.rekey, Expr.rekey_add]
  rfl

theorem rekey_add : q.rekey (fun clause i => (offset clause i + ·)) = q.shift offset := by
  rw [rekey, rekeyExprs_add]
  rfl

theorem projectFor_shiftExprs {options : Options} (h : q.checkOptions options = .ok ()) :
    ResultRel Eq (fun p p' => p' = p.shift offset) (q.projectFor options)
      ((q.shiftExprs offset).projectFor options) := by
  simp only [← rekeyExprs_add, ← rekey_add]
  exact q.projectFor_rekeyExprs _ h

variable {offset q}

theorem Moved.checkPreload_eq {q' : Query} (h : q.Moved offset q') (catalog : Catalog) :
    q'.checkPreload catalog = q.checkPreload catalog :=
  checkPreload_congr h.assocs h.sources h.joins catalog

end Query

/-! ## Where planning starts to count -/

theorem numberedFrom_eq_map (base : Nat) (values : List Value) :
    numberedFrom base values = (numberedFrom 0 values).map fun row => (row.1 + base, row.2) := by
  refine List.ext_getElem? fun i => ?_
  simp [numberedFrom, Nat.add_comm, Function.comp_def]

namespace Planner

variable (planner : Planner) (q : Query)

/-- The base shifts the keys of the parameters. -/
theorem prepare_shift (base : Nat) :
    ResultRel Eq (fun p₀ p => p.query = p₀.query ∧ p.cacheKey = p₀.cacheKey ∧
        p.params = p₀.params.map fun row => (row.1 + base, row.2))
      (planner.prepare q 0) (planner.prepare q base) := by
  rw [prepare_eq, prepare_eq]
  refine ResultRel.bind (.of_eq rfl fun _ => rfl) ?_
  rintro resolved _ rfl
  refine ResultRel.bind (.of_eq rfl fun _ => rfl) ?_
  rintro values _ rfl
  exact .ok ⟨rfl, rfl, numberedFrom_eq_map base values⟩

/-- The counter shifts the placeholders. -/
theorem normalize_shift (counter : Nat) (options : Options) :
    ResultRel Eq (fun n₀ n => n.counter = n₀.counter + counter ∧
        n₀.query.Moved (fun _ _ => counter) n.query)
      (planner.normalize q 0 options) (planner.normalize q counter options) := by
  rw [normalize_eq, normalize_eq, q.renumber_eq_shiftExprs_renumber counter]
  -- The first two checks look at the query before its placeholders are numbered.
  refine ResultRel.bind ((ResultRel.of_eq rfl fun _ => rfl).imp fun _ _ hoptions _ _ => hoptions) ?_
  intro _ _ hoptions
  refine ResultRel.bind (.of_eq rfl fun _ => rfl) fun _ _ _ => ?_
  rw [← Query.checkOptions_mapExprs] at hoptions
  refine ResultRel.bind (Query.projectFor_shiftExprs _ _ hoptions) ?_
  rintro p _ rfl
  have hmoved := p.moved_shift fun _ _ => counter
  refine ResultRel.bind (.of_eq (hmoved.checkPreload_eq _).symm fun _ => rfl) fun _ _ _ => ?_
  refine .ok ⟨?_, hmoved⟩
  show counter + q.placeholderCount = 0 + q.placeholderCount + counter
  omega

/-- The numbers that preparing and normalizing start from are pure shifts. They decide neither
    whether there is a result nor what error there is instead; the base is added to the key of
    every parameter, the counter to every placeholder, those of the fields to read included. -/
theorem pure_shift (planner : Planner) (q : Query) (base counter : Nat) (options : Options) :
    ResultRel Eq (fun p₀ p => p.query = p₀.query ∧ p.cacheKey = p₀.cacheKey ∧
        p.params = p₀.params.map fun row => (row.1 + base, row.2))
      (planner.prepare q 0) (planner.prepare q base) ∧
    ResultRel Eq (fun n₀ n => n.counter = n₀.counter + counter ∧
        n₀.query.Moved (fun _ _ => counter) n.query)
      (planner.normalize q 0 options) (planner.normalize q counter options) :=
  ⟨planner.prepare_shift q base, planner.normalize_shift q counter options⟩

end Planner

end QueryPlan
