import QueryPlan.Proofs.ReadingOrder
import QueryPlan.Proofs.Trees

set_option autoImplicit false

/-! # What the walks leave behind

Merging and numbering are walks that count while they go. Here each of them is taken apart into what
it refuses, which does not depend on the counting, and what it writes, which is known in advance:
the parameters get the numbers behind `base` one after the other, and the placeholders of an
expression are moved past all that stand in the expressions read before. Numbers that do not fit are
cut, and nothing else depends on what numbers there are. -/

namespace QueryPlan

/-! ## Traversal -/

namespace Query

theorem clauseExprs_withClause_of_ne (q : Query) {clause other : Clause} (h : other ≠ clause)
    (es : List ClauseExpr) : (q.withClause clause es).clauseExprs other = q.clauseExprs other := by
  cases clause <;> cases other <;> first | rfl | exact absurd rfl h

/-- Writes the expressions of several clauses, one clause after the other. -/
def withClauses (q : Query) (rows : List (Clause × List ClauseExpr)) : Query :=
  rows.foldl (fun q row => q.withClause row.1 row.2) q

/-- Expressions that were changed in their places, written back, are a change in place. -/
theorem withClauses_mapIdx (f : Clause → Nat → ClauseExpr → ClauseExpr) (q : Query) :
    q.withClauses (Clause.all.zip (Clause.all.map fun c => (q.clauseExprs c).mapIdx (f c)))
      = q.mapExprs f := by
  have hselect (s? : Option Select) : (s?.toList.zipWith (fun s expr => { s with expr })
      ((s?.toList.map (·.expr)).mapIdx (f .select))).head?
        = s?.map fun s => { s with expr := f .select 0 s.expr } := by
    cases s? <;> rfl
  have hjoins : q.joins.zipWith (fun j on => { j with on }) ((q.joins.map (·.on)).mapIdx (f .join))
      = q.joins.mapIdx fun i j => { j with on := f .join i j.on } := by
    refine List.ext_getElem? fun i => ?_
    cases hi : q.joins[i]? <;> simp [List.getElem?_zipWith, hi]
  have hoption (c : Clause) (e? : Option ClauseExpr) :
      (e?.toList.mapIdx (f c)).head? = e?.map (f c 0) := by
    cases e? <;> rfl
  simp only [withClauses, Clause.all, List.map_cons, List.map_nil, List.zip_cons_cons,
    List.zip_nil_left, List.foldl_cons, List.foldl_nil, withClause, clauseExprs, mapExprs, hselect,
    hjoins, hoption]

section traverse

variable {m : Type → Type} [Monad m] [LawfulMonad m] (visit : Clause → ClauseExpr → m ClauseExpr)

/-- No visit sees what was written by another one, so the clauses may be written at the end. -/
theorem foldlM_withClause {q q' : Query} {clauses : List Clause} (hnodup : clauses.Nodup)
    (hsame : ∀ c ∈ clauses, q'.clauseExprs c = q.clauseExprs c) :
    clauses.foldlM (fun q c => do
        let es ← (q.clauseExprs c).mapM (visit c)
        return q.withClause c es) q'
      = do
        let groups ← clauses.mapM fun c => (q.clauseExprs c).mapM (visit c)
        return q'.withClauses (clauses.zip groups) := by
  induction clauses generalizing q' with
  | nil => rw [List.foldlM_nil, List.mapM_nil, pure_bind]; rfl
  | cons clause clauses ih =>
    obtain ⟨hnew, hnodup⟩ := List.nodup_cons.1 hnodup
    obtain ⟨hfirst, hrest⟩ := List.forall_mem_cons.1 hsame
    simp only [List.foldlM_cons, List.mapM_cons, bind_assoc, pure_bind, hfirst]
    refine bind_congr fun es => ?_
    -- Writing this clause leaves those that are still to be read as they are.
    have hkept : ∀ c ∈ clauses, (q'.withClause clause es).clauseExprs c = q.clauseExprs c := by
      intro c hc
      have hne : c ≠ clause := fun h => hnew (h ▸ hc)
      rw [clauseExprs_withClause_of_ne q' hne, hrest c hc]
    rw [ih hnodup hkept]
    rfl

theorem traverse_eq (q : Query) :
    q.traverse visit = do
      let groups ← Clause.all.mapM fun c => (q.clauseExprs c).mapM (visit c)
      return q.withClauses (Clause.all.zip groups) :=
  foldlM_withClause visit Clause.nodup_all fun _ _ => rfl

end traverse

end Query

/-! ## Steps in a row -/

section

variable {m : Type → Type} [Monad m] [LawfulMonad m] {α β : Type}

/-- Steps whose values are known are done for their effects. -/
theorem mapM_of_forM (f : α → m Unit) (g : α → β) (xs : List α) :
    xs.mapM (fun x => do f x; return g x) = do xs.forM f; return xs.map g := by
  induction xs with
  | nil => rw [List.mapM_nil, List.forM_eq_forM, List.forM_nil, pure_bind]; rfl
  | cons x xs ih =>
    rw [List.mapM_cons, ih]
    simp only [List.forM_eq_forM, List.forM_cons, List.map_cons, bind_assoc, pure_bind]

theorem forM_flatMap (f : α → List β) (g : β → m Unit) (xs : List α) :
    (xs.flatMap f).forM g = xs.forM fun x => (f x).forM g := by
  simp only [List.forM_eq_forM]
  induction xs with
  | nil => rfl
  | cons x xs ih => rw [List.flatMap_cons, List.forM_append, ih, List.forM_cons]

end

/-- A check keeps the state. -/
theorem run_liftM {ε σ α : Type} (x : Except ε α) (s : σ) :
    (liftM x : StateT σ (Except ε) α).run s = x >>= fun a => pure (a, s) := rfl

/-! ## Merging -/

section

variable (counting : Counting) (catalog : Catalog) (caster : Caster) (base : Nat)

/-- Parameters are merged behind those that have been merged before. -/
theorem run_forM_merge (sources : List Source) (uses : List ParamUse) (merged : Merged) :
    (uses.forM (ParamUse.merge counting catalog caster sources base)).run merged = do
      let values ← uses.mapM (ParamUse.cast catalog caster sources)
      return ((), merged ++ values.mapIdx fun i value =>
        (counting.add base (merged.length + i), value)) := by
  induction uses generalizing merged with
  | nil => simp [List.forM]
  | cons use uses ih =>
    simp only [List.forM_eq_forM] at ih ⊢
    simp only [List.forM_cons, List.mapM_cons, StateT.run_bind, ParamUse.merge, run_liftM,
      StateT.run_modify, ih, bind_assoc, pure_bind]
    refine bind_congr fun value => bind_congr fun values => ?_
    simp [Nat.add_comm, Nat.add_left_comm]

/-- The numbers of the merged parameters, cut to those there are. -/
def Merged.cut (merged : Merged) : Merged :=
  merged.map fun row => (counting.cut row.1, row.2)

@[simp] theorem Merged.cut_unbounded (merged : Merged) : Merged.cut .unbounded merged = merged :=
  List.map_id merged

/-- Merging casts the parameters in reading order and numbers them from `base` on. It leaves a query
    without parameters. -/
theorem Query.run_merge (q : Query) :
    (q.merge counting catalog caster base).run [] = do
      let values ← q.castParams catalog caster
      return (q.withoutParams, Merged.cut counting (numberedFrom base values)) := by
  let push := ParamUse.merge counting catalog caster q.sources base
  -- Each clause is done for its effects, and so are all of them.
  have hclause (clause : Clause) :
      (q.clauseExprs clause).mapM (ClauseExpr.merge counting catalog caster q.sources base clause)
        = do
          (q.clauseExprs clause).forM fun e => (e.paramUses clause).forM push
          return (q.clauseExprs clause).map ClauseExpr.withoutParams :=
    mapM_of_forM _ _ _
  have huses : (Clause.all.forM fun clause =>
      (q.clauseExprs clause).forM fun e => (e.paramUses clause).forM push)
        = q.paramUses.forM push := by
    simp only [Query.paramUses, Query.exprs, forM_flatMap, List.forM_eq_forM, List.forM_map]
  have hwritten : q.withClauses (Clause.all.zip (Clause.all.map fun clause =>
      (q.clauseExprs clause).map ClauseExpr.withoutParams)) = q.withoutParams := by
    simp only [← Query.clauseExprs_withoutParams, Query.withoutParams, Query.clauseExprs_mapExprs,
      Query.withClauses_mapIdx]
  have hnumbers (values : List Value) : values.mapIdx (fun i value => (counting.add base i, value))
      = Merged.cut counting (numberedFrom base values) := by
    refine List.ext_getElem? fun i => ?_
    simp [Merged.cut, numberedFrom, Counting.add, Function.comp_def]
  rw [Query.merge, Query.traverse_eq]
  simp only [hclause, mapM_of_forM, huses, hwritten, push, bind_assoc, pure_bind, StateT.run_bind,
    StateT.run_pure, run_forM_merge, List.length_nil, Nat.zero_add, List.nil_append, hnumbers]
  rfl

end

/-! ## Counting walks -/

section

variable {ε α β : Type} {counting : Counting} {n k k' : Nat}

/-- Counting from `n` on, a walk makes a check and, if that succeeds, has this result and has counted
    so many things. -/
def CountsOn (counting : Counting) (n : Nat) (walk : StateT Nat (Except ε) α)
    (check : Except ε Unit) (result : α) (count : Nat) : Prop :=
  walk.run (counting.cut n) = do
    check
    return (result, counting.cut (n + count))

namespace CountsOn

variable {walk : StateT Nat (Except ε) α} {check check' : Except ε Unit} {a : α} {b : β}

theorem map (h : CountsOn counting n walk check a k) (f : α → β) :
    CountsOn counting n (walk >>= fun a => pure (f a)) check (f a) k := by
  unfold CountsOn at h ⊢
  rw [StateT.run_bind, h, bind_assoc]
  rfl

/-- The second of two walks counts on from where the first has stopped. -/
theorem bind {next : α → StateT Nat (Except ε) β} (first : CountsOn counting n walk check a k)
    (second : CountsOn counting (n + k) (next a) check' b k') :
    CountsOn counting n (walk >>= next) (check >>= fun _ => check') b (k + k') := by
  unfold CountsOn at first second ⊢
  simp only [StateT.run_bind, first, bind_assoc, pure_bind, second, Nat.add_assoc]

/-- A row of walks. What each of them makes of an entry depends on how many things have been counted
    in the entries before. -/
theorem mapM {γ : Type} {visit : α → StateT Nat (Except ε) β} {check : α → Except ε Unit}
    {result : Nat → α → β} {things : α → List γ} {xs : List α}
    (h : ∀ n, ∀ x ∈ xs,
      CountsOn counting n (visit x) (check x) (result n x) (things x).length) (n : Nat) :
    CountsOn counting n (xs.mapM visit) (xs.forM check)
      (xs.mapIdx fun i x => result (n + ((xs.take i).flatMap things).length) x)
      (xs.flatMap things).length := by
  induction xs generalizing n with
  | nil => rfl
  | cons x xs ih =>
    have hfirst := h n x List.mem_cons_self
    have hrest := ih (fun n y hy => h n y (List.mem_cons_of_mem x hy)) (n + (things x).length)
    simp only [List.mapM_cons, List.mapIdx_cons, List.take_succ_cons, List.flatMap_cons,
      List.length_append, ← Nat.add_assoc]
    exact hfirst.bind (hrest.map (result n x :: ·))

end CountsOn

end

/-! ## Numbering -/

/-- Gives every placeholder of an expression another number. -/
def ClauseExpr.rekey (f : Nat → Nat) (e : ClauseExpr) : ClauseExpr :=
  { e with expr := e.expr.rekey f }

theorem Expr.references_node (form : Form) (args : List Expr) :
    (node form args).references = args.flatMap references := by
  rw [references, atoms, atomsAll_eq_flatMap, List.filterMap_flatMap]
  rfl

section

variable (counting : Counting) (check : Reference → Except PlanError Unit)

theorem Expr.assignAll_eq_mapM (base : Nat) (es : List Expr) :
    assignAll counting check base es = es.mapM (assign counting check base) := by
  induction es with
  | nil => rfl
  | cons e es ih => rw [assignAll, ih, List.mapM_cons]

/-- An atom is refused for what it refers to. It is counted if it is a placeholder. -/
theorem Atom.countsOn_assign (base n : Nat) (a : Atom) :
    CountsOn counting n (a.assign counting check base) ((Expr.atom a).references.forM check)
      (a.rekey (counting.add base)) (Expr.atom a).placeholderCount := by
  unfold CountsOn
  cases a with
  | placeholder key =>
    show Except.ok (_, counting.add (counting.cut n) 1) = _
    rw [counting.add_cut]
    rfl
  | field access | binding index =>
    simp only [Atom.assign, StateT.run_bind, run_liftM, bind_assoc, pure_bind]
    show (check _ >>= _) = (check _ >>= _) >>= _
    rw [bind_assoc]
    rfl
  | literal value => rfl

/-- An expression is refused for the first of its references that is. While its placeholders are
    counted, all of them are moved by the same number. -/
theorem Expr.countsOn_assign (base n : Nat) (e : Expr) :
    CountsOn counting n (e.assign counting check base) (e.references.forM check)
      (e.rekey (counting.add base)) e.placeholderCount := by
  induction e using Expr.induction generalizing n with
  | atom a => exact (a.countsOn_assign counting check base n).map Expr.atom
  | node form args ih =>
    have hargs := CountsOn.mapM (fun n arg harg => ih arg harg n) n
    have hsame : args.mapIdx (fun _ arg => arg.rekey (counting.add base))
        = args.map (rekey (counting.add base)) :=
      List.ext_getElem? fun i => by simp
    rw [hsame] at hargs
    rw [Expr.assign, assignAll_eq_mapM, references_node, forM_flatMap, rekey_node, placeholderCount,
      placeholders_node]
    exact hargs.map (node form)

end

section

variable (counting : Counting) (catalog : Catalog)

/-- The number by which the placeholders are moved is the one that the counter has when the
    expression is entered. -/
theorem ClauseExpr.countsOn_assign (sources : List Source) (clause : Clause) (n : Nat)
    (e : ClauseExpr) :
    CountsOn counting n (e.assign counting catalog sources clause)
      (e.checkReferences catalog sources clause) ((e.shift n).rekey counting.cut)
      e.placeholderCount := by
  have hexpr := e.expr.countsOn_assign counting (Reference.check catalog sources clause e.location)
    (counting.cut n) n
  have hmoved : e.expr.rekey (counting.add (counting.cut n))
      = (e.expr.shift n).rekey counting.cut := by
    rw [Expr.rekey_shift]
    exact congrArg (Expr.rekey · e.expr) (funext fun key => counting.add_cut n key)
  rw [hmoved] at hexpr
  exact hexpr.map fun expr => { e with expr }

/-- Gives the placeholders of all expressions of a query other numbers, in each place in a way of its
    own. -/
def Query.rekeyExprs (f : Clause → Nat → Nat → Nat) (q : Query) : Query :=
  q.mapExprs fun clause i e => e.rekey (f clause i)

@[simp] theorem Query.rekeyExprs_unbounded (q : Query) :
    (q.rekeyExprs fun _ _ => Counting.unbounded.cut) = q :=
  Query.mapExprs_eq_self fun _ _ e _ => congrArg (fun expr => { e with expr })
    (Expr.rekey_eq_self fun _ _ => rfl)

/-- The clauses before one in the list of all clauses are those up to it. -/
theorem Clause.mapIdx_all {α : Type} (f : List Clause → Clause → α) :
    Clause.all.mapIdx (fun i c => f (Clause.all.take i) c)
      = Clause.all.map fun c => f (Clause.all.takeWhile (· ≠ c)) c :=
  rfl

namespace Query

variable (q : Query)

/-- What becomes of a clause that is entered when the counter is `n`. -/
def clauseFrom (n : Nat) (clause : Clause) : List ClauseExpr :=
  (q.clauseExprs clause).mapIdx fun i e => (e.shift (n +
    (((q.clauseExprs clause).take i).flatMap (·.expr.placeholders)).length)).rekey counting.cut

theorem countsOn_clause (n : Nat) (clause : Clause) :
    CountsOn counting n
      ((q.clauseExprs clause).mapM (ClauseExpr.assign counting catalog q.sources clause))
      ((q.clauseExprs clause).forM (ClauseExpr.checkReferences catalog q.sources clause))
      (q.clauseFrom counting n clause)
      ((q.clauseExprs clause).flatMap (·.expr.placeholders)).length :=
  CountsOn.mapM (fun n e (_ : e ∈ q.clauseExprs clause) =>
    e.countsOn_assign counting catalog q.sources clause n) n

/-- Numbering refuses a query for the first of its references that is. It moves the placeholders of
    each expression past those of the expressions before, and counts all of them. -/
theorem countsOn_assign (n : Nat) :
    CountsOn counting n (q.assign counting catalog) (q.checkReferences catalog)
      ((q.renumber n).rekeyExprs fun _ _ => counting.cut) q.placeholderCount := by
  have hclauses := CountsOn.mapM (fun n clause (_ : clause ∈ Clause.all) =>
    q.countsOn_clause counting catalog n clause) n
  have hchecks : q.checkReferences catalog = Clause.all.forM fun clause =>
      (q.clauseExprs clause).forM (ClauseExpr.checkReferences catalog q.sources clause) := by
    simp only [checkReferences, exprs, forM_flatMap, List.forM_eq_forM, List.forM_map]
  have hcount : q.placeholderCount = (Clause.all.flatMap fun clause =>
      (q.clauseExprs clause).flatMap (·.expr.placeholders)).length := by
    simp only [placeholderCount, exprs, List.flatMap_assoc, List.flatMap_map]
  -- A clause is entered when the clauses before it have been counted.
  have hwritten : q.withClauses (Clause.all.zip (Clause.all.mapIdx fun i clause =>
      q.clauseFrom counting (n + ((Clause.all.take i).flatMap fun c =>
        (q.clauseExprs c).flatMap (·.expr.placeholders)).length) clause))
          = (q.renumber n).rekeyExprs fun _ _ => counting.cut := by
    rw [Clause.mapIdx_all fun earlier clause => q.clauseFrom counting (n + (earlier.flatMap fun c =>
      (q.clauseExprs c).flatMap (·.expr.placeholders)).length) clause]
    simp only [clauseFrom, withClauses_mapIdx, rekeyExprs, renumber, mapExprs_mapExprs,
      placeholdersBefore, List.flatMap_append, List.length_append, List.flatMap_assoc,
      Nat.add_assoc]
  rw [assign, traverse_eq, hchecks, hcount, ← hwritten]
  exact hclauses.map fun groups => q.withClauses (Clause.all.zip groups)

end Query

end

end QueryPlan
