import QueryPlan.Proofs.Shifting

set_option autoImplicit false

/-! # Planning in words

A machine counts in words, where a sum may wrap around. Whatever numbers are counted in, planning
accepts the same queries and refuses the others with the same errors; its results are those of
planning with exact numbers, every number cut to what fits. Where all exact numbers fit, nothing is
cut. -/

namespace QueryPlan

/-! ## Cut results -/

section

variable (counting : Counting)

/-- A prepared query whose parameters have cut numbers. -/
def Prepared.cut (p : Prepared) : Prepared :=
  { p with params := Merged.cut counting p.params }

/-- A normalized query with cut numbers. -/
def Normalized.cut (n : Normalized) : Normalized where
  query := n.query.rekey fun _ _ => counting.cut
  counter := counting.cut n.counter

/-- A planned query with cut numbers. -/
def Plan.cut (p : Plan) : Plan :=
  { p with query := p.query.rekey fun _ _ => counting.cut }

@[simp] theorem Prepared.values_cut (p : Prepared) : (p.cut counting).values = p.values := by
  simp [cut, values, Merged.cut, Function.comp_def]

end

namespace Planner

variable (planner : Planner) (counting : Counting) (q : Query)

/-- Counted in any numbers, the same parameters are merged, under cut numbers. -/
theorem prepareWith_eq_map (base : Nat) :
    planner.prepareWith counting q base = (planner.prepare q base).map (Prepared.cut counting) := by
  rw [← ResultRel.iff_eq_map, prepareWith_eq, prepare_eq]
  refine ResultRel.bind (.of_eq rfl fun _ => rfl) ?_
  rintro resolved _ rfl
  refine ResultRel.bind (.of_eq rfl fun _ => rfl) ?_
  rintro values _ rfl
  exact .ok rfl

/-- Counted in any numbers, a query is normalized when it is with exact ones, with the same result
    under cut numbers, and refused for the same reason otherwise. -/
theorem normalizeWith_eq_map {counter : Nat} (h : counting.cut counter = counter)
    (options : Options) : planner.normalizeWith counting q counter options
      = (planner.normalize q counter options).map (Normalized.cut counting) := by
  rw [← ResultRel.iff_eq_map, planner.normalizeWith_eq q h, normalize_eq]
  -- The first two checks look at the query before its placeholders are numbered.
  refine ResultRel.bind ((ResultRel.of_eq rfl fun _ => rfl).imp fun _ _ hoptions _ _ => hoptions) ?_
  intro _ _ hoptions
  refine ResultRel.bind (.of_eq rfl fun _ => rfl) fun _ _ _ => ?_
  rw [← Query.checkOptions_mapExprs] at hoptions
  refine ResultRel.bind (Query.projectFor_rekeyExprs _ _ hoptions) ?_
  rintro p _ rfl
  have hframe := p.sameFrame_rekey fun _ _ => counting.cut
  have hpreload := Query.checkPreload_congr hframe.assocs hframe.sources hframe.joins
    planner.catalog
  refine ResultRel.bind (.of_eq hpreload.symm fun _ => rfl) fun _ _ _ => ?_
  exact .ok rfl

/-- A query is planned in any numbers when it is with exact ones, and for the same values. -/
theorem planWith_eq_map {bound : List Value} (h : counting.cut bound.length = bound.length)
    (options : Options) : planner.planWith counting q bound options
      = (planner.plan q bound options).map (Plan.cut counting) := by
  rw [← ResultRel.iff_eq_map, planWith, plan_eq]
  refine ResultRel.bind (ResultRel.iff_eq_map.2 (prepareWith_eq_map planner counting q _)) ?_
  rintro prepared _ rfl
  refine ResultRel.bind (ResultRel.iff_eq_map.2 (normalizeWith_eq_map planner counting _ h _)) ?_
  rintro normalized _ rfl
  rw [Prepared.values_cut]
  exact .ok rfl

end Planner

end QueryPlan
