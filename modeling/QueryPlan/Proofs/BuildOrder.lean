import QueryPlan.Planner
import QueryPlan.Query.Building

set_option autoImplicit false

/-! # The order of building steps

Each building step touches one part of a query, and what it does there depends on nothing else in
the query. So the steps for one part may be taken before, between or after those for the others. For
a part that grows their own order counts, for one that is overwritten the last of them alone. -/

namespace QueryPlan

/-! ## Parts of a query -/

/-- The parts of a query. -/
inductive Part
  | fromRef
  | joins
  | filters
  | havings
  | groupings
  | orderings
  | distincts
  | select
  | limit
  | offset
  | sources
  | preloads
  | assocs
  | lock
deriving DecidableEq

namespace Part

/-- What a part consists of. -/
def Content : Part → Type
  | fromRef => Option TableRef
  | joins => List Join
  | filters | havings | groupings | orderings | distincts => List ClauseExpr
  | select => Option Select
  | limit | offset => Option ClauseExpr
  | sources => List Source
  | preloads => List String
  | assocs => AssocForest
  | lock => Option String

/-- Whether a building step adds to the part. Where this is not so, a step sets it anew. -/
def grows : Part → Bool
  | joins | filters | havings | groupings | orderings | distincts | preloads => true
  | fromRef | select | limit | offset | sources | assocs | lock => false

end Part

/-- The part that a building step touches. Nothing is built into the first source or the resolved
    ones, and all joins go to one list, in which their positions count. -/
def BuildStep.part : BuildStep → Part
  | .join .. | .joinAssociation .. => .joins
  | .filter _ => .filters
  | .having _ => .havings
  | .groupBy _ => .groupings
  | .orderBy _ => .orderings
  | .distinct _ => .distincts
  | .select _ => .select
  | .limit _ => .limit
  | .offset _ => .offset
  | .preload _ => .preloads
  | .assocs _ => .assocs
  | .lock _ => .lock

namespace Query

/-- A part as it stands in a query. -/
def content (q : Query) : (part : Part) → part.Content
  | .fromRef => q.fromRef
  | .joins => q.joins
  | .filters => q.filters
  | .havings => q.havings
  | .groupings => q.groupings
  | .orderings => q.orderings
  | .distincts => q.distincts
  | .select => q.select
  | .limit => q.limit
  | .offset => q.offset
  | .sources => q.sources
  | .preloads => q.preloads
  | .assocs => q.assocs
  | .lock => q.lock

variable {q q' : Query} {part : Part} {step : BuildStep}

/-- A query has no other parts. -/
theorem eq_of_content_eq (h : ∀ part, q.content part = q'.content part) : q = q' := by
  cases q
  cases q'
  rw [Query.mk.injEq]
  exact ⟨h .fromRef, h .joins, h .filters, h .havings, h .groupings, h .orderings, h .distincts,
    h .select, h .limit, h .offset, h .sources, h .preloads, h .assocs, h .lock⟩

/-! ## One step -/

/-- A step leaves all parts but its own as they are. -/
theorem content_build_of_ne (h : step.part ≠ part) :
    (q.build step).content part = q.content part := by
  cases step <;> cases part <;> first | rfl | exact absurd rfl h

/-- What a step makes of its part depends on this part alone. -/
theorem content_build_self (h : q.content step.part = q'.content step.part) :
    (q.build step).content step.part = (q'.build step).content step.part := by
  cases step with
  | join | joinAssociation | filter | having | groupBy | orderBy | distinct | preload =>
    simp only [BuildStep.part, content] at h
    simp only [BuildStep.part, content, build, h]
    rfl
  | select | limit | offset | assocs | lock => rfl

theorem content_build_congr (step : BuildStep) (h : q.content part = q'.content part) :
    (q.build step).content part = (q'.build step).content part := by
  by_cases hpart : step.part = part
  · subst hpart
    exact content_build_self h
  · rw [content_build_of_ne hpart, content_build_of_ne hpart, h]

/-- Where a part does not grow, nothing of what it was before is left. -/
theorem content_build_of_not_grows (q q' : Query) (h : step.part.grows = false) :
    (q.build step).content step.part = (q'.build step).content step.part := by
  cases step <;> first | rfl | cases h

/-! ## All steps -/

theorem buildAll_append (q : Query) (steps steps' : List BuildStep) :
    q.buildAll (steps ++ steps') = (q.buildAll steps).buildAll steps' :=
  List.foldl_append

theorem content_buildAll_congr (steps : List BuildStep) (h : q.content part = q'.content part) :
    (q.buildAll steps).content part = (q'.buildAll steps).content part := by
  induction steps generalizing q q' with
  | nil => exact h
  | cons step steps ih =>
    rw [buildAll_cons, buildAll_cons]
    exact ih (content_build_congr step h)

/-- For one part, the steps for all others may be left out. -/
theorem content_buildAll_filter (q : Query) (steps : List BuildStep) (part : Part) :
    (q.buildAll (steps.filter (·.part = part))).content part
      = (q.buildAll steps).content part := by
  induction steps generalizing q with
  | nil => rfl
  | cons step steps ih =>
    by_cases hpart : step.part = part
    · rw [List.filter_cons_of_pos (by simpa using hpart), buildAll_cons, buildAll_cons, ih]
    · rw [List.filter_cons_of_neg (by simpa using hpart), ih, buildAll_cons]
      exact content_buildAll_congr steps (content_build_of_ne hpart).symm

/-- For a part that is overwritten, so may all its steps but the last. -/
theorem content_buildAll_getLast? (q : Query) {steps : List BuildStep} (hgrows : part.grows = false)
    (hsteps : ∀ step ∈ steps, step.part = part) :
    (q.buildAll steps.getLast?.toList).content part = (q.buildAll steps).content part := by
  rcases List.eq_nil_or_concat steps with rfl | ⟨earlier, last, rfl⟩
  · rfl
  · have hlast : last.part = part := hsteps last (by simp)
    subst hlast
    rw [List.concat_eq_append, List.getLast?_concat, buildAll_append]
    exact content_build_of_not_grows q (q.buildAll earlier) hgrows

end Query

/-! ## Sequences of steps -/

/-- Two sequences with the same steps in the same order for each part that grows, and with the same
    last step, if there is one, for each part that is overwritten. -/
structure SameSteps (steps steps' : List BuildStep) : Prop where
  added (part : Part) : part.grows = true →
    steps.filter (·.part = part) = steps'.filter (·.part = part)
  last (part : Part) : part.grows = false →
    (steps.filter (·.part = part)).getLast? = (steps'.filter (·.part = part)).getLast?

theorem SameSteps.content_eq {steps steps' : List BuildStep} (h : SameSteps steps steps')
    (q : Query) (part : Part) :
    (q.buildAll steps).content part = (q.buildAll steps').content part := by
  rw [← q.content_buildAll_filter steps, ← q.content_buildAll_filter steps']
  cases hgrows : part.grows with
  | true => rw [h.added part hgrows]
  | false =>
    have hpart (steps : List BuildStep) :
        ∀ step ∈ steps.filter (·.part = part), step.part = part := by
      intro step hstep
      simpa using (List.mem_filter.1 hstep).2
    rw [← q.content_buildAll_getLast? hgrows (hpart steps), h.last part hgrows,
      q.content_buildAll_getLast? hgrows (hpart steps')]

/-- The steps for the parts of a query may be interleaved in any way: the same query is built, so
    it is prepared and planned with the same result. -/
theorem Query.same_query_of_sameSteps (q : Query) (steps steps' : List BuildStep)
    (h : SameSteps steps steps') :
    q.buildAll steps = q.buildAll steps' ∧
      ∀ planner : Planner,
        (∀ base, planner.prepare (q.buildAll steps) base
          = planner.prepare (q.buildAll steps') base) ∧
        ∀ bound options, planner.plan (q.buildAll steps) bound options
          = planner.plan (q.buildAll steps') bound options := by
  have hquery : q.buildAll steps = q.buildAll steps' := Query.eq_of_content_eq (h.content_eq q)
  rw [hquery]
  exact ⟨rfl, fun planner => ⟨fun base => rfl, fun bound options => rfl⟩⟩

/-- Users and their posts, clause by clause. The limit is set twice. -/
def usersInOrder : List BuildStep := [
  .joinAssociation .left 0 "posts" .always,
  .join .inner (.table "audits") { expr := .eq (.field 2 "author") (.field 1 "author") },
  .joinAssociation .inner 0 "posts" { expr := .eq (.field 3 "author") (.placeholder 0) },
  .filter { expr := .field 0 "age" },
  .filter { expr := .field 1 "price" },
  .having { expr := .field 0 "id" },
  .select { expr := .binding 0 },
  .limit { expr := .literal (.int 5) },
  .limit { expr := .literal (.int 7) },
  .preload "posts",
  .preload "posts.author",
  .assocs [⟨"posts", 1, []⟩]]

/-- The same steps as they come to mind, with a first choice of the columns and of the posts. -/
def usersInterleaved : List BuildStep := [
  .preload "posts",
  .select { expr := .field 0 "id" },
  .filter { expr := .field 0 "age" },
  .joinAssociation .left 0 "posts" .always,
  .limit { expr := .literal (.int 7) },
  .having { expr := .field 0 "id" },
  .assocs [],
  .join .inner (.table "audits") { expr := .eq (.field 2 "author") (.field 1 "author") },
  .preload "posts.author",
  .select { expr := .binding 0 },
  .assocs [⟨"posts", 1, []⟩],
  .joinAssociation .inner 0 "posts" { expr := .eq (.field 3 "author") (.placeholder 0) },
  .filter { expr := .field 1 "price" }]

theorem same_query_of_sameSteps_users :
    SameSteps usersInOrder usersInterleaved ∧
      ((Query.ofSource (.model "user")).buildAll usersInOrder).joins.length = 3 ∧
      (Query.ofSource (.model "user")).buildAll usersInOrder
        = (Query.ofSource (.model "user")).buildAll usersInterleaved := by
  have hsame : SameSteps usersInOrder usersInterleaved := by
    refine ⟨fun part _ => ?_, fun part _ => ?_⟩
    · cases part <;> first | rfl | contradiction
    · cases part <;> rfl
  obtain ⟨hquery, -⟩ :=
    Query.same_query_of_sameSteps (.ofSource (.model "user")) _ _ hsame
  exact ⟨hsame, rfl, hquery⟩

end QueryPlan
