set_option autoImplicit false

/-! # Kinds of joins -/

namespace QueryPlan

/-- Which rows of the two sides a join keeps. -/
inductive JoinKind
  | inner
  | left
  | right
  | full
  | cross
deriving DecidableEq

namespace JoinKind

/-- The word for a join kind. -/
def text : JoinKind → String
  | inner => "inner"
  | left => "left"
  | right => "right"
  | full => "full"
  | cross => "cross"

/-- Whether rows joined this way can be loaded along with their parent: inner and left joins give
    each joined row a parent row. -/
def allowsPreload : JoinKind → Bool
  | inner | left => true
  | right | full | cross => false

end JoinKind

end QueryPlan
