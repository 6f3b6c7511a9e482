set_option autoImplicit false

/-! # Powers of ten -/

namespace QueryPlan

/-- Ten to the power `n`. -/
def tenPow (n : Nat) : Nat :=
  Nat.pow 10 n

theorem tenPow_succ (n : Nat) : tenPow (n + 1) = tenPow n * 10 := rfl

theorem tenPow_add (m n : Nat) : tenPow (m + n) = tenPow m * tenPow n :=
  Nat.pow_add 10 m n

theorem tenPow_pos (n : Nat) : 0 < tenPow n :=
  Nat.pow_pos (by decide)

end QueryPlan
