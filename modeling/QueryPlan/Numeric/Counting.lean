set_option autoImplicit false

/-! # Counting

Parameters and placeholders are numbered by counting on from a number that is given. The numbers may
be all natural numbers or, as in a machine, those of one word, whose sums wrap around. -/

namespace QueryPlan

/-- The numbers that are counted in. Every sum is cut to one of them. -/
structure Counting where
  cut : Nat → Nat
  /-- It makes no difference to a sum whether its first part was cut before. -/
  cut_cut_add (m n : Nat) : cut (cut m + n) = cut (m + n)

namespace Counting

/-- The sum of two numbers. -/
def add (counting : Counting) (m n : Nat) : Nat :=
  counting.cut (m + n)

/-- All numbers; sums are exact. -/
def unbounded : Counting where
  cut n := n
  cut_cut_add _ _ := rfl

/-- The numbers of one word of 64 bits; sums wrap around. -/
def words : Counting where
  cut n := n % UInt64.size
  cut_cut_add m n := Nat.mod_add_mod m UInt64.size n

@[simp] theorem cut_unbounded (n : Nat) : unbounded.cut n = n := rfl

theorem cut_words_of_lt {n : Nat} (h : n < UInt64.size) : words.cut n = n :=
  Nat.mod_eq_of_lt h

@[simp] theorem cut_words_toNat (n : UInt64) : words.cut n.toNat = n.toNat :=
  cut_words_of_lt n.toNat_lt_size

/-- A cut sum is the sum of words. -/
theorem cut_words_add (m : UInt64) (n : Nat) :
    words.cut (m.toNat + n) = (m + .ofNat n).toNat := by
  simp [words, UInt64.toNat_add]

variable (counting : Counting)

/-- Adding to a sum adds to what it was before it was cut. -/
@[simp] theorem add_cut (m n : Nat) : counting.add (counting.cut m) n = counting.cut (m + n) :=
  counting.cut_cut_add m n

end Counting

end QueryPlan
