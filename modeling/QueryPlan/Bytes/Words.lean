set_option autoImplicit false

/-! # Numbers and texts as bytes

Fixed-width byte strings for natural numbers and integers, and the UTF-8 bytes of a text. -/

namespace QueryPlan.Bytes

/-- The last `width` digits of a number in base 256, the most significant first. -/
def bigEndian : Nat → Nat → List UInt8
  | 0, _ => []
  | width + 1, n => bigEndian width (n / 256) ++ [UInt8.ofNat n]

@[simp] theorem length_bigEndian (width n : Nat) : (bigEndian width n).length = width := by
  induction width generalizing n with
  | zero => rfl
  | succ width ih => simp [bigEndian, ih]

/-- How many numbers `width` bytes can hold: 256 to the power `width`. -/
def wordCount (width : Nat) : Nat :=
  Nat.pow 256 width

/-- Equal bytes of a width come from numbers that agree up to a multiple of `wordCount width`. -/
theorem bigEndian_inj {width m n : Nat} :
    bigEndian width m = bigEndian width n ↔ m % wordCount width = n % wordCount width := by
  induction width generalizing m n with
  | zero => simp [bigEndian, wordCount, Nat.mod_one]
  | succ width ih =>
    have last : UInt8.ofNat m = UInt8.ofNat n ↔ m % 256 = n % 256 := by
      rw [← UInt8.toNat_inj, UInt8.toNat_ofNat', UInt8.toNat_ofNat']
    have count : wordCount (width + 1) = 256 * wordCount width := Nat.mul_comm _ _
    rw [bigEndian, bigEndian, count, Nat.mod_mul, Nat.mod_mul]
    constructor
    · intro equal
      have parts := List.append_inj equal (by simp)
      have high := ih.1 parts.1
      have low := last.1 (List.cons.inj parts.2).1
      rw [high, low]
    · intro equal
      have low : m % 256 = n % 256 := by
        have := congrArg (· % 256) equal
        simpa [Nat.add_mul_mod_self_left] using this
      have high : m / 256 % wordCount width = n / 256 % wordCount width := by omega
      rw [ih.2 high, last.2 low]

/-- The last `width` digits of a number in base 256, the least significant first. -/
def littleEndian (width n : Nat) : List UInt8 :=
  (bigEndian width n).reverse

@[simp] theorem length_littleEndian (width n : Nat) : (littleEndian width n).length = width := by
  simp [littleEndian]

/-- An integer in two's complement, the most significant byte first. -/
def twosComplement (width : Nat) (value : Int) : List UInt8 :=
  bigEndian width (value % wordCount width).toNat

@[simp] theorem length_twosComplement (width : Nat) (value : Int) :
    (twosComplement width value).length = width := by
  simp [twosComplement]

/-- The UTF-8 bytes of a text. -/
def utf8 (text : String) : List UInt8 :=
  text.toByteArray.data.toList

theorem utf8_inj {s t : String} : utf8 s = utf8 t ↔ s = t := by
  refine ⟨fun equal => ?_, fun equal => equal ▸ rfl⟩
  exact String.toByteArray_inj.1 (ByteArray.ext (Array.toList_inj.1 equal))

end QueryPlan.Bytes
