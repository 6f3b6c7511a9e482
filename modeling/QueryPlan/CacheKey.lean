import QueryPlan.Bytes.Sha256
import QueryPlan.CacheKey.Encoding

set_option autoImplicit false

/-! # Cache keys

The key under which a plan is kept: the digest of the structure of the prepared query. -/

namespace QueryPlan

/-- A digest of 32 bytes. -/
structure CacheKey where
  bytes : List UInt8
  length_bytes : bytes.length = 32
deriving DecidableEq

namespace CacheKey

/-- The key of a query as it stands. -/
def ofQuery (q : Query) : CacheKey where
  bytes := Bytes.Sha256.digest q.encode
  length_bytes := Bytes.Sha256.length_digest q.encode

/-- Queries with the same bytes have the same key. -/
theorem ofQuery_congr {p q : Query} (h : p.encode = q.encode) : ofQuery p = ofQuery q := by
  simp only [ofQuery, h]

/-- The value of a hexadecimal digit as a character. -/
def hexDigit (n : Nat) : Char :=
  "0123456789abcdef".toList.getD n '0'

/-- A key in lower-case hexadecimal, two digits for each byte. -/
def hex (key : CacheKey) : String :=
  String.ofList (key.bytes.flatMap fun byte =>
    [hexDigit (byte.toNat / 16), hexDigit (byte.toNat % 16)])

/-- The order of keys: that of their first different bytes. -/
def le (a b : CacheKey) : Bool :=
  decide (a.bytes ≤ b.bytes)

end CacheKey

end QueryPlan
