import QueryPlan.Bytes.Words
import QueryPlan.Query

set_option autoImplicit false

/-! # The encoding of queries

The structure of a query as bytes. Everything has a tag, and everything of varying size has its
length in front, so that no two structures share their bytes as long as all numbers fit into 32
bits. Parameters, locations and the derived parts of the select clause are left out: queries that
differ in nothing else are planned alike. -/

namespace QueryPlan

namespace Encoding

/-! ## Pieces -/

/-- A number in four bytes; larger numbers lose their upper bits. -/
def number (n : Nat) : List UInt8 :=
  Bytes.bigEndian 4 n

/-- A text: the number of its bytes and the bytes. -/
def string (text : String) : List UInt8 :=
  number (Bytes.utf8 text).length ++ Bytes.utf8 text

/-- The absent value. -/
def absent : List UInt8 := [0x00]

/-- Something that may be missing. -/
def optional {α : Type} (encode : α → List UInt8) : Option α → List UInt8
  | none => absent
  | some value => 0x01 :: encode value

/-- The number of items and the items. -/
def list {α : Type} (encode : α → List UInt8) (items : List α) : List UInt8 :=
  number items.length ++ items.flatMap encode

end Encoding

open Encoding

/-! ## Types and values -/

/-- The bytes of a field type. -/
def FieldType.encode : FieldType → List UInt8
  | any => [0x50]
  | array inner => 0x51 :: inner.encode
  | binary => [0x52]
  | boolean => [0x53]
  | date => [0x54]
  | decimal => [0x55]
  | float => [0x56]
  | id => [0x57]
  | integer => [0x58]
  | string => [0x59]
  | timestamp => [0x5a]

/-- The bytes of a decimal: its flags, with the scale in bits 16 to 23 and the sign in bit 31, and
    its mantissa. -/
def Decimal.encode (d : Decimal) : List UInt8 :=
  Bytes.littleEndian 4 (d.scale * 0x10000 + if d.negative then 0x80000000 else 0) ++
    Bytes.littleEndian 12 d.mantissa

mutual

/-- The bytes of a value. Decimals of the same numeric size and timestamps of the same instant have
    the same bytes. -/
def Value.encode : Value → List UInt8
  | .null => [0x60]
  | .bool value => [0x61, if value then 1 else 0]
  | .int value => 0x62 :: Bytes.twosComplement 8 value.toInt
  | .float value => 0x63 :: Bytes.bigEndian 8 value.bits.toNat
  | .decimal value => 0x64 :: value.normalize.encode
  | .text value => 0x65 :: Encoding.string value
  | .blob bytes => 0x66 :: number bytes.length ++ bytes
  | .date value => 0x67 :: Bytes.twosComplement 4 value.julianDay
  | .timestamp value => 0x68 :: Bytes.twosComplement 16 value.instant
  | .list items => 0x69 :: number items.length ++ Value.encodeAll items

/-- The bytes of several values, one after the other. -/
def Value.encodeAll : List Value → List UInt8
  | [] => []
  | item :: items => Value.encode item ++ Value.encodeAll items

end

/-! ## Expressions -/

/-- The tag of an operator. All functions that are called by name share one. -/
def Operator.tag : Operator → UInt8
  | eq => 0x01
  | ne => 0x02
  | lt => 0x03
  | lte => 0x04
  | gt => 0x05
  | gte => 0x06
  | and => 0x07
  | or => 0x08
  | not => 0x09
  | member => 0x0a
  | isNil => 0x0b
  | like => 0x0c
  | ilike => 0x0d
  | add => 0x0e
  | sub => 0x0f
  | mul => 0x10
  | div => 0x11
  | count => 0x12
  | sum => 0x13
  | avg => 0x14
  | min => 0x15
  | max => 0x16
  | asc => 0x17
  | desc => 0x18
  | call _ => 0x7f

/-- The bytes of an operator: its tag, and the name of a called function. -/
def Operator.encode (operator : Operator) : List UInt8 :=
  operator.tag ::
    match operator with
    | call name => Encoding.string name
    | _ => []

/-- The bytes of a node's form. -/
def Form.encode : Form → List UInt8
  | apply operator => 0x44 :: operator.encode
  | tuple => [0x45]
  | list => [0x46]

/-- The bytes of an atom. -/
def Atom.encode : Atom → List UInt8
  | binding index => 0x40 :: number index
  | field access =>
    0x41 :: number access.binding ++ Encoding.string access.name ++
      optional FieldType.encode access.expected
  | placeholder key => 0x42 :: number key
  | literal value => 0x43 :: value.encode

mutual

/-- The bytes of an expression. -/
def Expr.encode : Expr → List UInt8
  | .atom value => value.encode
  | .node form args => form.encode ++ number args.length ++ Expr.encodeAll args

/-- The bytes of several expressions, one after the other. -/
def Expr.encodeAll : List Expr → List UInt8
  | [] => []
  | e :: es => Expr.encode e ++ Expr.encodeAll es

end

/-- The bytes of a clause expression: those of its tree. -/
def ClauseExpr.encode (e : ClauseExpr) : List UInt8 :=
  e.expr.encode

/-! ## Sources and joins -/

/-- The bytes of a written source. -/
def TableRef.encode : TableRef → List UInt8
  | table name => 0x30 :: Encoding.string name
  | model name => 0x31 :: Encoding.string name
  | modelAt location name => 0x32 :: Encoding.string location ++ Encoding.string name

/-- The bytes of an optional first source. Its own tag tells it from the absent one. -/
def TableRef.encodeOptional : Option TableRef → List UInt8
  | none => absent
  | some ref => ref.encode

/-- The bytes of a resolved source. -/
def Source.encode (s : Source) : List UInt8 :=
  Encoding.string s.table ++ optional Encoding.string s.model

/-- The bytes of a join kind. -/
def JoinKind.encode : JoinKind → List UInt8
  | inner => [0x10]
  | left => [0x11]
  | right => [0x12]
  | full => [0x13]
  | cross => [0x14]

/-- The bytes of what a join adds. -/
def JoinTarget.encode : JoinTarget → List UInt8
  | explicit ref => 0x20 :: ref.encode
  | association binding name => 0x21 :: number binding ++ Encoding.string name

/-- The bytes of a join. -/
def Join.encode (j : Join) : List UInt8 :=
  j.kind.encode ++ j.target.encode ++ j.on.encode

/-! ## Queries -/

mutual

/-- The bytes of a loaded association and of those below it. -/
def AssocNode.encode : AssocNode → List UInt8
  | ⟨name, binding, children⟩ =>
    Encoding.string name ++ number binding ++ number children.length ++
      AssocForest.encodeAll children

/-- The bytes of several loaded associations, one after the other. -/
def AssocForest.encodeAll : List AssocNode → List UInt8
  | [] => []
  | node :: forest => AssocNode.encode node ++ AssocForest.encodeAll forest

end

/-- The parts of a query, each under its number. -/
def Query.encodedParts (q : Query) : List (List UInt8) :=
  [0x01 :: TableRef.encodeOptional q.fromRef,
   0x02 :: list Join.encode q.joins,
   0x03 :: list Source.encode q.sources,
   0x04 :: optional (fun s : Select => s.expr.encode) q.select,
   0x05 :: list ClauseExpr.encode q.distincts,
   0x06 :: list ClauseExpr.encode q.filters,
   0x07 :: list ClauseExpr.encode q.groupings,
   0x08 :: list ClauseExpr.encode q.havings,
   0x09 :: list ClauseExpr.encode q.orderings,
   0x0a :: optional ClauseExpr.encode q.limit,
   0x0b :: optional ClauseExpr.encode q.offset,
   0x0c :: list Encoding.string q.preloads,
   0x0d :: number q.assocs.length ++ AssocForest.encodeAll q.assocs,
   0x0e :: optional Encoding.string q.lock]

/-- The name and version of the encoding, in front of every query. -/
def Query.encodingHeader : List UInt8 :=
  Bytes.utf8 "relplan:cache:v1"

/-- The bytes of a query. -/
def Query.encode (q : Query) : List UInt8 :=
  Query.encodingHeader ++ q.encodedParts.flatten

end QueryPlan
