import Tenancy.Number.Shortest
import Tenancy.Server

/-!
# Values on their way

The bytes in which a value of a column travels, beside `Cell.ofBytes`, which reads them. A value is
described by a JSON value: numbers and truth values by themselves, doubles and bytes by their text,
days and microseconds counted from the start of the year 2000, anything else by its text; `raw` gives
the bytes themselves.
-/

namespace Tenancy.Wire
open Number Text

/-- The bytes of a whole number, most significant byte first. -/
def integer (width : Nat) (n : Int) : List UInt8 :=
  let m := (n % Nat.pow 256 width).toNat
  (List.range width).map fun i => UInt8.ofNat (m / Nat.pow 256 (width - 1 - i))

/-- The bytes that hexadecimal digits spell; a pair that is none is left out. -/
def ofHex : List Char → List UInt8
  | a :: b :: cs =>
    match hexValue? a, hexValue? b with
    | some m, some n => UInt8.ofNat (m * 16 + n) :: ofHex cs
    | _, _ => ofHex cs
  | _ => []

/-- The hexadecimal digits of bytes. -/
def toHex (bytes : List UInt8) : String := String.ofList (bytes.flatMap (hexByte false))

/-- The bytes of a text. -/
def text (s : String) : List UInt8 := utf8Bytes s.toList

/-- The bytes of a document in its binary form. -/
def document (s : String) : List UInt8 := 1 :: text s

/-- The bytes of a whole number that a value describes. -/
def integerOf (width : Nat) : Json → List UInt8
  | .int n => integer width n
  | _ => integer width 0

/-- The double that a value describes. -/
def doubleOf : Json → Binary64
  | .str s => (readBinary64? s).getD .nan
  | _ => .nan

/-- The text that a value describes. -/
def textOf : Json → String
  | .str s => s
  | v => v.text

/-- The bytes of a described value, by the type of its column. -/
def bytesOf (type : String) (v : Json) : List UInt8 :=
  match type with
  | "bool" => [if v == .bool true then 1 else 0]
  | "int2" => integerOf 2 v
  | "int4" => integerOf 4 v
  | "int8" => integerOf 8 v
  | "float4" => integer 4 (narrowToSingle (doubleOf v))
  | "float8" => integer 8 (doubleOf v).bits.toNat
  | "bytea" => ofHex (textOf v).toList
  | "date" => integerOf 4 v
  | "timestamp" | "timestamptz" => integerOf 8 v
  | "jsonb" => document (textOf v)
  | _ => text (textOf v)

/-- The value on its way. -/
def valueOf (column : Column) (v : Json) : Option (List UInt8) :=
  match v with
  | .null => none
  | v =>
    match v.field? "raw" with
    | some (.str digits) => some (ofHex digits.toList)
    | _ => some (bytesOf column.type v)

/-- A row on its way. Where values are missing at the end the server has none. -/
def rowOf : List Column → List Json → Row
  | [], _ => []
  | _ :: columns, [] => none :: rowOf columns []
  | column :: columns, v :: vs => valueOf column v :: rowOf columns vs

end Tenancy.Wire
