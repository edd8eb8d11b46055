import Tenancy.Calendar
import Tenancy.Json.Reader
import Tenancy.Json.Writer
import Tenancy.Text.Utf8

/-!
# Cells of a result

A row arrives as bytes, one value a column. `Cell.ofValue` reads the bytes by the type of their
column; bytes that do not fit the type, and types that are not read at all, give an empty cell.
`Cell.display` is what a user sees.
-/

namespace Tenancy
open Number Text

/-- What one cell of a result holds. -/
inductive Cell where
  | null
  | bool (b : Bool)
  | int (n : Int)
  | float (x : Binary64)
  | text (s : String)
  | bytes (bs : List UInt8)
  | date (d : Date)
  | timestamp (m : Moment)
  /-- A time of the universal calendar. -/
  | instant (m : Moment)
  | json (v : Json)
  deriving BEq, Repr

/-- A column of a result. -/
structure Column where
  name : String
  /-- The server's name of the type. -/
  type : String
  deriving DecidableEq, Repr

/-- A row of a result: a value for each column, or nothing where the server has none. -/
abbrev Row := List (Option (List UInt8))

namespace Cell

/-- The cell as text. -/
def display : Cell → String
  | .null => "NULL"
  | .bool b => if b then "true" else "false"
  | .int n => toString n
  | .float x => plainText x
  | .text s => s
  | .bytes bs => s!"[{bs.length} bytes]"
  | .date d => d.text
  | .timestamp m => m.text
  | .instant m => s!"{m.text} UTC"
  | .json v => v.text

/-- The number that bytes spell, most significant byte first. -/
def natural (bytes : List UInt8) : Nat := bytes.foldl (fun n b => n * 256 + b.toNat) 0

/-- The signed number that bytes spell. -/
def signed (bytes : List UInt8) : Int := Int.bmod (natural bytes) (Nat.pow 256 bytes.length)

/-- A date, if it can be told. -/
def ofDays (days : Int) : Cell :=
  let d := Date.ofDays days
  if d.isTellable then .date d else .null

/-- A time, if its date can be told. -/
def ofMoment (wrap : Moment → Cell) (microseconds : Int) : Cell :=
  let m : Moment := ⟨microseconds⟩
  if m.date.isTellable then wrap m else .null

/-- A document in its text form. -/
def ofJsonText (bytes : List UInt8) : Cell :=
  (((utf8? bytes).map String.ofList).bind Json.parse?).elim .null .json

/-- A text. -/
def ofText (bytes : List UInt8) : Cell := (utf8? bytes).elim .null fun cs => .text (String.ofList cs)

/-- What is read behind a version, which is one. -/
def ofVersion (read : List UInt8 → Cell) : List UInt8 → Cell
  | version :: content => if version = 1 then read content else .null
  | [] => .null

/-- The cell of a number that takes `width` bytes. -/
def ofWidth (width : Nat) (bytes : List UInt8) (cell : Cell) : Cell :=
  if bytes.length = width then cell else .null

/-- Reads the bytes of a value by the type of their column. -/
def ofBytes (type : String) (bytes : List UInt8) : Cell :=
  match type with
  | "bool" => ofWidth 1 bytes (.bool (natural bytes ≠ 0))
  | "int2" => ofWidth 2 bytes (.int (signed bytes))
  | "int4" => ofWidth 4 bytes (.int (signed bytes))
  | "int8" => ofWidth 8 bytes (.int (signed bytes))
  | "float4" => ofWidth 4 bytes (.float (widenSingle (natural bytes)))
  | "float8" => ofWidth 8 bytes (.float ⟨UInt64.ofNat (natural bytes)⟩)
  | "bytea" => .bytes bytes
  | "date" => ofWidth 4 bytes (ofDays (signed bytes))
  | "timestamp" => ofWidth 8 bytes (ofMoment .timestamp (signed bytes))
  | "timestamptz" => ofWidth 8 bytes (ofMoment .instant (signed bytes))
  | "json" => ofJsonText bytes
  | "jsonb" => ofVersion ofJsonText bytes
  | "text" | "varchar" | "name" | "bpchar" | "unknown" | "citext" => ofText bytes
  | "ltree" | "lquery" | "ltxtquery" => ofVersion ofText bytes
  | _ => .null

/-- The cell of a value. -/
def ofValue (column : Column) (value : Option (List UInt8)) : Cell :=
  value.elim .null (ofBytes column.type)

/-- The cells of a row. -/
def ofRow : List Column → Row → List Cell
  | [], _ => []
  | column :: columns, [] => ofValue column none :: ofRow columns []
  | column :: columns, value :: row => ofValue column value :: ofRow columns row

end Cell
end Tenancy
