import Mathlib.Data.List.Induction
import Tenancy.Proofs.Cell.Calendar
import Tenancy.Proofs.Text.Utf8
import Tenancy.Server.Wire

/-!
# Values of a column

The bytes in which a value travels spell it, and `Cell.Denotes` says which cell it is for. A value is
read as the cell that it is for, and every cell that is read from bytes is the cell of a value with those
bytes (`Cell.ofBytes_eq_iff`). Whole numbers are read back from their bytes (`Wire.signed_integer`), and
as many bytes as a width has are those of a whole number (`Wire.exists_integer`).
-/

namespace Tenancy
open Number Text

namespace Wire

/-- Whether a whole number fits a width in bytes, with a sign. -/
def Fits (width : Nat) (n : Int) : Prop :=
  -(Nat.pow 256 width : Int) ≤ 2 * n ∧ 2 * n < (Nat.pow 256 width : Int)
deriving Decidable

/-- The bytes of the lowest `width` digits of a natural number to the base 256, the highest first. -/
def digits (width m : Nat) : List UInt8 :=
  (List.range width).map fun i => UInt8.ofNat (m / Nat.pow 256 (width - 1 - i))

/-- So many digits are as many bytes. -/
lemma length_digits (width m : Nat) : (digits width m).length = width := by
  rw [digits, List.length_map, List.length_range]

/-- The last digit is the remainder, and the others are those of the quotient. -/
lemma digits_succ (width m : Nat) :
    digits (width + 1) m = digits width (m / 256) ++ [UInt8.ofNat m] := by
  rw [digits, List.range_succ, List.map_append]
  congr 1
  · refine List.map_congr_left fun i mem => ?_
    have lt := List.mem_range.1 mem
    have power : Nat.pow 256 (width + 1 - 1 - i) = 256 * Nat.pow 256 (width - 1 - i) := by
      rw [show width + 1 - 1 - i = (width - 1 - i) + 1 by omega, Nat.pow_eq, Nat.pow_eq, Nat.pow_succ, Nat.mul_comm]
    rw [power, Nat.div_div_eq_div_mul]
  · simp

/-- One more byte is one more digit of the number. -/
lemma natural_concat (bs : List UInt8) (b : UInt8) :
    Cell.natural (bs ++ [b]) = Cell.natural bs * 256 + b.toNat := by
  rw [Cell.natural, List.foldl_append]
  rfl

/-- The digits are read as the number, as far as the width goes. -/
lemma natural_digits (width m : Nat) : Cell.natural (digits width m) = m % Nat.pow 256 width := by
  induction width generalizing m with
  | zero => simp [digits, Cell.natural, Nat.mod_one]
  | succ width ih =>
    have byte : (UInt8.ofNat m).toNat = m % 256 := by simp
    rw [digits_succ, natural_concat, ih, byte, Nat.pow_eq, Nat.pow_eq, Nat.pow_succ', Nat.mod_mul]
    omega

/-- So many bytes are read as a number below the power. -/
lemma natural_lt (bs : List UInt8) : Cell.natural bs < Nat.pow 256 bs.length := by
  induction bs using List.reverseRecOn with
  | nil => decide
  | append_singleton bs b ih =>
    have byte := b.toNat_lt
    rw [natural_concat, List.length_append, List.length_singleton, Nat.pow_eq, Nat.pow_succ]
    rw [Nat.pow_eq] at ih
    omega

/-- The bytes are the digits of the number that they are read as. -/
lemma digits_natural (bs : List UInt8) : digits bs.length (Cell.natural bs) = bs := by
  induction bs using List.reverseRecOn with
  | nil => rfl
  | append_singleton bs b ih =>
    have byte := b.toNat_lt
    have front : (Cell.natural bs * 256 + b.toNat) / 256 = Cell.natural bs := by omega
    have last : UInt8.ofNat (Cell.natural bs * 256 + b.toNat) = b := by
      apply UInt8.toNat_inj.1
      simp
    rw [List.length_append, List.length_singleton, digits_succ, natural_concat, front, ih, last]

/-- A number with a sign has the digits of its remainder. -/
lemma integer_eq (width : Nat) (n : Int) :
    integer width n = digits width (n % Nat.pow 256 width).toNat := rfl

/-- A number with a sign has as many bytes as its width. -/
lemma length_integer (width : Nat) (n : Int) : (integer width n).length = width := length_digits _ _

/-- Without a sign they are read as the remainder. -/
lemma natural_integer (width : Nat) (n : Int) :
    (Cell.natural (integer width n) : Int) = n % Nat.pow 256 width := by
  have positive : (0 : Int) < Nat.pow 256 width := Int.natCast_pos.2 (Nat.pow_pos (by decide))
  have nonneg := Int.emod_nonneg n (Int.ne_of_gt positive)
  have lt := Int.emod_lt_of_pos n positive
  rw [integer_eq, natural_digits, Nat.mod_eq_of_lt (by omega)]
  omega

/-- A whole number that fits is read back. -/
lemma signed_integer {width : Nat} {n : Int} (fits : Fits width n) : Cell.signed (integer width n) = n := by
  rw [Cell.signed, length_integer, natural_integer, Int.emod_bmod]
  obtain ⟨low, high⟩ := fits
  exact Int.bmod_eq_of_le_mul_two (by omega) (by omega)

/-- What so many bytes are read as, with a sign, fits their width. -/
lemma fits_signed (bs : List UInt8) : Fits bs.length (Cell.signed bs) := by
  have positive : (0 : Int) < Nat.pow 256 bs.length := Int.natCast_pos.2 (Nat.pow_pos (by decide))
  have low := Int.le_bmod (x := Cell.natural bs) (m := Nat.pow 256 bs.length) (Nat.pow_pos (by decide))
  have high := Int.bmod_lt (x := Cell.natural bs) (m := Nat.pow 256 bs.length) (Nat.pow_pos (by decide))
  rw [Fits, Cell.signed]
  omega

/-- Bytes are those of the number that they spell. -/
lemma integer_signed (bs : List UInt8) : integer bs.length (Cell.signed bs) = bs := by
  have lt := natural_lt bs
  rw [integer_eq, Cell.signed, Int.bmod_emod, Int.emod_eq_of_lt (by omega) (by omega), Int.toNat_natCast,
    digits_natural]

/-- The bytes are those of the number that they are read as without a sign. -/
lemma integer_natural (bs : List UInt8) : integer bs.length (Cell.natural bs) = bs := by
  have lt := natural_lt bs
  rw [integer_eq, Int.emod_eq_of_lt (by omega) (by omega), Int.toNat_natCast, digits_natural]

/-- As many bytes as a width has are those of a number that fits it. -/
lemma exists_integer {width : Nat} {bs : List UInt8} (h : bs.length = width) :
    ∃ n, Fits width n ∧ bs = integer width n ∧ Cell.signed bs = n := by
  subst h
  exact ⟨Cell.signed bs, fits_signed bs, (integer_signed bs).symm, rfl⟩

/-- A number that fits is read again. -/
lemma natural_integer_of_lt {width m : Nat} (small : m < Nat.pow 256 width) :
    Cell.natural (integer width m) = m := by
  have read := natural_integer width m
  rw [Int.emod_eq_of_lt (by omega) (by omega)] at read
  omega

/-- Bytes that are read as a text are those of the text. -/
lemma eq_text_of_utf8 {bs : List UInt8} {cs : List Char} (read : utf8? bs = some cs) :
    bs = text (String.ofList cs) := by
  rw [utf8_eq_some_iff.1 read, text, String.toList_ofList]

/-- Days that can be told fit four bytes. -/
lemma fits_days {days : Int} (low : Date.firstDay ≤ days) (high : days ≤ Date.lastDay) : Fits 4 days := by
  have size : (Nat.pow 256 4 : Int) = 4294967296 := rfl
  rw [Fits, size]
  simp only [Date.firstDay, Date.lastDay] at low high
  omega

/-- Times that can be told fit eight bytes. -/
lemma fits_microseconds {n : Int} (low : Date.firstDay * Moment.perDay ≤ n)
    (high : n < (Date.lastDay + 1) * Moment.perDay) : Fits 8 n := by
  have size : (Nat.pow 256 8 : Int) = 18446744073709551616 := rfl
  rw [Fits, size]
  simp only [Date.firstDay, Date.lastDay, Moment.perDay] at low high
  omega

end Wire

namespace Cell

/-- The types of texts. -/
def textTypes : List String := ["text", "varchar", "name", "bpchar", "unknown", "citext"]

/-- The types of texts that a version comes before, which is one. -/
def versionTypes : List String := ["ltree", "lquery", "ltxtquery"]

/-- Which cell a value is for, by the type of its column and its bytes. -/
inductive Denotes : String → List UInt8 → Cell → Prop where
  | bool (b : UInt8) : Denotes "bool" [b] (.bool (b ≠ 0))
  | int {type : String} {width : Nat} (mem : (type, width) ∈ [("int2", 2), ("int4", 4), ("int8", 8)])
    {n : Int} (fits : Wire.Fits width n) : Denotes type (Wire.integer width n) (.int n)
  | float4 (bits : UInt32) :
    Denotes "float4" (Wire.integer 4 bits.toNat) (.float (widenSingle bits.toNat))
  | float8 (bits : UInt64) : Denotes "float8" (Wire.integer 8 bits.toNat) (.float ⟨bits⟩)
  | bytea (bs : List UInt8) : Denotes "bytea" bs (.bytes bs)
  | date {days : Int} (low : Date.firstDay ≤ days) (high : days ≤ Date.lastDay) :
    Denotes "date" (Wire.integer 4 days) (.date (.ofDays days))
  | timestamp {m : Moment} (low : Date.firstDay * Moment.perDay ≤ m.microseconds)
    (high : m.microseconds < (Date.lastDay + 1) * Moment.perDay) :
    Denotes "timestamp" (Wire.integer 8 m.microseconds) (.timestamp m)
  | timestamptz {m : Moment} (low : Date.firstDay * Moment.perDay ≤ m.microseconds)
    (high : m.microseconds < (Date.lastDay + 1) * Moment.perDay) :
    Denotes "timestamptz" (Wire.integer 8 m.microseconds) (.instant m)
  | json {s : String} {v : Json} (parses : Json.parse? s = some v) : Denotes "json" (Wire.text s) (.json v)
  | jsonb {s : String} {v : Json} (parses : Json.parse? s = some v) :
    Denotes "jsonb" (Wire.document s) (.json v)
  | text {type : String} (mem : type ∈ textTypes) (s : String) : Denotes type (Wire.text s) (.text s)
  | version {type : String} (mem : type ∈ versionTypes) (s : String) :
    Denotes type (1 :: Wire.text s) (.text s)

section Reading
variable {type : String} {width : Nat} {bytes : List UInt8} {cell c : Cell}

/-- A value that is something comes from the branch that is not null. -/
lemma ite_null_eq {p : Prop} [Decidable p] (proper : c ≠ .null) :
    (if p then cell else .null) = c ↔ p ∧ cell = c := by
  split
  · next holds => rw [and_iff_right holds]
  · next fails => exact ⟨fun eq => absurd eq.symm proper, fun ⟨holds, _⟩ => absurd holds fails⟩

/-- A value of a certain width comes from as many bytes. -/
lemma ofWidth_eq (proper : c ≠ .null) :
    ofWidth width bytes cell = c ↔ bytes.length = width ∧ cell = c := ite_null_eq proper

/-- A value that is made of a number with a sign comes from the bytes of one that fits. -/
lemma exists_of_ofWidth_signed {f : Int → Cell} (proper : c ≠ .null)
    (h : ofWidth width bytes (f (signed bytes)) = c) :
    ∃ n, Wire.Fits width n ∧ bytes = Wire.integer width n ∧ f n = c := by
  obtain ⟨length, eq⟩ := (ofWidth_eq proper).1 h
  obtain ⟨n, fits, spelt, value⟩ := Wire.exists_integer length
  rw [value] at eq
  exact ⟨n, fits, spelt, eq⟩

/-- A value that is made of a number without a sign comes from the bytes of one that fits. -/
lemma exists_of_ofWidth_natural {f : Nat → Cell} (proper : c ≠ .null)
    (h : ofWidth width bytes (f (natural bytes)) = c) :
    ∃ m, m < Nat.pow 256 width ∧ bytes = Wire.integer width m ∧ f m = c := by
  obtain ⟨rfl, eq⟩ := (ofWidth_eq proper).1 h
  exact ⟨natural bytes, Wire.natural_lt bytes, (Wire.integer_natural bytes).symm, eq⟩

/-- A day that is within the calendar is its date. -/
lemma ofDays_eq {days : Int} (proper : c ≠ .null) :
    ofDays days = c ↔ (Date.firstDay ≤ days ∧ days ≤ Date.lastDay) ∧ .date (.ofDays days) = c := by
  rw [← Date.isTellable_ofDays]
  exact ite_null_eq proper

/-- A moment that is within the calendar is itself. -/
lemma ofMoment_eq {wrap : Moment → Cell} {n : Int} (proper : c ≠ .null) :
    ofMoment wrap n = c ↔
      (Date.firstDay * Moment.perDay ≤ n ∧ n < (Date.lastDay + 1) * Moment.perDay) ∧ wrap ⟨n⟩ = c := by
  rw [← Moment.isTellable_date (m := ⟨n⟩)]
  exact ite_null_eq proper

/-- A value that is something comes from something. -/
lemma elim_null_eq {α : Type} {o : Option α} {f : α → Cell} (proper : c ≠ .null) :
    o.elim .null f = c ↔ ∃ a, o = some a ∧ f a = c := by
  cases o with
  | none =>
    constructor
    · exact fun eq => absurd eq.symm proper
    · rintro ⟨a, found, -⟩
      cases found
  | some a =>
    constructor
    · exact fun eq => ⟨a, rfl, eq⟩
    · rintro ⟨b, found, eq⟩
      cases found
      exact eq

/-- Bytes are read as the text that they are written from. -/
lemma map_utf8_eq_some {s : String} : (utf8? bytes).map String.ofList = some s ↔ bytes = Wire.text s := by
  constructor
  · intro read
    obtain ⟨cs, spelt, rfl⟩ := Option.map_eq_some_iff.1 read
    exact Wire.eq_text_of_utf8 spelt
  · rintro rfl
    rw [Wire.text, utf8_utf8Bytes, Option.map_some, String.ofList_toList]

/-- A text comes from its bytes. -/
lemma ofText_eq (proper : c ≠ .null) :
    ofText bytes = c ↔ ∃ s, bytes = Wire.text s ∧ c = .text s := by
  have read : ofText bytes = ((utf8? bytes).map String.ofList).elim .null .text := by
    rw [ofText, Option.elim_map]
    rfl
  simp only [read, elim_null_eq proper, map_utf8_eq_some, eq_comm (a := c)]

/-- The bytes of a text are read as the text. -/
lemma ofText_text (s : String) : ofText (Wire.text s) = .text s :=
  (ofText_eq Cell.noConfusion).2 ⟨s, rfl, rfl⟩

/-- A document comes from the bytes of a text that can be parsed as one. -/
lemma ofJsonText_eq (proper : c ≠ .null) :
    ofJsonText bytes = c ↔ ∃ s v, bytes = Wire.text s ∧ Json.parse? s = some v ∧ c = .json v := by
  rw [ofJsonText, elim_null_eq proper]
  constructor
  · rintro ⟨v, read, rfl⟩
    obtain ⟨s, spelt, parsed⟩ := Option.bind_eq_some_iff.1 read
    exact ⟨s, v, map_utf8_eq_some.1 spelt, parsed, rfl⟩
  · rintro ⟨s, v, spelt, parsed, rfl⟩
    exact ⟨v, Option.bind_eq_some_iff.2 ⟨s, map_utf8_eq_some.2 spelt, parsed⟩, rfl⟩

/-- What is read behind a version is what the bytes behind it are read as. -/
lemma ofVersion_eq {read : List UInt8 → Cell} (proper : c ≠ .null) :
    ofVersion read bytes = c ↔ ∃ content, bytes = 1 :: content ∧ read content = c := by
  cases bytes with
  | nil => exact ⟨fun eq => absurd eq.symm proper, fun ⟨_, eq, _⟩ => by cases eq⟩
  | cons version content =>
    rw [ofVersion, ite_null_eq proper]
    constructor
    · rintro ⟨rfl, eq⟩
      exact ⟨content, rfl, eq⟩
    · rintro ⟨_, eq, read⟩
      obtain ⟨rfl, rfl⟩ := List.cons.inj eq
      exact ⟨rfl, read⟩

end Reading

/-- A byte is true unless it is zero. -/
lemma truth_natural (b : UInt8) : decide (natural [b] ≠ 0) = decide (b ≠ 0) := by
  have value : natural [b] = b.toNat := Nat.zero_add _
  have same : b.toNat ≠ 0 ↔ b ≠ 0 := not_congr (UInt8.toNat_inj (b := 0))
  rw [value, decide_eq_decide.2 same]

/-- The bytes of a number have its width. -/
lemma ofWidth_integer (width : Nat) (n : Int) (cell : Cell) :
    ofWidth width (Wire.integer width n) cell = cell := if_pos (Wire.length_integer width n)

/-- No value is for the cell that shows none. -/
lemma Denotes.ne_null {type : String} {bytes : List UInt8} {cell : Cell} (h : Denotes type bytes cell) :
    cell ≠ .null := by
  cases h <;> exact Cell.noConfusion

/-- A value is read as the cell that it is for. -/
lemma Denotes.ofBytes_eq {type : String} {bytes : List UInt8} {cell : Cell} (h : Denotes type bytes cell) :
    ofBytes type bytes = cell := by
  cases h with
  | bool b =>
    rw [ofBytes, ofWidth, if_pos List.length_singleton, truth_natural]
  | int mem fits =>
    simp only [List.mem_cons, Prod.mk.injEq, List.not_mem_nil, or_false] at mem
    rcases mem with ⟨rfl, rfl⟩ | ⟨rfl, rfl⟩ | ⟨rfl, rfl⟩
    all_goals rw [ofBytes, ofWidth_integer, Wire.signed_integer fits]
  | float4 bits =>
    have small : bits.toNat < Nat.pow 256 4 := Nat.lt_of_lt_of_eq bits.toNat_lt (by decide)
    rw [ofBytes, ofWidth_integer, Wire.natural_integer_of_lt small]
  | float8 bits =>
    have small : bits.toNat < Nat.pow 256 8 := Nat.lt_of_lt_of_eq bits.toNat_lt (by decide)
    rw [ofBytes, ofWidth_integer, Wire.natural_integer_of_lt small, UInt64.ofNat_toNat]
  | bytea => rw [ofBytes]
  | date low high =>
    rw [ofBytes, ofWidth_integer, Wire.signed_integer (Wire.fits_days low high)]
    exact if_pos (Date.isTellable_ofDays.2 ⟨low, high⟩)
  | timestamp low high =>
    rw [ofBytes, ofWidth_integer, Wire.signed_integer (Wire.fits_microseconds low high)]
    exact if_pos (Moment.isTellable_date.2 ⟨low, high⟩)
  | timestamptz low high =>
    rw [ofBytes, ofWidth_integer, Wire.signed_integer (Wire.fits_microseconds low high)]
    exact if_pos (Moment.isTellable_date.2 ⟨low, high⟩)
  | json parses =>
    rw [ofBytes]
    exact (ofJsonText_eq Cell.noConfusion).2 ⟨_, _, rfl, parses, rfl⟩
  | jsonb parses =>
    rw [ofBytes]
    refine (ofVersion_eq Cell.noConfusion).2 ⟨_, rfl, ?_⟩
    exact (ofJsonText_eq Cell.noConfusion).2 ⟨_, _, rfl, parses, rfl⟩
  | text mem s =>
    simp only [textTypes, List.mem_cons, List.not_mem_nil, or_false] at mem
    rcases mem with rfl | rfl | rfl | rfl | rfl | rfl
    all_goals rw [ofBytes, ofText_text]
  | version mem s =>
    have read : ofVersion ofText (1 :: Wire.text s) = .text s :=
      (ofVersion_eq Cell.noConfusion).2 ⟨_, rfl, ofText_text s⟩
    simp only [versionTypes, List.mem_cons, List.not_mem_nil, or_false] at mem
    rcases mem with rfl | rfl | rfl
    all_goals rw [ofBytes, read]

section Shown
variable {type : String} {bytes : List UInt8} {cell : Cell} (proper : cell ≠ .null)
include proper

/-- One byte that is shown is a truth value. -/
lemma denotes_truth (h : ofWidth 1 bytes (.bool (natural bytes ≠ 0)) = cell) : Denotes "bool" bytes cell := by
  obtain ⟨length, rfl⟩ := (ofWidth_eq proper).1 h
  obtain ⟨b, rfl⟩ := List.length_eq_one_iff.1 length
  rw [truth_natural]
  exact .bool b

/-- Bytes that are shown as an integer denote it. -/
lemma denotes_integer {width : Nat} (mem : (type, width) ∈ [("int2", 2), ("int4", 4), ("int8", 8)])
    (h : ofWidth width bytes (.int (signed bytes)) = cell) : Denotes type bytes cell := by
  obtain ⟨n, fits, rfl, rfl⟩ := exists_of_ofWidth_signed proper h
  exact .int mem fits

/-- Four bytes that are shown are a number of single precision. -/
lemma denotes_single (h : ofWidth 4 bytes (.float (widenSingle (natural bytes))) = cell) :
    Denotes "float4" bytes cell := by
  obtain ⟨m, small, rfl, rfl⟩ := exists_of_ofWidth_natural (f := fun m => .float (widenSingle m)) proper h
  obtain ⟨bits, rfl⟩ : ∃ bits : UInt32, bits.toNat = m :=
    ⟨.ofNat m, UInt32.toNat_ofNat_of_lt' (Nat.lt_of_lt_of_eq small (by decide))⟩
  exact .float4 bits

/-- Eight bytes that are shown are a number of double precision. -/
lemma denotes_double (h : ofWidth 8 bytes (.float ⟨.ofNat (natural bytes)⟩) = cell) :
    Denotes "float8" bytes cell := by
  obtain ⟨m, small, rfl, rfl⟩ := exists_of_ofWidth_natural (f := fun m => .float ⟨.ofNat m⟩) proper h
  obtain ⟨bits, rfl⟩ : ∃ bits : UInt64, bits.toNat = m :=
    ⟨.ofNat m, UInt64.toNat_ofNat_of_lt' (Nat.lt_of_lt_of_eq small (by decide))⟩
  rw [UInt64.ofNat_toNat]
  exact .float8 bits

/-- Bytes that are shown as a text denote it. -/
lemma denotes_text (mem : type ∈ textTypes) (h : ofText bytes = cell) : Denotes type bytes cell := by
  obtain ⟨s, rfl, rfl⟩ := (ofText_eq proper).1 h
  exact .text mem s

/-- Bytes that are shown as a text behind a version denote it. -/
lemma denotes_version (mem : type ∈ versionTypes) (h : ofVersion ofText bytes = cell) :
    Denotes type bytes cell := by
  obtain ⟨content, rfl, read⟩ := (ofVersion_eq proper).1 h
  obtain ⟨s, rfl, rfl⟩ := (ofText_eq proper).1 read
  exact .version mem s

/-- Bytes that are shown as something denote it. -/
lemma denotes_of_ofBytes (h : ofBytes type bytes = cell) : Denotes type bytes cell := by
  unfold ofBytes at h
  split at h
  · exact denotes_truth proper h
  · exact denotes_integer proper (by decide) h
  · exact denotes_integer proper (by decide) h
  · exact denotes_integer proper (by decide) h
  · exact denotes_single proper h
  · exact denotes_double proper h
  · subst h
    exact .bytea bytes
  · obtain ⟨days, -, rfl, eq⟩ := exists_of_ofWidth_signed proper h
    obtain ⟨⟨low, high⟩, rfl⟩ := (ofDays_eq proper).1 eq
    exact .date low high
  · obtain ⟨n, -, rfl, eq⟩ := exists_of_ofWidth_signed proper h
    obtain ⟨⟨low, high⟩, rfl⟩ := (ofMoment_eq proper).1 eq
    exact .timestamp low high
  · obtain ⟨n, -, rfl, eq⟩ := exists_of_ofWidth_signed proper h
    obtain ⟨⟨low, high⟩, rfl⟩ := (ofMoment_eq proper).1 eq
    exact .timestamptz low high
  · obtain ⟨s, v, rfl, parsed, rfl⟩ := (ofJsonText_eq proper).1 h
    exact .json parsed
  · obtain ⟨content, rfl, read⟩ := (ofVersion_eq proper).1 h
    obtain ⟨s, v, rfl, parsed, rfl⟩ := (ofJsonText_eq proper).1 read
    exact .jsonb parsed
  · exact denotes_text proper (by decide) h
  · exact denotes_text proper (by decide) h
  · exact denotes_text proper (by decide) h
  · exact denotes_text proper (by decide) h
  · exact denotes_text proper (by decide) h
  · exact denotes_text proper (by decide) h
  · exact denotes_version proper (by decide) h
  · exact denotes_version proper (by decide) h
  · exact denotes_version proper (by decide) h
  · exact absurd h.symm proper

end Shown

/-- A value is shown as a cell exactly if it is for that cell. -/
theorem ofBytes_eq_iff {type : String} {bytes : List UInt8} {cell : Cell} (proper : cell ≠ .null) :
    ofBytes type bytes = cell ↔ Denotes type bytes cell :=
  ⟨denotes_of_ofBytes proper, Denotes.ofBytes_eq⟩

/-- A value is shown as none exactly if it is for no cell. -/
theorem ofBytes_eq_null_iff {type : String} {bytes : List UInt8} :
    ofBytes type bytes = .null ↔ ∀ cell, ¬ Denotes type bytes cell := by
  constructor
  · intro empty cell denotes
    exact denotes.ne_null (denotes.ofBytes_eq.symm.trans empty)
  · intro other
    by_contra full
    exact other _ (denotes_of_ofBytes full rfl)

end Cell
end Tenancy
