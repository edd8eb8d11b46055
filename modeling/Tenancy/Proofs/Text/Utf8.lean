import Mathlib.Tactic.Lemma
import Tenancy.Text.Utf8

/-!
# Bytes of a text

What the bytes of a text spell is the text again (`utf8_utf8Bytes`), and no other bytes spell it
(`utf8_eq_some_iff`). The bytes of one character are read as this character, whatever follows them
(`charsFrom_utf8EncodeChar`), and a character that is read stands at the head of the bytes
(`exists_of_charsFrom_cons`).
-/

namespace Tenancy.Text

/-- The code point of a character is the number that it was made of. -/
lemma toNat_ofNat_of_valid {n : Nat} (h : n.isValidChar) : (Char.ofNat n).toNat = n := by
  rw [Char.ofNat, dif_pos h]
  rfl

/-! ## The bytes of a character -/

/-- A byte below 128 is a character. -/
lemma charsFrom_char {n : Nat} (h : n < 128) (bs : List UInt8) :
    charsFrom none (UInt8.ofNat n :: bs) = some (Char.ofNat n) :: charsFrom none bs := by
  have first : firstByte (UInt8.ofNat n) = .char (Char.ofNat n) := by
    have small : (UInt8.ofNat n).toNat = n := by simp; omega
    rw [firstByte, small]
    simp [h]
  rw [charsFrom, first]

/-- A byte inside of a character, that is not its last. -/
lemma charsFrom_more {o : OpenChar} {n : Nat} (low : o.low ≤ n + 128) (high : n + 128 ≤ o.high)
    (small : n < 64) (more : o.left ≠ 1) (bs : List UInt8) :
    charsFrom (some o) (UInt8.ofNat (n + 128) :: bs) =
      charsFrom (some { bits := o.bits * 64 + n, left := o.left - 1 }) bs := by
  have byte : (UInt8.ofNat (n + 128)).toNat = n + 128 := by simp; omega
  rw [charsFrom, byte]
  simp [low, high, more]

/-- The last byte that is missing completes a character. -/
lemma charsFrom_last {o : OpenChar} {n : Nat} (low : o.low ≤ n + 128) (high : n + 128 ≤ o.high)
    (small : n < 64) (last : o.left = 1) (bs : List UInt8) :
    charsFrom (some o) (UInt8.ofNat (n + 128) :: bs) =
      some (Char.ofNat (o.bits * 64 + n)) :: charsFrom none bs := by
  have byte : (UInt8.ofNat (n + 128)).toNat = n + 128 := by simp; omega
  rw [charsFrom, byte]
  simp [low, high, last]

/-- The first byte of several opens a character. -/
lemma charsFrom_opens {b : UInt8} {o : OpenChar} (h : firstByte b = .opens o) (bs : List UInt8) :
    charsFrom none (b :: bs) = charsFrom (some o) bs := by
  rw [charsFrom, h]

/-- A first byte of two gives five bits. -/
lemma firstByte_two {n : Nat} (low : 2 ≤ n) (high : n < 32) :
    firstByte (UInt8.ofNat (n + 192)) = .opens { bits := n, left := 1 } := by
  have byte : (UInt8.ofNat (n + 192)).toNat = n + 192 := by simp; omega
  rw [firstByte, byte]
  simp [show ¬ n + 192 < 128 by omega, show ¬ n + 192 < 194 by omega, show n + 192 < 224 by omega]

/-- A first byte of three gives four bits, and the next one is bounded by what could be shorter or is no
character. -/
lemma firstByte_three {n : Nat} (high : n < 16) :
    firstByte (UInt8.ofNat (n + 224)) =
      .opens { bits := n, left := 2, low := if n = 0 then 0xA0 else 0x80
               high := if n = 13 then 0x9F else 0xBF } := by
  have byte : (UInt8.ofNat (n + 224)).toNat = n + 224 := by simp; omega
  by_cases first : n = 0
  · subst first
    rfl
  by_cases surrogates : n = 13
  · subst surrogates
    rfl
  rw [firstByte, byte, if_neg first, if_neg surrogates]
  simp [first, surrogates, show ¬ n + 224 < 128 by omega, show ¬ n + 224 < 194 by omega,
    show ¬ n + 224 < 224 by omega, show n + 224 < 240 by omega]

/-- A first byte of four gives three bits, and the next one is bounded by what could be shorter or is no
character. -/
lemma firstByte_four {n : Nat} (high : n < 5) :
    firstByte (UInt8.ofNat (n + 240)) =
      .opens { bits := n, left := 3, low := if n = 0 then 0x90 else 0x80
               high := if n = 4 then 0x8F else 0xBF } := by
  have byte : (UInt8.ofNat (n + 240)).toNat = n + 240 := by simp; omega
  by_cases first : n = 0
  · subst first
    rfl
  by_cases last : n = 4
  · subst last
    rfl
  rw [firstByte, byte, if_neg first, if_neg last]
  simp [first, show ¬ n + 240 < 128 by omega, show ¬ n + 240 < 194 by omega,
    show ¬ n + 240 < 224 by omega, show ¬ n + 240 < 240 by omega, show n + 240 < 244 by omega]

/-- The bytes of a character are read as the character. -/
lemma charsFrom_utf8EncodeChar (c : Char) (bs : List UInt8) :
    charsFrom none (String.utf8EncodeChar c ++ bs) = some c :: charsFrom none bs := by
  have valid : c.toNat < 0xD800 ∨ 0xDFFF < c.toNat ∧ c.toNat < 0x110000 := c.valid
  have value : c.val.toNat = c.toNat := rfl
  have back {n : Nat} (eq : n = c.toNat) : Char.ofNat n = c := by rw [eq, Char.ofNat_toNat]
  -- One case for each number of bytes, from one to four.
  unfold String.utf8EncodeChar
  dsimp only
  rw [value]
  split
  · next small => rw [List.cons_append, List.nil_append, charsFrom_char (by omega), back rfl]
  · split
    · simp only [List.cons_append, List.nil_append]
      rw [charsFrom_opens (firstByte_two (by omega) (by omega)),
        charsFrom_last (by dsimp only; omega) (by dsimp only; omega) (by omega) rfl, back]
      dsimp only
      omega
    · split
      · simp only [List.cons_append, List.nil_append]
        rw [charsFrom_opens (firstByte_three (by omega)),
          charsFrom_more (by dsimp only; split <;> omega) (by dsimp only; split <;> omega) (by omega)
            (by simp),
          charsFrom_last (by dsimp only; omega) (by dsimp only; omega) (by omega) rfl, back]
        dsimp only
        omega
      · simp only [List.cons_append, List.nil_append]
        rw [charsFrom_opens (firstByte_four (by omega)),
          charsFrom_more (by dsimp only; split <;> omega) (by dsimp only; split <;> omega) (by omega)
            (by simp),
          charsFrom_more (by dsimp only; omega) (by dsimp only; omega) (by omega) (by simp),
          charsFrom_last (by dsimp only; omega) (by dsimp only; omega) (by omega) rfl, back]
        dsimp only
        omega

/-- The bytes of a text are read as its characters. -/
lemma utf8Chars_utf8Bytes (cs : List Char) : utf8Chars (utf8Bytes cs) = cs.map some := by
  rw [utf8Chars, utf8Bytes]
  induction cs with
  | nil => rfl
  | cons c cs ih => rw [List.flatMap_cons, charsFrom_utf8EncodeChar, ih, List.map_cons]

/-- The bytes of a text spell the text. -/
theorem utf8_utf8Bytes (cs : List Char) : utf8? (utf8Bytes cs) = some cs := by
  rw [utf8?, utf8Chars_utf8Bytes]
  induction cs with
  | nil => rfl
  | cons c cs ih =>
    rw [List.map_cons, List.mapM_cons, ih]
    rfl

/-! ## Texts that bytes spell -/

/-- What a first byte can be. -/
lemma firstByte_cases (b : UInt8) :
    firstByte b = .fault ∨ (∃ n < 128, b = UInt8.ofNat n) ∨
      (∃ n, (2 ≤ n ∧ n < 32) ∧ b = UInt8.ofNat (n + 192)) ∨ (∃ n < 16, b = UInt8.ofNat (n + 224)) ∨
        ∃ n < 5, b = UInt8.ofNat (n + 240) := by
  have byte : b = UInt8.ofNat b.toNat := UInt8.ofNat_toNat.symm
  have bound : b.toNat < 256 := b.toNat_lt
  by_cases one : b.toNat < 128
  · exact .inr (.inl ⟨b.toNat, one, byte⟩)
  by_cases early : b.toNat < 194
  · exact .inl (by simp [firstByte, one, early])
  by_cases two : b.toNat < 224
  · refine .inr (.inr (.inl ⟨b.toNat - 192, by omega, ?_⟩))
    rw [Nat.sub_add_cancel (by omega), ← byte]
  by_cases three : b.toNat < 240
  · refine .inr (.inr (.inr (.inl ⟨b.toNat - 224, by omega, ?_⟩)))
    rw [Nat.sub_add_cancel (by omega), ← byte]
  by_cases four : b.toNat < 245
  · refine .inr (.inr (.inr (.inr ⟨b.toNat - 240, by omega, ?_⟩)))
    rw [Nat.sub_add_cancel (by omega), ← byte]
  · refine .inl ?_
    simp [firstByte, one, early, two, three, show ¬ b.toNat < 244 by omega, show b.toNat ≠ 224 by omega,
      show b.toNat ≠ 237 by omega, show b.toNat ≠ 240 by omega, show b.toNat ≠ 244 by omega]

section Open
variable {bits left low high : Nat} {bs : List UInt8} {c : Char} {more : List (Option Char)}

/-- A character goes on with a byte in its range, which is its last or leaves it open. -/
lemma exists_of_charsFrom_open (least : 128 ≤ low) (most : high < 192)
    (h : charsFrom (some ⟨bits, left, low, high⟩) bs = some c :: more) :
    ∃ n rest, bs = UInt8.ofNat (n + 128) :: rest ∧ n < 64 ∧ (low ≤ n + 128 ∧ n + 128 ≤ high) ∧
      (if left = 1 then some (Char.ofNat (bits * 64 + n)) :: charsFrom none rest
        else charsFrom (some ⟨bits * 64 + n, left - 1, 0x80, 0xBF⟩) rest) = some c :: more := by
  cases bs with
  | nil => cases h
  | cons b rest =>
    rw [charsFrom] at h
    dsimp only at h
    split at h
    · next within =>
      refine ⟨b.toNat - 128, rest, ?_, by omega, by omega, h⟩
      rw [Nat.sub_add_cancel (by omega), UInt8.ofNat_toNat]
    · cases h

/-- If a character is found while more than one byte is missing, the next byte is one of them. -/
lemma exists_of_charsFrom_more (least : 128 ≤ low) (most : high < 192)
    (h : charsFrom (some ⟨bits, left + 2, low, high⟩) bs = some c :: more) :
    ∃ n rest, bs = UInt8.ofNat (n + 128) :: rest ∧ n < 64 ∧ (low ≤ n + 128 ∧ n + 128 ≤ high) ∧
      charsFrom (some ⟨bits * 64 + n, left + 1, 0x80, 0xBF⟩) rest = some c :: more := by
  obtain ⟨n, rest, eq, small, within, goesOn⟩ := exists_of_charsFrom_open least most h
  rw [if_neg (by omega)] at goesOn
  exact ⟨n, rest, eq, small, within, goesOn⟩

/-- If one is found while a single byte is missing, the next byte completes it. -/
lemma exists_of_charsFrom_last (least : 128 ≤ low) (most : high < 192)
    (h : charsFrom (some ⟨bits, 1, low, high⟩) bs = some c :: more) :
    ∃ n rest, bs = UInt8.ofNat (n + 128) :: rest ∧ n < 64 ∧ c = Char.ofNat (bits * 64 + n) ∧
      charsFrom none rest = more := by
  obtain ⟨n, rest, eq, small, -, ends⟩ := exists_of_charsFrom_open least most h
  rw [if_pos rfl] at ends
  obtain ⟨first, others⟩ := List.cons.inj ends
  exact ⟨n, rest, eq, small, (Option.some.inj first).symm, others⟩

end Open

/-- A character below 128 is one byte. -/
lemma utf8EncodeChar_one {n : Nat} (small : n < 128) :
    String.utf8EncodeChar (Char.ofNat n) = [UInt8.ofNat n] := by
  have value : (Char.ofNat n).val.toNat = n := toNat_ofNat_of_valid (.inl (by omega))
  rw [String.utf8EncodeChar, value, if_pos (by omega)]

/-- A character of two bytes is written with five bits and six. -/
lemma utf8EncodeChar_two {n m : Nat} (low : 2 ≤ n) (high : n < 32) (hm : m < 64) :
    String.utf8EncodeChar (Char.ofNat (n * 64 + m)) = [UInt8.ofNat (n + 192), UInt8.ofNat (m + 128)] := by
  have value : (Char.ofNat (n * 64 + m)).val.toNat = n * 64 + m :=
    toNat_ofNat_of_valid (.inl (by omega))
  have first : (n * 64 + m) / 64 % 32 = n := by omega
  have last : (n * 64 + m) % 64 = m := by omega
  rw [String.utf8EncodeChar, value, if_neg (by omega), if_pos (by omega), first, last]

/-- A character of three bytes is written with four bits and twice six. -/
lemma utf8EncodeChar_three {n m k : Nat} (low : n = 0 → 32 ≤ m) (surrogates : n = 13 → m < 32)
    (high : n < 16) (hm : m < 64) (hk : k < 64) :
    String.utf8EncodeChar (Char.ofNat ((n * 64 + m) * 64 + k)) =
      [UInt8.ofNat (n + 224), UInt8.ofNat (m + 128), UInt8.ofNat (k + 128)] := by
  have value : (Char.ofNat ((n * 64 + m) * 64 + k)).val.toNat = (n * 64 + m) * 64 + k :=
    toNat_ofNat_of_valid (by unfold Nat.isValidChar; omega)
  have first : ((n * 64 + m) * 64 + k) / 4096 % 16 = n := by omega
  have second : ((n * 64 + m) * 64 + k) / 64 % 64 = m := by omega
  have last : ((n * 64 + m) * 64 + k) % 64 = k := by omega
  rw [String.utf8EncodeChar, value, if_neg (by omega), if_neg (by omega), if_pos (by omega), first,
    second, last]

/-- A character of four bytes is written with three bits and three times six. -/
lemma utf8EncodeChar_four {n m k l : Nat} (low : n = 0 → 16 ≤ m) (high : n = 4 → m < 16) (hn : n < 5)
    (hm : m < 64) (hk : k < 64) (hl : l < 64) :
    String.utf8EncodeChar (Char.ofNat (((n * 64 + m) * 64 + k) * 64 + l)) =
      [UInt8.ofNat (n + 240), UInt8.ofNat (m + 128), UInt8.ofNat (k + 128), UInt8.ofNat (l + 128)] := by
  have value : (Char.ofNat (((n * 64 + m) * 64 + k) * 64 + l)).val.toNat =
      ((n * 64 + m) * 64 + k) * 64 + l :=
    toNat_ofNat_of_valid (by unfold Nat.isValidChar; omega)
  have first : (((n * 64 + m) * 64 + k) * 64 + l) / 262144 % 8 = n := by omega
  have second : (((n * 64 + m) * 64 + k) * 64 + l) / 4096 % 64 = m := by omega
  have third : (((n * 64 + m) * 64 + k) * 64 + l) / 64 % 64 = k := by omega
  have last : (((n * 64 + m) * 64 + k) * 64 + l) % 64 = l := by omega
  rw [String.utf8EncodeChar, value, if_neg (by omega), if_neg (by omega), if_neg (by omega), first, second,
    third, last]

/-- A character that is read stands at the head of the bytes. -/
lemma exists_of_charsFrom_cons {bs : List UInt8} {c : Char} {more : List (Option Char)}
    (h : charsFrom none bs = some c :: more) :
    ∃ rest, bs = String.utf8EncodeChar c ++ rest ∧ charsFrom none rest = more := by
  cases bs with
  | nil => cases h
  | cons b bs =>
    -- One case for a fault and one for each number of bytes, from one to four.
    rcases firstByte_cases b with fault | ⟨n, hn, rfl⟩ | ⟨n, ⟨low, high⟩, rfl⟩ | ⟨n, hn, rfl⟩ | ⟨n, hn, rfl⟩
    · rw [charsFrom, fault] at h
      cases h
    · rw [charsFrom_char hn] at h
      obtain ⟨first, rfl⟩ := List.cons.inj h
      obtain rfl := Option.some.inj first
      exact ⟨bs, by rw [utf8EncodeChar_one hn]; rfl, rfl⟩
    · rw [charsFrom_opens (firstByte_two low high)] at h
      obtain ⟨m, rest, rfl, hm, rfl, rfl⟩ := exists_of_charsFrom_last (by decide) (by decide) h
      exact ⟨rest, by rw [utf8EncodeChar_two low high hm]; rfl, rfl⟩
    · rw [charsFrom_opens (firstByte_three hn)] at h
      obtain ⟨m, rest, rfl, hm, ⟨low, high⟩, h⟩ :=
        exists_of_charsFrom_more (by split <;> decide) (by split <;> decide) h
      obtain ⟨k, rest, rfl, hk, rfl, rfl⟩ := exists_of_charsFrom_last (by decide) (by decide) h
      refine ⟨rest, ?_, rfl⟩
      rw [utf8EncodeChar_three (by split at low <;> omega) (by split at high <;> omega) hn hm hk]
      rfl
    · rw [charsFrom_opens (firstByte_four hn)] at h
      obtain ⟨m, rest, rfl, hm, ⟨low, high⟩, h⟩ :=
        exists_of_charsFrom_more (by split <;> decide) (by split <;> decide) h
      obtain ⟨k, rest, rfl, hk, -, h⟩ := exists_of_charsFrom_more (by decide) (by decide) h
      obtain ⟨l, rest, rfl, hl, rfl, rfl⟩ := exists_of_charsFrom_last (by decide) (by decide) h
      refine ⟨rest, ?_, rfl⟩
      rw [utf8EncodeChar_four (by split at low <;> omega) (by split at high <;> omega) hn hm hk hl]
      rfl

/-- A character that was opened becomes something. -/
lemma charsFrom_some_ne_nil (o : OpenChar) (bs : List UInt8) : charsFrom (some o) bs ≠ [] := by
  induction bs generalizing o with
  | nil => simp [charsFrom]
  | cons b bs ih =>
    rw [charsFrom]
    split
    · split
      · simp
      · exact ih _
    · simp

/-- Only no bytes are read as no characters. -/
lemma eq_nil_of_charsFrom {bs : List UInt8} (h : charsFrom none bs = []) : bs = [] := by
  cases bs with
  | nil => rfl
  | cons b bs =>
    rw [charsFrom] at h
    cases first : firstByte b with
    | char c =>
      rw [first] at h
      cases h
    | opens o =>
      rw [first] at h
      exact absurd h (charsFrom_some_ne_nil o bs)
    | fault =>
      rw [first] at h
      cases h

/-- Bytes that are read as characters alone are those of the text. -/
lemma eq_utf8Bytes_of_charsFrom {bs : List UInt8} {cs : List Char} (h : charsFrom none bs = cs.map some) :
    bs = utf8Bytes cs := by
  induction cs generalizing bs with
  | nil => exact eq_nil_of_charsFrom h
  | cons c cs ih =>
    obtain ⟨rest, rfl, read⟩ := exists_of_charsFrom_cons h
    rw [utf8Bytes, List.flatMap_cons, ih read]
    rfl

/-- Where all parts are there, each of them is. -/
lemma eq_map_of_mapM_id {α : Type} {xs : List (Option α)} {as : List α} (h : xs.mapM id = some as) :
    xs = as.map some := by
  induction xs generalizing as with
  | nil =>
    cases h
    rfl
  | cons x xs ih =>
    rw [List.mapM_cons] at h
    cases x with
    | none => cases h
    | some a =>
      cases rest : xs.mapM id with
      | none =>
        rw [rest] at h
        cases h
      | some as =>
        rw [rest] at h
        cases h
        rw [ih rest, List.map_cons]

/-- A text is read where the bytes are those of the text. -/
theorem utf8_eq_some_iff {bytes : List UInt8} {cs : List Char} :
    utf8? bytes = some cs ↔ bytes = utf8Bytes cs := by
  refine ⟨fun h => eq_utf8Bytes_of_charsFrom (eq_map_of_mapM_id h), ?_⟩
  rintro rfl
  exact utf8_utf8Bytes cs

end Tenancy.Text
