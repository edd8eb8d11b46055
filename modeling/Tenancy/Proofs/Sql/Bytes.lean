import Tenancy.Proofs.Sql.Extent
import Tenancy.Proofs.Text.Ascii
import Tenancy.Text.Utf8

/-!
# Reading a statement byte by byte

`spans?` cuts a statement in UTF-8 with offsets into its bytes alone: each part is looked for byte by
byte from where it starts, offsets go on by one or two bytes whatever character they are in, and a span
is what lies between two offsets. There is a span only between offsets of whole characters of the
statement. That is always so: the spans are the lexemes of the statement in UTF-8 (`spans_utf8Bytes`).
-/

namespace Tenancy.Sql
open Text

/-! ## Spans -/

/-- The byte of a character of ASCII. -/
def byteOf (c : Char) : UInt8 := UInt8.ofNat c.toNat

/-- The byte of a character of names. -/
def isNameByte (x : UInt8) : Bool := isNameChar (Char.ofNat x.toNat)

/-- Whether no character has begun in front of an offset and goes on behind it. -/
def isBoundary (b : List UInt8) (i : Nat) : Bool :=
  match b[i]? with
  | none => i = b.length
  | some x => x < 0x80 || 0xC0 ≤ x

/-- What lies between two offsets, if both are offsets of whole characters. -/
def slice? (b : List UInt8) (i j : Nat) : Option (List UInt8) :=
  if i ≤ j ∧ isBoundary b i ∧ isBoundary b j then some ((b.drop i).take (j - i)) else none

/-- The offset after the mark that closes a part, looked for from `j`. -/
def markEnd (b : List UInt8) (mark : UInt8) (escapes : Bool) (j : Nat) : Nat :=
  match _h : b[j]? with
  | none => b.length
  | some x =>
    if escapes ∧ x = byteOf '\\' then markEnd b mark escapes (j + 2)
    else if x = mark then
      if b[j + 1]? = some mark then markEnd b mark escapes (j + 2) else j + 1
    else markEnd b mark escapes (j + 1)
termination_by b.length - j
decreasing_by
  all_goals
    have := (List.getElem?_eq_some_iff.1 _h).1
    omega

/-- The offset of the end of the line. -/
def lineEnd (b : List UInt8) (i : Nat) : Nat :=
  i + ((b.drop i).takeWhile (· ≠ byteOf '\n')).length

/-- The offset after the comment in which `depth` comments are open at `j`. No more can be closed than
are open. -/
def commentEnd? (b : List UInt8) (depth j : Nat) : Option Nat :=
  match _h : b[j + 1]? with
  | none => some b.length
  | some y =>
    if b[j]? = some (byteOf '/') ∧ y = byteOf '*' then commentEnd? b (depth + 1) (j + 2)
    else if b[j]? = some (byteOf '*') ∧ y = byteOf '/' then
      match depth with
      | 0 => none
      | 1 => some (j + 2)
      | depth + 2 => commentEnd? b (depth + 1) (j + 2)
    else commentEnd? b depth (j + 1)
termination_by b.length - j
decreasing_by
  all_goals
    have := (List.getElem?_eq_some_iff.1 _h).1
    omega

/-- The number of bytes of the tag at an offset, with both of its dollar signs. -/
def tagSize? (b : List UInt8) (i : Nat) : Option Nat :=
  if 0 < i ∧ b[i - 1]?.any isNameByte then none
  else
    match b[i + 1]? with
    | none => none
    | some x =>
      if x = byteOf '$' then some 2
      else if isNameByte x ∧ ¬ (byteOf '0' ≤ x ∧ x ≤ byteOf '9') then
        let size := ((b.drop (i + 2)).takeWhile isNameByte).length
        if b[i + 2 + size]? = some (byteOf '$') then some (size + 3) else none
      else none

/-- How many bytes are in front of the first place where a mark stands. -/
def find? (mark : List UInt8) : List UInt8 → Option Nat
  | [] => none
  | x :: xs => if mark.isPrefixOf (x :: xs) then some 0 else (find? mark xs).map (· + 1)

/-- The offset after the second tag of the body that starts with a tag of so many bytes. -/
def bodyEnd? (b : List UInt8) (i size : Nat) : Option Nat := do
  let mark ← slice? b i (i + size)
  let body ← slice? b (i + size) b.length
  match find? mark body with
  | none => some b.length
  | some k => some (i + size + k + size)

/-- Whether the literal at an offset has escapes. -/
def hasEscapes (b : List UInt8) (i : Nat) : Bool :=
  0 < i ∧ (b[i - 1]? = some (byteOf 'E') ∨ b[i - 1]? = some (byteOf 'e')) ∧
    (i < 2 ∨ ¬ b[i - 2]?.any isNameByte)

/-- The kind and the end of the quotation at an offset, if there is one. -/
def quotation? (b : List UInt8) (i : Nat) : Option (Option (LexemeKind × Nat)) :=
  if b[i]? = some (byteOf apostrophe) then
    some (some (.literal, markEnd b (byteOf apostrophe) (hasEscapes b i) (i + 1)))
  else if b[i]? = some (byteOf '"') then
    some (some (.quotedName, markEnd b (byteOf '"') false (i + 1)))
  else if b[i]? = some (byteOf '-') ∧ b[i + 1]? = some (byteOf '-') then
    some (some (.comment, lineEnd b i))
  else if b[i]? = some (byteOf '/') ∧ b[i + 1]? = some (byteOf '*') then
    (commentEnd? b 0 i).map fun stop => some (.comment, stop)
  else if b[i]? = some (byteOf '$') then
    match tagSize? b i with
    | none => some none
    | some size => (bodyEnd? b i size).map fun stop => some (.dollarQuoted, stop)
  else some none

/-- The code between two offsets as a span, if there is any. -/
def codeSpan? (b : List UInt8) (i j : Nat) : Option (List (LexemeKind × List UInt8)) :=
  if i < j then (slice? b i j).map fun part => [(.code, part)] else some []

/-- The spans from the offset `start` on, where code was read up to `i`. The offset of the end of a
quotation has to be behind that of its beginning. -/
def spansFrom? (b : List UInt8) (start i : Nat) : Option (List (LexemeKind × List UInt8)) :=
  if _h : i < b.length then
    match quotation? b i with
    | none => none
    | some none => spansFrom? b start (i + 1)
    | some (some (kind, stop)) =>
      if _h' : i < stop then do
        let code ← codeSpan? b start i
        let part ← slice? b i stop
        let more ← spansFrom? b stop stop
        some (code ++ (kind, part) :: more)
      else none
  else codeSpan? b start b.length
termination_by b.length - i

/-- The spans of a statement, if all of them lie between offsets of whole characters. -/
def spans? (b : List UInt8) : Option (List (LexemeKind × List UInt8)) := spansFrom? b 0 0

/-! ## Bytes and characters -/

/-- The bytes of the first character come first. -/
lemma utf8Bytes_cons (c : Char) (cs : List Char) :
    utf8Bytes (c :: cs) = String.utf8EncodeChar c ++ utf8Bytes cs := List.flatMap_cons

/-- The bytes of a text come before those of the text behind it. -/
lemma utf8Bytes_append (cs ds : List Char) : utf8Bytes (cs ++ ds) = utf8Bytes cs ++ utf8Bytes ds :=
  List.flatMap_append

/-- A character of ASCII is one byte. -/
lemma utf8EncodeChar_of_isAscii {c : Char} (h : isAscii c) : String.utf8EncodeChar c = [byteOf c] := by
  have small : c.val.toNat < 128 := of_decide_eq_true h
  rw [String.utf8EncodeChar]
  exact if_pos (by omega)

/-- Any other character has a first byte that none inside of a character is equal to, and none of its
bytes is that of a character of ASCII. -/
lemma utf8EncodeChar_of_not_isAscii {c : Char} (h : isAscii c = false) :
    ∃ x xs, String.utf8EncodeChar c = x :: xs ∧ 0xC0 ≤ x ∧ ∀ y ∈ x :: xs, 0x80 ≤ y := by
  have large : ¬ c.val.toNat < 128 := of_decide_eq_false h
  have byte {n : Nat} (low : 128 ≤ n) (high : n < 256) : (0x80 : UInt8) ≤ UInt8.ofNat n := by
    rw [UInt8.le_iff_toNat_le, UInt8.toNat_ofNat_of_lt' high]
    exact low
  have first {n : Nat} (low : 192 ≤ n) (high : n < 256) : (0xC0 : UInt8) ≤ UInt8.ofNat n := by
    rw [UInt8.le_iff_toNat_le, UInt8.toNat_ofNat_of_lt' high]
    exact low
  unfold String.utf8EncodeChar
  dsimp only
  rw [if_neg (by omega)]
  -- One case for each number of bytes.
  split
  · refine ⟨_, _, rfl, first (by omega) (by omega), ?_⟩
    simp only [List.forall_mem_cons, List.not_mem_nil, false_imp_iff, implies_true, and_true]
    exact ⟨byte (by omega) (by omega), byte (by omega) (by omega)⟩
  split
  · refine ⟨_, _, rfl, first (by omega) (by omega), ?_⟩
    simp only [List.forall_mem_cons, List.not_mem_nil, false_imp_iff, implies_true, and_true]
    exact ⟨byte (by omega) (by omega), byte (by omega) (by omega), byte (by omega) (by omega)⟩
  · refine ⟨_, _, rfl, first (by omega) (by omega), ?_⟩
    simp only [List.forall_mem_cons, List.not_mem_nil, false_imp_iff, implies_true, and_true]
    exact ⟨byte (by omega) (by omega), byte (by omega) (by omega), byte (by omega) (by omega),
      byte (by omega) (by omega)⟩

/-- Only the first byte of a character can begin one. -/
lemma utf8EncodeChar_cons (c : Char) :
    ∃ x xs, String.utf8EncodeChar c = x :: xs ∧ (x < 0x80 ∨ 0xC0 ≤ x) ∧ ∀ y ∈ xs, 0x80 ≤ y := by
  by_cases ascii : isAscii c
  · refine ⟨byteOf c, [], utf8EncodeChar_of_isAscii ascii, .inl ?_, nofun⟩
    exact isAscii_induction (fun c => byteOf c < 0x80) (by decide +kernel) ascii
  · obtain ⟨x, xs, eq, first, all⟩ := utf8EncodeChar_of_not_isAscii (Bool.eq_false_iff.2 ascii)
    exact ⟨x, xs, eq, .inr first, fun y mem => all y (List.mem_cons_of_mem x mem)⟩

/-- Where every byte of a character tells what the character does, bytes are taken as far as characters. -/
lemma takeWhile_utf8Bytes {p : UInt8 → Bool} {q : Char → Bool}
    (h : ∀ c, ∀ x ∈ String.utf8EncodeChar c, p x = q c) (cs : List Char) :
    (utf8Bytes cs).takeWhile p = utf8Bytes (cs.takeWhile q) := by
  induction cs with
  | nil => rfl
  | cons c cs ih =>
    rw [utf8Bytes_cons, List.takeWhile_cons]
    split
    · next pass =>
      rw [List.takeWhile_append_of_pos fun x mem => (h c x mem).trans pass, ih, utf8Bytes_cons]
    · next stop =>
      obtain ⟨x, xs, eq, -, -⟩ := utf8EncodeChar_cons c
      have first : p x = q c := h c x (eq ▸ List.mem_cons_self)
      rw [eq, List.cons_append, List.takeWhile_cons_of_neg (by rwa [first])]
      rfl

/-- Whether bytes tell the same of the characters of ASCII, and nothing of any other. -/
structure Shows (p : UInt8 → Bool) (q : Char → Bool) : Prop where
  ascii : ∀ c, isAscii c → p (byteOf c) = q c
  byte : ∀ x, 0x80 ≤ x → p x = false
  other : ∀ c, isAscii c = false → q c = false

namespace Shows

/-- The byte of a character of ASCII tells whether a character is that one. -/
lemma char {d : Char} (h : isAscii d) : Shows (fun x => x = byteOf d) (fun c => c = d) := by
  have small {c : Char} (hc : isAscii c) : (byteOf c).toNat = c.toNat :=
    UInt8.toNat_ofNat_of_lt' (Nat.lt_trans (of_decide_eq_true hc) (by decide))
  constructor
  · intro c hc
    refine decide_eq_decide.2 ⟨fun eq => ?_, congrArg byteOf⟩
    have value := congrArg UInt8.toNat eq
    rw [small hc, small h] at value
    exact Char.toNat_inj.1 value
  · intro x wide
    refine decide_eq_false ?_
    rintro rfl
    have low : d.toNat < 128 := of_decide_eq_true h
    rw [UInt8.le_iff_toNat_le, small h] at wide
    exact absurd low (Nat.not_lt.2 wide)
  · intro c other
    refine decide_eq_false ?_
    rintro rfl
    rw [h] at other
    cases other

/-- Bytes tell which characters may be in names. -/
lemma nameChar : Shows isNameByte isNameChar := by
  constructor
  · exact fun c ascii => isAscii_induction (fun c => isNameByte (byteOf c) = isNameChar c)
      (by decide +kernel) ascii
  · intro x wide
    have all : ∀ n < 256, 128 ≤ n → isNameChar (Char.ofNat n) = false := by decide +kernel
    exact all x.toNat x.toNat_lt wide
  · exact fun c other => Bool.eq_false_iff.2 fun name => by
      rw [isAscii_of_isNameChar name] at other
      cases other

variable {p : UInt8 → Bool} {q : Char → Bool} (h : Shows p q)
include h

/-- Every byte of a character tells what the character does. -/
lemma encoded (c : Char) : ∀ x ∈ String.utf8EncodeChar c, p x = q c := by
  by_cases ascii : isAscii c
  · rw [utf8EncodeChar_of_isAscii ascii]
    simpa using h.ascii c ascii
  · have wide := Bool.eq_false_iff.2 ascii
    obtain ⟨x, xs, eq, -, all⟩ := utf8EncodeChar_of_not_isAscii wide
    intro y mem
    rw [h.byte y (all y (eq ▸ mem)), h.other c wide]

/-- The first byte tells what the first character does. -/
lemma head (cs : List Char) : (utf8Bytes cs).head?.any p = cs.head?.any q := by
  cases cs with
  | nil => rfl
  | cons c cs =>
    obtain ⟨x, xs, eq, -, -⟩ := utf8EncodeChar_cons c
    rw [utf8Bytes_cons, eq]
    exact h.encoded c x (eq ▸ List.mem_cons_self)

/-- The last byte tells what the last character does. -/
lemma last (cs : List Char) : (utf8Bytes cs).getLast?.any p = cs.getLast?.any q := by
  rcases List.eq_nil_or_concat cs with rfl | ⟨cs, c, rfl⟩
  · rfl
  rw [List.concat_eq_append, utf8Bytes_append, utf8Bytes_cons, List.getLast?_concat]
  obtain ⟨x, xs, eq, -, -⟩ := utf8EncodeChar_cons c
  obtain ⟨front, y, split⟩ := (List.eq_nil_or_concat (x :: xs)).resolve_left (List.cons_ne_nil x xs)
  rw [List.concat_eq_append] at split
  have mem : y ∈ String.utf8EncodeChar c := by
    rw [eq, split]
    exact List.mem_append_right front List.mem_cons_self
  rw [eq, split]
  simpa [utf8Bytes] using h.encoded c y mem

/-- Bytes are taken as far as the characters that they tell of. -/
lemma takeWhile (cs : List Char) : (utf8Bytes cs).takeWhile p = utf8Bytes (cs.takeWhile q) :=
  takeWhile_utf8Bytes h.encoded cs

/-- Bytes are taken up to the first one that tells of a character. -/
lemma takeWhile_not (cs : List Char) :
    (utf8Bytes cs).takeWhile (fun x => !p x) = utf8Bytes (cs.takeWhile fun c => !q c) :=
  takeWhile_utf8Bytes (fun c x mem => congrArg (!·) (h.encoded c x mem)) cs

end Shows

/-- Characters of ASCII have bytes of their own. -/
lemma byteOf_inj {c d : Char} (hc : isAscii c) (hd : isAscii d) : byteOf c = byteOf d ↔ c = d :=
  decide_eq_decide.1 ((Shows.char hd).ascii c hc)

/-- A byte of no character of ASCII is that of none. -/
lemma ne_byteOf {x : UInt8} {d : Char} (wide : 0x80 ≤ x) (ascii : isAscii d) : x ≠ byteOf d :=
  of_decide_eq_false ((Shows.char ascii).byte x wide)

/-- A text starts with a character of ASCII where its bytes start with the byte of it. -/
lemma head_eq_some_iff {m : Char} (h : isAscii m) (cs : List Char) :
    (utf8Bytes cs).head? = some (byteOf m) ↔ cs.head? = some m := by
  have same := (Shows.char h).head cs
  cases first : (utf8Bytes cs).head? <;> cases first' : cs.head? <;> simp_all

/-! ## The ends of parts -/

/-- At the offset where a text ends stands the first byte behind it. -/
lemma getElem_start (pre bs : List UInt8) : (pre ++ bs)[pre.length]? = bs.head? := by
  rw [List.getElem?_append_right (Nat.le_refl _), Nat.sub_self, List.head?_eq_getElem?]

/-- One offset further stands the second byte behind it. -/
lemma getElem_second (pre : List UInt8) (x : UInt8) (bs : List UInt8) :
    (pre ++ x :: bs)[pre.length + 1]? = bs.head? := by
  rw [List.getElem?_append_right (Nat.le_add_right _ 1), Nat.add_sub_cancel_left,
    List.head?_eq_getElem?]
  rfl

/-- A scan that passes over one byte of no character of ASCII passes over any number of them. -/
lemma skip_wide {α : Type} {f : List UInt8 → Nat → α}
    (step : ∀ pre x rest, 0x80 ≤ x → f (pre ++ x :: rest) pre.length = f (pre ++ x :: rest) (pre.length + 1))
    (pre : List UInt8) {bs : List UInt8} (wide : ∀ x ∈ bs, 0x80 ≤ x) (rest : List UInt8) :
    f (pre ++ (bs ++ rest)) pre.length = f (pre ++ (bs ++ rest)) (pre ++ bs).length := by
  induction bs generalizing pre with
  | nil => rw [List.append_nil]
  | cons x bs ih =>
    have tail := ih (pre ++ [x]) fun y mem => wide y (List.mem_cons_of_mem x mem)
    rw [List.cons_append, step pre x (bs ++ rest) (wide x List.mem_cons_self)]
    simpa using tail

section MarkEnd
variable {b : List UInt8} {mark x : UInt8} {escapes : Bool} {j : Nat}

/-- At the end of the statement nothing more is looked for. -/
lemma markEnd_none (h : b[j]? = none) : markEnd b mark escapes j = b.length := by
  rw [markEnd]
  split <;> simp_all

/-- What is done with a byte of a quoted part. -/
lemma markEnd_some (h : b[j]? = some x) :
    markEnd b mark escapes j =
      if escapes ∧ x = byteOf '\\' then markEnd b mark escapes (j + 2)
      else if x = mark then
        if b[j + 1]? = some mark then markEnd b mark escapes (j + 2) else j + 1
      else markEnd b mark escapes (j + 1) := by
  rw [markEnd]
  split
  · next none =>
    rw [h] at none
    cases none
  · next y found =>
    rw [h] at found
    cases found
    rfl

/-- Bytes of no character of ASCII are passed over. -/
lemma markEnd_skip {m : Char} (ascii : isAscii m) (pre : List UInt8) {bs : List UInt8}
    (wide : ∀ x ∈ bs, 0x80 ≤ x) (rest : List UInt8) :
    markEnd (pre ++ (bs ++ rest)) (byteOf m) escapes pre.length =
      markEnd (pre ++ (bs ++ rest)) (byteOf m) escapes (pre ++ bs).length := by
  refine skip_wide (f := fun b => markEnd b (byteOf m) escapes) (fun pre x rest wide => ?_) pre wide rest
  rw [markEnd_some (getElem_start pre _), if_neg fun h => ne_byteOf wide (by decide) h.2,
    if_neg (ne_byteOf wide ascii)]

variable {m c d : Char} (ascii : isAscii m) (pre : List UInt8) (cs : List Char)
include ascii

/-- A character that is neither the mark nor a backslash with a meaning is passed over. -/
lemma markEnd_char (plain : ¬ (escapes ∧ c = '\\')) (other : c ≠ m) :
    markEnd (pre ++ utf8Bytes (c :: cs)) (byteOf m) escapes pre.length =
      markEnd (pre ++ utf8Bytes (c :: cs)) (byteOf m) escapes
        (pre ++ String.utf8EncodeChar c).length := by
  rw [utf8Bytes_cons]
  by_cases small : isAscii c
  · have plain' : ¬ (escapes ∧ byteOf c = byteOf '\\') := by rwa [byteOf_inj small (by decide)]
    have other' : byteOf c ≠ byteOf m := by rwa [Ne, byteOf_inj small ascii]
    rw [utf8EncodeChar_of_isAscii small, List.singleton_append, markEnd_some (getElem_start pre _),
      if_neg plain', if_neg other']
    simp
  · obtain ⟨x, xs, eq, -, wide⟩ := utf8EncodeChar_of_not_isAscii (Bool.eq_false_iff.2 small)
    rw [eq, markEnd_skip ascii _ wide]

/-- Behind a backslash the second byte is passed over, and then the rest of its character. -/
lemma markEnd_escape (escape : escapes) :
    markEnd (pre ++ utf8Bytes ('\\' :: d :: cs)) (byteOf m) escapes pre.length =
      markEnd (pre ++ utf8Bytes ('\\' :: d :: cs)) (byteOf m) escapes
        (pre ++ utf8Bytes ['\\', d]).length := by
  obtain ⟨x, xs, eq, -, wide⟩ := utf8EncodeChar_cons d
  have slash : String.utf8EncodeChar '\\' = [byteOf '\\'] := utf8EncodeChar_of_isAscii (by decide)
  have skip : markEnd _ (byteOf m) escapes _ = _ :=
    markEnd_skip ascii (pre ++ [byteOf '\\', x]) wide (utf8Bytes cs)
  simp only [utf8Bytes_cons, slash, eq, List.cons_append]
  rw [markEnd_some (getElem_start pre _), if_pos ⟨escape, rfl⟩]
  simpa [utf8Bytes] using skip

/-- A mark that is not escaped closes the part, unless another follows. -/
lemma markEnd_mark (plain : ¬ (escapes ∧ m = '\\')) :
    markEnd (pre ++ utf8Bytes (m :: cs)) (byteOf m) escapes pre.length =
      if cs.head? = some m then markEnd (pre ++ utf8Bytes (m :: cs)) (byteOf m) escapes
        (pre.length + 2)
      else pre.length + 1 := by
  have plain' : ¬ (escapes ∧ byteOf m = byteOf '\\') := by rwa [byteOf_inj ascii (by decide)]
  rw [utf8Bytes_cons, utf8EncodeChar_of_isAscii ascii, List.singleton_append,
    markEnd_some (getElem_start pre _), if_neg plain', if_pos rfl, getElem_second]
  simp only [head_eq_some_iff ascii]

/-- Reading bytes, a quoted part ends where it does when characters are read. -/
lemma markEnd_eq :
    markEnd (pre ++ utf8Bytes cs) (byteOf m) escapes pre.length =
      (pre ++ utf8Bytes (throughMark m escapes cs).1).length := by
  have mark_bytes : String.utf8EncodeChar m = [byteOf m] := utf8EncodeChar_of_isAscii ascii
  have one (c : Char) : utf8Bytes [c] = String.utf8EncodeChar c := List.append_nil _
  have after (pre : List UInt8) :
      markEnd pre (byteOf m) escapes pre.length = pre.length :=
    markEnd_none (List.getElem?_eq_none (Nat.le_refl _))
  fun_induction throughMark m escapes cs generalizing pre with
  | case1 =>
    have nil : pre ++ utf8Bytes [] = pre := List.append_nil pre
    rw [nil, after]
  | case2 c =>
    by_cases escape : escapes ∧ c = '\\'
    · obtain ⟨escape, rfl⟩ := escape
      have slash : utf8Bytes ['\\'] = [byteOf '\\'] :=
        (one _).trans (utf8EncodeChar_of_isAscii (by decide))
      rw [slash, markEnd_some (getElem_start pre [byteOf '\\']), if_pos ⟨escape, rfl⟩, markEnd_none]
      exact List.getElem?_eq_none (by simp)
    by_cases mark : c = m
    · subst mark
      rw [markEnd_mark ascii pre [] escape, if_neg (by simp), one, mark_bytes]
      simp
    · rw [markEnd_char ascii pre [] escape mark, ← one, after]
  | case3 c d cs escape ih =>
    obtain ⟨escape, rfl⟩ := escape
    have tail := ih (pre ++ utf8Bytes ['\\', d])
    rw [List.append_assoc, ← utf8Bytes_append] at tail
    rw [markEnd_escape ascii pre cs escape]
    refine tail.trans ?_
    rw [List.append_assoc, ← utf8Bytes_append]
    rfl
  | case4 cs plain ih =>
    have tail := ih (pre ++ utf8Bytes [m, m])
    have two : (pre ++ utf8Bytes [m, m]).length = pre.length + 2 := by
      simp [utf8Bytes, mark_bytes]
    rw [two, List.append_assoc, ← utf8Bytes_append] at tail
    rw [markEnd_mark ascii pre (m :: cs) plain, List.head?_cons, if_pos rfl]
    refine tail.trans ?_
    rw [List.append_assoc, ← utf8Bytes_append]
    rfl
  | case5 d cs single plain =>
    rw [markEnd_mark ascii pre (d :: cs) plain, if_neg (by simpa using single), one, mark_bytes]
    simp
  | case6 c d cs plain other ih =>
    have tail := ih (pre ++ utf8Bytes [c])
    rw [List.append_assoc, ← utf8Bytes_append] at tail
    rw [markEnd_char ascii pre (d :: cs) plain other, ← one]
    refine tail.trans ?_
    rw [List.append_assoc, ← utf8Bytes_append]
    rfl

end MarkEnd

/-- Reading bytes, a line ends where it does when characters are read. -/
lemma lineEnd_eq (cs : List Char) (pre : List UInt8) :
    lineEnd (pre ++ utf8Bytes cs) pre.length = (pre ++ utf8Bytes (throughLine cs).1).length := by
  have same := (Shows.char (d := '\n') (by decide)).takeWhile_not cs
  simp only [← decide_not] at same
  rw [lineEnd, List.drop_left, same, List.length_append]
  rfl

section CommentEnd
variable {b : List UInt8} {x y : UInt8} {depth j : Nat}

/-- With less than two bytes left, a comment goes on to the end of the statement. -/
lemma commentEnd_none (h : b[j + 1]? = none) : commentEnd? b depth j = some b.length := by
  rw [commentEnd?.eq_def]
  split
  · rfl
  · next second =>
    rw [h] at second
    cases second

/-- What is done with two bytes of a comment. -/
lemma commentEnd_some (h : b[j]? = some x) (h' : b[j + 1]? = some y) :
    commentEnd? b depth j =
      if x = byteOf '/' ∧ y = byteOf '*' then commentEnd? b (depth + 1) (j + 2)
      else if x = byteOf '*' ∧ y = byteOf '/' then
        match depth with
        | 0 => none
        | 1 => some (j + 2)
        | depth + 2 => commentEnd? b (depth + 1) (j + 2)
      else commentEnd? b depth (j + 1) := by
  rw [commentEnd?.eq_def, h]
  simp only [Option.some.injEq]
  split
  · next none =>
    rw [h'] at none
    cases none
  · next z second =>
    rw [h'] at second
    cases second
    rfl

/-- A byte that makes no pair with the next is passed over. -/
lemma commentEnd_step {pre rest : List UInt8}
    (opens : ¬ (x = byteOf '/' ∧ rest.head? = some (byteOf '*')))
    (closes : ¬ (x = byteOf '*' ∧ rest.head? = some (byteOf '/'))) :
    commentEnd? (pre ++ x :: rest) depth pre.length =
      commentEnd? (pre ++ x :: rest) depth (pre ++ [x]).length := by
  cases rest with
  | nil =>
    rw [commentEnd_none (getElem_second pre x []), commentEnd_none]
    exact List.getElem?_eq_none (by simp)
  | cons y rest =>
    rw [commentEnd_some (getElem_start pre _) (getElem_second pre x _), if_neg (by simpa using opens),
      if_neg (by simpa using closes), List.length_append, List.length_singleton]

/-- Bytes of no character of ASCII are passed over. -/
lemma commentEnd_skip (pre : List UInt8) {bs : List UInt8} (wide : ∀ x ∈ bs, 0x80 ≤ x)
    (rest : List UInt8) :
    commentEnd? (pre ++ (bs ++ rest)) depth pre.length =
      commentEnd? (pre ++ (bs ++ rest)) depth (pre ++ bs).length := by
  refine skip_wide (f := fun b => commentEnd? b depth) (fun pre x rest wide => ?_) pre wide rest
  rw [commentEnd_step (fun h => ne_byteOf wide (by decide) h.1) fun h => ne_byteOf wide (by decide) h.1,
    List.length_append, List.length_singleton]

/-- A character that begins neither an opening nor a closing is passed over. -/
lemma commentEnd_char {c : Char} (pre : List UInt8) {cs : List Char}
    (opens : ¬ (c = '/' ∧ cs.head? = some '*')) (closes : ¬ (c = '*' ∧ cs.head? = some '/')) :
    commentEnd? (pre ++ utf8Bytes (c :: cs)) depth pre.length =
      commentEnd? (pre ++ utf8Bytes (c :: cs)) depth (pre ++ utf8Bytes [c]).length := by
  have one : utf8Bytes [c] = String.utf8EncodeChar c := List.append_nil _
  rw [one, utf8Bytes_cons]
  by_cases small : isAscii c
  · rw [utf8EncodeChar_of_isAscii small, List.singleton_append, commentEnd_step]
    · rwa [byteOf_inj small (by decide), head_eq_some_iff (by decide)]
    · rwa [byteOf_inj small (by decide), head_eq_some_iff (by decide)]
  · obtain ⟨x, xs, eq, -, wide⟩ := utf8EncodeChar_of_not_isAscii (Bool.eq_false_iff.2 small)
    rw [eq, commentEnd_skip _ wide]

/-- With an opening, one more comment is open. -/
lemma commentEnd_opens (pre : List UInt8) (cs : List Char) :
    commentEnd? (pre ++ utf8Bytes ('/' :: '*' :: cs)) depth pre.length =
      commentEnd? (pre ++ utf8Bytes ('/' :: '*' :: cs)) (depth + 1)
        (pre ++ utf8Bytes ['/', '*']).length := by
  have bytes : utf8Bytes ('/' :: '*' :: cs) = byteOf '/' :: byteOf '*' :: utf8Bytes cs := rfl
  rw [bytes, commentEnd_some (getElem_start pre _) (getElem_second pre _ _), if_pos ⟨rfl, rfl⟩,
    List.length_append]
  rfl

/-- With a closing, one comment less is open, and the last one ends there. -/
lemma commentEnd_closes (pre : List UInt8) (cs : List Char) :
    commentEnd? (pre ++ utf8Bytes ('*' :: '/' :: cs)) (depth + 1) pre.length =
      match depth with
      | 0 => some (pre ++ utf8Bytes ['*', '/']).length
      | depth + 1 => commentEnd? (pre ++ utf8Bytes ('*' :: '/' :: cs)) (depth + 1)
          (pre ++ utf8Bytes ['*', '/']).length := by
  have bytes : utf8Bytes ('*' :: '/' :: cs) = byteOf '*' :: byteOf '/' :: utf8Bytes cs := rfl
  have opens : ¬ (byteOf '*' = byteOf '/' ∧ byteOf '/' = byteOf '*') := by decide
  rw [bytes, commentEnd_some (getElem_start pre _) (getElem_second pre _ _), if_neg opens,
    if_pos ⟨rfl, rfl⟩, List.length_append]
  cases depth <;> rfl

/-- Reading bytes, a comment ends where it does when characters are read. -/
lemma commentEnd_eq (depth : Nat) (cs : List Char) (pre : List UInt8) :
    commentEnd? (pre ++ utf8Bytes cs) (depth + 1) pre.length =
      some (pre ++ utf8Bytes (throughComment depth cs).1).length := by
  have after (d : Nat) (pre : List UInt8) : commentEnd? pre d pre.length = some pre.length :=
    commentEnd_none (List.getElem?_eq_none (Nat.le_succ _))
  fun_induction throughComment depth cs generalizing pre with
  | case1 depth =>
    have nil : pre ++ utf8Bytes [] = pre := List.append_nil pre
    rw [nil, after]
  | case2 depth c =>
    rw [commentEnd_char pre (by simp) (by simp), after]
  | case3 depth c d cs opens ih =>
    obtain ⟨rfl, rfl⟩ := opens
    have tail := ih (pre ++ utf8Bytes ['/', '*'])
    rw [List.append_assoc, ← utf8Bytes_append] at tail
    rw [commentEnd_opens]
    refine tail.trans ?_
    rw [List.append_assoc, ← utf8Bytes_append]
    rfl
  | case4 c d cs opens closes =>
    obtain ⟨rfl, rfl⟩ := closes
    exact commentEnd_closes pre cs
  | case5 c d cs opens closes depth ih =>
    obtain ⟨rfl, rfl⟩ := closes
    have tail := ih (pre ++ utf8Bytes ['*', '/'])
    rw [List.append_assoc, ← utf8Bytes_append] at tail
    refine (commentEnd_closes pre cs).trans (tail.trans ?_)
    rw [List.append_assoc, ← utf8Bytes_append]
    rfl
  | case6 depth c d cs opens closes ih =>
    have tail := ih (pre ++ utf8Bytes [c])
    rw [List.append_assoc, ← utf8Bytes_append] at tail
    rw [commentEnd_char pre (by simpa using opens) (by simpa using closes)]
    refine tail.trans ?_
    rw [List.append_assoc, ← utf8Bytes_append]
    rfl

end CommentEnd

/-! ## Dollar-quoted bodies -/

/-- A text of ASCII has as many bytes as characters. -/
lemma length_utf8Bytes {cs : List Char} (h : cs.all isAscii) : (utf8Bytes cs).length = cs.length := by
  induction cs with
  | nil => rfl
  | cons c cs ih =>
    obtain ⟨head, tail⟩ := Bool.and_eq_true_iff.1 h
    rw [utf8Bytes_cons, utf8EncodeChar_of_isAscii head, List.length_append, ih tail, Nat.add_comm]
    rfl

/-- A text starts with a mark of ASCII where its bytes start with those of the mark. -/
lemma isPrefixOf_utf8Bytes {mark : List Char} (h : mark.all isAscii) (cs : List Char) :
    (utf8Bytes mark).isPrefixOf (utf8Bytes cs) = mark.isPrefixOf cs := by
  induction mark generalizing cs with
  | nil => rfl
  | cons m mark ih =>
    obtain ⟨head, tail⟩ := Bool.and_eq_true_iff.1 h
    cases cs with
    | nil =>
      rw [utf8Bytes_cons, utf8EncodeChar_of_isAscii head]
      rfl
    | cons c cs =>
      obtain ⟨x, xs, eq, -, -⟩ := utf8EncodeChar_cons c
      have same : (byteOf m == x) = (m == c) := by
        have first := (Shows.char head).head (c :: cs)
        rw [utf8Bytes_cons, eq] at first
        rw [BEq.comm, BEq.comm (a := m)]
        exact first
      rw [utf8Bytes_cons, utf8EncodeChar_of_isAscii head, utf8Bytes_cons, eq]
      by_cases equal : m = c
      · subst equal
        have one := (utf8EncodeChar_of_isAscii head).symm.trans eq
        rw [List.cons.injEq] at one
        obtain ⟨rfl, rfl⟩ := one
        show ((byteOf m == byteOf m) && (utf8Bytes mark).isPrefixOf (utf8Bytes cs)) = _
        rw [ih tail cs, same]
        rfl
      · show ((byteOf m == x) && (utf8Bytes mark).isPrefixOf (xs ++ utf8Bytes cs)) =
          ((m == c) && mark.isPrefixOf cs)
        rw [same, beq_false_of_ne equal]
        rfl

/-- Nothing is found at a byte inside of a character. -/
lemma find_skip {m : Char} (head : isAscii m) (mark : List Char) {bs : List UInt8}
    (wide : ∀ x ∈ bs, 0x80 ≤ x) (rest : List UInt8) :
    find? (utf8Bytes (m :: mark)) (bs ++ rest) =
      (find? (utf8Bytes (m :: mark)) rest).map (· + bs.length) := by
  induction bs with
  | nil => exact Option.map_id'.symm
  | cons x bs ih =>
    have other : x ≠ byteOf m := ne_byteOf (wide x List.mem_cons_self) head
    have differs : (utf8Bytes (m :: mark)).isPrefixOf (x :: (bs ++ rest)) = false := by
      rw [utf8Bytes_cons, utf8EncodeChar_of_isAscii head]
      show ((byteOf m == x) && _) = false
      rw [beq_false_of_ne (Ne.symm other)]
      rfl
    rw [List.cons_append, find?, differs, ih fun y mem => wide y (List.mem_cons_of_mem x mem)]
    simp [Function.comp_def, Nat.add_assoc]

/-- The mark is found where the text up to it ends. -/
lemma find_eq {mark : List Char} (h : mark.all isAscii) (filled : mark ≠ []) (cs : List Char) :
    (find? (utf8Bytes mark) (utf8Bytes cs)).elim (utf8Bytes cs).length (· + mark.length) =
      (utf8Bytes (throughText mark cs).1).length := by
  obtain ⟨m, mark, rfl⟩ := List.exists_cons_of_ne_nil filled
  obtain ⟨head, -⟩ := Bool.and_eq_true_iff.1 h
  fun_induction throughText (m :: mark) cs with
  | case1 => rfl
  | case2 c cs found =>
    obtain ⟨x, xs, eq, -, -⟩ := utf8EncodeChar_cons c
    have start := isPrefixOf_utf8Bytes h (c :: cs)
    rw [found, utf8Bytes_cons c, eq, List.cons_append] at start
    rw [utf8Bytes_cons c, eq, List.cons_append, find?, if_pos start, length_utf8Bytes h]
    exact Nat.zero_add _
  | case3 c cs other ih =>
    obtain ⟨x, xs, eq, -, wide⟩ := utf8EncodeChar_cons c
    have start := isPrefixOf_utf8Bytes h (c :: cs)
    rw [Bool.eq_false_iff.2 other, utf8Bytes_cons c, eq, List.cons_append] at start
    have next : find? (utf8Bytes (m :: mark)) (utf8Bytes (c :: cs)) =
        (find? (utf8Bytes (m :: mark)) (utf8Bytes cs)).map (· + (xs.length + 1)) := by
      rw [utf8Bytes_cons c, eq, List.cons_append, find?, if_neg (Bool.eq_false_iff.1 start),
        find_skip head mark wide]
      simp [Function.comp_def, Nat.add_assoc]
    have whole : (utf8Bytes (prepend c (throughText (m :: mark) cs)).1).length =
        (utf8Bytes (throughText (m :: mark) cs).1).length + (xs.length + 1) := by
      show (utf8Bytes (c :: _)).length = _
      rw [utf8Bytes_cons, eq, List.length_append, List.length_cons, Nat.add_comm]
    rw [whole, ← ih, next, utf8Bytes_cons c, eq, List.length_append, List.length_cons]
    cases find? (utf8Bytes (m :: mark)) (utf8Bytes cs) with
    | none => exact Nat.add_comm _ _
    | some k => exact Nat.add_right_comm _ _ _

/-! ## Slices -/

/-- Where a text begins, no character goes on. -/
lemma isBoundary_append (pre : List UInt8) (cs : List Char) :
    isBoundary (pre ++ utf8Bytes cs) pre.length := by
  rw [isBoundary, getElem_start]
  cases cs with
  | nil => simp [utf8Bytes]
  | cons c cs =>
    obtain ⟨x, xs, eq, first, -⟩ := utf8EncodeChar_cons c
    rw [utf8Bytes_cons, eq]
    simpa using first

/-- Between the offsets of whole characters lie the bytes of characters. -/
lemma slice_eq (pre cs rest : List Char) :
    slice? (utf8Bytes (pre ++ (cs ++ rest))) (utf8Bytes pre).length (utf8Bytes (pre ++ cs)).length =
      some (utf8Bytes cs) := by
  have start := isBoundary_append (utf8Bytes pre) (cs ++ rest)
  have stop := isBoundary_append (utf8Bytes (pre ++ cs)) rest
  rw [← utf8Bytes_append] at start stop
  rw [List.append_assoc] at stop
  have le : (utf8Bytes pre).length ≤ (utf8Bytes (pre ++ cs)).length := by
    rw [utf8Bytes_append, List.length_append]
    exact Nat.le_add_right _ _
  rw [slice?, if_pos ⟨le, start, stop⟩]
  simp [utf8Bytes_append]

/-! ## Looking back -/

/-- In front of the offset where a text ends stands its last byte. -/
lemma getElem_last {pre : List UInt8} (some : pre ≠ []) (rest : List UInt8) :
    (pre ++ rest)[pre.length - 1]? = pre.getLast? := by
  obtain ⟨front, x, rfl⟩ := (List.eq_nil_or_concat pre).resolve_left some
  simp

/-- Only the empty text has no bytes. -/
lemma utf8Bytes_eq_nil {cs : List Char} : utf8Bytes cs = [] ↔ cs = [] := by
  constructor
  · intro h
    cases cs with
    | nil => rfl
    | cons c cs =>
      obtain ⟨x, xs, eq, -, -⟩ := utf8EncodeChar_cons c
      rw [utf8Bytes_cons, eq] at h
      cases h
  · rintro rfl
    rfl

/-- The byte in front of an offset shows the character there. -/
lemma Shows.behind {p : UInt8 → Bool} {q : Char → Bool} (h : Shows p q) (before : List Char)
    (rest : List UInt8) :
    (0 < (utf8Bytes before.reverse).length ∧
      (utf8Bytes before.reverse ++ rest)[(utf8Bytes before.reverse).length - 1]?.any p) ↔
        before.head?.any q := by
  have last := h.last before.reverse
  rw [List.getLast?_reverse] at last
  by_cases empty : utf8Bytes before.reverse = []
  · rw [utf8Bytes_eq_nil, List.reverse_eq_nil_iff] at empty
    subst empty
    simp [utf8Bytes]
  · rw [getElem_last empty, last, and_iff_right (List.length_pos_iff.2 empty)]

/-- The bytes in front of a literal tell whether it has escapes. -/
lemma hasEscapes_eq (before : List Char) (rest : List UInt8) :
    hasEscapes (utf8Bytes before.reverse ++ rest) (utf8Bytes before.reverse).length =
      isEscapeLiteral before := by
  rw [hasEscapes, Bool.eq_iff_iff, decide_eq_true_iff]
  cases before with
  | nil => simp [utf8Bytes, isEscapeLiteral]
  | cons e before =>
    have whole : utf8Bytes (e :: before).reverse =
        utf8Bytes before.reverse ++ String.utf8EncodeChar e := by
      rw [List.reverse_cons, utf8Bytes_append]
      exact congrArg _ (List.append_nil _)
    by_cases ascii : isAscii e
    · have behind := Shows.nameChar.behind before (byteOf e :: rest)
      have here : (utf8Bytes before.reverse ++ byteOf e :: rest)[(utf8Bytes before.reverse).length]? =
          some (byteOf e) := getElem_start _ _
      rw [whole, utf8EncodeChar_of_isAscii ascii, List.append_assoc, List.singleton_append,
        List.length_append, List.length_singleton, Nat.add_sub_cancel, here, isEscapeLiteral]
      generalize (utf8Bytes before.reverse).length = n at *
      rw [show n + 1 - 2 = n - 1 by omega, Option.some_inj, Option.some_inj,
        byteOf_inj ascii (by decide), byteOf_inj ascii (by decide), Bool.and_eq_true,
        Bool.not_eq_true', Bool.eq_false_iff, Ne, ← behind]
      simp only [Bool.or_eq_true, decide_eq_true_eq]
      constructor
      · rintro ⟨-, letter, first⟩
        exact ⟨letter, fun name => first.elim (fun small => by omega) fun other => other name.2⟩
      · rintro ⟨letter, other⟩
        refine ⟨Nat.succ_pos n, letter, ?_⟩
        rw [or_iff_not_imp_left]
        exact fun large name => other ⟨by omega, name⟩
    · have other {d : Char} (h : isAscii d) : e ≠ d := by
        rintro rfl
        exact ascii h
      have no {d : Char} (h : isAscii d) :
          ¬ (0 < (utf8Bytes (e :: before).reverse).length ∧
            (utf8Bytes (e :: before).reverse ++ rest)[(utf8Bytes (e :: before).reverse).length - 1]? =
              some (byteOf d)) := by
        rintro ⟨some, byte⟩
        have shown := (Shows.char h).behind (e :: before) rest
        rw [byte] at shown
        exact other h (by simpa using shown.1 ⟨some, by simp⟩)
      rw [isEscapeLiteral]
      constructor
      · rintro ⟨some, upper | lower, -⟩
        · exact absurd ⟨some, upper⟩ (no (by decide))
        · exact absurd ⟨some, lower⟩ (no (by decide))
      · intro h
        simp [other (d := 'E') (by decide), other (d := 'e') (by decide)] at h

/-- A tag that starts with a character of names goes on to the next dollar sign, if only such characters are
between, and does not start with a digit. -/
lemma dollarTag_cons {c : Char} (name : isNameChar c) (cs : List Char) :
    (dollarTag? (c :: cs)).map (fun (tag, _) => tag.length + 2) =
      if ¬ c.isDigit ∧ (cs.dropWhile isNameChar).head? = some '$' then
        some ((cs.takeWhile isNameChar).length + 3)
      else none := by
  unfold dollarTag?
  rw [List.takeWhile_cons_of_pos name, List.dropWhile_cons_of_pos name]
  rcases rest : cs.dropWhile isNameChar with _ | ⟨d, body⟩
  · simp
  by_cases dollar : d = '$'
  · subst dollar
    by_cases digit : c.isDigit <;> simp [digit]
  · simp [dollar]

/-- No tag starts with any other character but a dollar sign. -/
lemma dollarTag_cons_eq_none {c : Char} (name : isNameChar c = false) (other : c ≠ '$')
    (cs : List Char) : dollarTag? (c :: cs) = none := by
  unfold dollarTag?
  rw [List.dropWhile_cons_of_neg (Bool.eq_false_iff.1 name)]
  simp [other]

/-- Bytes tell which characters a tag may start with. -/
lemma Shows.letter : Shows (fun x => isNameByte x && !decide (byteOf '0' ≤ x ∧ x ≤ byteOf '9'))
    (fun c => isNameChar c && !c.isDigit) := by
  constructor
  · intro c ascii
    exact isAscii_induction (fun c =>
      (isNameByte (byteOf c) && !decide (byteOf '0' ≤ byteOf c ∧ byteOf c ≤ byteOf '9')) =
        (isNameChar c && !c.isDigit)) (by decide +kernel) ascii
  · intro x wide
    rw [Shows.nameChar.byte x wide]
    rfl
  · intro c other
    rw [Shows.nameChar.other c other]
    rfl

/-- Reading bytes, the tag at a dollar sign is found as it is when characters are read, unless the sign
belongs to a name. -/
lemma tagSize_eq (before cs : List Char) :
    tagSize? (utf8Bytes before.reverse ++ utf8Bytes ('$' :: cs)) (utf8Bytes before.reverse).length =
      if before.head?.any isNameChar then none
      else (dollarTag? cs).map fun (tag, _) => tag.length + 2 := by
  have sign : utf8Bytes ('$' :: cs) = byteOf '$' :: utf8Bytes cs := rfl
  rw [tagSize?]
  simp only [Shows.nameChar.behind before]
  generalize utf8Bytes before.reverse = pre
  split
  · rfl
  rw [sign, getElem_second]
  cases cs with
  | nil => rfl
  | cons c cs =>
    obtain ⟨x, xs, eq, -, -⟩ := utf8EncodeChar_cons c
    have shows {p : UInt8 → Bool} {q : Char → Bool} (h : Shows p q) : p x = q c := by
      have first := h.head (c :: cs)
      rwa [utf8Bytes_cons, eq] at first
    have dollar : x = byteOf '$' ↔ c = '$' := decide_eq_decide.1 (shows (Shows.char (by decide)))
    have letter : (isNameByte x ∧ ¬ (byteOf '0' ≤ x ∧ x ≤ byteOf '9')) ↔ isNameChar c ∧ ¬ c.isDigit := by
      simpa only [Bool.and_eq_true, Bool.not_eq_true', decide_eq_false_iff_not, Bool.not_eq_true]
        using Bool.eq_iff_iff.1 (shows Shows.letter)
    by_cases second : c = '$'
    · subst second
      have sign : utf8Bytes ('$' :: cs) = byteOf '$' :: utf8Bytes cs := rfl
      rw [sign]
      rfl
    by_cases name : isNameChar c
    · have one : utf8Bytes (c :: cs) = byteOf c :: utf8Bytes cs := by
        rw [utf8Bytes_cons, utf8EncodeChar_of_isAscii (isAscii_of_isNameChar name)]
        rfl
      have ascii := isAscii_of_isNameChar name
      have x_eq : x = byteOf c :=
        (List.cons.inj (eq.symm.trans (utf8EncodeChar_of_isAscii ascii))).1
      have drop : (pre ++ byteOf '$' :: byteOf c :: utf8Bytes cs).drop (pre.length + 2) =
          utf8Bytes cs := by simp
      have tag : (cs.takeWhile isNameChar).all isAscii :=
        List.all_eq_true.2 fun d mem =>
          isAscii_of_isNameChar (List.all_eq_true.1 List.all_takeWhile d mem)
      -- Behind the tag stands the byte of the character that ends it.
      have behind : (pre ++ byteOf '$' :: byteOf c :: utf8Bytes cs)[pre.length + 2 +
          (cs.takeWhile isNameChar).length]? = (utf8Bytes (cs.dropWhile isNameChar)).head? := by
        rw [← List.getElem?_drop, drop, ← length_utf8Bytes tag]
        nth_rewrite 1 [← List.takeWhile_append_dropWhile (p := isNameChar) (l := cs)]
        rw [utf8Bytes_append, getElem_start]
      rw [one, List.head?_cons]
      show (if byteOf c = byteOf '$' then some 2
        else if isNameByte (byteOf c) ∧ ¬ (byteOf '0' ≤ byteOf c ∧ byteOf c ≤ byteOf '9') then _
        else none) = _
      rw [x_eq] at dollar letter
      rw [if_neg (second ∘ dollar.1), drop, Shows.nameChar.takeWhile, length_utf8Bytes tag]
      simp only [letter, behind, head_eq_some_iff (m := '$') (by decide)]
      rw [dollarTag_cons name]
      simp only [name, true_and, ite_and]
    · have none := dollarTag_cons_eq_none (Bool.eq_false_iff.2 name) second cs
      rw [none, utf8Bytes_cons, eq]
      show (if x = byteOf '$' then some 2 else _) = _
      rw [if_neg (second ∘ dollar.1), if_neg (fun h => name (letter.1 h).1)]
      rfl

/-- Reading bytes, a body between two tags ends where it does when characters are read. -/
lemma bodyEnd_eq {tag : List Char} (named : IsTag tag) (pre body : List Char) :
    bodyEnd? (utf8Bytes (pre ++ (bodyMark tag ++ body))) (utf8Bytes pre).length (tag.length + 2) =
      some (utf8Bytes (pre ++ (bodyMark tag ++ (throughText (bodyMark tag) body).1))).length := by
  have ascii : (bodyMark tag).all isAscii := by
    have inner : ∀ c ∈ tag, isAscii c :=
      fun c mem => isAscii_of_isNameChar (List.all_eq_true.1 named.name c mem)
    refine List.all_eq_true.2 fun c mem => ?_
    rw [bodyMark, List.mem_cons, List.mem_append, List.mem_singleton] at mem
    rcases mem with rfl | mem | rfl
    · decide
    · exact inner c mem
    · decide
  have size : (bodyMark tag).length = tag.length + 2 := by simp [bodyMark]
  have stop : (utf8Bytes pre).length + (tag.length + 2) = (utf8Bytes (pre ++ bodyMark tag)).length := by
    rw [utf8Bytes_append, List.length_append, length_utf8Bytes ascii, size]
  have mark := slice_eq pre (bodyMark tag) body
  have rest := slice_eq (pre ++ bodyMark tag) body []
  have found := find_eq ascii (List.cons_ne_nil _ _) body
  rw [List.append_nil, List.append_assoc] at rest
  rw [bodyEnd?, stop, mark, rest]
  show (match find? (utf8Bytes (bodyMark tag)) (utf8Bytes body) with
    | none => some (utf8Bytes (pre ++ (bodyMark tag ++ body))).length
    | some k => some ((utf8Bytes (pre ++ bodyMark tag)).length + k + (tag.length + 2))) = _
  rw [← List.append_assoc pre, ← List.append_assoc pre, utf8Bytes_append _ body,
    utf8Bytes_append _ (throughText _ body).1, List.length_append, List.length_append, ← found, size]
  cases find? (utf8Bytes (bodyMark tag)) (utf8Bytes body) with
  | none => rfl
  | some k => exact congrArg some (Nat.add_assoc _ _ _)

/-! ## The spans of a statement -/

section Quotation
variable (pre cs : List Char)

/-- A mark of ASCII is one byte between the bytes around it. -/
lemma utf8Bytes_mark {m : Char} (ascii : isAscii m) :
    utf8Bytes (pre ++ m :: cs) = (utf8Bytes pre ++ [byteOf m]) ++ utf8Bytes cs := by
  rw [utf8Bytes_append, utf8Bytes_cons, utf8EncodeChar_of_isAscii ascii, List.append_assoc]

/-- From behind its opening mark, a quoted part ends where it does when characters are read. -/
lemma markEnd_quote {m : Char} (ascii : isAscii m) (escapes : Bool) :
    markEnd (utf8Bytes (pre ++ m :: cs)) (byteOf m) escapes ((utf8Bytes pre).length + 1) =
      (utf8Bytes (pre ++ m :: (throughMark m escapes cs).1)).length := by
  have next : (utf8Bytes pre).length + 1 = (utf8Bytes pre ++ [byteOf m]).length := by
    rw [List.length_append, List.length_singleton]
  rw [utf8Bytes_mark pre cs ascii, utf8Bytes_mark pre _ ascii, next, markEnd_eq ascii]

/-- From its first dash on, a comment ends with the line. -/
lemma lineEnd_dash :
    lineEnd (utf8Bytes (pre ++ '-' :: cs)) (utf8Bytes pre).length =
      (utf8Bytes (pre ++ '-' :: (throughLine cs).1)).length := by
  have line : '-' :: (throughLine cs).1 = (throughLine ('-' :: cs)).1 := rfl
  rw [line, utf8Bytes_append, utf8Bytes_append, lineEnd_eq]

/-- From its slash on, a comment ends where it does when characters are read. -/
lemma commentEnd_slash :
    commentEnd? (utf8Bytes (pre ++ '/' :: '*' :: cs)) 0 (utf8Bytes pre).length =
      some (utf8Bytes (pre ++ '/' :: '*' :: (throughComment 0 cs).1)).length := by
  have split (ds : List Char) : utf8Bytes (pre ++ '/' :: '*' :: ds) =
      (utf8Bytes pre ++ utf8Bytes ['/', '*']) ++ utf8Bytes ds := by
    rw [List.append_assoc, ← utf8Bytes_append, ← utf8Bytes_append]
    rfl
  have opens : commentEnd? _ 0 _ = _ := commentEnd_opens (utf8Bytes pre) cs
  rw [← utf8Bytes_append] at opens
  rw [opens, split, split, commentEnd_eq]

end Quotation

/-- Reading bytes, the same quotation is found at a character, and its end is the offset behind it. -/
lemma quotation_eq (before : List Char) (c : Char) (cs : List Char) :
    quotation? (utf8Bytes (before.reverse ++ c :: cs)) (utf8Bytes before.reverse).length =
      some ((quotedAt? before (c :: cs)).map fun (kind, taken, _) =>
        (kind, (utf8Bytes (before.reverse ++ taken)).length)) := by
  have whole : utf8Bytes (before.reverse ++ c :: cs) =
      utf8Bytes before.reverse ++ utf8Bytes (c :: cs) := utf8Bytes_append _ _
  have first {m : Char} (h : isAscii m) :
      (utf8Bytes (before.reverse ++ c :: cs))[(utf8Bytes before.reverse).length]? = some (byteOf m) ↔
        c = m := by
    rw [whole, getElem_start, head_eq_some_iff h, List.head?_cons, Option.some_inj]
  have second {m n : Char} (hm : isAscii m) (hn : isAscii n) :
      ((utf8Bytes (before.reverse ++ c :: cs))[(utf8Bytes before.reverse).length]? = some (byteOf m) ∧
        (utf8Bytes (before.reverse ++ c :: cs))[(utf8Bytes before.reverse).length + 1]? =
          some (byteOf n)) ↔ c = m ∧ cs.head? = some n := by
    rw [first hm]
    refine and_congr_right fun eq => ?_
    subst eq
    rw [whole, utf8Bytes_cons, utf8EncodeChar_of_isAscii hm, List.singleton_append, getElem_second,
      head_eq_some_iff hn]
  simp only [quotation?, quotedAt?, first (m := apostrophe) (by decide),
    first (m := '"') (by decide), first (m := '$') (by decide),
    second (m := '-') (n := '-') (by decide) (by decide),
    second (m := '/') (n := '*') (by decide) (by decide)]
  split
  · next literal =>
    subst literal
    rw [markEnd_quote _ _ (by decide), whole, hasEscapes_eq]
    rfl
  split
  · next name =>
    subst name
    rw [markEnd_quote _ _ (by decide)]
    rfl
  split
  · next line =>
    obtain rfl := line.1
    rw [lineEnd_dash]
    rfl
  split
  · next block =>
    obtain ⟨rfl, star⟩ := block
    obtain ⟨cs, rfl⟩ := List.head?_eq_some_iff.1 star
    rw [commentEnd_slash]
    rfl
  by_cases dollar : c = '$'
  · subst dollar
    rw [if_pos rfl, whole, tagSize_eq]
    by_cases apart : before.head?.any isNameChar
    · rw [if_pos apart, if_neg fun h => h.2 apart]
      rfl
    rw [if_neg apart, if_pos ⟨rfl, apart⟩]
    rcases tagged : dollarTag? cs with _ | ⟨tag, body⟩
    · rfl
    obtain ⟨rfl, named⟩ := dollarTag_eq_some_iff.1 tagged
    have mark : '$' :: (tag ++ '$' :: body) = bodyMark tag ++ body := by simp [bodyMark]
    have ends := bodyEnd_eq named before.reverse body
    rw [← mark, whole] at ends
    show (bodyEnd? _ _ (tag.length + 2)).map _ = _
    rw [ends]
    rfl
  · rw [if_neg dollar, if_neg fun h => dollar h.1]
    rfl

/-- Nothing is quoted at a byte of no character of ASCII. -/
lemma quotation_wide {b : List UInt8} {i : Nat} {x : UInt8} (h : b[i]? = some x) (wide : 0x80 ≤ x) :
    quotation? b i = some none := by
  have other {d : Char} (ascii : isAscii d) : b[i]? ≠ some (byteOf d) := by
    rw [h, Ne, Option.some_inj]
    exact ne_byteOf wide ascii
  rw [quotation?, if_neg (other (by decide)), if_neg (other (by decide)),
    if_neg fun h => other (by decide) h.1, if_neg fun h => other (by decide) h.1,
    if_neg (other (by decide))]

/-- Where nothing is quoted, the code goes on. -/
lemma spansFrom_code {b : List UInt8} {start i : Nat} (inside : i < b.length)
    (none : quotation? b i = some none) : spansFrom? b start i = spansFrom? b start (i + 1) := by
  rw [spansFrom?, dif_pos inside, none]

/-- Bytes inside of a character belong to the code. -/
lemma spansFrom_skip (start : Nat) (pre : List UInt8) {bs : List UInt8} (wide : ∀ x ∈ bs, 0x80 ≤ x)
    (rest : List UInt8) :
    spansFrom? (pre ++ (bs ++ rest)) start pre.length =
      spansFrom? (pre ++ (bs ++ rest)) start (pre ++ bs).length := by
  refine skip_wide (f := fun b => spansFrom? b start) (fun pre x rest wide => ?_) pre wide rest
  exact spansFrom_code (by simp) (quotation_wide (getElem_start pre _) wide)

/-- A lexeme in UTF-8. -/
def Lexeme.span (l : Lexeme) : LexemeKind × List UInt8 := (l.kind, utf8Bytes l.text)

/-- A longer text has more bytes. -/
lemma length_utf8Bytes_lt (pre : List Char) {cs : List Char} (some : cs ≠ []) :
    (utf8Bytes pre).length < (utf8Bytes (pre ++ cs)).length := by
  rw [utf8Bytes_append, List.length_append]
  exact Nat.lt_add_of_pos_right (List.length_pos_iff.2 (some ∘ utf8Bytes_eq_nil.1))

/-- The bytes of the code that was gathered are a span. -/
lemma codeSpan_eq (code pre cs : List Char) :
    codeSpan? (utf8Bytes ((code ++ pre).reverse ++ cs)) (utf8Bytes pre.reverse).length
        (utf8Bytes (code ++ pre).reverse).length =
      some ((gathered code).map Lexeme.span) := by
  rw [codeSpan?, List.reverse_append]
  cases code with
  | nil =>
    rw [List.reverse_nil, List.append_nil, if_neg (Nat.lt_irrefl _)]
    rfl
  | cons c code =>
    rw [if_pos (length_utf8Bytes_lt _ (by simp)), List.append_assoc, slice_eq]
    rfl

/-- From any character on, the spans are the lexemes in UTF-8. -/
lemma spansFrom_eq (code pre cs : List Char) :
    spansFrom? (utf8Bytes ((code ++ pre).reverse ++ cs)) (utf8Bytes pre.reverse).length
        (utf8Bytes (code ++ pre).reverse).length =
      some ((lexemesFrom code (code ++ pre) cs).map Lexeme.span) := by
  generalize around : code ++ pre = before
  fun_induction lexemesFrom code before cs generalizing pre with
  | case1 code before =>
    subst around
    have last := codeSpan_eq code pre []
    rw [List.append_nil] at last ⊢
    rw [spansFrom?, dif_neg (Nat.lt_irrefl _), last]
  | case2 code before c cs kind taken rest found ih =>
    subst around
    obtain ⟨split, -⟩ := quotedAt_append found
    have filled : taken ≠ [] := by
      rintro rfl
      rw [List.nil_append] at split
      exact Nat.lt_irrefl _ (split ▸ length_quotedAt_lt found)
    have quotation := quotation_eq (code ++ pre) c cs
    have part := slice_eq (code ++ pre).reverse taken rest
    have more := ih (taken.reverse ++ (code ++ pre)) rfl
    rw [List.reverse_append, List.reverse_reverse, List.append_assoc, split] at more
    rw [split] at part
    rw [found] at quotation
    rw [spansFrom?, dif_pos (length_utf8Bytes_lt _ (List.cons_ne_nil c cs)), quotation]
    dsimp only [Option.map_some]
    rw [dif_pos (length_utf8Bytes_lt _ filled), codeSpan_eq, part, more, List.map_append]
    rfl
  | case3 code before c cs none ih =>
    have next := ih pre (congrArg (c :: ·) around)
    have quotation := quotation_eq before c cs
    rw [none] at quotation
    rw [spansFrom_code (length_utf8Bytes_lt _ (List.cons_ne_nil c cs)) quotation]
    obtain ⟨x, xs, eq, -, wide⟩ := utf8EncodeChar_cons c
    have skip := spansFrom_skip (utf8Bytes pre.reverse).length (utf8Bytes before.reverse ++ [x]) wide
      (utf8Bytes cs)
    have bytes : utf8Bytes [c] = [x] ++ xs := (List.append_nil _).trans eq
    rw [List.reverse_cons, List.append_assoc, List.singleton_append] at next
    rw [← next, utf8Bytes_append, utf8Bytes_append before.reverse [c], utf8Bytes_cons, eq, bytes]
    simpa using skip

/-- The spans of a statement are its lexemes. -/
theorem spans_utf8Bytes (sql : List Char) :
    spans? (utf8Bytes sql) = some ((lexemes sql).map Lexeme.span) := spansFrom_eq [] [] sql

/-- A statement is cut into its code and its quotations: reading its bytes finds them without fault,
there is exactly one such list, and in code is no mark that could start a quotation. -/
theorem statement_is_cut (sql : List Char) :
    spans? (utf8Bytes sql) = some ((lexemes sql).map Lexeme.span) ∧
      (∀ ls, IsScan sql ls ↔ ls = lexemes sql) ∧
        ∀ t, ⟨.code, t⟩ ∈ lexemes sql →
          apostrophe ∉ t ∧ '"' ∉ t ∧ ¬ ['-', '-'] <:+: t ∧ ¬ ['/', '*'] <:+: t := by
  have scan := isScan_lexemes sql
  refine ⟨spans_utf8Bytes sql, fun ls => ⟨IsScan.eq_lexemes, ?_⟩, fun t => scan.clean⟩
  rintro rfl
  exact scan

end Tenancy.Sql
