import Tenancy.Text.Utf8

/-!
# Strings of TOML

A string stands between quotes, with escapes, or between apostrophes, as it is; between three of
either it may span lines. The reading functions take the text after the opening mark. They expect
that lines end in line feeds alone and that the text has no other control character but tabs.

`stringText` writes a string in the first of the four styles that needs no escapes.
-/

namespace Tenancy.Toml
open Tenancy.Text

/-- The delete character. -/
def delete : Char := '\x7f'

/-- The apostrophe. -/
def apostrophe : Char := '\x27'

/-- The character after a backslash, where one character decides. -/
def unescape? (c : Char) : Option Char :=
  if c = 'b' then some '\x08'
  else if c = 't' then some '\t'
  else if c = 'n' then some '\n'
  else if c = 'f' then some '\x0c'
  else if c = 'r' then some '\r'
  else if c = '"' ∨ c = '\\' then some c
  else none

/-- The character of a code point in hexadecimal digits. -/
def codePoint? (digits : List Char) : Option Char := do
  let n ← digits.foldlM (fun n c => (hexValue? c).map (n * 16 + ·)) 0
  if n.isValidChar then some (Char.ofNat n) else none

/-- Puts a character in front of what was read. -/
def cons (c : Char) (r : List Char × List Char) : List Char × List Char := (c :: r.1, r.2)

/-- Reads an escape after its backslash: the character and what follows. -/
def readEscape? : List Char → Option (Char × List Char)
  | 'u' :: a :: b :: c :: d :: cs => (codePoint? [a, b, c, d]).map (·, cs)
  | 'U' :: a :: b :: c :: d :: e :: f :: g :: h :: cs =>
    (codePoint? [a, b, c, d, e, f, g, h]).map (·, cs)
  | c :: cs => (unescape? c).map (·, cs)
  | [] => none

/-- What follows an escape is shorter than the text. -/
theorem length_readEscape_lt {cs rest : List Char} {c : Char} (h : readEscape? cs = some (c, rest)) :
    rest.length < cs.length := by
  unfold readEscape? at h
  split at h <;> simp only [Option.map_eq_some_iff, Prod.mk.injEq, reduceCtorEq] at h <;>
    obtain ⟨_, _, _, rfl⟩ := h <;> simp only [List.length_cons] <;> omega

/-- Reads a string on one line after its opening quote. -/
def readBasic? : List Char → Option (List Char × List Char)
  | [] => none
  | c :: cs =>
    if c = '"' then some ([], cs)
    else if c = '\n' then none
    else if c = '\\' then
      match _h : readEscape? cs with
      | some (e, rest) => (readBasic? rest).map (cons e)
      | none => none
    else (readBasic? cs).map (cons c)
termination_by cs => cs.length
decreasing_by
  · have := length_readEscape_lt _h
    simp only [List.length_cons]; omega
  · simp

/-- Reads a string on one line after its opening apostrophe. -/
def readLiteral? : List Char → Option (List Char × List Char)
  | [] => none
  | c :: cs =>
    if c = apostrophe then some ([], cs)
    else if c = '\n' then none
    else (readLiteral? cs).map (cons c)

/-- Up to two marks that stand right after three of them belong to the string that these close. -/
def closing (mark : Char) : List Char → List Char × List Char
  | a :: b :: cs =>
    if a = mark then if b = mark then ([a, b], cs) else ([a], b :: cs) else ([], a :: b :: cs)
  | [a] => if a = mark then ([a], []) else ([], [a])
  | [] => ([], [])

/-- Whether a line ends right here, but for blanks. -/
def atLineEnd (cs : List Char) : Bool :=
  (cs.dropWhile fun c => c = ' ' ∨ c = '\t').head? = some '\n'

/-- Reads a string over lines up to three quotes. A backslash at the end of a line takes all blanks
and line ends with it that follow; `skipping` holds while it does. -/
def readBasicLines? (skipping : Bool) : List Char → Option (List Char × List Char)
  | [] => none
  | c :: cs =>
    if skipping ∧ (c = ' ' ∨ c = '\t' ∨ c = '\n') then readBasicLines? true cs
    else if ['"', '"', '"'].isPrefixOf (c :: cs) then some (closing '"' (cs.drop 2))
    else if c = '\\' then
      if atLineEnd cs then readBasicLines? true cs
      else
        match _h : readEscape? cs with
        | some (e, rest) => (readBasicLines? false rest).map (cons e)
        | none => none
    else (readBasicLines? false cs).map (cons c)
termination_by cs => cs.length
decreasing_by
  · simp
  · simp
  · have := length_readEscape_lt _h
    simp only [List.length_cons]; omega
  · simp

/-- Reads a string over lines up to three apostrophes. -/
def readLiteralLines? : List Char → Option (List Char × List Char)
  | [] => none
  | c :: cs =>
    if [apostrophe, apostrophe, apostrophe].isPrefixOf (c :: cs) then
      some (closing apostrophe (cs.drop 2))
    else (readLiteralLines? cs).map (cons c)

/-- The text without a line end in front. -/
def afterLineEnd : List Char → List Char
  | '\n' :: cs => cs
  | cs => cs

/-- Reads a string of any style. -/
def readString? : List Char → Option (List Char × List Char)
  | '"' :: '"' :: '"' :: cs => readBasicLines? false (afterLineEnd cs)
  | '"' :: cs => readBasic? cs
  | c :: cs =>
    if c ≠ apostrophe then none
    else if [apostrophe, apostrophe].isPrefixOf cs then readLiteralLines? (afterLineEnd (cs.drop 2))
    else readLiteral? cs
  | [] => none

/-! ## Writing -/

/-- A control character that must be escaped: neither a tab nor a line feed. -/
def isControl (c : Char) : Bool := (c.toNat < 0x20 && c ≠ '\t' && c ≠ '\n') || c = delete

/-- Whether a text has `n` marks in a row. -/
def hasRun (mark : Char) (n : Nat) : List Char → Bool
  | [] => n = 0
  | c :: cs => (List.replicate n mark).isPrefixOf (c :: cs) || hasRun mark n cs

/-- A character with an escape of one letter. -/
def escapeLetter? (c : Char) : Option Char :=
  if c = '\x08' then some 'b'
  else if c = '\t' then some 't'
  else if c = '\n' then some 'n'
  else if c = '\x0c' then some 'f'
  else if c = '\r' then some 'r'
  else if c = '\\' then some '\\'
  else none

/-- A character with the escapes of both styles with quotes, where it needs one. -/
def escaped (c : Char) : List Char :=
  match escapeLetter? c with
  | some letter => ['\\', letter]
  | none =>
    if isControl c then ['\\', 'u', '0', '0'] ++ hexByte true (UInt8.ofNat c.toNat) else [c]

/-- A text for one line. -/
def escapedLine (cs : List Char) : List Char :=
  cs.flatMap fun c => if c = '"' then ['\\', '"'] else escaped c

/-- A text over lines, after a run of `quotes` quotes. The third quote of a run is escaped. -/
def escapedLines (quotes : Nat) : List Char → List Char
  | [] => []
  | c :: cs =>
    if c = '"' then
      if quotes = 2 then '\\' :: '"' :: escapedLines 0 cs else '"' :: escapedLines (quotes + 1) cs
    else if c = '\n' then c :: escapedLines 0 cs
    else escaped c ++ escapedLines 0 cs

/-- A string as it is written: in the first style that fits of a line between quotes, a line between
apostrophes, and the same over lines; if none fits, with escapes. -/
def stringText (s : String) : String :=
  let cs := s.toList
  let lines := '\n' ∈ cs
  let control := cs.any isControl
  let slash := '\\' ∈ cs
  let opening := if lines then ['\n'] else []
  let quotes := List.replicate 3 '"'
  let apostrophes := List.replicate 3 apostrophe
  String.ofList <|
    if ¬ '"' ∈ cs ∧ ¬ slash ∧ ¬ lines ∧ ¬ control then '"' :: escapedLine cs ++ ['"']
    else if ¬ apostrophe ∈ cs ∧ ¬ lines ∧ ¬ control then apostrophe :: cs ++ [apostrophe]
    else if ¬ slash ∧ ¬ control ∧ ¬ hasRun '"' 3 cs then
      quotes ++ opening ++ escapedLines 0 cs ++ quotes
    else if ¬ control ∧ ¬ hasRun apostrophe 3 cs then apostrophes ++ opening ++ cs ++ apostrophes
    else if lines then quotes ++ opening ++ escapedLines 0 cs ++ quotes
    else '"' :: escapedLine cs ++ ['"']

end Tenancy.Toml
