import Tenancy.Proofs.Registry.Bindings
import Tenancy.Proofs.Toml.Strings
import Tenancy.Registry.File

/-!
# The document of a registry

What is written of a registry is read back, whatever its tenants are called: `pairs_text`, and so
`Sound.ofText_text`. The document is cut into statements, three for each tenant (`statements_blocks`), and
these are put together to a list of tables (`assemble_content`).
-/

namespace Tenancy.Registry
open Toml

/-! ## The text -/

/-- The line above a tenant's entries. -/
def headerLine : List Char := ['[', '[', 't', 'e', 'n', 'a', 'n', 't', 's', ']', ']', '\n']

/-- The line of a tenant's name. -/
def nameLine (name : String) (rest : List Char) : List Char :=
  'n' :: 'a' :: 'm' :: 'e' :: ' ' :: '=' :: ' ' :: ((stringText name).toList ++ '\n' :: rest)

/-- The line of a tenant's prefix. -/
def prefixLine (found : String) (rest : List Char) : List Char :=
  'p' :: 'r' :: 'e' :: 'f' :: 'i' :: 'x' :: ' ' :: '=' :: ' ' :: ((stringText found).toList ++ '\n' :: rest)

/-- The lines of some tenants, with an empty one between each two. -/
def blocksChars : List (String × String) → List Char
  | [] => []
  | [e] => headerLine ++ nameLine e.1 (prefixLine e.2 [])
  | e :: more => headerLine ++ nameLine e.1 (prefixLine e.2 ('\n' :: blocksChars more))

/-- The text of a registry is one block for each binding. -/
lemma text_eq {r : Registry} (some : r.toPairs ≠ []) :
    r.text = documentText [] (r.toPairs.map fun e => block e.1 e.2) := by
  rcases eq : r.toPairs with _ | ⟨e, more⟩
  · exact absurd eq some
  · rw [text, eq]

/-- The lines of a tenant, as they are written. -/
lemma toList_block (e : String × String) :
    (s!"{(block e.1 e.2).header}\n" ++ entriesText (block e.1 e.2).entries).toList =
      headerLine ++ nameLine e.1 (prefixLine e.2 []) := by
  simp [block, entriesText, Entry.text, toString, headerLine, nameLine, prefixLine]

/-- The blocks have blank lines between them. -/
lemma intercalate_blocks (pairs : List (String × String)) :
    ['\n'].intercalate (pairs.map fun e => headerLine ++ nameLine e.1 (prefixLine e.2 [])) =
      blocksChars pairs := by
  induction pairs with
  | nil => rfl
  | cons e more ih =>
    cases more with
    | nil => simp [blocksChars]
    | cons f more =>
      rw [List.map_cons] at ih ⊢
      rw [List.map_cons, List.intercalate_cons_cons, ih]
      simp [blocksChars, nameLine, prefixLine]

/-- The characters of the text are those of the blocks. -/
lemma toList_text {r : Registry} (some : r.toPairs ≠ []) : r.text.toList = blocksChars r.toPairs := by
  rw [text_eq some, documentText, String.toList_intercalate, ← intercalate_blocks]
  simp [Function.comp_def, ← toList_block]

/-- What stands behind the lines of a tenant are those of the others. -/
lemma blocksChars_cons (e : String × String) (more : List (String × String)) :
    ∃ rest, blocksChars (e :: more) = headerLine ++ nameLine e.1 (prefixLine e.2 rest) ∧
      skipLines false rest = blocksChars more := by
  cases more with
  | nil => exact ⟨[], rfl, rfl⟩
  | cons f more =>
    have starts : ∃ cs, blocksChars (f :: more) = '[' :: cs := by
      cases more with
      | nil => exact ⟨_, rfl⟩
      | cons => exact ⟨_, rfl⟩
    obtain ⟨cs, eq⟩ := starts
    refine ⟨'\n' :: blocksChars (f :: more), rfl, ?_⟩
    rw [eq]
    rfl

/-! ## Statements -/

/-- The statements that a document of some tenants makes. -/
def content (pairs : List (String × String)) : List Statement :=
  pairs.flatMap fun e =>
    [.header ["tenants"] true, .entry ["name"] (.str e.1), .entry ["prefix"] (.str e.2)]

/-- A line with one statement on it. -/
lemma statements_line {bound : Nat} {c : Char} {cs line rest : List Char} {statement : Statement}
    (starts : skipLines false cs = c :: line)
    (h : readStatement? (c :: line) = some (statement, '\n' :: rest)) :
    statements? (bound + 1) cs = (statements? bound rest).map (statement :: ·) := by
  rw [statements?, starts]
  dsimp only
  rw [h]
  change (statements? bound rest >>= fun more => some (statement :: more)) = _
  cases statements? bound rest with
  | none => rfl
  | some more => rfl

/-- A value that is a string as it is written. -/
lemma readValue_stringText (s : String) (rest : List Char) :
    readValue? maxDepth (skipGap (' ' :: ((stringText s).toList ++ '\n' :: rest))) =
      some (.str s, '\n' :: rest) := by
  have reads : readString? ((stringText s).toList ++ '\n' :: rest) = some (s.toList, '\n' :: rest) :=
    readString_stringText s (by simp) (by simp [apostrophe])
  obtain ⟨c, cs, eq, mark⟩ := head_stringText s
  rw [eq] at reads ⊢
  have starts : skipGap (' ' :: (c :: cs ++ '\n' :: rest)) = c :: cs ++ '\n' :: rest := by
    rcases mark with rfl | rfl
    · rfl
    · rfl
  rw [starts, maxDepth, List.cons_append, readValue?, if_pos mark, ← List.cons_append, reads]
  simp

/-- The line with the name is read as one. -/
lemma readStatement_name (name : String) (rest : List Char) :
    readStatement? (nameLine name rest) = some (.entry ["name"] (.str name), '\n' :: rest) := by
  have key (cs : List Char) : readStatement? ('n' :: 'a' :: 'm' :: 'e' :: ' ' :: '=' :: cs) =
      (readValue? maxDepth (skipGap cs)).bind fun r => some (.entry ["name"] r.1, r.2) := rfl
  rw [nameLine, key, readValue_stringText]
  rfl

/-- The line with the prefix is read as one. -/
lemma readStatement_found (found : String) (rest : List Char) :
    readStatement? (prefixLine found rest) = some (.entry ["prefix"] (.str found), '\n' :: rest) := by
  have key (cs : List Char) :
      readStatement? ('p' :: 'r' :: 'e' :: 'f' :: 'i' :: 'x' :: ' ' :: '=' :: cs) =
        (readValue? maxDepth (skipGap cs)).bind fun r => some (.entry ["prefix"] r.1, r.2) := rfl
  rw [prefixLine, key, readValue_stringText]
  rfl

/-- What a document of some tenants is cut into. -/
lemma statements_blocks (pairs : List (String × String)) :
    ∀ (bound : Nat) (cs : List Char), 3 * pairs.length ≤ bound →
      skipLines false cs = blocksChars pairs → statements? bound cs = some (content pairs) := by
  induction pairs with
  | nil =>
    intro bound cs _ starts
    cases bound with
    | zero => rw [statements?, starts]; rfl
    | succ bound => rw [statements?, starts]; rfl
  | cons e more ih =>
    intro bound cs le starts
    obtain ⟨bound, rfl⟩ : ∃ b, bound = b + 1 + 1 + 1 := by
      rw [List.length_cons] at le
      exact ⟨bound - 3, by omega⟩
    obtain ⟨rest, eq, skips⟩ := blocksChars_cons e more
    have header : readStatement? (blocksChars (e :: more)) =
        some (.header ["tenants"] true, '\n' :: nameLine e.1 (prefixLine e.2 rest)) := by
      rw [eq]
      rfl
    rw [eq] at header
    rw [statements_line (starts.trans eq) header, statements_line rfl (readStatement_name e.1 _),
      statements_line rfl (readStatement_found e.2 rest), ih bound rest (by simp at le; omega) skips]
    rfl

/-! ## Tables -/

/-- The tables that a document of some tenants defines, behind `items` that are already there. -/
def tableItems (pairs : List (String × String)) : List Fields :=
  pairs.map fun e => [("name", .value (.str e.1)), ("prefix", .value (.str e.2))]

/-- No entries stand in front of the first block. -/
lemma leadingEntries_content (pairs : List (String × String)) :
    leadingEntries (content pairs) = ([], content pairs) := by
  cases pairs with
  | nil => rfl
  | cons => rfl

/-- A tenant's table is the last of the list, or the first if there is none yet. -/
lemma addTables_cons {root : Fields} (e : String × String) (more : List (String × String)) (bound : Nat)
    (items : List Fields) (h : root = [] ∧ items = [] ∨ root = [("tenants", .tables items)]) :
    addTables? (bound + 1) (content (e :: more)) root =
      addTables? bound (content more) [("tenants", .tables (items ++ tableItems [e]))] := by
  have entries : leadingEntries (.entry ["name"] (.str e.1) :: .entry ["prefix"] (.str e.2) :: content more) =
      ([(["name"], .str e.1), (["prefix"], .str e.2)], content more) := by
    rw [leadingEntries, leadingEntries, leadingEntries_content]
  have fields : Fields.insertAll? [(["name"], .str e.1), (["prefix"], .str e.2)] [] =
      some [("name", .value (.str e.1)), ("prefix", .value (.str e.2))] := rfl
  have added : addTable? ["tenants"] true [(["name"], .str e.1), (["prefix"], .str e.2)] root =
      some [("tenants", .tables (items ++ tableItems [e]))] := by
    rcases h with ⟨rfl, rfl⟩ | rfl
    · rfl
    · rfl
  change addTables? (bound + 1) (.header ["tenants"] true :: .entry ["name"] (.str e.1) ::
    .entry ["prefix"] (.str e.2) :: content more) root = _
  rw [addTables?, entries]
  change (do addTables? bound (content more) (← addTable? ["tenants"] true _ root) : Option _) = _
  rw [added]
  rfl

/-- Each block adds one table. -/
lemma addTables_content (pairs : List (String × String)) :
    ∀ (bound : Nat) (items : List Fields), pairs.length ≤ bound →
      addTables? bound (content pairs) [("tenants", .tables items)] =
        some [("tenants", .tables (items ++ tableItems pairs))] := by
  induction pairs with
  | nil =>
    intro bound items _
    rw [tableItems, List.map_nil, List.append_nil]
    cases bound with
    | zero => rfl
    | succ => rfl
  | cons e more ih =>
    intro bound items le
    obtain ⟨bound, rfl⟩ : ∃ b, bound = b + 1 := ⟨bound - 1, by simp at le; omega⟩
    rw [addTables_cons e more bound items (.inr rfl), ih bound _ (by simp at le; omega), List.append_assoc]
    rfl

/-- There are three lines for each binding. -/
lemma length_content (pairs : List (String × String)) : (content pairs).length = 3 * pairs.length := by
  simp [content, List.length_flatMap, mul_comm]

/-- The fields of a document of some tenants. -/
lemma assemble_content (e : String × String) (more : List (String × String)) :
    assemble? (content (e :: more)) = some [("tenants", .tables (tableItems (e :: more)))] := by
  unfold assemble?
  rw [leadingEntries_content]
  change addTables? (content (e :: more)).length (content (e :: more)) [] = _
  obtain ⟨bound, eq⟩ : ∃ b, (content (e :: more)).length = b + 1 := ⟨_, rfl⟩
  have enough := length_content (e :: more)
  rw [eq, List.length_cons] at enough
  rw [eq, addTables_cons e more bound [] (.inl ⟨rfl, rfl⟩), addTables_content more bound _ (by omega)]
  rfl

/-- What the tables say. -/
lemma pairs_tables (pairs : List (String × String)) :
    pairs? (fieldValues [("tenants", .tables (tableItems pairs))]) = some pairs := by
  change (tableValues (tableItems pairs)).mapM pair? = some pairs
  induction pairs with
  | nil => rfl
  | cons e more ih =>
    have head : pair? (.table (fieldValues [("name", .value (.str e.1)), ("prefix", .value (.str e.2))])) =
        some e := rfl
    change List.mapM pair? (.table (fieldValues [("name", .value (.str e.1)),
      ("prefix", .value (.str e.2))]) :: tableValues (tableItems more)) = _
    rw [List.mapM_cons, head, ih]
    rfl

/-! ## The whole document -/

/-- A text without carriage returns has line feeds alone at the ends of lines. -/
lemma plainLines_eq {cs : List Char} (h : '\r' ∉ cs) : plainLines cs = cs := by
  induction cs with
  | nil => rfl
  | cons c cs ih =>
    rw [List.mem_cons, not_or] at h
    rw [plainLines, ih h.2]
    rintro rest rfl
    exact absurd rfl h.1

/-- No control characters are in the blocks. -/
lemma isControl_blocks (pairs : List (String × String)) :
    ∀ c ∈ blocksChars pairs, isControl c = false := by
  have written (s : String) : ∀ c ∈ (stringText s).toList, isControl c = false := by
    simpa using isControl_stringText s
  have header : ∀ c ∈ headerLine, isControl c = false := by simp [headerLine, isControl, delete]
  have lines (e : String × String) {rest : List Char} (h : ∀ c ∈ rest, isControl c = false) :
      ∀ c ∈ headerLine ++ nameLine e.1 (prefixLine e.2 rest), isControl c = false := by
    simp only [nameLine, prefixLine, List.forall_mem_append, List.forall_mem_cons]
    exact ⟨header, rfl, rfl, rfl, rfl, rfl, rfl, rfl, written _, rfl, rfl, rfl, rfl, rfl, rfl, rfl, rfl, rfl,
      rfl, written _, rfl, h⟩
  induction pairs with
  | nil => simp [blocksChars]
  | cons e more ih =>
    cases more with
    | nil => exact lines e (by simp)
    | cons f more => exact lines e (List.forall_mem_cons.2 ⟨rfl, ih⟩)

/-- There are at least as many characters as lines. -/
lemma length_blocks (pairs : List (String × String)) : 3 * pairs.length ≤ (blocksChars pairs).length := by
  induction pairs with
  | nil => simp
  | cons e more ih =>
    cases more with
    | nil => simp [blocksChars, headerLine]
    | cons f more =>
      simp only [blocksChars, headerLine, nameLine, prefixLine, List.length_append, List.length_cons,
        List.length_nil] at ih ⊢
      omega

/-- A document of tenants is read back. -/
lemma parse_blocks {text : String} (e : String × String) (more : List (String × String))
    (h : text.toList = blocksChars (e :: more)) :
    parse? text = some (fieldValues [("tenants", .tables (tableItems (e :: more)))]) := by
  obtain ⟨rest, eq, -⟩ := blocksChars_cons e more
  have plain : plainLines (blocksChars (e :: more)) = blocksChars (e :: more) :=
    plainLines_eq fun mem => absurd (isControl_blocks _ _ mem) (by decide)
  have mark : (blocksChars (e :: more)).head? ≠ some '\uFEFF' := by
    rw [eq, headerLine]
    simp
  have control : (blocksChars (e :: more)).any isControl = false := by
    simpa using isControl_blocks (e :: more)
  have starts : skipLines false (blocksChars (e :: more)) = blocksChars (e :: more) := by
    rw [eq]
    rfl
  unfold parse?
  simp only [h, plain, if_neg mark, control]
  rw [statements_blocks _ _ _ (length_blocks _) starts]
  change (do return fieldValues (← assemble? (content (e :: more))) : Option _) = _
  rw [assemble_content]
  rfl

/-- A document with an empty list has no entries. -/
lemma pairs_emptyDocument {text : String}
    (h : text.toList = ['t', 'e', 'n', 'a', 'n', 't', 's', ' ', '=', ' ', '[', ']', '\n']) :
    (parse? text).bind pairs? = some [] := by
  unfold parse?
  rw [h]
  rfl

/-- The entries of a registry's document are the registry's. -/
theorem pairs_text (r : Registry) : (parse? r.text).bind pairs? = some r.toPairs := by
  rcases eq : r.toPairs with _ | ⟨e, more⟩
  · exact pairs_emptyDocument (by simp [text, eq, documentText, entriesText, Entry.text, listText, toString])
  · have written := toList_text (r := r) (by simp [eq])
    rw [eq] at written
    rw [parse_blocks e more written]
    exact pairs_tables (e :: more)

/-- Every list of names and prefixes is that of some document. -/
theorem exists_document (pairs : List (String × String)) : ∃ text, (parse? text).bind pairs? = some pairs := by
  cases pairs with
  | nil => exact ⟨_, pairs_emptyDocument String.toList_ofList⟩
  | cons e more =>
    refine ⟨.ofList (blocksChars (e :: more)), ?_⟩
    rw [parse_blocks e more String.toList_ofList]
    exact pairs_tables (e :: more)

/-- A registry is read back as it was written. -/
theorem Sound.ofText_text {r : Registry} (h : r.Sound) : ofText r.text = .ok r := by
  rw [ofText, pairs_text]
  exact h.ofPairs_toPairs

end Tenancy.Registry
