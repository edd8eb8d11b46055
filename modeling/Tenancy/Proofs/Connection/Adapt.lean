import Tenancy.Connection
import Tenancy.Proofs.Server.Reading
import Tenancy.Proofs.Sql.Mention
import Tenancy.Proofs.Sql.Ordinary

/-!
# Statements as they are sent

What a connection sends for a statement reads like the statement where it matters for transactions.
Whatever the lease, a statement with a gap never becomes one that begins or ends a transaction
(`adapt_not_mem`), and a statement that starts with one of the verbs for data is sent as one about
data (`ofSql_adapt`).
-/

namespace Tenancy
open Text Sql

/-- A statement that starts with a word and a blank has a gap. -/
lemma Sql.StartsWith.any_isGap {words : List String} {sql : String} (h : StartsWith words sql) :
    sql.toList.any isGap := by
  obtain ⟨v, -, more, eq⟩ := h
  rw [← eq]
  simp [isGap]

/-- Such a statement is not empty. -/
lemma Sql.StartsWith.ne_nil {words : List String} {sql : String} (h : StartsWith words sql) :
    sql.toList ≠ [] := by
  intro none
  have gap := h.any_isGap
  rw [none] at gap
  cases gap

/-- A gap stays where words are prefixed. -/
lemma any_markWords (names : List (List Char)) (mark : List Char) (ended : Bool)
    (before : Option Char) {cs : List Char} (h : cs.any isGap) :
    (markWords names mark ended before cs).any isGap := by
  fun_induction markWords names mark ended before cs with
  | case1 => cases h
  | case2 => cases h
  | case3 ended before c cs _ ih =>
    rw [List.any_cons, Bool.or_eq_true] at h ⊢
    exact h.imp_right ih
  | case4 ended before c cs _ ih =>
    rw [List.any_append, List.any_cons, Bool.or_eq_true, Bool.or_eq_true]
    rw [List.any_cons, Bool.or_eq_true] at h
    exact .inr (h.imp_right ih)
  | case5 ended before c cs n _ ih =>
    have split : c :: cs = (c :: cs).take (n + 1) ++ cs.drop n := by simp
    rw [split, List.any_append, Bool.or_eq_true] at h
    rw [List.any_append, List.any_append, Bool.or_eq_true, Bool.or_eq_true]
    rcases h with word | rest
    · obtain ⟨d, mem, gap⟩ := List.any_eq_true.1 word
      refine .inl (.inr (List.any_eq_true.2 ⟨d, mem_lower ?_ ?_ mem, gap⟩))
      · rcases isGap_iff.1 gap with rfl | rfl
        · decide +kernel
        · decide +kernel
      · rintro rfl
        exact absurd gap (by decide)
    · exact .inr (ih rest)

/-- So it does where a lease is applied. -/
lemma Lease.any_apply (l : Lease) {sql : List Char} (h : sql.any isGap) :
    (l.apply sql).any isGap := by
  rw [Lease.apply]
  split
  · exact h
  · exact any_mapCode (fun _ => any_markWords _ _ _ _) h

/-- A word that goes on from a character of names is not prefixed. -/
lemma markWords_word (names : List (List Char)) (mark : List Char) (ended : Bool) {b : Char}
    (hb : isNameChar b) {cs : List Char} (some : cs ≠ []) (name : cs.all isNameChar)
    (rest : List Char) :
    ∃ rest', markWords names mark ended (Option.some b) (cs ++ rest) = cs ++ rest' := by
  induction cs generalizing b ended with
  | nil => exact absurd rfl some
  | cons c cs ih =>
    obtain ⟨hc, tail⟩ := Bool.and_eq_true_iff.1 name
    have inside : wordLength? names (Option.some b) (c :: (cs ++ rest)) = none := by
      rw [wordLength?, List.head?_cons, boundary_of_isNameChar hb hc]
      rfl
    rw [List.cons_append, markWords, inside]
    by_cases last : cs = []
    · subst last
      exact ⟨_, rfl⟩
    · obtain ⟨rest', eq⟩ := ih false hc last tail
      exact ⟨rest', congrArg (c :: ·) eq⟩

/-- Code that starts with a word starts with that word or with the mark after words are marked. -/
lemma markWords_head (names : List (List Char)) (mark : List Char) {cs : List Char} (some : cs ≠ [])
    (name : cs.all isNameChar) (rest : List Char) :
    ∃ rest', markWords names mark false none (cs ++ rest) = cs ++ rest' ∨
      markWords names mark false none (cs ++ rest) = mark ++ rest' := by
  obtain ⟨c, cs, rfl⟩ := List.exists_cons_of_ne_nil some
  obtain ⟨hc, tail⟩ := Bool.and_eq_true_iff.1 name
  rw [List.cons_append, markWords]
  split
  · by_cases last : cs = []
    · subst last
      exact ⟨_, .inl rfl⟩
    · obtain ⟨rest', eq⟩ := markWords_word names mark false hc last tail rest
      exact ⟨rest', .inl (congrArg (c :: ·) eq)⟩
  · exact ⟨_, .inr rfl⟩
  · exact ⟨_, .inr (List.append_assoc ..)⟩

/-- Under a lease a statement that starts with a word starts with that word or with the prefix. -/
lemma Lease.apply_head (l : Lease) {cs : List Char} (some : cs ≠ []) (name : cs.all isNameChar)
    (rest : List Char) :
    ∃ rest', l.apply (cs ++ rest) = cs ++ rest' ∨
      l.apply (cs ++ rest) = l.tablePrefix.text.toList ++ rest' := by
  have bare : cs.all isBare :=
    List.all_eq_true.2 fun c mem => isBare_of_isNameChar (List.all_eq_true.1 name c mem)
  rw [Lease.apply]
  split
  · exact ⟨rest, .inl rfl⟩
  · obtain ⟨more, ls, eq⟩ := lexemes_append bare some rest
    obtain ⟨rest', head⟩ := markWords_head l.words l.tablePrefix.text.toList some name more
    rw [mapCode, eq, List.flatMap_cons, if_pos rfl]
    rcases head with head | head
    · rw [head]
      exact ⟨_, .inl (List.append_assoc ..)⟩
    · rw [head]
      exact ⟨_, .inr (List.append_assoc ..)⟩

/-- A prefix is a beginning that the rules leave alone. -/
lemma TablePrefix.safeHead (p : TablePrefix) : SafeHead p.text.toList := by
  obtain ⟨last, -, -, chars⟩ := p.sanitized
  obtain ⟨cs, eq⟩ := List.getLast?_eq_some_iff.1 last
  rw [eq, List.all_append, Bool.and_eq_true] at chars
  rw [eq]
  exact .concat (all_of_imp (fun _ => isNameChar_of_isPrefixChar) chars.1)

/-- A statement with a gap is none of the three that open and close a transaction. -/
lemma Sql.not_mem_of_any_isGap {sql : String} (h : sql.toList.any isGap) :
    sql ∉ ["BEGIN", "COMMIT", "ROLLBACK"] := by
  intro mem
  simp only [List.mem_cons, List.not_mem_nil, or_false] at mem
  rcases mem with rfl | rfl | rfl
  · exact absurd h (by decide)
  · exact absurd h (by decide)
  · exact absurd h (by decide)

/-- So it does not end one. -/
lemma Engine.Reading.isEnd_of_any_isGap {sql : String} (h : sql.toList.any isGap) :
    (ofSql sql).isEnd = false := by
  rw [Bool.eq_false_iff]
  intro ends
  exact not_mem_of_any_isGap h (List.mem_cons_of_mem _ (mem_of_isEnd ends))

/-- The words that a lease prefixes are the names of its own tables. -/
lemma Lease.mem_words {l : Lease} {n : List Char} :
    n ∈ l.words ↔ String.ofList n ∈ l.ownership.own := by
  simp only [words, List.mem_map, List.mem_mergeSort]
  constructor
  · rintro ⟨s, mem, rfl⟩
    rwa [String.ofList_toList]
  · intro mem
    exact ⟨_, mem, String.toList_ofList⟩

/-- Whether the tables that tenants own are called by plain names. -/
def Ownership.IsPlain (o : Ownership) : Prop := ∀ n ∈ o.own, IsPlainName n.toList
deriving Decidable

/-- All names of the usual tables are plain. -/
lemma Ownership.isPlain_standard : Ownership.standard.IsPlain := by decide +kernel

/-- The words of a lease on plain names are plain. -/
lemma Lease.isPlainName {l : Lease} (plain : l.ownership.IsPlain) :
    ∀ n ∈ l.words, IsPlainName n := by
  intro n mem
  have among := plain _ (Lease.mem_words.1 mem)
  rwa [String.toList_ofList] at among

/-- A lease changes the code of a statement, and nothing else. -/
lemma Lease.apply_eq_mapCode (l : Lease) (sql : List Char) :
    l.apply sql = mapCode (markWords l.words l.tablePrefix.text.toList false none) sql := by
  rw [Lease.apply]
  split
  · next none =>
    symm
    refine mapCode_eq_self fun x _ _ => ?_
    have word : ∀ n ∈ ([] : List (List Char)), IsWordName n := fun n mem => absurd mem List.not_mem_nil
    rw [none, markWords_eq_mapWords word false (.inl rfl)]
    exact mapWords_eq_self fun w _ => rfl
  · rfl

/-- In code of ASCII a lease on plain names changes every word by itself. -/
lemma Lease.apply_eq {l : Lease} (plain : l.ownership.IsPlain) {sql : List Char}
    (ascii : ∀ x ∈ lexemes sql, x.kind = .code → x.text.all isAscii) :
    l.apply sql = mapCode (mapWords (markWord l.words l.tablePrefix.text.toList)) sql := by
  rw [l.apply_eq_mapCode]
  exact mapCode_congr fun x mem code =>
    markWords_eq (l.isPlainName plain) (ascii x mem code) false (.inl rfl)

/-- A lease leaves a statement alone whose code names no table that tenants own. -/
lemma Lease.apply_eq_self {l : Lease} (plain : l.ownership.IsPlain) {sql : List Char}
    (h : ∀ x ∈ lexemes sql, x.kind = .code → x.text.all isAscii ∧
      ∀ w ∈ Text.words x.text, String.ofList (w.map Char.toLower) ∉ l.ownership.own) :
    l.apply sql = sql := by
  rw [l.apply_eq plain fun x mem code => (h x mem code).1]
  refine mapCode_eq_self fun x mem code => mapWords_eq_self fun w memw => ?_
  rw [markWord, if_neg]
  intro among
  exact (h x mem code).2 w memw (Lease.mem_words.1 among)

namespace Connection
open Engine

/-- A statement that neither the lease nor the rules change is sent as it stands. -/
lemma adapt_eq_self {c : Connection} (legacy : ∀ r ∈ c.rules, r ∈ legacyRules) {sql : String}
    (leaves : ∀ l, c.lease = some l → l.apply sql.toList = sql.toList)
    (ordinary : ∀ x ∈ lexemes sql.toList, x.kind = .code → Ordinary x.text ∧ '%' ∉ x.text) :
    c.adapt sql = sql := by
  rw [adapt]
  cases lease : c.lease with
  | none => rw [forServer_eq_self legacy ordinary, String.ofList_toList]
  | some l =>
    dsimp only
    rw [leaves l lease, forServer_eq_self legacy ordinary, String.ofList_toList]

/-- Code with its words as the lease of the connection leaves them. -/
def marked (c : Connection) (code : List Char) : List Char :=
  match c.lease with
  | none => code
  | some l => mapWords (markWord l.words l.tablePrefix.text.toList) code

/-- Code without quotes in which rules find nothing is sent with its words as the lease leaves them and its
parameters numbered. -/
lemma adapt_eq_numbered {c : Connection} (legacy : ∀ r ∈ c.rules, r ∈ legacyRules)
    (plain : ∀ l, c.lease = some l → l.ownership.IsPlain) {sql : String} (some : sql.toList ≠ [])
    (ascii : sql.toList.all isAscii) (bare : sql.toList.all isBare)
    (bare' : (c.marked sql.toList).all isBare) (ordinary : Ordinary (c.marked sql.toList)) :
    c.adapt sql = String.ofList (numberCode 0 (c.marked sql.toList)).1 := by
  have code : ∀ x ∈ lexemes sql.toList, x.kind = .code → x.text.all isAscii := by
    intro x mem _
    rw [lexemes_eq_code bare some, List.mem_singleton] at mem
    subst mem
    exact ascii
  have sent : c.adapt sql = String.ofList (forServer c.rules (c.marked sql.toList)) := by
    rw [adapt, marked]
    cases lease : c.lease with
    | none => rfl
    | some l =>
      dsimp only
      rw [l.apply_eq (plain l lease) code, mapCode_of_isPlain (isPlain_of_isBare bare) some]
  have still : Sql.adapt c.rules (c.marked sql.toList) = c.marked sql.toList := by
    rw [Sql.adapt]
    refine mapCode_eq_self fun l mem _ => ?_
    cases eq_of_mem_lexemes (isPlain_of_isBare bare') mem
    exact foldl_ordinary legacy _ ordinary
  rw [sent, forServer, still, numberParameters_of_isPlain (isPlain_of_isBare bare')]

/-- Where a statement has a gap, what the connection sends has one too. -/
lemma any_adapt {c : Connection} (keeps : ∀ r ∈ c.rules, r.KeepsGaps) {sql : String}
    (h : sql.toList.any isGap) : (c.adapt sql).toList.any isGap := by
  rw [adapt, String.toList_ofList]
  refine any_forServer keeps ?_
  cases c.lease with
  | none => exact h
  | some l => exact l.any_apply h

/-- A statement with a gap is never sent as one that begins or ends a transaction. -/
theorem adapt_not_mem {c : Connection} (keeps : ∀ r ∈ c.rules, r.KeepsGaps) {sql : String}
    (h : sql.toList.any isGap) : c.adapt sql ∉ ["BEGIN", "COMMIT", "ROLLBACK"] :=
  not_mem_of_any_isGap (any_adapt keeps h)

/-- A statement with a gap ends no transaction as it is sent. -/
lemma isEnd_adapt {c : Connection} (keeps : ∀ r ∈ c.rules, r.KeepsGaps) {sql : String}
    (h : sql.toList.any isGap) : (Reading.ofSql (c.adapt sql)).isEnd = false :=
  Reading.isEnd_of_any_isGap (any_adapt keeps h)

/-- The question for a table has a gap. -/
lemma any_existsQuery : existsQuery.toList.any isGap := by
  unfold existsQuery
  rw [String.toList_append, List.any_append, Bool.or_eq_true]
  exact .inl (by decide)

/-- So it ends no transaction. -/
lemma isEnd_existsQuery : (Reading.ofSql existsQuery).isEnd = false :=
  Reading.isEnd_of_any_isGap any_existsQuery

/-- A statement that starts with a verb is about data. -/
lemma ofSql_of_verb {v sql : String} (mem : v ∈ verbs) {rest : List Char}
    (eq : sql.toList = v.toList ++ rest) : Reading.ofSql sql = .work := by
  have check : ∀ v ∈ verbs, ∀ w ∈ "SET " :: Reading.controlHeads,
      Reading.apart w.toList v.toList := by
    decide
  refine Reading.ofSql_eq_work fun w memw => ?_
  rw [eq]
  exact Reading.not_prefix_of_apart (check v mem w memw) rest

/-- The question whether there is a table is about data. -/
lemma ofSql_existsQuery : Reading.ofSql existsQuery = .work := by
  have start : StartsWithVerb existsQuery := by
    unfold existsQuery
    exact .append ⟨"SELECT", by decide, by decide⟩ _
  obtain ⟨v, mem, more, eq⟩ := start
  rw [List.append_assoc] at eq
  exact ofSql_of_verb mem eq.symm

/-- A statement that starts with a verb is sent with that verb at its head, or with a prefix. -/
lemma adapt_head {c : Connection} (legacy : ∀ r ∈ c.rules, r ∈ legacyRules) {v sql : String}
    (mem : v ∈ verbs) (start : v.toList ++ [' '] <+: sql.toList) :
    ∃ head rest, (c.adapt sql).toList = head ++ rest ∧
      (head = v.toList ∨ ∃ p : TablePrefix, head = p.text.toList) := by
  obtain ⟨more, eq⟩ := start
  rw [List.append_assoc] at eq
  have safe := safeHead_of_mem_verbs mem
  rw [adapt, String.toList_ofList, ← eq]
  cases c.lease with
  | none =>
    obtain ⟨rest, eq⟩ := forServer_append legacy safe ([' '] ++ more)
    exact ⟨_, rest, eq, .inl rfl⟩
  | some l =>
    obtain ⟨between, marked | marked⟩ := l.apply_head safe.some safe.name ([' '] ++ more)
    · obtain ⟨rest, eq⟩ := forServer_append legacy safe between
      exact ⟨_, rest, by rw [← eq, ← marked], .inl rfl⟩
    · obtain ⟨rest, eq⟩ := forServer_append legacy l.tablePrefix.safeHead between
      exact ⟨_, rest, by rw [← eq, ← marked], .inr ⟨_, rfl⟩⟩

/-- A word with a capital at its start differs from every prefix. -/
lemma apart_tablePrefix (p : TablePrefix) {w : List Char} (capital : w.head?.any (!isPrefixChar ·)) :
    Reading.apart w p.text.toList := by
  obtain ⟨d, first, other⟩ := (Option.any_eq_true _ _).1 capital
  obtain ⟨ws, rfl⟩ := List.head?_eq_some_iff.1 first
  obtain ⟨c, cs, eq⟩ := List.exists_cons_of_ne_nil p.safeHead.some
  have char := p.sanitized.2.2.2
  rw [eq, List.all_cons, Bool.and_eq_true] at char
  have differ : d ≠ c := by
    rintro rfl
    rw [char.1] at other
    cases other
  rw [eq, Reading.apart]
  simp [differ]

/-- A statement about data is sent as a statement about data. -/
theorem ofSql_adapt {c : Connection} (legacy : ∀ r ∈ c.rules, r ∈ legacyRules) {sql : String}
    (h : StartsWithVerb sql) : Reading.ofSql (c.adapt sql) = .work := by
  obtain ⟨v, mem, start⟩ := h
  obtain ⟨head, rest, sent, rfl | ⟨p, rfl⟩⟩ := adapt_head legacy mem start
  · exact ofSql_of_verb mem sent
  · have capital : ∀ w ∈ "SET " :: Reading.controlHeads,
        w.toList.head?.any (!isPrefixChar ·) := by decide
    refine Reading.ofSql_eq_work fun w memw => ?_
    rw [sent]
    exact Reading.not_prefix_of_apart (apart_tablePrefix p (capital w memw)) rest

end Connection

/-- A connection of its own to an engine that has no data yet. -/
def Scene.rehearsal (fate : Nat → String → Fate) :
    Scene (Engine.State (Engine.ofDatabase fate)) where
  connection :=
    { address :=
        { host := "localhost", port := 5432, database := "trees", user := "ada", password := none,
          options := [], form := .bare }
      channel := .direct ⟨1⟩ }
  world := { server := { kept := {}, sessions := fun _ => {} } }

end Tenancy
