import Tenancy.Proofs.Connection.Adapt
import Tenancy.Proofs.Schema.Naming
import Tenancy.Proofs.Sql.Mention

/-!
# The words of statements on a tenant's tables

A tenant's statements are made of pieces whose words name the tables that tenants own, or what carries
the tenant's prefix already, or are `Neutral`: no prefix and no table make up such a word. Under the
tenant's lease such a statement mentions what carries the prefix, and neutral words: `proper_adapt`.
-/

namespace Tenancy

/-- The name of a tenant's table, or of that of a schema without a prefix. -/
def tableName (q : Option TablePrefix) (n : String) : String :=
  match q with
  | some q => q.apply n
  | none => n

namespace Schema
open Text Sql Connection

/-- The tables that each tenant owns, character by character. -/
def ownTables : List (List Char) := (Inventory.tables.filter (!·.common)).map (·.name.toList)

/-- The own tables of tenants, as texts. -/
lemma mem_ownTables {n : String} : n ∈ Ownership.standard.own ↔ n.toList ∈ ownTables := by
  have there : ∀ n ∈ Ownership.standard.own, n.toList ∈ ownTables := by decide +kernel
  have back : ∀ t ∈ Inventory.tables, t.common = false → t.name ∈ Ownership.standard.own := by
    decide +kernel
  constructor
  · exact there n
  · intro mem
    obtain ⟨t, memt, eq⟩ := List.mem_map.1 mem
    obtain ⟨memt, own⟩ := List.mem_filter.1 memt
    rw [← String.toList_inj.1 eq]
    exact back t memt (by simpa using own)

/-- The list of tables that the server keeps. -/
def tableList : List Char := "pg_tables".toList

/-- Whether a word is no table that tenants own, under any prefix, and not the list of tables. -/
def Neutral (w : List Char) : Prop :=
  w ≠ tableList ∧ ∀ n ∈ ownTables, n ≠ w ∧ n ∉ tailsAfter '_' w
deriving Decidable

/-- Whether a name belongs to the tenant with a prefix, or is neutral. -/
def Proper (p : TablePrefix) (name : List Char) : Prop :=
  Neutral name ∨ ∃ a ∈ Inventory.ownNames, name = (p.apply a).toList

/-- Each of them is a name of an object of the inventory. -/
lemma ownNames_of_mem_ownTables {n : List Char} (h : n ∈ ownTables) :
    String.ofList n ∈ Inventory.ownNames := by
  obtain ⟨t, mem, rfl⟩ := List.mem_map.1 h
  rw [String.ofList_toList]
  exact List.mem_flatMap.2 ⟨t, mem, List.mem_cons_self⟩

/-- A proper name is no table of another tenant, and not the list of tables. -/
theorem Proper.own {p : TablePrefix} {name : List Char} (h : Proper p name) :
    name ≠ tableList ∧ ∀ (q : Option TablePrefix), ∀ n ∈ Ownership.standard.own,
      name = (tableName q n).toList → q = some p := by
  rcases h with ⟨other, neutral⟩ | ⟨a, mem, rfl⟩
  · refine ⟨other, fun q n own eq => ?_⟩
    obtain ⟨differs, tail⟩ := neutral _ (mem_ownTables.1 own)
    cases q with
    | none => exact absurd eq.symm differs
    | some q =>
      obtain ⟨cs, hcs⟩ := q.eq_concat
      rw [tableName, q.toList_apply, hcs, List.append_assoc] at eq
      exact absurd (eq ▸ mem_tailsAfter '_' cs n.toList) tail
  · constructor
    · intro eq
      obtain ⟨cs, hcs⟩ := p.eq_concat
      rw [p.toList_apply, hcs, List.append_assoc] at eq
      have tail : a.toList ∈ tailsAfter '_' tableList := eq ▸ mem_tailsAfter '_' cs a.toList
      have whole : tailsAfter '_' tableList = ["tables".toList] := by decide +kernel
      rw [whole, List.mem_singleton, String.toList_inj] at tail
      have none : "tables" ∉ Inventory.ownNames := by decide +kernel
      exact none (tail ▸ mem)
    · intro q n own eq
      have named : n ∈ Inventory.ownNames := by
        simpa using ownNames_of_mem_ownTables (mem_ownTables.1 own)
      cases q with
      | none =>
        have plain : n ∈ Inventory.plainNames := by
          obtain ⟨t, memt, memn⟩ := List.mem_flatMap.1 named
          exact List.mem_flatMap.2 ⟨t, (List.mem_filter.1 memt).1, memn⟩
        exact absurd (String.toList_inj.1 eq) (Inventory.apply_ne_plain p mem plain)
      | some q =>
        rw [(Inventory.apply_inj mem named (String.toList_inj.1 eq)).1]

/-- What tenants own carries its prefix as a word of lower-case characters of names. -/
lemma apply_chars (p : TablePrefix) {a : String} (mem : a ∈ Inventory.ownNames) :
    (p.apply a).toList ≠ [] ∧ (p.apply a).toList.all isPrefixChar ∧ '_' ∈ (p.apply a).toList := by
  obtain ⟨cs, hcs⟩ := p.eq_concat
  obtain ⟨t, memt, -, mema⟩ := Inventory.mem_ownNames mem
  have chars := (Inventory.plainNames_short t memt _ mema).1
  rw [p.toList_apply]
  refine ⟨?_, ?_, ?_⟩
  · rw [hcs]
    simp
  · rw [List.all_append, p.sanitized.2.2.2, chars]
    rfl
  · rw [hcs]
    simp

/-- The name of a tenant's table has characters of prefixes alone. -/
lemma tableName_chars (q : Option TablePrefix) {n : String} (own : n ∈ Ownership.standard.own) :
    (tableName q n).toList ≠ [] ∧ (tableName q n).toList.all isPrefixChar := by
  have mem := mem_ownTables.1 own
  cases q with
  | some q =>
    have named : n ∈ Inventory.ownNames := by simpa using ownNames_of_mem_ownTables mem
    exact ⟨(apply_chars q named).1, (apply_chars q named).2.1⟩
  | none =>
    have check : ∀ n ∈ ownTables, n ≠ [] ∧ n.all isPrefixChar := by decide +kernel
    exact check n.toList mem

/-! ## Pieces -/

/-- A character that neither rules nor lexemes are about. -/
def isInert (c : Char) : Bool := isAscii c && isBare c && c ≠ '?' && c ≠ '%'

/-- A word that a lease makes proper. -/
def Fine (p : TablePrefix) (w : List Char) : Prop :=
  w.map Char.toLower ∉ soughtWords ∧
    (w.map Char.toLower ∈ ownTables ∨ Neutral (w.map Char.toLower) ∨
      ∃ a ∈ Inventory.ownNames, w = (p.apply a).toList)

/-- A part of a statement on a tenant's tables. -/
structure Piece (p : TablePrefix) (s : String) : Prop where
  inert : s.toList.all isInert
  fine : ∀ w ∈ words s.toList, Fine p w

/-- What can be checked of a piece without a prefix. -/
def Checked (cs : List Char) : Prop :=
  cs.all isInert ∧ ∀ w ∈ words cs, w.map Char.toLower ∉ soughtWords ∧
    (w.map Char.toLower ∈ ownTables ∨ Neutral (w.map Char.toLower))
deriving Decidable

/-- A character of names is inert. -/
lemma isInert_of_isNameChar {c : Char} (h : isNameChar c) : isInert c :=
  isNameChar_induction (isInert · = true) (by decide +kernel) h

/-- Inert characters are those of ASCII. -/
lemma isAscii_of_isInert {cs : List Char} (h : cs.all isInert) : cs.all isAscii := by
  refine all_of_imp (fun c inert => ?_) h
  simp only [isInert, Bool.and_eq_true] at inert
  exact inert.1.1.1

/-- They open nothing. -/
lemma isBare_of_isInert {cs : List Char} (h : cs.all isInert) : cs.all isBare := by
  refine all_of_imp (fun c inert => ?_) h
  simp only [isInert, Bool.and_eq_true] at inert
  exact inert.1.1.2

/-- Any other character is not among them. -/
lemma not_mem_of_isInert {c : Char} (h : isInert c = false) {cs : List Char} (inert : cs.all isInert) :
    c ∉ cs := by
  intro mem
  rw [List.all_eq_true.1 inert c mem] at h
  cases h

namespace Piece
variable {p : TablePrefix} {s t : String}

/-- A text that was checked is a piece. -/
lemma of_checked (h : Checked s.toList) : Piece p s := by
  refine ⟨h.1, fun w mem => ?_⟩
  obtain ⟨clear, known⟩ := h.2 w mem
  exact ⟨clear, known.imp_right .inl⟩

/-- Two pieces that no word joins are one. -/
lemma append (hs : Piece p s) (ht : Piece p t) (apart : Apart s.toList t.toList) :
    Piece p (s ++ t) := by
  constructor
  · rw [String.toList_append, List.all_append, hs.inert, ht.inert]
    rfl
  · rw [String.toList_append, words_append apart]
    intro w mem
    rcases List.mem_append.1 mem with mem | mem
    · exact hs.fine w mem
    · exact ht.fine w mem

/-- The name of a tenant's object is a piece. -/
lemma apply {a : String} (mem : a ∈ Inventory.ownNames) : Piece p (p.apply a) := by
  obtain ⟨some, chars, underscore⟩ := apply_chars p mem
  have name := all_of_imp (fun _ => isNameChar_of_isPrefixChar) chars
  refine ⟨all_of_imp (fun _ => isInert_of_isNameChar) name, fun w memw => ?_⟩
  rw [words_eq_singleton some (all_of_imp (fun _ => isWord_of_isNameChar) name),
    List.mem_singleton] at memw
  subst memw
  refine ⟨fun sought => ?_, .inr (.inr ⟨a, mem, rfl⟩)⟩
  rw [map_toLower_of_isPrefixChar chars] at sought
  have none : ∀ w ∈ soughtWords, '_' ∉ w := by decide
  exact none _ sought underscore

end Piece

/-! ## Under the lease -/

/-- Whether a connection sends statements for the tenant with a prefix. -/
structure Serves (c : Connection) (p : TablePrefix) : Prop where
  lease : c.lease = some ⟨p, .standard⟩
  legacy : ∀ r ∈ c.rules, r ∈ legacyRules

/-- A word as the lease of the tenant leaves it. -/
def leased (p : TablePrefix) : List Char → List Char :=
  markWord (Lease.words ⟨p, .standard⟩) p.text.toList

/-- A lease prefixes the words that are own tables. -/
lemma leased_eq (p : TablePrefix) (w : List Char) :
    leased p w = if w.map Char.toLower ∈ ownTables then p.text.toList ++ w.map Char.toLower else w := by
  have mem : w.map Char.toLower ∈ (⟨p, .standard⟩ : Lease).words ↔
      w.map Char.toLower ∈ ownTables := by
    rw [Lease.mem_words, mem_ownTables, String.toList_ofList]
  rw [leased, markWord]
  simp only [mem]

/-- What the lease makes of a fine word: a word that is proper in lower case, and not one that rules
look for. -/
structure Leased (p : TablePrefix) (v : List Char) : Prop where
  some : v ≠ []
  word : v.all isWord
  inert : v.all isInert
  clear : v.map Char.toLower ∉ soughtWords
  proper : Proper p (lower v)

/-- The name of a tenant's object is leased. -/
lemma Leased.of_apply {p : TablePrefix} {a : String} (mem : a ∈ Inventory.ownNames) :
    Leased p (p.apply a).toList := by
  obtain ⟨some, chars, -⟩ := apply_chars p mem
  have name := all_of_imp (fun _ => isNameChar_of_isPrefixChar) chars
  have piece : Piece p (p.apply a) := .apply mem
  have word := all_of_imp (fun _ => isWord_of_isNameChar) name
  refine ⟨some, word, piece.inert, ?_, .inr ⟨a, mem, ?_⟩⟩
  · exact (piece.fine _ (by rw [words_eq_singleton some word]; exact List.mem_singleton_self _)).1
  · rw [lower_of_isAscii (all_of_imp (fun _ => isAscii_of_isNameChar) name),
      map_toLower_of_isPrefixChar chars]

/-- A fine word of a piece is leased with the lease applied. -/
lemma Fine.leased {p : TablePrefix} {w : List Char} (fine : Fine p w) (some : w ≠ [])
    (word : w.all isWord) (inert : w.all isInert) : Leased p (leased p w) := by
  have ascii := isAscii_of_isInert inert
  obtain ⟨clear, known⟩ := fine
  rw [leased_eq]
  by_cases own : w.map Char.toLower ∈ ownTables
  · rw [if_pos own]
    have carries := Leased.of_apply (p := p) (ownNames_of_mem_ownTables own)
    rwa [p.toList_apply, String.toList_ofList] at carries
  · rw [if_neg own]
    rcases known with own' | neutral | ⟨a, mem, rfl⟩
    · exact absurd own' own
    · exact ⟨some, word, inert, clear, .inl (by rwa [lower_of_isAscii ascii])⟩
    · exact .of_apply mem

section Adapt
variable {c : Connection} {p : TablePrefix}

/-- So are all words of a piece. -/
lemma Piece.leased {s : String} (piece : Piece p s) :
    (mapWords (leased p) s.toList).all isInert ∧
      ∀ v ∈ words (mapWords (leased p) s.toList), Leased p v := by
  have made : ∀ w ∈ words s.toList, Leased p (Schema.leased p w) := by
    intro w mem
    obtain ⟨some, word⟩ := isWord_of_mem_words mem
    refine (piece.fine w mem).leased some word (List.all_eq_true.2 fun c memc => ?_)
    exact List.all_eq_true.1 piece.inert c (mem_of_mem_words mem memc)
  refine ⟨all_mapWords (fun w mem => (made w mem).inert) piece.inert, ?_⟩
  rw [words_mapWords fun w mem => ⟨(made w mem).some, (made w mem).word⟩]
  intro v mem
  obtain ⟨w, memw, rfl⟩ := List.mem_map.1 mem
  exact made w memw

/-- Code without quotes is sent with its words as the lease of the tenant leaves them and its parameters
numbered. -/
lemma Serves.adapt_eq (serves : Serves c p) {sql : String} (some : sql.toList ≠ [])
    (ascii : sql.toList.all isAscii) (bare : sql.toList.all isBare)
    (bare' : (mapWords (leased p) sql.toList).all isBare)
    (ordinary : Ordinary (mapWords (leased p) sql.toList)) :
    c.adapt sql = String.ofList (numberCode 0 (mapWords (leased p) sql.toList)).1 := by
  have plain (l : Lease) (lease : c.lease = Option.some l) : l.ownership.IsPlain := by
    obtain rfl : l = ⟨p, .standard⟩ := Option.some.inj (lease.symm.trans serves.lease)
    exact Ownership.isPlain_standard
  have marks : c.marked sql.toList = mapWords (leased p) sql.toList := by
    rw [marked, serves.lease]
    rfl
  rw [← marks] at bare' ordinary ⊢
  exact adapt_eq_numbered serves.legacy plain some ascii bare bare' ordinary

/-- A piece alone is sent with its words as the lease of the tenant leaves them. -/
lemma Piece.adapt_eq (serves : Serves c p) {sql : String} (some : sql.toList ≠ [])
    (piece : Piece p sql) : c.adapt sql = String.ofList (mapWords (Schema.leased p) sql.toList) := by
  obtain ⟨inert, made⟩ := piece.leased
  have percent : '%' ∉ mapWords (Schema.leased p) sql.toList := not_mem_of_isInert (by decide) inert
  have ordinary : Ordinary (mapWords (Schema.leased p) sql.toList) :=
    ⟨isAscii_of_isInert inert, not_mem_of_isInert (by decide) inert,
      fun v mem => (made v mem).clear⟩
  have unnumbered : (numberCode 0 (mapWords (Schema.leased p) sql.toList)).1 =
      mapWords (Schema.leased p) sql.toList := by
    have all := numberCode_head 0 percent []
    rw [List.append_nil, numberCode, List.append_nil] at all
    rw [all]
  rw [serves.adapt_eq some (isAscii_of_isInert piece.inert) (isBare_of_isInert piece.inert)
    (isBare_of_isInert inert) ordinary, unnumbered]

/-- A piece alone mentions nothing but what is proper. -/
theorem proper_adapt (serves : Serves c p) {sql : String} (some : sql.toList ≠ [])
    (piece : Piece p sql) {name : List Char} (h : Mentions (c.adapt sql).toList name) :
    Proper p name := by
  obtain ⟨inert, made⟩ := piece.leased
  rw [piece.adapt_eq serves some, String.toList_ofList] at h
  obtain ⟨v, mem, rfl⟩ := mentions_of_isPlain (isPlain_of_isBare (isBare_of_isInert inert)) h
  exact (made v mem).proper

/-- Parameters in the notation of callers, with what is sent for them. -/
structure IsParameters (t : List Char) : Prop where
  some : t ≠ []
  ascii : t.all isAscii
  bare : t.all isBare
  mark : '?' ∉ t
  whole : t.getLast? ≠ Option.some '%'
  gap : t.head?.any isWord = false
  words : ∀ w ∈ words t, w.map Char.toLower ∉ soughtWords ∧ Neutral (w.map Char.toLower)
  plain : isPlain (numberCode 0 t).1
  gap' : (numberCode 0 t).1.head?.any isWord = false
  neutral : ∀ w ∈ Text.words (numberCode 0 t).1, Neutral (lower w)

/-- What is sent for a statement with parameters between two pieces: the pieces with the lease's names,
and the parameters numbered. -/
lemma toList_adapt_parameters (serves : Serves c p) {sql a z : String} {t : List Char}
    (ha : Piece p a) (ht : IsParameters t) (hz : Piece p z)
    (ends : z.toList.head?.any isWord = false) (eq : sql.toList = a.toList ++ (t ++ z.toList)) :
    (c.adapt sql).toList =
      mapWords (leased p) a.toList ++ ((numberCode 0 t).1 ++ mapWords (leased p) z.toList) := by
  obtain ⟨inertA, madeA⟩ := ha.leased
  obtain ⟨inertZ, madeZ⟩ := hz.leased
  have starts (ds : List Char) : (t ++ ds).head?.any isWord = false := by
    obtain ⟨c, t', rfl⟩ := List.exists_cons_of_ne_nil ht.some
    exact ht.gap
  have still : mapWords (leased p) t = t := by
    refine mapWords_eq_self fun w mem => ?_
    rw [leased_eq, if_neg fun own => ((ht.words w mem).2.2 _ own).1 rfl]
  have sent : mapWords (leased p) sql.toList =
      mapWords (leased p) a.toList ++ (t ++ mapWords (leased p) z.toList) := by
    rw [eq, mapWords_append (.inr (starts _)), mapWords_append (.inr ends), still]
  have split : words (mapWords (leased p) sql.toList) =
      words (mapWords (leased p) a.toList) ++
        (words t ++ words (mapWords (leased p) z.toList)) := by
    rw [sent, words_append (.inr (starts _)),
      words_append (.inr (head_mapWords (f := Schema.leased p) ends))]
  have ordinary : Ordinary (mapWords (leased p) sql.toList) := by
    refine ⟨?_, ?_, ?_⟩
    · rw [sent, List.all_append, List.all_append, isAscii_of_isInert inertA,
        isAscii_of_isInert inertZ, ht.ascii]
      rfl
    · rw [sent, List.mem_append, List.mem_append, not_or, not_or]
      exact ⟨not_mem_of_isInert (by decide) inertA, ht.mark, not_mem_of_isInert (by decide) inertZ⟩
    · rw [split]
      intro v mem
      rcases List.mem_append.1 mem with mem | mem
      · exact (madeA v mem).clear
      rcases List.mem_append.1 mem with mem | mem
      · exact (ht.words v mem).1
      · exact (madeZ v mem).clear
  have bare : (mapWords (leased p) sql.toList).all isBare := by
    rw [sent, List.all_append, List.all_append, isBare_of_isInert inertA, isBare_of_isInert inertZ,
      ht.bare]
    rfl
  have some : sql.toList ≠ [] := by simp [eq, ht.some]
  have ascii : sql.toList.all isAscii := by
    rw [eq, List.all_append, List.all_append, isAscii_of_isInert ha.inert,
      isAscii_of_isInert hz.inert, ht.ascii]
    rfl
  have bare₀ : sql.toList.all isBare := by
    rw [eq, List.all_append, List.all_append, isBare_of_isInert ha.inert,
      isBare_of_isInert hz.inert, ht.bare]
    rfl
  rw [serves.adapt_eq some ascii bare₀ bare ordinary, String.toList_ofList, sent,
    numberCode_head 0 (not_mem_of_isInert (by decide) inertA),
    numberCode_append 0 ht.whole (not_mem_of_isInert (by decide) inertZ)]

/-- Nor does a statement with parameters between two pieces. -/
theorem proper_adapt_parameters (serves : Serves c p) {sql a z : String} {t : List Char}
    (ha : Piece p a) (ht : IsParameters t) (hz : Piece p z)
    (ends : z.toList.head?.any isWord = false) (eq : sql.toList = a.toList ++ (t ++ z.toList))
    {name : List Char} (h : Mentions (c.adapt sql).toList name) : Proper p name := by
  obtain ⟨inertA, madeA⟩ := ha.leased
  obtain ⟨inertZ, madeZ⟩ := hz.leased
  have ends' := head_mapWords (f := Schema.leased p) ends
  rw [toList_adapt_parameters serves ha ht hz ends eq] at h
  have plain : isPlain (mapWords (leased p) a.toList ++
      ((numberCode 0 t).1 ++ mapWords (leased p) z.toList)) :=
    isPlain_append (isPlain_of_isBare (isBare_of_isInert inertA))
      (isPlain_append ht.plain (isPlain_of_isBare (isBare_of_isInert inertZ)))
  obtain ⟨v, mem, rfl⟩ := mentions_of_isPlain plain h
  have starts : ((numberCode 0 t).1 ++ mapWords (leased p) z.toList).head?.any isWord = false := by
    cases first : (numberCode 0 t).1 with
    | nil => exact ends'
    | cons d ds =>
      have gap := ht.gap'
      rw [first] at gap
      exact gap
  rw [words_append (.inr starts), words_append (.inr ends')] at mem
  rcases List.mem_append.1 mem with mem | mem
  · exact (madeA v mem).proper
  rcases List.mem_append.1 mem with mem | mem
  · exact .inl (ht.neutral v mem)
  · exact (madeZ v mem).proper

end Adapt

end Schema
end Tenancy
