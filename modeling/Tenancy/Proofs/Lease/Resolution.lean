import Tenancy.Connection
import Tenancy.Proofs.Lease.Renaming
import Tenancy.Proofs.Lease.Standing
import Tenancy.Proofs.Ownership.Lists

/-!
# Which table an identifier denotes

A tenant refers to a table in statements, where the lease renames words of code before the server reads
the identifier, and in the question whether a table exists, where the identifier is read first and the
name is renamed then. Without quotes both lead to one table, if the identifier is a name of the tenant's own
for both or for neither (`Connection.table_eq_reads`); without dollar signs they do only then
(`Connection.reads_eq_table_iff`). A name between quotes is the table itself in a statement, but in the
question it is the tenant's own table if there is one of that name.
-/

namespace Tenancy
open Text Sql

/-! ## The server's part -/

/-- Whether a text is an identifier without quotes: characters of words and dollar signs, of which the
first is neither a digit of ASCII nor a dollar sign. The keywords of the statement are none in any case. -/
def IsIdentifier (r : List Char) : Prop :=
  r ≠ [] ∧ (r.all fun c => isWord c || c = '$') ∧
    (r.head?.any fun c => c.isDigit || c = '$') = false ∧
      ∀ w ∈ ["SELECT", "FROM"], r.map foldChar ≠ w.toList.map foldChar
deriving Decidable

/-- The name that the server reads in an identifier: as it is written between quotes, and with the
letters of ASCII in lower case without quotes. -/
def serverName? (r : List Char) : Option (List Char) :=
  match unquoted? r with
  | some inner => if quoteName (singleQuotes inner) = r then some (singleQuotes inner) else none
  | none => if IsIdentifier r then some (r.map Char.toLower) else none

/-- What stands in front of the identifier in a statement that reads a table. -/
def selectFrom : List Char := "SELECT * FROM ".toList

/-- The table that the server reads for such a statement. -/
def tableRead? (sql : List Char) : Option String :=
  if selectFrom.isPrefixOf sql then (serverName? (sql.drop selectFrom.length)).map String.ofList
  else none

/-- The table that the server reads for the tenant's statement about an identifier. -/
def Lease.reads? (l : Lease) (r : List Char) : Option String := tableRead? (l.apply (selectFrom ++ r))

/-- The name behind the head of the query is the one that is read. -/
lemma tableRead_append (r : List Char) :
    tableRead? (selectFrom ++ r) = (serverName? r).map String.ofList := by
  have starts : selectFrom.isPrefixOf (selectFrom ++ r) := by simp
  rw [tableRead?, if_pos starts, List.drop_left]

/-- A name in quotes is read as it stands. -/
lemma serverName_quoteName (x : List Char) : serverName? (quoteName x) = some x := by
  rw [serverName?, unquoted_quoteName]
  dsimp only
  rw [singleQuotes_doubleQuotes, if_pos rfl]

section Identifier
variable {r : List Char}

/-- What starts with no quote is read as an identifier without quotes or not at all. -/
lemma serverName_of_head (h : r.head? ≠ some '"') :
    serverName? r = if IsIdentifier r then some (r.map Char.toLower) else none := by
  have none : unquoted? r = Option.none := by
    cases r with
    | nil => rfl
    | cons c r => exact if_neg fun quoted => h (congrArg some quoted.1)
  rw [serverName?, none]

/-- An identifier is not taken for a name in quotes. -/
lemma IsIdentifier.unquoted (h : IsIdentifier r) : unquoted? r = none := by
  obtain ⟨some, chars, -⟩ := h
  obtain ⟨c, r, rfl⟩ := List.exists_cons_of_ne_nil some
  rw [unquoted?, if_neg]
  rintro ⟨rfl, -⟩
  have quote := (Bool.and_eq_true_iff.1 chars).1
  exact absurd quote (by decide)

/-- The server puts the ASCII letters of an identifier without quotes into lower case. -/
lemma IsIdentifier.serverName (h : IsIdentifier r) : serverName? r = some (r.map Char.toLower) := by
  rw [serverName?, h.unquoted]
  exact if_pos h

/-- An identifier is folded in all its letters. -/
lemma IsIdentifier.foldName (h : IsIdentifier r) : foldName r = lower r := by
  rw [Sql.foldName, h.unquoted]

/-- An identifier without dollar signs is a word. -/
lemma IsIdentifier.isWordName (h : IsIdentifier r) (clear : '$' ∉ r) : IsWordName r := by
  refine ⟨h.1, List.all_eq_true.2 fun c mem => ?_⟩
  have char := List.all_eq_true.1 h.2.1 c mem
  rw [Bool.or_eq_true, decide_eq_true_eq] at char
  exact char.resolve_right fun sign => clear (sign ▸ mem)

/-- What has a prefix does not start with a quotation mark. -/
lemma TablePrefix.head_ne_quote (p : TablePrefix) (r : List Char) : (p.text.toList ++ r).head? ≠ some '"' := by
  obtain ⟨c, front, eq⟩ := List.exists_cons_of_ne_nil p.ne_nil
  have name := p.all_isNameChar
  rw [eq] at name ⊢
  intro quote
  obtain rfl := Option.some.inj quote
  exact absurd (Bool.and_eq_true_iff.1 name).1 (by decide)

/-- A prefix makes an identifier of an identifier. -/
lemma IsIdentifier.prefixed (h : IsIdentifier r) (p : TablePrefix) :
    IsIdentifier (p.text.toList ++ r) := by
  have name := p.all_isNameChar
  refine ⟨by simp [p.ne_nil], ?_, ?_, fun w mem => ?_⟩
  · rw [List.all_append, h.2.1, Bool.and_true]
    exact all_of_imp (fun c hc => by rw [isWord_of_isNameChar hc, Bool.true_or]) name
  · have head := p.sanitized.2.1
    obtain ⟨c, front, eq⟩ := List.exists_cons_of_ne_nil p.ne_nil
    rw [eq] at name head
    have first : isNameChar c := (Bool.and_eq_true_iff.1 name).1
    have sign : c ≠ '$' := by
      rintro rfl
      exact absurd first (by decide)
    simpa [eq, sign] using head
  · -- The underscore at the end of the prefix is in no keyword.
    intro same
    have line : '_' ∈ p.text.toList := List.mem_of_getLast? p.sanitized.1
    have among : foldChar '_' ∈ w.toList.map foldChar := by
      rw [← same]
      exact List.mem_map_of_mem (List.mem_append_left r line)
    exact absurd among
      ((by decide : ∀ w ∈ ["SELECT", "FROM"], foldChar '_' ∉ w.toList.map foldChar) w mem)

end Identifier

/-! ## Letters -/

/-- A character for which lower case and folding are what the server makes of it. -/
def isPlainCased (c : Char) : Bool :=
  lowerChar c = [c.toLower] && c ≠ 'Σ' && foldChar c = c.toLower

/-- The three conditions that make a character one of these. -/
lemma isPlainCased_iff {c : Char} :
    isPlainCased c = true ↔ (lowerChar c = [c.toLower] ∧ c ≠ 'Σ') ∧ foldChar c = c.toLower := by
  simp [isPlainCased]

/-- Every character of ASCII is of that kind. -/
lemma isPlainCased_of_isAscii {c : Char} (h : isAscii c) : isPlainCased c :=
  isPlainCased_iff.2 ⟨lowerChar_of_isAscii h, foldChar_of_isAscii h⟩

section Letters
variable {cs : List Char}

/-- Such a text has the lower case of its letters of ASCII. -/
lemma lower_of_isPlainCased (h : cs.all isPlainCased) : lower cs = cs.map Char.toLower :=
  lower_eq_map fun _ mem => (isPlainCased_iff.1 (List.all_eq_true.1 h _ mem)).1

/-- Case folding gives the same there. -/
lemma map_foldChar_of_isPlainCased (h : cs.all isPlainCased) :
    cs.map foldChar = cs.map Char.toLower :=
  List.map_congr_left fun _ mem => (isPlainCased_iff.1 (List.all_eq_true.1 h _ mem)).2

/-- What is in lower case folds like what it was. -/
lemma map_foldChar_lower (h : cs.all isPlainCased) : (lower cs).map foldChar = cs.map foldChar := by
  rw [lower_of_isPlainCased h, List.map_map]
  refine List.map_congr_left fun c mem => ?_
  have folds := (isPlainCased_iff.1 (List.all_eq_true.1 h c mem)).2
  by_cases ascii : isAscii c
  · exact isAscii_induction (fun c => foldChar c.toLower = foldChar c) (by decide) ascii
  · have large : 90 < c.toNat := by
      have above : 128 ≤ c.toNat := by simpa [isAscii] using ascii
      omega
    rw [Function.comp, toLower_of_lt large]

end Letters

/-! ## Names of tables -/

/-- Whether an ownership comes of the operations that make one. -/
inductive Ownership.Built : Ownership → Prop where
  | ofLists (own common : List String) : Built (.ofLists own common)
  | withOwn {o : Ownership} (built : Built o) (name : String) : Built (o.withOwn name)
  | withCommon {o : Ownership} (built : Built o) (name : String) : Built (o.withCommon name)

/-- An ownership that was built tells which tables are the tenants' own and which they share. -/
lemma Ownership.Built.exists_tells {o : Ownership} (built : o.Built) :
    ∃ own common : String → Prop, o.Tells own common := by
  induction built with
  | ofLists own common => exact ⟨_, _, tells_ofLists own common⟩
  | withOwn built name ih =>
    obtain ⟨own, common, told⟩ := ih
    exact ⟨_, _, told.withOwn name⟩
  | withCommon built name ih =>
    obtain ⟨own, common, told⟩ := ih
    exact ⟨_, _, told.withCommon name⟩

/-- Its own tables have names in lower case. -/
lemma Ownership.Built.map_toLower {o : Ownership} (built : o.Built) {n : String} (mem : n ∈ o.own) :
    n.toList.map Char.toLower = n.toList := by
  obtain ⟨own, common, told⟩ := built.exists_tells
  rw [← told.lowered (.inl mem), lowerString, String.toList_ofList, map_toLower_lower]

/-- Whether it does not matter to an identifier how the case of letters is passed over: its letters and
those of names that fold like it are plain, or it is such a name when it is put into lower case. -/
def Lease.Unambiguous (l : Lease) (r : List Char) : Prop :=
  (r.all isPlainCased ∧
    ∀ n ∈ l.ownership.own, n.toList.map foldChar = r.map foldChar → n.toList.all isPlainCased) ∨
  ∃ n ∈ l.ownership.own, n.toList.map foldChar = r.map foldChar ∧ lower r = n.toList

namespace Lease
variable {l : Lease} {r : List Char}

/-- To identifiers in ASCII it does not matter where the names are in ASCII. -/
lemma Unambiguous.of_isAscii (names : ∀ n ∈ l.ownership.own, n.toList.all isAscii)
    (h : r.all isAscii) : l.Unambiguous r :=
  .inl ⟨all_of_imp (fun _ => isPlainCased_of_isAscii) h,
    fun n mem _ => all_of_imp (fun _ => isPlainCased_of_isAscii) (names n mem)⟩

/-- An identifier is named by a lease if it is one of its tables but for the case. -/
lemma isNamed_words : isNamed l.words r = true ↔
    ∃ n ∈ l.ownership.own, n.toList.map foldChar = r.map foldChar := by
  rw [isNamed_iff]
  constructor
  · rintro ⟨n, mem, folds⟩
    exact ⟨_, mem_words.1 mem, by rwa [String.toList_ofList]⟩
  · rintro ⟨n, mem, folds⟩
    refine ⟨n.toList, mem_words.2 ?_, folds⟩
    rwa [String.ofList_toList]

/-- The order in which names are tried is no matter to whether a word is one of them. -/
lemma isNamed_own (w : List Char) : isNamed l.words w = isNamed (l.ownership.own.map String.toList) w := by
  rw [Bool.eq_iff_iff, isNamed_words, isNamed_iff]
  simp only [List.mem_map, exists_exists_and_eq_and]

/-- Nor to what is made of the word. -/
lemma leaseWord_words (mark w : List Char) :
    leaseWord l.words mark w = leaseWord (l.ownership.own.map String.toList) mark w := by
  rw [leaseWord, leaseWord, isNamed_own]

/-- Where names are words, the order in which they are tried is no matter. -/
lemma apply_eq_own (word : ∀ n ∈ l.words, IsWordName n) (sql : List Char) :
    l.apply sql = mapCode
      (mapWords (leaseWord (l.ownership.own.map String.toList) l.tablePrefix.text.toList)) sql := by
  rw [apply_eq_mapWords word]
  exact mapCode_congr fun x _ _ => mapWords_congr fun w _ => leaseWord_words _ w

/-! ## Statements -/

/-- Whether a lease takes all of an identifier for a name where it stands in a statement: nothing of the
statement is quoted, and the name that is found at the head of the identifier reaches its end. -/
structure Takes (l : Lease) (r : List Char) : Prop where
  code : lexemes (selectFrom ++ r) = [⟨.code, selectFrom ++ r⟩]
  whole : wordLength? l.words (some ' ') r = some r.length

/-- Whether an identifier is a name both to the lease and in lower case, or no name stands in it as a whole
word, it is none in lower case, and lower case is what the server makes of it. -/
inductive Alike (l : Lease) (r : List Char) : Prop where
  | own (takes : l.Takes r) (own : String.ofList (lower r) ∈ l.ownership.own)
  | other (clear : ¬ StandsIn l.words none r) (other : String.ofList (lower r) ∉ l.ownership.own)
      (lowered : lower r = r.map Char.toLower)

section Statement
variable (names : ∀ n ∈ l.ownership.own, IsIdentifier n.toList)
include names

/-- What is a name in some case has a character, and only such as names of tables have. -/
lemma chars_of_isNamed {w : List Char} (named : isNamed l.words w) :
    w ≠ [] ∧ ∀ c ∈ w, isWord c ∨ c = '$' := by
  obtain ⟨n, own, folds⟩ := isNamed_words.1 named
  have identifier := names n own
  refine ⟨?_, fun c mem => ?_⟩
  · rintro rfl
    exact identifier.1 (List.map_eq_nil_iff.1 folds)
  · have among : foldChar c ∈ n.toList.map foldChar := by
      rw [folds]
      exact List.mem_map_of_mem mem
    obtain ⟨d, memd, same⟩ := List.mem_map.1 among
    have char := List.all_eq_true.1 identifier.2.1 d memd
    rw [Bool.or_eq_true, decide_eq_true_eq] at char
    rcases char with word | rfl
    · exact .inl (isWord_of_fold same ▸ word)
    · exact .inr (eq_dollar_of_fold same.symm)

/-- What is a name in some case, and has no dollar sign, is a word. -/
lemma isWordName_of_isNamed {w : List Char} (named : isNamed l.words w) (clear : '$' ∉ w) :
    IsWordName w := by
  obtain ⟨some, chars⟩ := chars_of_isNamed names named
  refine ⟨some, List.all_eq_true.2 fun c mem => (chars c mem).resolve_right ?_⟩
  rintro rfl
  exact clear mem

/-- No name of a table stands in what is in front of the identifier. -/
lemma not_standsIn_selectFrom : ¬ StandsIn l.words none selectFrom := by
  intro standing
  have word : ∀ w, isNamed l.words w → (∀ c ∈ w, c ∈ selectFrom) → IsWordName w :=
    fun w named within =>
      isWordName_of_isNamed names named fun mem => absurd (within _ mem) (by decide)
  obtain ⟨w, mem, named⟩ := standing.exists_word word
  have two : Text.words selectFrom = ["SELECT", "FROM"].map String.toList := by decide
  rw [two] at mem
  obtain ⟨keyword, memk, rfl⟩ := List.mem_map.1 mem
  obtain ⟨n, own, folds⟩ := isNamed_words.1 named
  exact (names n own).2.2.2 keyword memk folds

/-- Neither does one that goes on in the identifier. -/
lemma not_standsAt_selectFrom {a b w back : List Char} (split : selectFrom = a ++ b) (some : b ≠ [])
    (head : b ++ r = w ++ back) : ¬ StandsAt l.words (a.getLast?.or none) w back := by
  intro here
  -- The blank at the end is in no name.
  have last : b.getLast? = Option.some ' ' := by
    have whole : (a ++ b).getLast? = Option.some ' ' := split ▸ (by decide)
    rwa [List.getLast?_append_of_ne_nil a some] at whole
  have blank : ' ' ∉ w := fun mem =>
    absurd ((chars_of_isNamed names here.named).2 ' ' mem) (by decide)
  obtain ⟨gap, rfl⟩ : ∃ gap, b = w ++ gap := by
    rcases List.append_eq_append_iff.1 head with ⟨gap, rfl, -⟩ | ⟨gap, eq, -⟩
    · exact absurd (List.mem_append_left gap (List.mem_of_getLast? last)) blank
    · exact ⟨gap, eq⟩
  obtain rfl : back = gap ++ r := by simpa using head.symm
  have more : gap ≠ [] := by
    rintro rfl
    rw [List.append_nil] at last
    exact blank (List.mem_of_getLast? last)
  obtain ⟨c, gap, rfl⟩ := List.exists_cons_of_ne_nil more
  obtain ⟨named, starts, ends⟩ := here
  refine not_standsIn_selectFrom names ⟨a, w, c :: gap, split, named, ?_, ends⟩
  cases w with
  | nil => exact starts
  | cons d w => exact starts

/-- So what stands in the statement stands in the identifier. -/
lemma standsIn_of_append (h : StandsIn l.words none (selectFrom ++ r)) : StandsIn l.words none r := by
  obtain ⟨front, w, back, split, here⟩ := h
  have behind (front' : List Char) (eq : front = selectFrom ++ front') (rest : r = front' ++ (w ++ back)) :
      StandsIn l.words none r := by
    have inside : StandsIn l.words (some ' ') r := by
      refine ⟨front', w, back, rest, ?_⟩
      have last : (selectFrom ++ front').getLast?.or none = front'.getLast?.or (some ' ') := by
        rw [List.getLast?_append, Option.or_none]
        rfl
      rwa [eq, last] at here
    exact inside.congr (by decide)
  rcases List.append_eq_append_iff.1 split with ⟨front', eq, rest⟩ | ⟨b, eq, head⟩
  · exact behind front' eq rest
  · cases b with
    | nil => exact behind [] (by simpa using eq.symm) head.symm
    | cons c b => exact absurd here (not_standsAt_selectFrom names eq (List.cons_ne_nil c b) head.symm)

/-- A lease looks for names in the identifier alone. -/
lemma markWords_selectFrom (mark : List Char) : markWords l.words mark false none (selectFrom ++ r) =
    selectFrom ++ markWords l.words mark false (some ' ') r := by
  refine markWords_append (fun a b split some => ?_) (by decide) false
  cases found : wordLength? l.words (a.getLast?.or none) (b ++ r) with
  | none => rfl
  | some n =>
    obtain ⟨w, back, head, -, here⟩ := standsAt_of_wordLength found
    exact absurd here (not_standsAt_selectFrom names split some head)

/-- A statement about an identifier in which no name stands is left alone. -/
lemma apply_of_clear (identifier : IsIdentifier r) (clear : ¬ StandsIn l.words none r) :
    l.apply (selectFrom ++ r) = selectFrom ++ r := by
  have chars : ∀ c ∈ text (lexemes (selectFrom ++ r)), isBare c ∨ c = '$' := by
    intro c mem
    rw [text_lexemes] at mem
    rcases List.mem_append.1 mem with front | own
    · exact .inl (List.all_eq_true.1 (by decide : selectFrom.all isBare) c front)
    · have char := List.all_eq_true.1 identifier.2.1 c own
      rw [Bool.or_eq_true, decide_eq_true_eq] at char
      exact char.imp_left isBare_of_isWord
  have clear' : ¬ StandsIn l.words ([] : List Char).head? (text (lexemes (selectFrom ++ r))) := by
    rw [text_lexemes]
    exact fun standing => clear (standsIn_of_append names standing)
  rw [apply_eq_mapCode]
  exact mapCode_eq_self fun t mem code =>
    markWords_eq_self ((cut_lexemes _).not_standsIn chars (fun _ _ _ => rfl) clear' t mem code) false

/-- An identifier that is taken for a name gets the prefix in a statement. -/
lemma apply_of_takes (takes : l.Takes r) :
    l.apply (selectFrom ++ r) = selectFrom ++ (l.tablePrefix.text.toList ++ lower r) := by
  have named {before : Option Char} {n : Nat} {cs : List Char}
      (found : wordLength? l.words before cs = some n) : 0 < n := by
    obtain ⟨w, back, -, rfl, here⟩ := standsAt_of_wordLength found
    exact List.length_pos_of_ne_nil (chars_of_isNamed names here.named).1
  have done (before : Option Char) : markWords l.words l.tablePrefix.text.toList true before [] = [] := by
    rw [markWords, if_neg fun found => absurd (named found.1) (Nat.lt_irrefl 0)]
  rw [apply_eq_mapCode, mapCode, takes.code, List.flatMap_singleton, if_pos rfl,
    markWords_selectFrom names]
  obtain ⟨c, r, rfl⟩ := List.exists_cons_of_ne_nil (List.ne_nil_of_length_pos (named takes.whole))
  rw [markWords, takes.whole, List.length_cons]
  dsimp only
  rw [← List.length_cons (a := c), List.take_length, List.drop_length, done, List.append_nil]

/-- Where the names have no dollar signs, none stands in a text unless one of its words is one. -/
lemma not_standsIn_of_words (clear : ∀ n ∈ l.ownership.own, '$' ∉ n.toList)
    (words : ∀ w ∈ Text.words r, isNamed (l.ownership.own.map String.toList) w = false) :
    ¬ StandsIn l.words none r := by
  have word : ∀ w, isNamed l.words w → IsWordName w := by
    intro w named
    refine isWordName_of_isNamed names named fun sign => ?_
    obtain ⟨n, own, folds⟩ := isNamed_words.1 named
    have among : foldChar '$' ∈ n.toList.map foldChar := by
      rw [folds]
      exact List.mem_map_of_mem sign
    obtain ⟨d, memd, same⟩ := List.mem_map.1 among
    exact clear n own (eq_dollar_of_fold same ▸ memd)
  intro standing
  obtain ⟨w, mem, named⟩ := standing.exists_word fun w named _ => word w named
  rw [isNamed_own, words w mem] at named
  cases named

/-! ## Identifiers without dollar signs -/

/-- Without dollar signs an identifier is taken for a name if it is one in some case. -/
lemma takes_of_isNamed (identifier : IsIdentifier r) (clear : '$' ∉ r) (named : isNamed l.words r) :
    l.Takes r := by
  obtain ⟨some, chars⟩ := identifier.isWordName clear
  have word : ∀ n ∈ l.words.filter ('$' ∉ ·), IsWordName n := by
    intro n mem
    obtain ⟨mem, clear⟩ := List.mem_filter.1 mem
    have name := names _ (mem_words.1 mem)
    rw [String.toList_ofList] at name
    exact name.isWordName (of_decide_eq_true clear)
  refine ⟨lexemes_eq_code ?_ (by simp [some]), ?_⟩
  · rw [List.all_append, all_of_imp (fun _ => isBare_of_isWord) chars, Bool.and_true]
    decide
  · have blank : (Option.some ' ').any isWord = false := by decide
    have ends : ([] : List Char).head?.any isWord = false := rfl
    have length := wordLength_word word some chars ends blank
    rwa [List.append_nil, wordLength_dollar _ clear, isNamed_dollar clear, if_pos named] at length

/-- Without dollar signs a name stands in an identifier only if the identifier is that name in some case. -/
lemma isNamed_of_standsIn (identifier : IsIdentifier r) (clear : '$' ∉ r)
    (standing : StandsIn l.words none r) : isNamed l.words r := by
  obtain ⟨some, chars⟩ := identifier.isWordName clear
  obtain ⟨w, mem, named⟩ := standing.exists_word fun w named within =>
    isWordName_of_isNamed names named fun mem => clear (within _ mem)
  rw [words_eq_singleton some chars, List.mem_singleton] at mem
  exact mem ▸ named

/-- For identifiers without dollar signs it is enough that it does not matter how case is passed over. -/
lemma Unambiguous.alike (h : l.Unambiguous r) (built : l.ownership.Built) (identifier : IsIdentifier r)
    (clear : '$' ∉ r) : l.Alike r := by
  rcases h with ⟨plain, plain'⟩ | ⟨n, own, folds, lowered⟩
  · have lowered := lower_of_isPlainCased plain
    cases named : isNamed l.words r with
    | true =>
      obtain ⟨n, own, folds⟩ := isNamed_words.1 named
      have same : n.toList = lower r := by
        calc n.toList = n.toList.map Char.toLower := (built.map_toLower own).symm
          _ = n.toList.map foldChar := (map_foldChar_of_isPlainCased (plain' n own folds)).symm
          _ = r.map foldChar := folds
          _ = r.map Char.toLower := map_foldChar_of_isPlainCased plain
          _ = lower r := lowered.symm
      refine .own (takes_of_isNamed names identifier clear named) ?_
      rwa [← same, String.ofList_toList]
    | false =>
      refine .other (fun standing => ?_) (fun own => ?_) lowered
      · rw [isNamed_of_standsIn names identifier clear standing] at named
        cases named
      · have folds : (String.ofList (lower r)).toList.map foldChar = r.map foldChar := by
          rw [String.toList_ofList, map_foldChar_lower plain]
        rw [isNamed_words.2 ⟨_, own, folds⟩] at named
        cases named
  · refine .own (takes_of_isNamed names identifier clear (isNamed_words.2 ⟨n, own, folds⟩)) ?_
    rwa [lowered, String.ofList_toList]

/-! ## Names between quotes -/

/-- A name between quotes is no matter to the lease, and the server reads the table of that name. -/
lemma reads_quoteName (x : List Char) : l.reads? (quoteName x) = some (String.ofList x) := by
  have bare : selectFrom.all isBare := by decide
  have sent : l.apply (selectFrom ++ quoteName x) = selectFrom ++ quoteName x := by
    rw [apply_eq_mapCode]
    refine mapCode_eq_self fun t mem code => ?_
    rw [lexemes_quoteName bare (by decide)] at mem
    rcases List.mem_cons.1 mem with rfl | mem
    · exact markWords_eq_self (not_standsIn_selectFrom names) false
    · obtain rfl := List.mem_singleton.1 mem
      cases code
  rw [reads?, sent, tableRead_append, serverName_quoteName]
  rfl

end Statement

end Lease

/-! ## Questions -/

namespace Connection
variable {c : Connection} {l : Lease}

/-- A connection with a lease gives tables the names that the lease does. -/
lemma table_of_lease (lease : c.lease = some l) (name : String) : c.table name = l.table name := by
  rw [table, lease]
  dsimp only
  rw [foldName_quoteName, String.ofList_toList]

/-- A name in quotes is prefixed if it is an own table as it stands. -/
lemma table_quoteName (lease : c.lease = some l) (x : List Char) :
    c.table (String.ofList (quoteName x)) =
      if String.ofList x ∈ l.ownership.own then l.tablePrefix.apply (String.ofList x)
      else String.ofList x := by
  rw [table_of_lease lease, Lease.table, String.toList_ofList, foldName_quoteName]

/-- An identifier is prefixed if it is an own table in lower case. -/
lemma table_word (lease : c.lease = some l) {r : List Char} (identifier : IsIdentifier r) :
    c.table (String.ofList r) =
      if String.ofList (lower r) ∈ l.ownership.own then l.tablePrefix.apply (String.ofList (lower r))
      else String.ofList (lower r) := by
  rw [table_of_lease lease, Lease.table, String.toList_ofList, identifier.foldName]

/-- An identifier is read in a statement as it is in a question, where it is a name of the tenant's own for
both or for neither. -/
lemma reads_of_alike (lease : c.lease = some l) (names : ∀ n ∈ l.ownership.own, IsIdentifier n.toList)
    {r : List Char} (identifier : IsIdentifier r) (alike : l.Alike r) :
    l.reads? r = some (c.table (String.ofList r)) := by
  rw [table_word lease identifier]
  cases alike with
  | own takes own =>
    have identifier' : IsIdentifier (l.tablePrefix.text.toList ++ lower r) := by
      have name := names _ own
      rw [String.toList_ofList] at name
      exact name.prefixed l.tablePrefix
    rw [if_pos own, Lease.reads?, Lease.apply_of_takes names takes, tableRead_append,
      identifier'.serverName, List.map_append, map_toLower_lower,
      map_toLower_of_isPrefixChar l.tablePrefix.sanitized.2.2.2]
    simp [TablePrefix.apply, String.ofList_append]
  | other clear other lowered =>
    rw [if_neg other, Lease.reads?, Lease.apply_of_clear names identifier clear, tableRead_append,
      identifier.serverName, lowered]
    rfl

/-- If a name is prefixed in statements and read as in questions, it is an own table in lower case. -/
lemma own_of_reads (lease : c.lease = some l) (names : ∀ n ∈ l.ownership.own, IsIdentifier n.toList)
    {r : List Char} (identifier : IsIdentifier r) (takes : l.Takes r)
    (same : l.reads? r = some (c.table (String.ofList r))) : String.ofList (lower r) ∈ l.ownership.own := by
  by_contra other
  rw [table_word lease identifier, if_neg other, Lease.reads?, Lease.apply_of_takes names takes,
    tableRead_append] at same
  obtain ⟨read, found, eq⟩ := Option.map_eq_some_iff.1 same
  rw [serverName_of_head (l.tablePrefix.head_ne_quote _)] at found
  split at found
  · -- What the server reads starts with the prefix, so it is too long.
    obtain rfl := Option.some.inj found
    have length := congrArg List.length (String.ofList_injective eq)
    rw [List.length_map, List.length_append] at length
    have longer : 0 < l.tablePrefix.text.toList.length := List.length_pos_of_ne_nil l.tablePrefix.ne_nil
    omega
  · cases found

/-- If statements leave an identifier alone and it is read as in questions, it is no own table, and in lower
case it is what the server makes of it. -/
lemma other_of_reads (lease : c.lease = some l) (names : ∀ n ∈ l.ownership.own, IsIdentifier n.toList)
    {r : List Char} (identifier : IsIdentifier r) (clear : ¬ StandsIn l.words none r)
    (same : l.reads? r = some (c.table (String.ofList r))) :
    String.ofList (lower r) ∉ l.ownership.own ∧ lower r = r.map Char.toLower := by
  rw [table_word lease identifier, Lease.reads?, Lease.apply_of_clear names identifier clear,
    tableRead_append, identifier.serverName] at same
  have read := Option.some.inj same
  by_cases own : String.ofList (lower r) ∈ l.ownership.own
  · -- The question is for a name with the prefix, which is longer than what the server reads.
    rw [if_pos own, TablePrefix.apply] at read
    have length := congrArg (fun s => s.toList.length) read
    simp only [String.toList_ofList, String.toList_append, List.length_map, List.length_append] at length
    have grows := length_le_length_lower r
    have longer : 0 < l.tablePrefix.text.toList.length := List.length_pos_of_ne_nil l.tablePrefix.ne_nil
    omega
  · rw [if_neg own] at read
    exact ⟨own, (String.ofList_injective read).symm⟩

/-- Of identifiers without dollar signs nothing more can be said: where they are not alike, statements and
questions lead to different tables. -/
theorem reads_eq_table_iff (lease : c.lease = some l)
    (names : ∀ n ∈ l.ownership.own, IsIdentifier n.toList) {r : List Char} (identifier : IsIdentifier r)
    (clear : '$' ∉ r) : l.reads? r = some (c.table (String.ofList r)) ↔ l.Alike r := by
  refine ⟨fun same => ?_, fun alike => reads_of_alike lease names identifier alike⟩
  cases named : isNamed l.words r with
  | true =>
    have takes := Lease.takes_of_isNamed names identifier clear named
    exact .own takes (own_of_reads lease names identifier takes same)
  | false =>
    have standing : ¬ StandsIn l.words none r := fun standing => by
      rw [Lease.isNamed_of_standsIn names identifier clear standing] at named
      cases named
    obtain ⟨own, lowered⟩ := other_of_reads lease names identifier standing same
    exact .other standing own lowered

/-- The lease of a tenant whose prefix is `smith_`. -/
def smithLease : Lease := ⟨⟨"smith_", by decide⟩, .standard⟩

/-- A connection under that lease. -/
def smith : Connection where
  address := ⟨"localhost", 5432, "trees", "smith", none, [], .url⟩
  channel := .direct ⟨0⟩
  lease := some smithLease

/-- An identifier without quotes denotes for a tenant the same table in statements and in questions, where
it is a name of the tenant's own for both or for neither. A name between quotes is the table itself in
statements; in questions it is so too, unless it is the name of a tenant's own table: then the question
is about that table. -/
theorem table_eq_reads (lease : c.lease = some l)
    (names : ∀ n ∈ l.ownership.own, IsIdentifier n.toList) :
    (∀ r, IsIdentifier r → l.Alike r → l.reads? r = some (c.table (String.ofList r))) ∧
    ∀ x, l.reads? (quoteName x) = some (String.ofList x) ∧
      c.table (String.ofList (quoteName x)) =
        if String.ofList x ∈ l.ownership.own then l.tablePrefix.apply (String.ofList x)
        else String.ofList x :=
  ⟨fun _ identifier alike => reads_of_alike lease names identifier alike,
    fun x => ⟨Lease.reads_quoteName names x, table_quoteName lease x⟩⟩

/-- So `Person` is the tenant's own table, while `a$b` and `µm` are tables of those names. -/
theorem table_eq_reads_smith :
    smith.lease = some smithLease ∧ (∀ n ∈ smithLease.ownership.own, IsIdentifier n.toList) ∧
      (smithLease.Alike "Person".toList ∧
        smithLease.reads? "Person".toList = some (smith.table "Person") ∧
          smith.table "Person" = "smith_person") ∧
      (smithLease.Alike "a$b".toList ∧ smithLease.reads? "a$b".toList = some (smith.table "a$b") ∧
        smith.table "a$b" = "a$b") ∧
      (smithLease.Alike "µm".toList ∧ smithLease.reads? "µm".toList = some (smith.table "µm") ∧
        smith.table "µm" = "µm") ∧
      smithLease.reads? "\"Person\"".toList = some "Person" := by
  have names : ∀ n ∈ smithLease.ownership.own, IsIdentifier n.toList := by decide
  have clear : ∀ n ∈ smithLease.ownership.own, '$' ∉ n.toList := by decide
  obtain ⟨word, quoted⟩ := table_eq_reads (c := smith) rfl names
  have ascii : smithLease.Unambiguous "Person".toList := .of_isAscii (by decide) (by decide)
  have person : smithLease.Alike "Person".toList :=
    ascii.alike names (.ofLists _ _) (by decide) (by decide)
  have sign : smithLease.Alike "a$b".toList :=
    .other (Lease.not_standsIn_of_words names clear (by decide)) (by decide) (by decide)
  have micro : smithLease.Alike "µm".toList :=
    .other (Lease.not_standsIn_of_words names clear (by decide)) (by decide) (by decide)
  exact ⟨rfl, names, ⟨person, word _ (by decide) person, by decide⟩,
    ⟨sign, word _ (by decide) sign, by decide⟩, ⟨micro, word _ (by decide) micro, by decide⟩,
    (quoted "Person".toList).1⟩

/-- Statements and questions differ about a name between quotes that is a tenant's own, about letters
that fold like those of a name, about capitals of other scripts, and about a name with a dollar sign. -/
theorem reads_ne_table :
    (smithLease.reads? "\"person\"".toList = some "person" ∧
      smith.table "\"person\"" = "smith_person") ∧
    (IsIdentifier "ſource".toList ∧ smithLease.reads? "ſource".toList = some "smith_ſource" ∧
      smith.table "ſource" = "ſource") ∧
    (IsIdentifier "École".toList ∧ smithLease.reads? "École".toList = some "École" ∧
      smith.table "École" = "école") ∧
    IsIdentifier "person$x".toList ∧ smithLease.reads? "person$x".toList = some "smith_person$x" ∧
      smith.table "person$x" = "person$x" := by
  have tame : Tame smithLease.words := tame_standard smithLease.tablePrefix
  have read (r : List Char) : smithLease.reads? r = tableRead? (mapCode (mapWords
      (leaseWord (Ownership.standard.own.map String.toList) "smith_".toList)) (selectFrom ++ r)) := by
    rw [Lease.reads?, Lease.apply_eq_own fun n mem => (tame.name n mem).plain.isWordName]
    rfl
  rw [read, read, read, read]
  decide +kernel

end Connection

end Tenancy
