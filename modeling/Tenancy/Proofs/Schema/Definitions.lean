import Tenancy.Proofs.Schema.Derivation
import Tenancy.Proofs.Schema.Upkeep

/-!
# What definitions mention

The definition of a tenant's table, trigger or index is made of pieces: those of the tenant, and what
stands between them. That of a function is code around a body, and the body names no table.
`proper_definition` says that a definition mentions what carries the tenant's prefix, and neutral names.
-/

namespace Tenancy.Schema
open Text Sql Connection

/-! ## Putting pieces together -/

/-- Code that leads up to a piece. -/
def Leads (cs : List Char) : Prop := Checked cs ∧ cs ≠ [] ∧ cs.getLast?.any isWord = false
deriving Decidable

/-- Code that comes after a piece. -/
def Trails (cs : List Char) : Prop := Checked cs ∧ cs.head?.any isWord = false
deriving Decidable

/-- What statements begin with. -/
def leadTexts : List String :=
  ["CREATE TABLE IF NOT EXISTS ", "PRIMARY KEY (", "ALTER TABLE ", "DROP TRIGGER IF EXISTS ",
    "CREATE TRIGGER ", "FOR EACH ROW EXECUTE FUNCTION ", "CREATE INDEX IF NOT EXISTS ", "UPDATE ",
    "WHERE "]

/-- What stands between two pieces of a statement. -/
def linkTexts : List String :=
  [" (\n    ", ",\n    ", " ", ", ", " ADD COLUMN IF NOT EXISTS ", " ON ",
    " BEFORE INSERT OR UPDATE OF ", " USING ", " (", " SET ", " = "]

/-- What statements end with. -/
def trailTexts : List String := ["\n)", ")", "()", " IS NOT NULL"]

/-- All texts between the names of a definition have been checked. -/
lemma texts_checked : (∀ s ∈ leadTexts, Leads s.toList) ∧
    (∀ s ∈ linkTexts, Leads s.toList ∧ Trails s.toList) ∧ (∀ s ∈ trailTexts, Trails s.toList) ∧
    ∀ s ∈ ["", documentColumn], Checked s.toList := by
  decide +kernel

/-- A text in front of a piece leads to it. -/
lemma leads : ∀ s ∈ leadTexts, Leads s.toList := texts_checked.1

/-- A text between two pieces links them. -/
lemma links : ∀ s ∈ linkTexts, Leads s.toList ∧ Trails s.toList := texts_checked.2.1

/-- A text behind a piece trails it. -/
lemma trails : ∀ s ∈ trailTexts, Trails s.toList := texts_checked.2.2.1

/-- No word goes on after code that leads up to a piece. -/
lemma Leads.apart {g : String} (h : Leads g.toList) (s t : String) : Apart (s ++ g).toList t.toList := by
  refine .inl ?_
  obtain ⟨front, c, eq⟩ := (List.eq_nil_or_concat g.toList).resolve_left h.2.1
  have ends := h.2.2
  rw [eq, List.concat_eq_append, List.getLast?_concat] at ends
  rw [String.toList_append, eq, List.concat_eq_append, ← List.append_assoc, List.getLast?_concat]
  exact ends

namespace Piece
variable {p : TablePrefix} {s t g : String}

/-- A piece stays one with a text that leads to it. -/
lemma lead (h : Leads g.toList) (ht : Piece p t) : Piece p (g ++ t) :=
  (of_checked h.1).append ht (.inl h.2.2)

/-- It stays one with a text that trails it. -/
lemma trail (hs : Piece p s) (h : Trails g.toList) : Piece p (s ++ g) :=
  hs.append (of_checked h.1) (.inr h.2)

/-- Two pieces that are linked are one. -/
lemma link (hs : Piece p s) (h : Leads g.toList ∧ Trails g.toList) (ht : Piece p t) :
    Piece p (s ++ g ++ t) := (hs.trail h.2).append ht (h.1.apart s t)

/-- So are any number of them. -/
lemma intercalate (h : Leads g.toList ∧ Trails g.toList) {texts : List String}
    (all : ∀ s ∈ texts, Piece p s) : Piece p (g.intercalate texts) := by
  induction texts with
  | nil =>
    rw [String.intercalate_nil]
    exact of_checked (texts_checked.2.2.2 _ (by simp))
  | cons s texts ih =>
    obtain ⟨head, tail⟩ := List.forall_mem_cons.1 all
    cases texts with
    | nil => rwa [String.intercalate_singleton]
    | cons t texts =>
      rw [String.intercalate_cons_of_ne_nil (by simp)]
      exact head.link h (ih tail)

end Piece

/-! ## Definitions -/

/-- Whether the parts of a definition are those of a tenant. -/
def Definition.Made (p : TablePrefix) : Definition → Prop
  | .createTable table columns primaryKey =>
    Piece p table ∧ (∀ c ∈ columns, Piece p c.1 ∧ Piece p c.2) ∧ ∀ k ∈ primaryKey, Piece p k
  | .addColumn table column type => Piece p table ∧ Piece p column ∧ Piece p type
  | .createFunction name assignments =>
    (∃ a ∈ Inventory.ownNames, name = p.apply a) ∧
      ∀ x ∈ assignments, Mute x.1.toList ∧ Telling Quiet x.2.toList
  | .dropTrigger name table | .createTrigger name table => Piece p name ∧ Piece p table
  | .createIndex name table method elements =>
    Piece p name ∧ Piece p table ∧ Piece p method.name ∧ Piece p elements

section Definition
variable {p : TablePrefix}

/-- The statement that creates a table is a piece. -/
lemma piece_createTable {table : String} {columns : List (String × String)}
    {primaryKey : List String} (made : (Definition.createTable table columns primaryKey).Made p) :
    Piece p (Definition.createTable table columns primaryKey).sql := by
  obtain ⟨name, all, keys⟩ := made
  have line : ∀ c ∈ columns, Piece p (c.1 ++ " " ++ c.2) := fun c mem =>
    (all c mem).1.link (links _ (by decide)) (all c mem).2
  have key : Piece p ("PRIMARY KEY (" ++ ", ".intercalate primaryKey ++ ")") :=
    (Piece.lead (leads _ (by decide)) (.intercalate (links _ (by decide)) keys)).trail
      (trails _ (by decide))
  have lines : ∀ s ∈ columns.map (fun c => s!"{c.1} {c.2}") ++
      ["PRIMARY KEY (" ++ ", ".intercalate primaryKey ++ ")"], Piece p s := by
    intro s mem
    rcases List.mem_append.1 mem with mem | mem
    · obtain ⟨c, memc, rfl⟩ := List.mem_map.1 mem
      exact line c memc
    · rw [List.mem_singleton.1 mem]
      exact key
  exact ((Piece.lead (leads _ (by decide)) name).link (links _ (by decide))
    (.intercalate (links _ (by decide)) lines)).trail (trails _ (by decide))

/-- A definition is made of pieces, unless it is that of a function. -/
lemma piece_definition {d : Definition} (made : d.Made p)
    (other : ∀ name assignments, d ≠ .createFunction name assignments) : Piece p d.sql := by
  have document : Piece p documentColumn := .of_checked (texts_checked.2.2.2 _ (by simp))
  cases d with
  | createTable table columns primaryKey => exact piece_createTable made
  | addColumn table column type =>
    obtain ⟨hn, hc, ht⟩ := made
    exact ((Piece.lead (leads _ (by decide)) hn).link (links _ (by decide)) hc).link
      (links _ (by decide)) ht
  | createFunction name assignments => exact absurd rfl (other name assignments)
  | dropTrigger name table =>
    exact (Piece.lead (leads _ (by decide)) made.1).link (links _ (by decide)) made.2
  | createTrigger name table =>
    have runs : Piece p ("FOR EACH ROW EXECUTE FUNCTION " ++ name ++ "()") :=
      (Piece.lead (leads _ (by decide)) made.1).trail (trails _ (by decide))
    exact (((Piece.lead (leads _ (by decide)) made.1).link (links _ (by decide)) document).link
      (links _ (by decide)) made.2).link (links _ (by decide)) runs
  | createIndex name table method elements =>
    obtain ⟨hn, ht, hm, he⟩ := made
    exact ((((Piece.lead (leads _ (by decide)) hn).link (links _ (by decide)) ht).link
      (links _ (by decide)) hm).link (links _ (by decide)) he).trail (trails _ (by decide))

/-! ## The function of a table -/

/-- A word that the lease leaves alone is none of a tenant's tables. -/
lemma Proper.not_mem_ownTables {name : List Char} (h : Proper p name) : name ∉ ownTables := by
  intro mem
  have own : String.ofList name ∈ Ownership.standard.own := by
    rwa [mem_ownTables, String.toList_ofList]
  have same := h.own.2 none _ own (by rw [tableName, String.toList_ofList])
  cases same

/-- The words of mute code are as the lease leaves them. -/
lemma Mute.leased {cs : List Char} (h : Mute cs) : ∀ w ∈ words cs, Leased p w := by
  intro w mem
  obtain ⟨some, word⟩ := isWord_of_mem_words mem
  obtain ⟨clear, -⟩ := h.2.2 w mem
  refine ⟨some, word, List.all_eq_true.2 fun c memc => ?_, clear, .inl (h.quiet w mem)⟩
  exact List.all_eq_true.1 h.2.1 c (mem_of_mem_words mem memc)

/-- The tag of the bodies of functions. -/
def syncTag : List Char := "sync".toList

/-- The tag of the function's body is one. -/
lemma isTag_syncTag : IsTag syncTag := ⟨by decide, by decide⟩

/-- The code after the body of a function. -/
def functionTail : String := " LANGUAGE plpgsql"

/-- What the definition of a function is made of, but for its name and its assignments. -/
lemma functionTexts_checked :
    (∀ s ∈ ["    RETURN NEW;\nEND;\n", functionTail, String.ofList syncTag], Mute s.toList) ∧
    (∀ s ∈ ["CREATE OR REPLACE FUNCTION ", "\nBEGIN\n"],
      Mute s.toList ∧ s.toList.getLast?.any isWord = false) ∧
    (Mute "() RETURNS trigger AS ".toList ∧ "() RETURNS trigger AS ".toList.head?.any isWord = false ∧
      "() RETURNS trigger AS ".toList.getLast?.any isNameChar = false) ∧
    isWord ' ' = false ∧ isWord '$' = false := by
  decide +kernel

/-- What stands behind the body names no table. -/
lemma mute_functionTail : Mute functionTail.toList := functionTexts_checked.1 _ (by simp)

/-- The assignments in the body of a function. -/
def assignmentLines (assignments : List (String × String)) : List String :=
  assignments.map fun (column, value) => s!"    NEW.{column} := {value};\n"

/-- The assignments of the function tell quiet words. -/
lemma telling_assignmentLines {assignments : List (String × String)}
    (h : ∀ x ∈ assignments, Mute x.1.toList ∧ Telling Quiet x.2.toList) :
    ∃ more, (String.join (assignmentLines assignments)).toList ++
        "    RETURN NEW;\nEND;\n".toList = ' ' :: more ∧ Telling Quiet (' ' :: more) := by
  induction assignments with
  | nil =>
    have closing : Mute "    RETURN NEW;\nEND;\n".toList := functionTexts_checked.1 _ (by simp)
    refine ⟨"   RETURN NEW;\nEND;\n".toList, by simp [assignmentLines], ?_⟩
    simpa using closing.telling
  | cons x assignments ih =>
    obtain ⟨head, tail⟩ := List.forall_mem_cons.1 h
    obtain ⟨more, eq, telling⟩ := ih tail
    have line : Telling Quiet ("    NEW.".toList ++ (x.1.toList ++ (" := ".toList ++
        (x.2.toList ++ ";\n".toList)))) :=
      telling_opening (by decide)
        (telling_joint (by decide) head.1.telling (telling_closing (by decide) head.2))
    have gap : isWord ' ' = false := functionTexts_checked.2.2.2.1
    have both := line.append telling (List.cons_ne_nil _ _) (by simpa using gap)
      (by simp [apostrophe])
    have whole : (String.join (assignmentLines (x :: assignments))).toList ++
        "    RETURN NEW;\nEND;\n".toList =
        "    NEW.".toList ++ (x.1.toList ++ (" := ".toList ++ (x.2.toList ++ ";\n".toList))) ++
          ((String.join (assignmentLines assignments)).toList ++
            "    RETURN NEW;\nEND;\n".toList) := by
      change (String.join (("    NEW." ++ x.1 ++ " := " ++ x.2 ++ ";\n") ::
        assignmentLines assignments)).toList ++ _ = _
      rw [String.join_cons]
      simp only [String.toList_append, List.append_assoc]
    rw [whole, eq]
    refine ⟨"   NEW.".toList ++ (x.1.toList ++ (" := ".toList ++ (x.2.toList ++ ";\n".toList))) ++
      (' ' :: more), by simp, ?_⟩
    simpa using both

/-- The code before the body of a function. -/
def functionHead (name : String) : String :=
  "CREATE OR REPLACE FUNCTION " ++ name ++ "() RETURNS trigger AS "

/-- The head of the function is its name between two texts. -/
lemma toList_functionHead (name : String) :
    (functionHead name).toList = "CREATE OR REPLACE FUNCTION ".toList ++
      (name.toList ++ "() RETURNS trigger AS ".toList) := by
  change ("CREATE OR REPLACE FUNCTION " ++ name ++ "() RETURNS trigger AS ").toList = _
  rw [String.toList_append, String.toList_append, List.append_assoc]

/-- The body of a function. -/
def functionBody (assignments : List (String × String)) : String :=
  "\nBEGIN\n" ++ String.join (assignmentLines assignments) ++ "    RETURN NEW;\nEND;\n"

/-- The statement that creates the function is a head, a body between tags and a tail. -/
lemma toList_createFunction (name : String) (assignments : List (String × String)) :
    (Definition.createFunction name assignments).sql.toList =
      (functionHead name).toList ++ (bodyMark syncTag ++ ((functionBody assignments).toList ++
        (bodyMark syncTag ++ functionTail.toList))) := by
  have opens : "() RETURNS trigger AS $sync$\nBEGIN\n".toList =
      "() RETURNS trigger AS ".toList ++ (bodyMark syncTag ++ "\nBEGIN\n".toList) := by
    simp [bodyMark, syncTag]
  have closes : "    RETURN NEW;\nEND;\n$sync$ LANGUAGE plpgsql".toList =
      "    RETURN NEW;\nEND;\n".toList ++ (bodyMark syncTag ++ functionTail.toList) := by
    simp [bodyMark, syncTag, functionTail]
  change ("CREATE OR REPLACE FUNCTION " ++ name ++ "() RETURNS trigger AS $sync$\nBEGIN\n" ++
    String.join (assignmentLines assignments) ++
    "    RETURN NEW;\nEND;\n$sync$ LANGUAGE plpgsql").toList = _
  rw [toList_functionHead, functionBody]
  simp only [String.toList_append, opens, closes, List.append_assoc]

/-- All words in the head of a function are leased, and it ends with none. -/
lemma leased_functionHead {a : String} (mem : a ∈ Inventory.ownNames) :
    (functionHead (p.apply a)).toList.all isInert ∧
      (functionHead (p.apply a)).toList.getLast?.any isNameChar = false ∧
      ∀ w ∈ words (functionHead (p.apply a)).toList, Leased p w := by
  have start : Mute "CREATE OR REPLACE FUNCTION ".toList ∧
      "CREATE OR REPLACE FUNCTION ".toList.getLast?.any isWord = false :=
    functionTexts_checked.2.1 _ (by simp)
  have returns : Mute "() RETURNS trigger AS ".toList ∧
      "() RETURNS trigger AS ".toList.head?.any isWord = false ∧
      "() RETURNS trigger AS ".toList.getLast?.any isNameChar = false :=
    functionTexts_checked.2.2.1
  have carries := Leased.of_apply (p := p) mem
  rw [toList_functionHead]
  refine ⟨?_, ?_, ?_⟩
  · rw [List.all_append, List.all_append, start.1.2.1, carries.inert, returns.1.2.1]
    rfl
  · rw [← List.append_assoc, List.getLast?_append_of_ne_nil _ returns.1.1]
    exact returns.2.2
  · rw [words_append (.inl start.2), words_append (.inr returns.2.1),
      words_eq_singleton carries.some carries.word]
    intro w memw
    rcases List.mem_append.1 memw with memw | memw
    · exact start.1.leased w memw
    rcases List.mem_append.1 memw with memw | memw
    · rw [List.mem_singleton.1 memw]
      exact carries
    · exact returns.1.leased w memw

/-- The body of a function, with the mark that ends it. -/
lemma telling_functionBody {assignments : List (String × String)}
    (h : ∀ x ∈ assignments, Mute x.1.toList ∧ Telling Quiet x.2.toList) :
    Telling Quiet (functionBody assignments).toList := by
  obtain ⟨more, eq, telling⟩ := telling_assignmentLines h
  have begins : Mute "\nBEGIN\n".toList ∧ "\nBEGIN\n".toList.getLast?.any isWord = false :=
    functionTexts_checked.2.1 _ (by simp)
  rw [functionBody, String.toList_append, String.toList_append, List.append_assoc, eq]
  exact begins.1.lead begins.2 telling

/-- What the definition of a tenant's function is cut into. -/
lemma lexemes_createFunction {a : String} (mem : a ∈ Inventory.ownNames)
    {assignments : List (String × String)}
    (h : ∀ x ∈ assignments, Mute x.1.toList ∧ Telling Quiet x.2.toList) :
    lexemes (Definition.createFunction (p.apply a) assignments).sql.toList =
      [⟨.code, (functionHead (p.apply a)).toList⟩,
        ⟨.dollarQuoted,
          bodyMark syncTag ++ ((functionBody assignments).toList ++ bodyMark syncTag)⟩,
        ⟨.code, functionTail.toList⟩] := by
  have tail := mute_functionTail
  obtain ⟨inert, ends, -⟩ := leased_functionHead (p := p) mem
  rw [toList_createFunction]
  exact lexemes_body isTag_syncTag (by simp [toList_functionHead]) (isBare_of_isInert inert) ends
    (telling_functionBody h).untagged tail.1 (isBare_of_isInert tail.2.1)

/-- The definition of a function is sent as it stands. -/
lemma adapt_createFunction {c : Connection} (serves : Serves c p) {function : String}
    {assignments : List (String × String)}
    (made : (Definition.createFunction function assignments).Made p) :
    c.adapt (Definition.createFunction function assignments).sql =
      (Definition.createFunction function assignments).sql := by
  obtain ⟨⟨a, mem, rfl⟩, all⟩ := made
  obtain ⟨inert, -, leasedHead⟩ := leased_functionHead (p := p) mem
  have tail := mute_functionTail
  have code : ∀ x ∈ lexemes (Definition.createFunction (p.apply a) assignments).sql.toList,
      x.kind = .code → x.text.all isInert ∧ ∀ w ∈ words x.text, Leased p w := by
    rw [lexemes_createFunction (p := p) mem all]
    simp only [List.forall_mem_cons]
    exact ⟨fun _ => ⟨inert, leasedHead⟩, (nomatch ·),
      fun _ => ⟨tail.2.1, tail.leased⟩, by simp⟩
  have plain := Ownership.isPlain_standard
  refine adapt_eq_self serves.legacy (fun l lease => ?_) fun x memx kind => ?_
  · rw [serves.lease] at lease
    cases lease
    refine Lease.apply_eq_self plain fun x memx kind => ?_
    obtain ⟨inert, leased⟩ := code x memx kind
    have ascii := isAscii_of_isInert inert
    refine ⟨ascii, fun w memw own => ?_⟩
    have ascii' : w.all isAscii := List.all_eq_true.2 fun d memd =>
      List.all_eq_true.1 ascii d (mem_of_mem_words memw memd)
    refine (leased w memw).proper.not_mem_ownTables ?_
    rw [lower_of_isAscii ascii']
    rwa [mem_ownTables, String.toList_ofList] at own
  · obtain ⟨inert, leased⟩ := code x memx kind
    exact ⟨⟨isAscii_of_isInert inert, not_mem_of_isInert (by decide) inert,
      fun w memw => (leased w memw).clear⟩, not_mem_of_isInert (by decide) inert⟩

/-- As it is sent, the statement names no object of another prefix. -/
lemma proper_createFunction {c : Connection} (serves : Serves c p) {function : String}
    {assignments : List (String × String)}
    (made : (Definition.createFunction function assignments).Made p) {name : List Char}
    (h : Mentions (c.adapt (Definition.createFunction function assignments).sql).toList name) :
    Proper p name := by
  rw [adapt_createFunction serves made] at h
  obtain ⟨⟨a, mem, rfl⟩, all⟩ := made
  have cut := lexemes_createFunction (p := p) mem all
  obtain ⟨-, -, leasedHead⟩ := leased_functionHead (p := p) mem
  have tail := mute_functionTail
  cases h with
  | word memx memw =>
    rw [cut] at memx
    simp only [List.mem_cons, Lexeme.mk.injEq, reduceCtorEq, true_and, false_and, List.not_mem_nil,
      or_false, false_or] at memx
    rcases memx with rfl | rfl
    · exact (leasedHead _ memw).proper
    · exact (tail.leased _ memw).proper
  | quoted memx =>
    rw [cut] at memx
    simp at memx
  | body memx inside =>
    rw [cut] at memx
    obtain rfl : _ =
        bodyMark syncTag ++ ((functionBody assignments).toList ++ bodyMark syncTag) := by
      simpa using memx
    have tag : Mute syncTag := functionTexts_checked.1 (String.ofList syncTag) (by simp)
    have gap : isWord '$' = false := functionTexts_checked.2.2.2.2
    have tells := (telling_functionBody all).tells (bodyMark syncTag) (by simpa [bodyMark] using gap)
      (by simp [bodyMark, apostrophe]) (Tells.mark isTag_syncTag tag.quiet tag.1)
    rw [isTag_syncTag.dollarBody_eq] at inside
    obtain ⟨w, quiet, rfl⟩ := tells.mentions inside
    exact .inl quiet

/-- What is sent of a definition mentions what carries the prefix, and neutral names. -/
theorem proper_definition {c : Connection} (serves : Serves c p) {d : Definition} (made : d.Made p)
    {name : List Char} (h : Mentions (c.adapt d.sql).toList name) : Proper p name := by
  by_cases function : ∃ f assignments, d = .createFunction f assignments
  · obtain ⟨f, assignments, rfl⟩ := function
    exact proper_createFunction serves made h
  · refine proper_adapt serves d.startsWith.ne_nil (piece_definition made fun f assignments eq => ?_) h
    exact function ⟨f, assignments, eq⟩

end Definition

end Tenancy.Schema
