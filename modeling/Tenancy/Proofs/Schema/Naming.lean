import Mathlib.Data.String.Basic
import Mathlib.Tactic.Lemma
import Tenancy.Ownership
import Tenancy.Schema.Definition
import Tenancy.Schema.Inventory

/-!
# Names of schema objects

A tenant's tables and schema objects carry the tenant's prefix. Prefixes end in an underscore and may
begin one another, and the names behind them hold underscores too, so one text could be cut into a
prefix and a name in several ways. `Inventory.not_mem_tailsAfter` shows that it cannot: what follows an
underscore in a name of the inventory is never the name of something that tenants own. Hence
`physicalNames_distinct`: prefix and name can both be told from the name that the server keeps, which is
the whole name since it is short enough.
-/

namespace Tenancy.Sql

/-- How many bytes of a name the server keeps. -/
def maxNameBytes : Nat := 63

/-- The longest beginning of a text that fits into some bytes. -/
def fitting (room : Nat) : List Char → List Char
  | [] => []
  | c :: cs => if c.utf8Size ≤ room then c :: fitting (room - c.utf8Size) cs else []

/-- What the server keeps of a name: no more than fits, and no part of a character. -/
def keptName (name : String) : String := String.ofList (fitting maxNameBytes name.toList)

/-- A text that fits is kept whole. -/
lemma fitting_eq_self {room : Nat} {cs : List Char} (h : String.utf8Len cs ≤ room) :
    fitting room cs = cs := by
  induction cs generalizing room with
  | nil => rfl
  | cons c cs ih =>
    rw [String.utf8Len_cons] at h
    have fits : c.utf8Size ≤ room := by omega
    rw [fitting, if_pos fits, ih (by omega)]

/-- So is a name that is not too long. -/
lemma keptName_eq_self {name : String} (h : name.utf8ByteSize ≤ maxNameBytes) :
    keptName name = name := by
  rw [← String.ofList_toList (s := name), String.utf8ByteSize_ofList] at h
  rw [keptName, fitting_eq_self h, String.ofList_toList]

end Tenancy.Sql

namespace Tenancy

/-- A character of prefixes is one byte. -/
lemma utf8Size_of_isPrefixChar {c : Char} (h : isPrefixChar c) : c.utf8Size = 1 := by
  rw [Char.utf8Size_eq_one_iff, UInt32.le_iff_toNat_le]
  simp only [isPrefixChar, Bool.or_eq_true, decide_eq_true_eq] at h
  rcases h with (lower | digit) | rfl
  · have range : c.val ≤ 'z'.val := (Bool.and_eq_true_iff.1 lower).2 |> of_decide_eq_true
    exact Nat.le_trans (UInt32.le_iff_toNat_le.1 range) (by decide)
  · have range : c.val ≤ '9'.val := (Bool.and_eq_true_iff.1 digit).2 |> of_decide_eq_true
    exact Nat.le_trans (UInt32.le_iff_toNat_le.1 range) (by decide)
  · decide

/-- A text of prefix characters has as many bytes as characters. -/
lemma utf8Len_eq_length {cs : List Char} (h : cs.all isPrefixChar) :
    String.utf8Len cs = cs.length := by
  induction cs with
  | nil => rfl
  | cons c cs ih =>
    obtain ⟨head, tail⟩ := Bool.and_eq_true_iff.1 h
    rw [String.utf8Len_cons, List.length_cons, ih tail, utf8Size_of_isPrefixChar head]

namespace TablePrefix

/-- A prefix is known by its characters. -/
lemma ext {p q : TablePrefix} (h : p.text.toList = q.text.toList) : p = q := by
  obtain ⟨s, hs⟩ := p
  obtain ⟨t, ht⟩ := q
  obtain rfl := String.toList_inj.1 h
  rfl

/-- A prefix ends with an underscore. -/
lemma eq_concat (p : TablePrefix) : ∃ cs, p.text.toList = cs ++ ['_'] :=
  List.getLast?_eq_some_iff.1 p.sanitized.1

/-- A prefix with a name behind it, character by character. -/
lemma toList_apply (p : TablePrefix) (name : String) :
    (p.apply name).toList = p.text.toList ++ name.toList := by
  rw [apply, String.toList_append]

/-- A name with a prefix is not the name without it. -/
lemma apply_ne (p : TablePrefix) (name : String) : p.apply name ≠ name := by
  intro eq
  obtain ⟨cs, ends⟩ := p.eq_concat
  have size := congrArg List.length (congrArg String.toList eq)
  rw [p.toList_apply, ends, List.length_append, List.length_append, List.length_singleton] at size
  omega

end TablePrefix
end Tenancy

namespace Tenancy.Schema
open Text

/-- What follows each `mark` in a text. -/
def tailsAfter (mark : Char) : List Char → List (List Char)
  | [] => []
  | c :: cs => if c = mark then cs :: tailsAfter mark cs else tailsAfter mark cs

/-- What is behind a mark is one of the tails. -/
lemma mem_tailsAfter (mark : Char) (before after : List Char) :
    after ∈ tailsAfter mark (before ++ mark :: after) := by
  induction before with
  | nil => simp [tailsAfter]
  | cons c cs ih =>
    rw [List.cons_append, tailsAfter]
    split
    · exact List.mem_cons_of_mem _ ih
    · exact ih

/-- Two cuts of one text, each after a mark, are the same unless one of the rests follows a mark in the
other. -/
lemma append_inj_of_not_mem_tailsAfter {mark : Char} {p q a b : List Char}
    (hp : ∃ cs, p = cs ++ [mark]) (hq : ∃ cs, q = cs ++ [mark]) (h : p ++ a = q ++ b)
    (hab : b ∉ tailsAfter mark a) (hba : a ∉ tailsAfter mark b) : p = q ∧ a = b := by
  -- The longer head is the shorter one and a text that ends in the mark, unless they are equal.
  have key {p q a b cs : List Char} (hq : q = cs ++ [mark]) (hab : b ∉ tailsAfter mark a)
      {gap : List Char} (longer : q = p ++ gap) (rest : a = gap ++ b) : gap = [] := by
    rcases List.eq_nil_or_concat gap with nil | ⟨inner, last, rfl⟩
    · exact nil
    · rw [List.concat_eq_append] at longer rest
      have : last = mark := by
        have := congrArg List.getLast? (longer.symm.trans hq)
        simpa using this
      subst this rest
      exact absurd (by simpa using mem_tailsAfter last inner b) hab
  obtain ⟨ps, hp⟩ := hp
  obtain ⟨qs, hq⟩ := hq
  rcases List.append_eq_append_iff.1 h with ⟨gap, longer, rest⟩ | ⟨gap, longer, rest⟩
  · obtain rfl := key hq hab longer rest
    exact ⟨by simpa using longer.symm, by simpa using rest⟩
  · obtain rfl := key hp hba longer rest
    exact ⟨by simpa using longer, by simpa using rest.symm⟩

namespace Blueprint

/-- The name of an object of a table, before any prefix is put on it. -/
def baseName (t : Table) (suffix : String) : String := t.name ++ "_" ++ suffix

/-- The prefix goes onto the names of the objects of a table that tenants own, and no others. -/
lemma objectName_eq (b : Blueprint) (t : Table) (suffix : String) :
    b.objectName t suffix =
      match b.tablePrefix with
      | some p => if t.common then baseName t suffix else p.apply (baseName t suffix)
      | none => baseName t suffix := rfl

end Blueprint

namespace Table

/-- The names of a table and of its objects, before any prefix is put on them. -/
def plainNames (t : Table) : List String := t.name :: t.objectNames { documents := true }

/-- The names under which the server knows a table and its objects. -/
def physicalNames (t : Table) (b : Blueprint) : List String :=
  (match b.tablePrefix with
    | some p => Ownership.standard.physical t.name p
    | none => t.name) :: t.objectNames b

/-- What follows the name of a table in the names of its objects. -/
def suffixes (t : Table) : List (List Char) :=
  ["sync".toList, "json_gin".toList] ++ t.derived.map (fun c => c.name.toList ++ "_idx".toList) ++
    t.indexes.map (·.suffix.toList)

/-- The plain names of a table, character by character. -/
lemma toList_plainNames (t : Table) :
    t.plainNames.map String.toList =
      t.name.toList :: t.suffixes.map (fun s => t.name.toList ++ '_' :: s) := by
  have base (suffix : String) : (Blueprint.baseName t suffix).toList =
      t.name.toList ++ '_' :: suffix.toList := by
    simp [Blueprint.baseName]
  have join (c : DerivedColumn) : s!"{c.name}_idx".toList = c.name.toList ++ "_idx".toList :=
    String.toList_append
  simp only [plainNames, objectNames, suffixes, Blueprint.objectName_eq, List.map_cons,
    List.map_append, List.map_map, List.map_nil, Function.comp_def, base, join]

end Table

namespace Inventory

/-- What each tenant has of its own, before a prefix is put on it. -/
def ownNames : List String := (tables.filter (!·.common)).flatMap Table.plainNames

/-- Everything that a schema without a prefix has. -/
def plainNames : List String := tables.flatMap Table.plainNames

/-- No name in the inventory is that of something tenants own, with a text before it that ends in an
underscore. -/
lemma not_mem_tailsAfter :
    ∀ u ∈ tables, ∀ b ∈ u.plainNames.map String.toList, ∀ t ∈ tables, t.common = false →
      ∀ a ∈ t.plainNames.map String.toList, a ∉ tailsAfter '_' b := by
  have check : ∀ u ∈ tables,
      ∀ b ∈ u.name.toList :: u.suffixes.map (fun s => u.name.toList ++ '_' :: s),
      ∀ a ∈ tailsAfter '_' b, ∀ t ∈ tables, t.common = false →
        a ∉ t.name.toList :: t.suffixes.map (fun s => t.name.toList ++ '_' :: s) := by
    decide +kernel
  intro u hu b hb t ht own a ha tail
  rw [Table.toList_plainNames] at hb ha
  exact check u hu b hb a tail t ht own ha

/-- The names in the inventory are made of prefix characters, and none is longer than 33 of them. -/
lemma plainNames_short :
    ∀ t ∈ tables, ∀ a ∈ t.plainNames.map String.toList, a.all isPrefixChar ∧ a.length ≤ 33 := by
  have check : ∀ t ∈ tables,
      ∀ a ∈ t.name.toList :: t.suffixes.map (fun s => t.name.toList ++ '_' :: s),
        a.all isPrefixChar ∧ a.length ≤ 33 := by
    decide +kernel
  intro t ht a ha
  rw [Table.toList_plainNames] at ha
  exact check t ht a ha

/-- The tables that tenants own are those to which a lease gives a prefix. -/
lemma isOwn_standard : ∀ t ∈ tables, Ownership.standard.isOwn t.name = !t.common := by
  decide +kernel

/-- The tables have names in lower case. -/
lemma lowerString_name : ∀ t ∈ tables, lowerString t.name = t.name := by
  decide +kernel

/-- Plain names are those of a blueprint without a prefix; a prefix goes onto what tenants own. -/
lemma physicalNames_eq {t : Table} (ht : t ∈ tables) (b : Blueprint) :
    t.physicalNames b =
      match b.tablePrefix with
      | some p => if t.common then t.plainNames else t.plainNames.map p.apply
      | none => t.plainNames := by
  cases hp : b.tablePrefix with
  | none =>
    simp [Table.physicalNames, Table.plainNames, Table.objectNames, Blueprint.objectName_eq, hp]
  | some p =>
    have own := isOwn_standard t ht
    have name := lowerString_name t ht
    cases common : t.common <;>
      simp [Table.physicalNames, Table.plainNames, Table.objectNames, Blueprint.objectName_eq,
        Ownership.physical, hp, own, name, common, Function.comp_def]

/-- The name of a tenant's object is a plain name of a table that is the tenant's own. -/
lemma mem_ownNames {a : String} (h : a ∈ ownNames) :
    ∃ t ∈ tables, t.common = false ∧ a.toList ∈ t.plainNames.map String.toList := by
  obtain ⟨t, ht, ha⟩ := List.mem_flatMap.1 h
  obtain ⟨ht, own⟩ := List.mem_filter.1 ht
  exact ⟨t, ht, by simpa using own, List.mem_map_of_mem ha⟩

/-- Every plain name of such a table is one. -/
lemma mem_ownNames_of_own {t : Table} (ht : t ∈ tables) (own : t.common = false) {a : String}
    (ha : a ∈ t.plainNames) : a ∈ ownNames :=
  List.mem_flatMap.2 ⟨t, List.mem_filter.2 ⟨ht, by rw [own]; rfl⟩, ha⟩

/-- A plain name is one of some table. -/
lemma mem_plainNames {a : String} (h : a ∈ plainNames) :
    ∃ t ∈ tables, a.toList ∈ t.plainNames.map String.toList := by
  obtain ⟨t, ht, ha⟩ := List.mem_flatMap.1 h
  exact ⟨t, ht, List.mem_map_of_mem ha⟩

/-- A prefix and the name of something that tenants own fit into what the server keeps of a name. -/
lemma utf8ByteSize_apply_le (p : TablePrefix) {a : String} (ha : a ∈ ownNames) :
    (p.apply a).utf8ByteSize ≤ Sql.maxNameBytes := by
  obtain ⟨t, ht, -, ha⟩ := mem_ownNames ha
  obtain ⟨chars, len⟩ := plainNames_short t ht _ ha
  obtain ⟨-, -, plen, pchars⟩ := p.sanitized
  have size : (p.apply a).utf8ByteSize = p.text.toList.length + a.toList.length := by
    rw [← String.ofList_toList (s := p.apply a), String.utf8ByteSize_ofList, p.toList_apply,
      String.utf8Len_append, utf8Len_eq_length pchars, utf8Len_eq_length chars]
  rw [size]
  exact Nat.add_le_add plen len

/-- The names of a schema without a prefix fit as well. -/
lemma utf8ByteSize_plainNames_le {a : String} (ha : a ∈ plainNames) :
    a.utf8ByteSize ≤ Sql.maxNameBytes := by
  obtain ⟨t, ht, ha⟩ := mem_plainNames ha
  obtain ⟨chars, len⟩ := plainNames_short t ht _ ha
  rw [← String.ofList_toList (s := a), String.utf8ByteSize_ofList, utf8Len_eq_length chars]
  exact Nat.le_trans len (by decide)

/-- Names of objects with a prefix are the same only if both parts are. -/
lemma apply_inj {p q : TablePrefix} {a b : String} (ha : a ∈ ownNames) (hb : b ∈ ownNames)
    (h : p.apply a = q.apply b) : p = q ∧ a = b := by
  obtain ⟨t, ht, town, ha⟩ := mem_ownNames ha
  obtain ⟨u, hu, uown, hb⟩ := mem_ownNames hb
  have chars : p.text.toList ++ a.toList = q.text.toList ++ b.toList := by
    rw [← p.toList_apply, ← q.toList_apply, h]
  obtain ⟨hp, hab⟩ := append_inj_of_not_mem_tailsAfter p.eq_concat q.eq_concat chars
    (not_mem_tailsAfter t ht _ ha u hu uown _ hb) (not_mem_tailsAfter u hu _ hb t ht town _ ha)
  exact ⟨TablePrefix.ext hp, String.toList_inj.1 hab⟩

/-- What a tenant owns is called like nothing that has no prefix. -/
lemma apply_ne_plain (p : TablePrefix) {a b : String} (ha : a ∈ ownNames) (hb : b ∈ plainNames) :
    p.apply a ≠ b := by
  intro h
  obtain ⟨t, ht, own, ha⟩ := mem_ownNames ha
  obtain ⟨u, hu, hb⟩ := mem_plainNames hb
  obtain ⟨cs, hcs⟩ := p.eq_concat
  have cut : b.toList = cs ++ '_' :: a.toList := by
    rw [← h, p.toList_apply, hcs, List.append_assoc]
    rfl
  have tail := mem_tailsAfter '_' cs a.toList
  rw [← cut] at tail
  exact not_mem_tailsAfter u hu _ hb t ht own _ ha tail

/-- The server knows tables and schema objects by a prefix and a name, and by what it keeps of the two
they differ as soon as prefixes or names do, from each other and from everything without a prefix. -/
theorem physicalNames_distinct :
    (∀ t ∈ tables, ∀ b : Blueprint,
      t.physicalNames b =
        match b.tablePrefix with
        | some p => if t.common then t.plainNames else t.plainNames.map p.apply
        | none => t.plainNames) ∧
    (∀ (p q : TablePrefix) (a b : String), a ∈ ownNames → b ∈ ownNames →
      Sql.keptName (p.apply a) = Sql.keptName (q.apply b) → p = q ∧ a = b) ∧
    (∀ (p : TablePrefix) (a b : String), a ∈ ownNames → b ∈ plainNames →
      Sql.keptName (p.apply a) ≠ Sql.keptName b) ∧
    ∀ (p : TablePrefix) (a : String), a ∈ ownNames →
      (p.apply a).utf8ByteSize ≤ 63 ∧ Sql.keptName (p.apply a) = p.apply a := by
  have kept (p : TablePrefix) {a : String} (ha : a ∈ ownNames) :
      Sql.keptName (p.apply a) = p.apply a :=
    Sql.keptName_eq_self (utf8ByteSize_apply_le p ha)
  refine ⟨fun t ht b => physicalNames_eq ht b, ?_, ?_, ?_⟩
  · intro p q a b ha hb h
    rw [kept p ha, kept q hb] at h
    exact apply_inj ha hb h
  · intro p a b ha hb
    rw [kept p ha, Sql.keptName_eq_self (utf8ByteSize_plainNames_le hb)]
    exact apply_ne_plain p ha hb
  · intro p a ha
    exact ⟨utf8ByteSize_apply_le p ha, kept p ha⟩

/-- A prefix that reads like the beginning of a plain name: with the name of an index behind it, it is
one word short of the name of another index. -/
theorem physicalNames_distinct_place :
    place ∈ tables ∧ "place_name_trgm" ∈ ownNames ∧ "place_place_name_idx" ∈ plainNames ∧
      place.physicalNames { tablePrefix := some ⟨"place_", by decide⟩, documents := true } =
        place.plainNames.map (TablePrefix.apply ⟨"place_", by decide⟩) ∧
      Sql.keptName (TablePrefix.apply ⟨"place_", by decide⟩ "place_name_trgm") ≠
        Sql.keptName "place_place_name_idx" ∧
      (TablePrefix.apply ⟨"place_", by decide⟩ "place_name_trgm").utf8ByteSize ≤ 63 ∧
      (⟨"place_", by decide⟩ : TablePrefix) = ⟨"place_", by decide⟩ :=
  have own : "place_name_trgm" ∈ ownNames := by decide
  have plain : "place_place_name_idx" ∈ plainNames := by decide
  ⟨by decide, own, plain, physicalNames_distinct.1 place (by decide) _,
    physicalNames_distinct.2.2.1 _ _ _ own plain, (physicalNames_distinct.2.2.2 _ _ own).1,
    (physicalNames_distinct.2.1 _ _ _ _ own own rfl).1⟩

end Inventory
end Tenancy.Schema
