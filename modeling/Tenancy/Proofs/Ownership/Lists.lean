import Mathlib.Data.List.Sort
import Mathlib.Data.String.Basic
import Tenancy.Configuration
import Tenancy.Proofs.Text.Lowering

/-!
# Whose tables, whatever the order

Tables are listed as each tenant's own or as common, some at first and others later. `Ownership.Tells` says what
comes of the lists: all that is listed as common is common, what else is listed as own is own, and both are told
by their members. Every addition keeps to that (`Tells.add`), so neither the order of additions nor their number
makes a difference (`Ownership.addAll_told`), and no name is in both lists however its letters are written.
-/

namespace Tenancy
open Text

/-! ## Lists of names -/

/-- Whether the names of a list rise. -/
abbrev RisingNames (names : List String) : Prop := names.Pairwise (· < ·)

/-- A name is put where it belongs. -/
lemma rising_insertName (n : String) {names : List String} (h : RisingNames names) :
    RisingNames (insertName n names) := by
  induction names with
  | nil => exact .cons (by simp) .nil
  | cons m names ih =>
    obtain ⟨first, later⟩ := List.pairwise_cons.1 h
    rw [insertName]
    split
    · exact h
    · next other =>
      split
      · next before =>
        exact .cons (List.forall_mem_cons.2 ⟨before, fun k mem => before.trans (first k mem)⟩) h
      · next behind =>
        refine .cons (fun k mem => ?_) (ih later)
        rcases mem_insertName.1 mem with rfl | mem
        · exact (not_lt.1 behind).lt_of_ne (Ne.symm other)
        · exact first k mem

/-- Lists that rise are told by their members. -/
lemma RisingNames.ext {names others : List String} (h : RisingNames names) (h' : RisingNames others)
    (same : ∀ n, n ∈ names ↔ n ∈ others) : names = others := by
  have distinct {names : List String} (h : RisingNames names) : names.Nodup := h.imp ne_of_lt
  have perm : names.Perm others := (List.perm_ext_iff_of_nodup (distinct h) (distinct h')).2 same
  exact perm.eq_of_pairwise (fun n m _ _ before after => absurd before (lt_asymm after)) h h'

/-- A set of names is in order. -/
lemma rising_nameSet (names : List String) : RisingNames (nameSet names) := by
  have key (set : List String) (h : RisingNames set) :
      RisingNames (names.foldl (fun set n => insertName (lowerString n) set) set) := by
    induction names generalizing set with
    | nil => exact h
    | cons m names ih => exact ih _ (rising_insertName _ h)
  exact key [] .nil

/-- It has the names in lower case. -/
lemma mem_nameSet {names : List String} {n : String} :
    n ∈ nameSet names ↔ ∃ m ∈ names, n = lowerString m := by
  have key (set : List String) :
      n ∈ names.foldl (fun set n => insertName (lowerString n) set) set ↔
        n ∈ set ∨ ∃ m ∈ names, n = lowerString m := by
    induction names generalizing set with
    | nil => simp
    | cons m names ih =>
      rw [List.foldl_cons, ih, mem_insertName, List.exists_mem_cons_iff, or_assoc, or_left_comm]
  rw [nameSet, key]
  simp

namespace Ownership

/-! ## What the lists say -/

/-- What comes of it when some names are listed as own and some as common: all of these are common, and what
else is listed as own is own. -/
structure Tells (o : Ownership) (own common : String → Prop) : Prop where
  risingOwn : RisingNames o.own
  risingCommon : RisingNames o.common
  mem_own : ∀ n, n ∈ o.own ↔ (∃ m, own m ∧ n = lowerString m) ∧ n ∉ o.common
  mem_common : ∀ n, n ∈ o.common ↔ ∃ m, common m ∧ n = lowerString m

section Tells
variable {o o' : Ownership} {own common : String → Prop}

/-- An ownership that is made of two lists tells what they say. -/
lemma tells_ofLists (own common : List String) : (ofLists own common).Tells (· ∈ own) (· ∈ common) where
  risingOwn := (rising_nameSet own).filter _
  risingCommon := rising_nameSet common
  mem_own n := by simp [ofLists, mem_nameSet]
  mem_common n := by simp [ofLists, mem_nameSet]

/-- An ownership is told by what is listed. -/
lemma Tells.ext (h : o.Tells own common) (h' : o'.Tells own common) : o = o' := by
  have sameCommon : o.common = o'.common :=
    h.risingCommon.ext h'.risingCommon fun n => by rw [h.mem_common, h'.mem_common]
  have sameOwn : o.own = o'.own :=
    h.risingOwn.ext h'.risingOwn fun n => by rw [h.mem_own, h'.mem_own, sameCommon]
  cases o
  cases o'
  cases sameCommon
  cases sameOwn
  rfl

/-- It may be told in other words. -/
lemma Tells.congr (h : o.Tells own common) {own' common' : String → Prop} (same : ∀ n, own n ↔ own' n)
    (same' : ∀ n, common n ↔ common' n) : o.Tells own' common' := by
  obtain rfl : own = own' := funext fun n => propext (same n)
  obtain rfl : common = common' := funext fun n => propext (same' n)
  exact h

/-- One more own table is told. -/
lemma Tells.withOwn (h : o.Tells own common) (name : String) :
    (o.withOwn name).Tells (fun m => own m ∨ m = name) common := by
  have mem (n : String) :
      (∃ m, (own m ∨ m = name) ∧ n = lowerString m) ↔
        (∃ m, own m ∧ n = lowerString m) ∨ n = lowerString name := by
    simp only [or_and_right, exists_or, exists_eq_left]
  unfold Ownership.withOwn
  dsimp only
  split
  -- A name that is common already is not listed as own.
  · next listed =>
    refine ⟨h.risingOwn, h.risingCommon, fun n => ?_, h.mem_common⟩
    rw [h.mem_own, mem, or_and_right, or_iff_left]
    rintro ⟨rfl, absent⟩
    exact absent listed
  · next absent =>
    refine ⟨rising_insertName _ h.risingOwn, h.risingCommon, fun n => ?_, h.mem_common⟩
    rw [mem_insertName, h.mem_own, mem, or_and_right, or_comm, or_congr_right]
    exact (and_iff_left_of_imp fun eq => eq ▸ absent).symm

/-- One more common table is told. -/
lemma Tells.withCommon (h : o.Tells own common) (name : String) :
    (o.withCommon name).Tells own (fun m => common m ∨ m = name) where
  risingOwn := h.risingOwn.filter _
  risingCommon := rising_insertName _ h.risingCommon
  mem_own n := by
    simp only [Ownership.withCommon, List.mem_filter, h.mem_own, mem_insertName, decide_eq_true_eq,
      not_or, and_assoc, ne_eq]
    exact and_congr_right fun _ => and_comm
  mem_common n := by
    simp only [Ownership.withCommon, mem_insertName, h.mem_common, or_and_right, exists_or,
      exists_eq_left, or_comm]

/-- No name is both own and common. -/
lemma Tells.apart (h : o.Tells own common) {n : String} (mem : n ∈ o.own) : n ∉ o.common :=
  ((h.mem_own n).1 mem).2

/-- The names of all tables are in lower case. -/
lemma Tells.lowered (h : o.Tells own common) {n : String} (mem : n ∈ o.own ∨ n ∈ o.common) :
    lowerString n = n := by
  rcases mem with mem | mem
  · obtain ⟨⟨m, -, rfl⟩, -⟩ := (h.mem_own n).1 mem
    exact lowerString_lowerString m
  · obtain ⟨m, -, rfl⟩ := (h.mem_common n).1 mem
    exact lowerString_lowerString m

end Tells

/-! ## Additions -/

/-- What is listed later. -/
inductive Addition where
  | own (name : String)
  | common (name : String)
  deriving DecidableEq

/-- Adds a name to a list. -/
def add (o : Ownership) : Addition → Ownership
  | .own name => o.withOwn name
  | .common name => o.withCommon name

/-- Adds names one after the other. -/
def addAll (o : Ownership) (additions : List Addition) : Ownership := additions.foldl add o

section Addition
variable {o : Ownership} {own common : String → Prop}

/-- An addition lists its name. -/
lemma Tells.add (h : o.Tells own common) (a : Addition) :
    (o.add a).Tells (fun m => own m ∨ .own m = a) (fun m => common m ∨ .common m = a) := by
  cases a with
  | own name => exact (h.withOwn name).congr (by simp) (by simp)
  | common name => exact (h.withCommon name).congr (by simp) (by simp)

/-- Any number of further tables are told. -/
lemma Tells.addAll (h : o.Tells own common) (additions : List Addition) :
    (o.addAll additions).Tells (fun m => own m ∨ .own m ∈ additions)
      (fun m => common m ∨ .common m ∈ additions) := by
  induction additions generalizing o own common with
  | nil => exact h.congr (by simp) (by simp)
  | cons a additions ih =>
    exact (ih (h.add a)).congr (fun n => by rw [or_assoc, List.mem_cons])
      fun n => by rw [or_assoc, List.mem_cons]

/-- So are those that are added to two lists. -/
lemma tells_addAll (own common : List String) (additions : List Addition) :
    ((ofLists own common).addAll additions).Tells (fun m => m ∈ own ∨ .own m ∈ additions)
      (fun m => m ∈ common ∨ .common m ∈ additions) :=
  (tells_ofLists own common).addAll additions

/-- What is listed as common is common, and what else is listed as own is own. So it makes no difference in
which order or how often names are listed; no name is both, whatever the case of its letters; and what is common
stays so. -/
theorem addAll_told (own common : List String) (additions : List Addition) :
    let o := (ofLists own common).addAll additions
    (∀ n, n ∈ o.common ↔ ∃ m, (m ∈ common ∨ .common m ∈ additions) ∧ n = lowerString m) ∧
    (∀ n, n ∈ o.own ↔ (∃ m, (m ∈ own ∨ .own m ∈ additions) ∧ n = lowerString m) ∧ n ∉ o.common) ∧
    (∀ own' common' additions', (∀ n, n ∈ own' ↔ n ∈ own) → (∀ n, n ∈ common' ↔ n ∈ common) →
      (∀ a, a ∈ additions' ↔ a ∈ additions) → (ofLists own' common').addAll additions' = o) ∧
    (∀ n ∈ o.own, n ∉ o.common ∧ o.isOwn n) ∧ (∀ n ∈ o.common, o.isCommon n) ∧
    (∀ more, ∀ n ∈ o.common, n ∈ (o.addAll more).common) ∧
    (∀ n m, List.Forall₂ SameLetter n.toList m.toList → lowerString n = lowerString m) ∧
    ∀ n m, lowerString n = lowerString m →
      o.isOwn n = o.isOwn m ∧ o.isCommon n = o.isCommon m ∧ ¬ (o.isOwn n ∧ o.isCommon m) := by
  intro o
  have told := tells_addAll own common additions
  refine ⟨told.mem_common, told.mem_own, ?_, ?_, ?_, ?_, ?_, ?_⟩
  · intro own' common' additions' sameOwn sameCommon sameAdditions
    refine (tells_addAll own' common' additions').ext (told.congr (fun n => ?_) fun n => ?_)
    · rw [sameOwn, sameAdditions]
    · rw [sameCommon, sameAdditions]
  · intro n mem
    refine ⟨told.apart mem, ?_⟩
    rwa [isOwn, told.lowered (.inl mem), decide_eq_true_eq]
  · intro n mem
    rwa [isCommon, told.lowered (.inr mem), decide_eq_true_eq]
  · intro more n mem
    obtain ⟨m, listed, eq⟩ := (told.mem_common n).1 mem
    exact ((told.addAll more).mem_common n).2 ⟨m, .inl listed, eq⟩
  · intro n m same
    exact congrArg String.ofList (lower_congr same)
  · intro n m same
    refine ⟨by rw [isOwn, isOwn, same], by rw [isCommon, isCommon, same], ?_⟩
    rw [isOwn, isCommon, same, decide_eq_true_eq, decide_eq_true_eq]
    exact fun ⟨own, common⟩ => told.apart own common

/-- A table that is own at first is made common, one that is common is not made own, and a capital sigma is
written in the way of its place. -/
theorem addAll_told_mixed :
    let o := (ofLists ["Person", "ΟΔΟΣ"] ["Tag"]).addAll [.own "İD", .common "PERSON", .own "tag"]
    o = ⟨["i̇d", "οδος"], ["person", "tag"]⟩ ∧
      (ofLists ["ΟΔΟΣ", "Person", "ΟΔΟΣ"] ["Tag"]).addAll
        [.own "tag", .common "PERSON", .own "tag", .own "İD"] = o ∧
      "person" ∈ (o.addAll [.own "person"]).common ∧
      List.Forall₂ SameLetter "Οδος".toList "ΟΔος".toList ∧
      o.isOwn "Οδος" = o.isOwn "ΟΔος" ∧ ¬ (o.isOwn "Οδος" ∧ o.isCommon "ΟΔος") := by
  have told := addAll_told ["Person", "ΟΔΟΣ"] ["Tag"] [.own "İD", .common "PERSON", .own "tag"]
  have listed : (ofLists ["Person", "ΟΔΟΣ"] ["Tag"]).addAll [.own "İD", .common "PERSON", .own "tag"] =
      ⟨["i̇d", "οδος"], ["person", "tag"]⟩ := by decide +kernel
  rw [listed] at told ⊢
  intro o
  obtain ⟨-, -, order, -, -, stays, spelled, either⟩ := told
  have reordered := order ["ΟΔΟΣ", "Person", "ΟΔΟΣ"] ["Tag"]
    [.own "tag", .common "PERSON", .own "tag", .own "İD"] (by simp) (fun n => .rfl) (by simp; tauto)
  have letters : List.Forall₂ SameLetter "Οδος".toList "ΟΔος".toList :=
    .cons (.inl rfl) (.cons (.inr (by decide +kernel)) (.cons (.inl rfl) (.cons (.inl rfl) .nil)))
  obtain ⟨alike, -, apart⟩ := either _ _ (spelled _ _ letters)
  exact ⟨rfl, reordered, stays [.own "person"] "person" (by simp), letters, alike, apart⟩

end Addition
end Ownership
end Tenancy
