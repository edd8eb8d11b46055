import Tenancy.Proofs.Schema.Footing
import Tenancy.Proofs.Text.Numerals

/-!
# The version that an entry holds

An entry says a document, or nothing, in one of the ways that `Site.Says` lists, and a document spells a
whole number in one of two (`Spells`). The number that the entry of the version holds is what upkeep reads,
if it is not negative; otherwise it reads that the schema is at fault, or that the document could not be
converted on the way (`Site.versionIn_cases`).
-/

namespace Tenancy

namespace Schema
open Text

/-! ## What an entry says -/

/-- The document of an entry, where documents are used. -/
def Site.used (s : Site) (x : SettingEntry) : Option (List UInt8) :=
  if s.documents then x.document else none

/-- What an entry says: its document, or what its bytes spell where it has none. An entry with neither says
nothing, and so does one that is not there. -/
inductive Site.Says (s : Site) : Option SettingEntry → Option Json → Prop where
  | absent : s.Says none none
  | document {x : SettingEntry} {bs : List UInt8} {v : Json} (used : s.used x = some bs)
    (cell : Cell.ofBytes "jsonb" bs = .json v) : s.Says (some x) (some v)
  | bytes {x : SettingEntry} {bs : List UInt8} {v : Json} (unused : s.used x = none)
    (bytes : x.bytes = some bs) (spelled : Site.document? bs = some v) : s.Says (some x) (some v)
  | blank {x : SettingEntry} (unused : s.used x = none) (bytes : x.bytes = none) :
    s.Says (some x) none

/-- Whether the document of an entry, if it is used, can be converted when it arrives. -/
def Site.Converts (s : Site) (x : Option SettingEntry) : Prop :=
  ∀ y bs, x = some y → s.used y = some bs → ∃ v, Cell.ofBytes "jsonb" bs = .json v

/-- The whole number that a document spells: a number of sixty-four bits, or a text with one and white space
around it. No document spells zero. -/
inductive Spells : Option Json → Int → Prop where
  | absent : Spells none 0
  | int {n : Int} (low : minInt64 ≤ n) (high : n ≤ maxInt64) : Spells (some (.int n)) n
  | text {text : String} {n : Int} (numeral : Numeral (trim text.toList) n) (low : minInt64 ≤ n)
    (high : n ≤ maxInt64) : Spells (some (.str text)) n

/-- The whole number that an entry holds. -/
def Site.Holds (s : Site) (x : Option SettingEntry) (n : Int) : Prop :=
  ∃ v, s.Says x v ∧ Spells v n

namespace Site
variable {s : Site} {key : String} {x : Option SettingEntry} {v : Option Json} {n : Int}

/-- What an entry says is found out from its document first, and then from its bytes. -/
lemma decode_eq (s : Site) (key : String) (x : SettingEntry) :
    s.decode key (some x) =
      match s.used x with
      | some bs =>
        match Cell.ofBytes "jsonb" bs with
        | .json v => .ok (some v)
        | _ => .error (.statement ⟨s.settingQuery, .mismatch (.value 0)⟩)
      | none =>
        match x.bytes with
        | none => .ok none
        | some bs =>
          match document? bs with
          | some v => .ok (some v)
          | none => .error (.schema (.undecodable key)) := by
  have columns : settingOf key s.settingQuery settingColumns [s.used x, x.bytes] = s.decode key (some x) := by
    rw [decode, SettingEntry.row, used]
  rw [← columns]
  cases used : s.used x with
  | some bs =>
    simp only [settingOf, documentAt, settingColumns, List.getElem?_cons_zero, Option.join_some, or_true,
      if_true]
    cases Cell.ofBytes "jsonb" bs with
    | json v => rfl
    | _ => rfl
  | none =>
    cases bytes : x.bytes with
    | none => rfl
    | some bs =>
      simp only [settingOf, documentAt, bytesAt, settingColumns, List.getElem?_cons_zero,
        List.getElem?_cons_succ, Option.join_some, or_true, if_true]
      cases spelled : document? bs with
      | some v => simp [spelled, bind, Except.bind]; rfl
      | none => simp [spelled, bind, Except.bind]; rfl

/-- What an entry says is read. -/
lemma Says.read (h : s.Says x v) (key : String) : s.decode key x = .ok v := by
  cases h with
  | absent => rfl
  | document used cell =>
    rw [decode_eq, used]
    dsimp only
    rw [cell]
  | bytes unused bytes spelled =>
    rw [decode_eq, unused, bytes]
    dsimp only
    rw [spelled]
  | blank unused bytes =>
    rw [decode_eq, unused, bytes]

/-- It says one thing. -/
lemma Says.unique {v' : Option Json} (h : s.Says x v) (h' : s.Says x v') : v = v' :=
  Except.ok.inj ((h.read versionKey).symm.trans (h'.read versionKey))

/-- An entry that says something converts. -/
lemma Says.converts (h : s.Says x v) : s.Converts x := by
  intro y bs eq used
  subst eq
  cases h with
  | document used' cell =>
    obtain rfl := Option.some.inj (used.symm.trans used')
    exact ⟨_, cell⟩
  | bytes unused =>
    rw [unused] at used
    cases used
  | blank unused =>
    rw [unused] at used
    cases used

/-- What is read of an entry is what it says; or else it is at fault, or its document cannot be converted. -/
theorem decode_cases (s : Site) (key : String) (x : Option SettingEntry) :
    (∃ v, s.Says x v ∧ s.decode key x = .ok v) ∨
    (s.Converts x ∧ ∃ fault, s.decode key x = .error (.schema fault)) ∨
    (¬ s.Converts x ∧ ∃ failure, s.decode key x = .error (.statement failure)) := by
  cases x with
  | none => exact .inl ⟨none, .absent, rfl⟩
  | some x =>
    rw [decode_eq]
    cases used : s.used x with
    | some bs =>
      dsimp only
      cases cell : Cell.ofBytes "jsonb" bs with
      | json v => exact .inl ⟨some v, .document used cell, rfl⟩
      | _ =>
        refine .inr (.inr ⟨fun converts => ?_, _, rfl⟩)
        obtain ⟨v, cell'⟩ := converts x bs rfl used
        cases cell.symm.trans cell'
    | none =>
      have converts : s.Converts (some x) := fun y bs eq used' => by
        cases eq
        cases used.symm.trans used'
      cases bytes : x.bytes with
      | none => exact .inl ⟨none, .blank used bytes, rfl⟩
      | some bs =>
        dsimp only
        cases spelled : document? bs with
        | some v => exact .inl ⟨some v, .bytes used bytes spelled, rfl⟩
        | none => exact .inr (.inl ⟨converts, _, rfl⟩)

/-- What is read is what the entry says. -/
lemma says_of_decode_eq (h : s.decode key x = .ok v) : s.Says x v := by
  rcases s.decode_cases key x with ⟨v', said, eq⟩ | ⟨-, fault, eq⟩ | ⟨-, failure, eq⟩
  · cases h.symm.trans eq
    exact said
  · cases h.symm.trans eq
  · cases h.symm.trans eq

end Site

/-! ## What a document spells -/

/-- A value spells one number. -/
lemma Spells.unique {v : Option Json} {n m : Int} (h : Spells v n) (h' : Spells v m) : n = m := by
  cases h with
  | absent =>
    cases h'
    rfl
  | int =>
    cases h'
    rfl
  | text numeral low high =>
    cases h' with
    | text numeral' low' high' =>
      have read := readInteger?_eq_some.2 ⟨numeral, low, high⟩
      exact Option.some.inj (read.symm.trans (readInteger?_eq_some.2 ⟨numeral', low', high'⟩))

/-- The whole number that a document spells is read as the version, unless it is negative; whatever else
there is in a document is a fault. -/
theorem Site.versionOf_cases (v : Option Json) :
    (∃ n, Spells v n ∧ 0 ≤ n ∧ versionOf v = .ok n) ∨
    ((∀ n, Spells v n → n < 0) ∧ ∃ fault, versionOf v = .error fault) := by
  -- A number that was found is a version if it is not negative.
  have sign {v : Json} {n : Int} (spells : Spells (some v) n)
      (read : versionOf (some v) =
        if n < 0 then .error (.unreadableVersion (toString n)) else .ok n) :
      (∃ n, Spells (some v) n ∧ 0 ≤ n ∧ versionOf (some v) = .ok n) ∨
      ((∀ n, Spells (some v) n → n < 0) ∧ ∃ fault, versionOf (some v) = .error fault) := by
    rw [read]
    by_cases negative : n < 0
    · rw [if_pos negative]
      refine .inr ⟨fun m spells' => ?_, _, rfl⟩
      rw [← spells.unique spells']
      exact negative
    · rw [if_neg negative]
      exact .inl ⟨n, spells, by omega, rfl⟩
  cases v with
  | none => exact .inl ⟨0, .absent, le_refl 0, rfl⟩
  | some v =>
    cases v with
    | int n =>
      by_cases bounds : minInt64 ≤ n ∧ n ≤ maxInt64
      · exact sign (.int bounds.1 bounds.2) (by simp only [versionOf, if_pos bounds]; rfl)
      · refine .inr ⟨fun m spells => ?_, .unreadableVersion (Json.int n).text, ?_⟩
        · cases spells with
          | int low high => exact absurd ⟨low, high⟩ bounds
        · simp only [versionOf, if_neg bounds]
          rfl
    | str text =>
      cases read : readInteger? minInt64 maxInt64 (trim text.toList) with
      | some n =>
        obtain ⟨numeral, low, high⟩ := readInteger?_eq_some.1 read
        exact sign (.text numeral low high) (by simp only [versionOf, read]; rfl)
      | none =>
        refine .inr ⟨fun m spells => ?_, .unreadableVersion text, ?_⟩
        · cases spells with
          | text numeral low high =>
            cases read.symm.trans (readInteger?_eq_some.2 ⟨numeral, low, high⟩)
        · simp only [versionOf, read]
          rfl
    | _ => exact .inr ⟨fun m spells => (by cases spells), _, rfl⟩

/-! ## What an entry holds -/

namespace Site
variable {s : Site} {x : Option SettingEntry} {n : Int}

/-- An entry holds one version. -/
lemma Holds.unique {m : Int} (h : s.Holds x n) (h' : s.Holds x m) : n = m := by
  obtain ⟨v, said, spells⟩ := h
  obtain ⟨v', said', spells'⟩ := h'
  obtain rfl := said.unique said'
  exact spells.unique spells'

/-- The version that an entry holds is read, unless it is negative; if there is none, the entry is at
fault, or its document cannot be converted. -/
theorem versionIn_cases (s : Site) (x : Option SettingEntry) :
    (∃ n, s.Holds x n ∧ 0 ≤ n ∧ s.versionIn x = .ok n) ∨
    (s.Converts x ∧ (∀ n, s.Holds x n → n < 0) ∧
      ∃ fault, s.versionIn x = .error (.schema fault)) ∨
    (¬ s.Converts x ∧ ∃ failure, s.versionIn x = .error (.statement failure)) := by
  rw [versionIn]
  rcases s.decode_cases versionKey x with ⟨v, said, read⟩ | ⟨converts, fault, read⟩ | ⟨lost, failure, read⟩
  · rw [read]
    rcases versionOf_cases v with ⟨n, spells, sign, version⟩ | ⟨negative, fault, version⟩
    · refine .inl ⟨n, ⟨v, said, spells⟩, sign, ?_⟩
      change (versionOf v).mapError Failure.schema = _
      rw [version]
      rfl
    · refine .inr (.inl ⟨said.converts, fun n holds => ?_, fault, ?_⟩)
      · obtain ⟨v', said', spells⟩ := holds
        obtain rfl := said.unique said'
        exact negative n spells
      · change (versionOf v).mapError Failure.schema = _
        rw [version]
        rfl
  · refine .inr (.inl ⟨converts, fun n holds => ?_, fault, ?_⟩)
    · obtain ⟨v, said, -⟩ := holds
      cases read.symm.trans (said.read versionKey)
    · rw [read]
      rfl
  · refine .inr (.inr ⟨lost, failure, ?_⟩)
    rw [read]
    rfl

/-- An entry that holds a version converts. -/
lemma Holds.converts (h : s.Holds x n) : s.Converts x := by
  obtain ⟨v, said, -⟩ := h
  exact said.converts

/-- A version that is read is the one that the entry holds. -/
lemma holds_of_versionIn (h : s.versionIn x = .ok n) : s.Holds x n := by
  rcases s.versionIn_cases x with ⟨m, holds, -, eq⟩ | ⟨-, -, fault, eq⟩ | ⟨-, failure, eq⟩
  · cases h.symm.trans eq
    exact holds
  · cases h.symm.trans eq
  · cases h.symm.trans eq

end Site
end Schema
end Tenancy
