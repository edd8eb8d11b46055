import Tenancy.Proofs.Path.Literal

/-!
# What derived columns hold

The computation of a column has a value in every row with a document, whatever the document: what the type of
the column allows of the value at its path (`DerivedColumn.eval_expression`). That no cast fails is because of
what stands in front of it: a text is only read as a whole number where it is printed of a number
(`describes_text`), and then it is within the bounds of the server's numbers because the number is
(`eval_integer`).
-/

namespace Tenancy.Schema
open Text Expression

/-! ## What columns hold -/

/-- Whether a value is the one of a kind of which something holds, or null if it holds of none. -/
def Tells {α : Type} (make : α → Datum) (P : α → Prop) (out : Datum) : Prop :=
  (∀ a, out = make a ↔ P a) ∧ (out = .null ∨ ∃ a, out = make a)

/-- A value tells of the one thing that is so. -/
lemma Tells.value {α : Type} {make : α → Datum} {P : α → Prop} {a : α} (injective : Function.Injective make)
    (h : P a) (unique : ∀ b, P b → b = a) : Tells make P (make a) := by
  refine ⟨fun b => ⟨?_, ?_⟩, .inr ⟨a, rfl⟩⟩
  · intro eq
    rwa [← injective eq]
  · intro hb
    rw [unique b hb]

/-- Null tells that nothing is. -/
lemma Tells.null {α : Type} {make : α → Datum} {P : α → Prop} (other : ∀ a, .null ≠ make a)
    (none : ∀ a, ¬ P a) : Tells make P .null :=
  ⟨fun a => ⟨fun eq => absurd eq (other a), fun h => absurd h (none a)⟩, .inl rfl⟩

/-- What a column of a type is to hold, given what stands at its path. -/
def ColumnType.Holds (type : ColumnType) (found : Option Jsonb) (out : Datum) : Prop :=
  match type with
  | .text => Tells .text (fun s => ∃ v, found = some v ∧ v ≠ .null ∧ v.text = s) out
  | .integer =>
    Tells .bigint (fun n => (∃ x, found = some (.number x) ∧ x.1.text = toString n) ∧
      -2 ^ 63 ≤ n ∧ n ≤ 2 ^ 63 - 1) out
  | .boolean => Tells .boolean (fun b => found = some (.boolean b)) out

/-! ## Values -/

section Values
variable {row : Columns} {value text condition result : Expression} {found : Option Jsonb}

/-- A value under a condition is itself where the condition holds, and null otherwise. -/
lemma eval_given {d : Datum} {held : Option Bool} (h : condition.eval row = .ok d)
    (truth : d.truth = .ok held) :
    (Expression.given condition result).eval row = if held = some true then result.eval row else .ok .null := by
  rw [eval, h]
  change (d.truth >>= _) = _
  rw [truth]
  rfl

/-- Two conditions hold together as their truths do. -/
lemma eval_both {l r : Datum} {p q : Option Bool} (hl : condition.eval row = .ok l) (hp : l.truth = .ok p)
    (hr : result.eval row = .ok r) (hq : r.truth = .ok q) :
    (Expression.both condition result).eval row = .ok (.ofTruth (Datum.both p q)) := by
  rw [eval, hl, hr]
  change (l.truth >>= _) = _
  rw [hp]
  change (r.truth >>= _) = _
  rw [hq]
  rfl

/-- The kind of a value is compared with a name, and a value that is missing has none. -/
lemma eval_kind (hv : value.eval row = .ok (found.elim .null .document)) (name : String) :
    (Expression.binary .equal (.call "jsonb_typeof" value) (.literal name)).eval row =
      .ok (found.elim .null fun v => .boolean (v.kind = name)) := by
  have call : (Expression.call "jsonb_typeof" value).eval row =
      .ok (found.elim .null fun v => .text v.kind) := by
    rw [eval, hv]
    change Datum.call "jsonb_typeof" _ = _
    rw [Datum.call_kind]
    cases found with
    | none => rfl
    | some v => rfl
  rw [eval_binary call, Datum.apply_equal]
  cases found with
  | none => rfl
  | some v => rfl

/-- A cast reads a text as a type. -/
lemma eval_cast {s : String} (ht : text.eval row = .ok (.text s)) (type : String) :
    (Expression.cast text type).eval row = Datum.read type s := by
  rw [eval, ht]
  rfl

/-- A test of the kind lets only values of that kind through. -/
lemma eval_given_kind (hv : value.eval row = .ok (found.elim .null .document)) {name : String}
    (other : ∀ v, found = some v → v.kind ≠ name) :
    (Expression.given (.binary .equal (.call "jsonb_typeof" value) (.literal name)) result).eval row =
      .ok .null := by
  cases found with
  | none => exact eval_given (eval_kind hv name) rfl
  | some v =>
    have truth : Datum.truth (.boolean (v.kind = name)) = .ok (some false) := by
      rw [decide_eq_false (other v rfl)]
      rfl
    exact eval_given (eval_kind hv name) truth

/-- A text that is missing is like no pattern. -/
lemma eval_like_null (ht : text.eval row = .ok .null) :
    (Expression.binary .like text (.literal "^-?[0-9]+$")).eval row = .ok .null := by
  rw [eval_binary ht, Datum.apply_like, Datum.like, Pattern.read?_integer]
  rfl

/-- A text is like the pattern for whole numbers if the pattern describes it. -/
lemma eval_like {s : String} (ht : text.eval row = .ok (.text s)) :
    (Expression.binary .like text (.literal "^-?[0-9]+$")).eval row =
      .ok (.boolean (Pattern.integer.describes s.toList)) := by
  rw [eval_binary ht, Datum.apply_like, Datum.like, Pattern.read?_integer]
  rfl

/-- The tests of a whole number hold of numbers without digits behind the point, and of nothing else. -/
lemma eval_tests (hv : value.eval row = .ok (found.elim .null .document))
    (ht : text.eval row = .ok (found.elim .null Datum.ofText)) :
    ∃ held, (Expression.both (.binary .equal (.call "jsonb_typeof" value) (.literal "number"))
        (.binary .like text (.literal "^-?[0-9]+$"))).eval row = .ok (.ofTruth held) ∧
      (held = some true ↔ ∃ x n, found = some (.number x) ∧ x.1 = .ofInt n) := by
  cases found with
  | none =>
    refine ⟨none, eval_both (eval_kind hv "number") rfl (eval_like_null ht) rfl, ?_⟩
    simp
  | some v =>
    have kind := eval_kind hv "number"
    cases v with
    | number x =>
      have both := eval_both kind (p := some true) rfl (eval_like ht) rfl
      rw [Datum.both_true] at both
      refine ⟨_, both, ?_⟩
      change some (Pattern.integer.describes x.1.text.toList) = _ ↔ _
      rw [Option.some.injEq, Pattern.describes_text]
      simp
    | null => exact ⟨some false, eval_both kind rfl (eval_like_null ht) rfl, by simp⟩
    | boolean b => exact ⟨some false, eval_both kind rfl (eval_like ht) rfl, by simp⟩
    | string s => exact ⟨some false, eval_both kind rfl (eval_like ht) rfl, by simp⟩
    | array items => exact ⟨some false, eval_both kind rfl (eval_like ht) rfl, by simp⟩
    | object members => exact ⟨some false, eval_both kind rfl (eval_like ht) rfl, by simp⟩

/-- The text of a whole number is tested for being within sixty-four bits. -/
lemma eval_between {n : Int} (fits : (Decimal.ofInt n).Fits) (ht : text.eval row = .ok (.text (toString n))) :
    (Expression.between (.cast text "numeric") (.negated (.number 9223372036854775808))
      (.number 9223372036854775807)).eval row = .ok (.boolean (minInt64 ≤ n && n ≤ maxInt64)) := by
  rw [eval, eval_cast ht, Datum.read_numeric fits]
  change Except.ok (Datum.boolean ((Decimal.ofInt minInt64).le (.ofInt n) && (Decimal.ofInt n).le (.ofInt maxInt64))) = _
  rw [Decimal.le_ofInt, Decimal.le_ofInt]

/-- The column for a whole number is computed, and holds what it should. -/
theorem eval_integer (hv : value.eval row = .ok (found.elim .null .document))
    (ht : text.eval row = .ok (found.elim .null Datum.ofText)) :
    ∃ out, (ColumnType.integer.computation value text).eval row = .ok out ∧
      ColumnType.integer.Holds found out := by
  obtain ⟨held, tests, whole⟩ := eval_tests hv ht
  have given : (ColumnType.integer.computation value text).eval row =
      if held = some true then _ else .ok .null :=
    eval_given tests (Datum.truth_ofTruth held)
  by_cases holds : held = some true
  · obtain ⟨⟨x, fits⟩, n, rfl, eq⟩ := whole.1 holds
    cases eq
    have same : (Decimal.ofInt n).text = toString n := Decimal.text_eq_toString_iff.2 rfl
    have printed : text.eval row = .ok (.text (toString n)) := by
      rw [ht, ← same]
      rfl
    have unique (m : Int) (h : ∃ y, some (Jsonb.number ⟨.ofInt n, fits⟩) = some (.number y) ∧
        y.1.text = toString m) : m = n := by
      obtain ⟨y, found, eq⟩ := h
      cases found
      cases Decimal.text_eq_toString_iff.1 eq
      rfl
    rw [if_pos holds, eval_given (eval_between fits printed) rfl] at given
    by_cases range : minInt64 ≤ n ∧ n ≤ maxInt64
    · have within : (minInt64 ≤ n && n ≤ maxInt64) = true := by simpa using range
      rw [within, if_pos rfl, eval_cast printed, Datum.read_bigint range.1 range.2] at given
      refine ⟨_, given, .value ?_ ⟨⟨_, rfl, same⟩, range⟩ fun m h => unique m h.1⟩
      exact fun _ _ => Datum.bigint.inj
    · have outside : (minInt64 ≤ n && n ≤ maxInt64) = false := by simpa using range
      rw [outside, if_neg (by simp)] at given
      refine ⟨_, given, .null nofun ?_⟩
      rintro m ⟨number, inside⟩
      cases unique m number
      exact range inside
  · rw [if_neg holds] at given
    refine ⟨_, given, .null nofun ?_⟩
    rintro m ⟨⟨x, found, eq⟩, -⟩
    exact holds (whole.2 ⟨x, m, found, Decimal.text_eq_toString_iff.1 eq⟩)

/-- So is the column for a truth value. -/
theorem eval_boolean (hv : value.eval row = .ok (found.elim .null .document))
    (ht : text.eval row = .ok (found.elim .null Datum.ofText)) :
    ∃ out, (ColumnType.boolean.computation value text).eval row = .ok out ∧
      ColumnType.boolean.Holds found out := by
  by_cases boolean : ∃ b, found = some (.boolean b)
  · obtain ⟨b, rfl⟩ := boolean
    have cast : (Expression.cast text "boolean").eval row = .ok (.boolean b) := by
      have same : (Jsonb.boolean b).text = toString b := String.ofList_toList
      rw [eval_cast ht, same, Datum.read_boolean]
    refine ⟨.boolean b, (eval_given (eval_kind hv "boolean") rfl).trans cast, .value ?_ rfl ?_⟩
    · exact fun _ _ => Datum.boolean.inj
    · intro c h
      cases h
      rfl
  · have other : ∀ v, found = some v → v.kind ≠ "boolean" := by
      rintro v rfl kind
      cases v with
      | boolean b => exact boolean ⟨b, rfl⟩
      | _ => simp [Jsonb.kind] at kind
    exact ⟨.null, eval_given_kind hv other, .null nofun fun b h => boolean ⟨b, h⟩⟩

/-- So is the column for a text. -/
theorem eval_text (ht : text.eval row = .ok (found.elim .null Datum.ofText)) :
    ∃ out, text.eval row = .ok out ∧ ColumnType.text.Holds found out := by
  refine ⟨_, ht, ?_⟩
  by_cases some : ∃ v, found = some v ∧ v ≠ .null
  · obtain ⟨v, rfl, some⟩ := some
    have shown : Datum.ofText v = .text v.text := by
      cases v with
      | null => exact absurd rfl some
      | _ => rfl
    change ColumnType.text.Holds _ (Datum.ofText v)
    rw [shown]
    refine .value (fun _ _ => Datum.text.inj) ⟨v, rfl, some, rfl⟩ ?_
    rintro s ⟨w, found, -, rfl⟩
    cases found
    rfl
  · have null : found.elim .null Datum.ofText = .null := by
      cases found with
      | none => rfl
      | some v =>
        cases v with
        | null => rfl
        | _ => exact absurd ⟨_, rfl, nofun⟩ some
    rw [null]
    refine .null nofun ?_
    rintro s ⟨v, found, other, -⟩
    exact some ⟨v, found, other⟩

/-- Every computation has a value, and it is what a column of the type is to hold. -/
theorem eval_computation (hv : value.eval row = .ok (found.elim .null .document))
    (ht : text.eval row = .ok (found.elim .null Datum.ofText)) (type : ColumnType) :
    ∃ out, (type.computation value text).eval row = .ok out ∧ type.Holds found out := by
  cases type with
  | text => exact eval_text ht
  | integer => exact eval_integer hv ht
  | boolean => exact eval_boolean hv ht

end Values

/-! ## Derived columns -/

/-- A path in a row leads to what stands there in the row's document. -/
lemma follow_array {text : String} {path : Path} (h : Path.read text = .ok path) (named : path.Named)
    (give : Jsonb → Datum) (d : Jsonb) :
    Datum.follow give (String.ofList path.array) (.document d) =
      .ok ((d.value? path.elements).elim .null give) := by
  have elements : (path.elements.map some).mapM id = some path.elements := by
    induction path.elements with
    | nil => rfl
    | cons s names ih => rw [List.map_cons, List.mapM_cons, ih]; rfl
  rw [Datum.follow, readElements_array h, Path.map_element?_iff.2 named]
  change Except.ok ((d.at? (path.elements.map some)).elim .null give) = _
  rw [Jsonb.at?, elements]
  rfl

/-- For every derived column with a path that has no key spelled null, and every document, the text that
computes the column is an expression, and the expression has a value: what the column is to hold of the value
at the path. -/
theorem DerivedColumn.eval_expression {c : DerivedColumn} {path : Path}
    (parsed : Path.parse c.path = .ok path) (named : path.Named) {source : String}
    (reference : Token.IsReference source) {row : Columns} {d : Jsonb}
    (bound : row source = some (.document d)) :
    ∃ text e out, c.expression source = .ok text ∧ Expression.read? text = some e ∧
      e.eval row = .ok out ∧ c.type.Holds (d.value? path.elements) out := by
  have read := Path.parse_eq_ok.1 parsed
  have expression : c.expression source = .ok (c.type.derivation.sql s!"{source} #> {path.literal}"
      s!"({source} #>> {path.literal})") := by
    rw [DerivedColumn.expression, parsed]
    rfl
  have column : (Expression.column source).eval row = .ok (.document d) := by
    rw [eval, bound]
    rfl
  have value : (Expression.binary .value (.column source) (.literal (String.ofList path.array))).eval row =
      .ok ((d.value? path.elements).elim .null .document) := by
    rw [eval_binary column, Datum.apply_value, follow_array read named]
  have text : (Expression.binary .text (.column source) (.literal (String.ofList path.array))).eval row =
      .ok ((d.value? path.elements).elim .null Datum.ofText) := by
    rw [eval_binary column, Datum.apply_text, follow_array read named]
  obtain ⟨out, evaluated, holds⟩ := eval_computation value text c.type
  exact ⟨_, _, out, expression, read?_sql reference read c.type, evaluated, holds⟩

/-- A document with the largest number that fits a column. -/
def oldest : Jsonb := .object [("age", .number ⟨.ofInt maxInt64, Decimal.fits_ofInt (by decide) (by decide)⟩)]

/-- The path in the example is one key. -/
lemma parse_age : Path.parse "$.age" = .ok ⟨.key "age", []⟩ := by
  have rest : readSegments (List.dropWhile isKeyChar ['a', 'g', 'e']) = .ok [] := by
    rw [show List.dropWhile isKeyChar ['a', 'g', 'e'] = [] by decide, readSegments]
  have key : readSegments ['.', 'a', 'g', 'e'] = .ok [.key "age"] := by
    rw [readSegments, if_neg (by decide), rest]
    rfl
  have chars : "$.age".toList = ['$', '.', 'a', 'g', 'e'] := by simp
  rw [Path.parse, Path.read, chars]
  change Except.mapError _ (readSegments _ >>= _) = _
  rw [key]
  rfl

/-- The greatest number of 64 bits is read from a document. -/
theorem DerivedColumn.eval_expression_oldest :
    ∃ text e, DerivedColumn.expression ⟨"age", "$.age", .integer⟩ s!"NEW.{documentColumn}" = .ok text ∧
      Expression.read? text = some e ∧
      e.eval (fun _ => some (.document oldest)) = .ok (.bigint 9223372036854775807) := by
  have named : Path.Named ⟨.key "age", []⟩ := by
    intro name mem
    cases List.mem_singleton.1 mem
    decide
  have reference : Token.IsReference s!"NEW.{documentColumn}" := by decide
  obtain ⟨text, e, out, expression, read, evaluated, holds⟩ :=
    @DerivedColumn.eval_expression ⟨"age", "$.age", .integer⟩ _ parse_age named _ reference
      (fun _ => some (.document oldest)) oldest rfl
  have found : oldest.value? [Segment.element (.key "age")] =
      some (.number ⟨.ofInt maxInt64, Decimal.fits_ofInt (by decide) (by decide)⟩) := by
    simp [oldest, Jsonb.value?, Jsonb.child?, Segment.element]
  have largest : out = .bigint maxInt64 := by
    change ColumnType.integer.Holds (oldest.value? [Segment.element (.key "age")]) out at holds
    rw [found] at holds
    exact (holds.1 maxInt64).2 ⟨⟨_, rfl, Decimal.text_eq_toString_iff.2 rfl⟩, by decide, by decide⟩
  rw [largest] at evaluated
  exact ⟨text, e, expression, read, evaluated⟩

end Tenancy.Schema
