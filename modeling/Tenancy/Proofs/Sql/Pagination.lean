import Tenancy.Proofs.Sql.Token

/-!
# Which rows clauses select

`pages` reads from the tokens of a statement which rows its clauses skip and how many they take, in
either dialect: of `LIMIT a, b`, `LIMIT b OFFSET a` and `OFFSET a LIMIT b` each skips `a` rows and takes
`b`, and `LIMIT -1` and `LIMIT ALL` take all. `Turns` says how the rules for pages change tokens, and
`Turns.pages_eq` that this selects the same rows.
-/

namespace Tenancy.Sql
open Text

/-! ## Reading the clauses -/

/-- A part of an expression. A parameter is told by how many are in front of it. -/
inductive Part where
  | parameter (n : Nat)
  | token (t : Token)
  deriving DecidableEq, Repr

/-- An expression, as its parts. -/
abbrev Expr := List Part

/-- How many brackets are open after a part, where some were before it. -/
def Part.depth (d : Nat) : Part → Nat
  | token .opened => d + 1
  | token .closed => d - 1
  | _ => d

/-- How many rows are taken: all, or as many as an expression says. -/
def bound (e : Expr) : Option Expr :=
  if e = [.token (.sign '-'), .token (.number ['1'])] ∨ e = [.token .all] then none else some e

/-- What clauses ask for one after the other, and where they end. -/
inductive Ask where
  | skip (e : Expr)
  | take (bound : Option Expr)
  | stop

/-- The clause that is being read: `LIMIT` with an expression or with two, or `OFFSET`. -/
inductive Clause where
  | none
  | limit (e : Expr)
  | pair (skip take : Expr)
  | offset (e : Expr)

namespace Clause

/-- What a clause asks for. -/
def asks : Clause → List Ask
  | none => []
  | limit e => [.take (bound e)]
  | pair skip take => [.skip skip, .take (bound take)]
  | offset e => [.skip e]

/-- The clause with one more part of its last expression. -/
def push (p : Part) : Clause → Clause
  | none => none
  | limit e => limit (e ++ [p])
  | pair skip take => pair skip (take ++ [p])
  | offset e => offset (e ++ [p])

/-- What a clause asks for that ends, and what goes on, where a comma follows: a second expression. -/
def atComma : Clause → List Ask × Clause
  | limit e => ([], pair e [])
  | c => (c.asks ++ [.stop], none)

/-- How many brackets are open in the last expression. -/
def depth : Clause → Nat
  | none => 0
  | limit e | pair _ e | offset e => e.foldl Part.depth 0

end Clause

/-- What the clauses of a statement ask for, after a clause that may go on and `n` parameters. -/
def asksFrom (n : Nat) (c : Clause) : List Token → List Ask
  | [] => c.asks
  | t :: ts =>
    match t with
    | .limit => c.asks ++ asksFrom n (.limit []) ts
    | .offset => c.asks ++ asksFrom n (.offset []) ts
    | .comma =>
      if c.depth = 0 then c.atComma.1 ++ asksFrom n c.atComma.2 ts else asksFrom n (c.push (.token t)) ts
    | .closed =>
      if c.depth = 0 then c.asks ++ .stop :: asksFrom n .none ts else asksFrom n (c.push (.token t)) ts
    | .other => c.asks ++ .stop :: asksFrom n .none ts
    | .parameter => asksFrom (n + 1) (c.push (.parameter n)) ts
    | .opened | .number _ | .all | .sign _ | .quoted => asksFrom n (c.push (.token t)) ts

/-- What clauses next to each other ask for: which rows are skipped, and how many are taken. -/
structure Page where
  skips : List Expr
  takes : List (Option Expr)
  deriving DecidableEq, Repr

/-- The pages of what is asked for, of which the first goes on with `a`. -/
def Ask.onto (a : Ask) (pages : List Page) : List Page :=
  match a, pages with
  | .stop, pages => ⟨[], []⟩ :: pages
  | _, [] => []
  | .skip e, page :: pages => { page with skips := e :: page.skips } :: pages
  | .take b, page :: pages => { page with takes := b :: page.takes } :: pages

/-- What is asked for, clause by clause. -/
def pagesOf (asks : List Ask) : List Page := asks.foldr Ask.onto [⟨[], []⟩]

/-- The pages that the clauses of a statement select, in order; the statement is given by its lexemes. -/
def pages (ls : List Lexeme) : List Page :=
  (pagesOf (asksFrom 0 .none (tokens ls))).filter fun page => page ≠ ⟨[], []⟩

/-! ## Clauses in another order -/

/-- Whether a token goes on with an expression in which no bracket is open. -/
def Token.isPart : Token → Bool
  | opened | parameter | number _ | all | sign _ | quoted => true
  | limit | offset | comma | closed | other => false

/-- Whether an expression ends in front of tokens, and is not the first of a pair. -/
def isEnd (ts : List Token) : Bool := !ts.head?.any Token.isPart

/-- The token at which an expression ends, in which brackets are open. -/
def endOf (d : Nat) : List Token → Option Token
  | [] => none
  | t :: ts =>
    match t with
    | .limit | .offset | .other => some t
    | .comma | .closed => if d = 0 then some t else endOf (Part.depth d (.token t)) ts
    | .opened | .parameter | .number _ | .all | .sign _ | .quoted => endOf (Part.depth d (.token t)) ts

/-- Whether the rules put one list of tokens in the place of another: a pair of counts changes places, or
its clauses do, and what is no bound is left out. -/
inductive Turns : List Token → List Token → Prop where
  | nil : Turns [] []
  | keep {ts us} (t : Token) : Turns ts us → Turns (t :: ts) (t :: us)
  | ordered {t ts us} :
    t = .parameter ∨ (∃ w, t = .number w) →
    endOf 0 ts ≠ some .comma →
    (∀ c, ts.head? ≠ some (.sign c)) →
    Turns ts us →
    Turns (.limit :: t :: .comma :: ts) (.offset :: t :: .limit :: us)
  | swapped {v w ts us} :
    isEnd ts →
    Turns ts us →
    Turns (.limit :: .number v :: .comma :: .number w :: ts)
      (.limit :: .number w :: .offset :: .number v :: us)
  | unbounded {ts us} :
    isEnd ts →
    ts.head? ≠ some .comma →
    Turns ts us →
    Turns (.limit :: .sign '-' :: .number ['1'] :: ts) (.limit :: .all :: us)

/-- More in front makes no difference to whether two lists give the same pages. -/
lemma pagesOf_append {xs ys : List Ask} (front : List Ask) (h : pagesOf xs = pagesOf ys) :
    pagesOf (front ++ xs) = pagesOf (front ++ ys) := by
  rw [pagesOf, pagesOf, List.foldr_append, List.foldr_append]
  exact congrArg (front.foldr Ask.onto) h

/-- Skipping and taking can change places. -/
lemma pagesOf_swap (e : Expr) (b : Option Expr) (asks : List Ask) :
    pagesOf (.skip e :: .take b :: asks) = pagesOf (.take b :: .skip e :: asks) := by
  simp only [pagesOf, List.foldr_cons]
  cases asks.foldr Ask.onto [⟨[], []⟩] <;> rfl

/-- A pair is what its clauses are, unless a third expression follows. -/
lemma asksFrom_pair {ts : List Token} (n : Nat) (skip take : Expr)
    (h : endOf (Clause.limit take).depth ts ≠ some .comma) :
    asksFrom n (.pair skip take) ts = .skip skip :: asksFrom n (.limit take) ts := by
  induction ts generalizing n take with
  | nil => rfl
  | cons t ts ih =>
    -- Where the expression goes on, it does so in both.
    have goes (n : Nat) (p : Part) (h : endOf (Part.depth (Clause.limit take).depth p) ts ≠ some .comma) :
        asksFrom n (.pair skip (take ++ [p])) ts = .skip skip :: asksFrom n (.limit (take ++ [p])) ts := by
      have longer : (Clause.limit (take ++ [p])).depth = Part.depth (Clause.limit take).depth p :=
        List.foldl_append
      exact ih n (take ++ [p]) (by rwa [longer])
    have same : (Clause.pair skip take).depth = (Clause.limit take).depth := rfl
    cases t with
    | limit | offset | other => rfl
    | comma =>
      rw [endOf] at h
      rw [asksFrom, asksFrom, same]
      by_cases outside : (Clause.limit take).depth = 0
      · exact absurd (if_pos outside) h
      · rw [if_neg outside] at h ⊢
        rw [if_neg outside]
        exact goes n _ h
    | closed =>
      rw [endOf] at h
      rw [asksFrom, asksFrom, same]
      by_cases outside : (Clause.limit take).depth = 0
      · rw [if_pos outside, if_pos outside]
        rfl
      · rw [if_neg outside] at h ⊢
        rw [if_neg outside]
        exact goes n _ h
    | opened | parameter | number | all | sign | quoted => exact goes _ _ h

/-- A clause ends where no part of an expression follows. -/
lemma asksFrom_ends {c : Clause} {ts : List Token} (outside : c.depth = 0) (ends : isEnd ts)
    (comma : ts.head? ≠ some .comma ∨ ∀ e, c ≠ .limit e) (n : Nat) :
    asksFrom n c ts = c.asks ++ asksFrom n .none ts := by
  cases ts with
  | nil => exact (List.append_nil _).symm
  | cons t ts =>
    cases t with
    | limit | offset | other => rfl
    | closed =>
      rw [asksFrom, if_pos outside]
      rfl
    | comma =>
      rw [asksFrom, if_pos outside]
      cases c with
      | limit e => exact absurd rfl (comma.resolve_right fun none => none e rfl)
      | none | pair | offset => exact List.append_assoc _ _ _
    | opened | parameter | number | all | sign | quoted => cases ends

namespace Turns
variable {ts us : List Token}

/-- Tokens in front of a turn stay. -/
lemma append (front : List Token) (h : Turns ts us) : Turns (front ++ ts) (front ++ us) := by
  induction front with
  | nil => exact h
  | cons t front ih => exact .keep t ih

/-- What is put in starts with a clause. -/
lemma head (h : Turns ts us) : us.head? = ts.head? ∨ us.head? = some .limit ∨ us.head? = some .offset := by
  cases h with
  | nil | keep => exact .inl rfl
  | ordered => exact .inr (.inr rfl)
  | swapped | unbounded => exact .inr (.inl rfl)

/-- An operand ends in front of a turn where it did. -/
lemma isEnd (h : Turns ts us) (ends : isEnd ts) : Sql.isEnd us := by
  rcases h.head with same | put | put
  · rwa [Sql.isEnd, same]
  · rw [Sql.isEnd, put]
    rfl
  · rw [Sql.isEnd, put]
    rfl

/-- A turn starts with no other token than a word of a clause, if it did not before. -/
lemma head_ne (h : Turns ts us) {t : Token} (clause : t ≠ .limit ∧ t ≠ .offset) (none : ts.head? ≠ some t) :
    us.head? ≠ some t := by
  rcases h.head with same | put | put
  · rwa [same]
  · rw [put]
    exact fun eq => clause.1 (Option.some.inj eq).symm
  · rw [put]
    exact fun eq => clause.2 (Option.some.inj eq).symm

/-- The pages stay the same. -/
theorem pages_eq (h : Turns ts us) (n : Nat) (c : Clause) :
    pagesOf (asksFrom n c ts) = pagesOf (asksFrom n c us) := by
  induction h generalizing n c with
  | nil => rfl
  | @keep ts us t _ ih =>
    have stop := pagesOf_append c.asks (pagesOf_append [.stop] (ih n .none))
    cases t with
    | limit | offset => exact pagesOf_append c.asks (ih n _)
    | comma =>
      rw [asksFrom, asksFrom]
      split
      · exact pagesOf_append c.atComma.1 (ih n _)
      · exact ih n _
    | closed =>
      rw [asksFrom, asksFrom]
      split
      · exact stop
      · exact ih n _
    | other => exact stop
    | opened | parameter | number | all | sign | quoted => exact ih _ _
  | @ordered t ts us count third _ _ ih =>
    obtain ⟨m, p, outside, single⟩ : ∃ (m : Nat) (p : Part), Part.depth 0 p = 0 ∧
        ∀ c ts, asksFrom n c (t :: ts) = asksFrom m (c.push p) ts := by
      rcases count with rfl | ⟨w, rfl⟩
      · exact ⟨n + 1, .parameter n, rfl, fun _ _ => rfl⟩
      · exact ⟨n, .token (.number w), rfl, fun _ _ => rfl⟩
    have old : asksFrom n c (.limit :: t :: .comma :: ts) =
        c.asks ++ .skip [p] :: asksFrom m (.limit []) ts := by
      have second : asksFrom m (.limit [p]) (.comma :: ts) = asksFrom m (.pair [p] []) ts := by
        rw [asksFrom, if_pos (show (Clause.limit [p]).depth = 0 from outside)]
        rfl
      rw [← asksFrom_pair m [p] [] third, ← second]
      exact congrArg (c.asks ++ ·) (single (.limit []) _)
    have new : asksFrom n c (.offset :: t :: .limit :: us) =
        c.asks ++ .skip [p] :: asksFrom m (.limit []) us :=
      congrArg (c.asks ++ ·) (single (.offset []) _)
    rw [old, new]
    exact pagesOf_append c.asks (pagesOf_append [.skip [p]] (ih m _))
  | @swapped v w ts us ends h ih =>
    have old : asksFrom n c (.limit :: .number v :: .comma :: .number w :: ts) =
        c.asks ++ .skip [.token (.number v)] :: .take (bound [.token (.number w)]) ::
          asksFrom n .none ts :=
      congrArg (c.asks ++ ·) (asksFrom_ends rfl ends (.inr fun _ => Clause.noConfusion) n)
    have new : asksFrom n c (.limit :: .number w :: .offset :: .number v :: us) =
        c.asks ++ .take (bound [.token (.number w)]) :: .skip [.token (.number v)] ::
          asksFrom n .none us :=
      congrArg (c.asks ++ .take (bound [.token (.number w)]) :: ·)
        (asksFrom_ends rfl (h.isEnd ends) (.inr fun _ => Clause.noConfusion) n)
    rw [old, new]
    refine pagesOf_append c.asks ((pagesOf_swap _ _ _).trans ?_)
    exact pagesOf_append [_, _] (ih n .none)
  | @unbounded ts us ends comma h ih =>
    have old : asksFrom n c (.limit :: .sign '-' :: .number ['1'] :: ts) =
        c.asks ++ .take none :: asksFrom n .none ts :=
      congrArg (c.asks ++ ·) (asksFrom_ends rfl ends (.inl comma) n)
    have new : asksFrom n c (.limit :: .all :: us) =
        c.asks ++ .take none :: asksFrom n .none us :=
      congrArg (c.asks ++ ·)
        (asksFrom_ends rfl (h.isEnd ends) (.inl (h.head_ne (by decide) comma)) n)
    rw [old, new]
    exact pagesOf_append c.asks (pagesOf_append [.take none] (ih n .none))

end Turns

end Tenancy.Sql
