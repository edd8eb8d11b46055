import Mathlib.Data.List.Sort
import Mathlib.Data.String.Basic
import Tenancy.Registry

/-!
# Prefixes and their owners

A registry is `Sound` if its prefixes rise and each is the one that its owner's name gives; then it is told
by the owners of its prefixes (`Sound.ext`). Registering a name keeps it so and binds that name's prefix at
most (`register_eq_ok`, `Sound.register`). A list of names and prefixes is taken for a registry exactly when
every prefix is its name's own and no two names share one, and what it spells is bound
(`ofPairs_succeeds_iff`, `tenant?_ofPairs`); a sound registry is what its own list spells
(`Sound.ofPairs_toPairs`).
-/

namespace Tenancy

/-- A prefix is known by its text. -/
lemma TablePrefix.eq_of_text {p q : TablePrefix} (h : p.text = q.text) : p = q := by
  cases p
  cases q
  cases h
  rfl

namespace Registry

/-- Whether the prefixes of a list of entries rise. -/
abbrev Rising (entries : List (TablePrefix × String)) : Prop :=
  entries.Pairwise fun e f => e.1.text < f.1.text

/-- What holds of every registry: its prefixes rise, and each is that of its owner's name. -/
structure Sound (r : Registry) : Prop where
  rising : Rising r.entries
  own : ∀ e ∈ r.entries, TablePrefix.ofName e.2 = .ok e.1

/-- The empty registry is sound. -/
lemma sound_empty : empty.Sound := ⟨.nil, by simp [empty]⟩

variable {r s : Registry} {p q : TablePrefix} {name owner : String}
  {entries : List (TablePrefix × String)}

/-! ## Owners -/

/-- Where prefixes are in order, a prefix is bound to a name if both are an entry. -/
lemma tenant?_eq_some (h : Rising r.entries) : r.tenant? p = some name ↔ (p, name) ∈ r.entries := by
  obtain ⟨entries⟩ := r
  simp only [tenant?, Option.map_eq_some_iff]
  induction entries with
  | nil => simp
  | cons e entries ih =>
    obtain ⟨first, later⟩ := List.pairwise_cons.1 h
    by_cases same : e.1 = p
    · have absent : (p, name) ∉ entries := by
        intro mem
        exact absurd (first _ mem) (by simp [same])
      obtain ⟨q, n⟩ := e
      cases same
      simp only [List.find?_cons, decide_true, List.mem_cons, Prod.mk.injEq, true_and, absent, or_false]
      constructor
      · rintro ⟨f, eq, rfl⟩
        cases eq
        rfl
      · rintro rfl
        exact ⟨_, rfl, rfl⟩
    · rw [List.find?_cons_of_neg (by simpa using same)]
      have other : (p, name) ≠ e := by
        rintro rfl
        exact same rfl
      rw [List.mem_cons, or_iff_right other]
      exact ih later

/-- A prefix that is not bound is in no entry. -/
lemma tenant?_eq_none (h : r.tenant? p = none) : ∀ e ∈ r.entries, e.1 ≠ p := by
  simpa [tenant?] using h

/-- In a sound registry a prefix is bound to a name that gives it. -/
lemma Sound.ofName (h : r.Sound) (bound : r.tenant? p = some name) : TablePrefix.ofName name = .ok p :=
  h.own (p, name) ((tenant?_eq_some h.rising).1 bound)

/-- Registries with the same owners are the same. -/
lemma Sound.ext (hr : r.Sound) (hs : s.Sound) (h : ∀ p name, r.tenant? p = some name ↔ s.tenant? p = some name) :
    r = s := by
  have distinct {entries : List (TablePrefix × String)} (rising : Rising entries) : entries.Nodup := by
    refine rising.imp fun before eq => ?_
    rw [eq] at before
    exact lt_irrefl _ before
  have perm : r.entries.Perm s.entries := by
    refine (List.perm_ext_iff_of_nodup (distinct hr.rising) (distinct hs.rising)).2 fun e => ?_
    rw [← tenant?_eq_some hr.rising, ← tenant?_eq_some hs.rising]
    exact h e.1 e.2
  have same : r.entries = s.entries :=
    perm.eq_of_pairwise (fun e f _ _ before after => absurd before (lt_asymm after)) hr.rising hs.rising
  cases r
  cases s
  cases same
  rfl

/-! ## A new entry -/

/-- An entry that is put in is there along with the others. -/
lemma mem_insertEntry {e : TablePrefix × String} :
    e ∈ insertEntry p name entries ↔ e = (p, name) ∨ e ∈ entries := by
  induction entries with
  | nil => simp [insertEntry]
  | cons f entries ih =>
    rw [insertEntry]
    split
    · rw [List.mem_cons]
    · rw [List.mem_cons, ih, List.mem_cons, or_left_comm]

/-- There is one entry more. -/
lemma length_insertEntry : (insertEntry p name entries).length = entries.length + 1 := by
  induction entries with
  | nil => rfl
  | cons f entries ih =>
    rw [insertEntry]
    split
    · rfl
    · rw [List.length_cons, ih, List.length_cons]

/-- A new entry is put where it belongs. -/
lemma rising_insertEntry (h : Rising entries) (new : ∀ e ∈ entries, e.1 ≠ p) :
    Rising (insertEntry p name entries) := by
  induction entries with
  | nil => exact .cons (by simp) .nil
  | cons f entries ih =>
    obtain ⟨first, later⟩ := List.pairwise_cons.1 h
    obtain ⟨head, tail⟩ := List.forall_mem_cons.1 new
    rw [insertEntry]
    split
    · next before =>
      exact .cons (List.forall_mem_cons.2 ⟨before, fun e mem => before.trans (first e mem)⟩) h
    · next behind =>
      refine .cons (fun e mem => ?_) (ih later tail)
      rcases mem_insertEntry.1 mem with rfl | mem
      · exact (not_lt.1 behind).lt_of_ne fun eq => head (TablePrefix.eq_of_text eq)
      · exact first e mem

/-- The registry in which a new prefix belongs to a tenant. -/
def bind (r : Registry) (p : TablePrefix) (name : String) : Registry := ⟨insertEntry p name r.entries⟩

/-- With one more binding the registry has one entry more. -/
lemma size_bind : (r.bind p name).size = r.size + 1 := length_insertEntry

/-- A sound registry stays so when a prefix that was free is bound to a name that gives it. -/
lemma Sound.bind (h : r.Sound) (own : TablePrefix.ofName name = .ok p) (free : r.tenant? p = none) :
    (r.bind p name).Sound := by
  refine ⟨rising_insertEntry h.rising (tenant?_eq_none free), fun e mem => ?_⟩
  rcases mem_insertEntry.1 mem with rfl | mem
  · exact own
  · exact h.own e mem

/-- The prefix is bound then, and all others are bound as before. -/
lemma Sound.tenant?_bind (h : r.Sound) (free : r.tenant? p = none) :
    (r.bind p name).tenant? q = some owner ↔ p = q ∧ name = owner ∨ r.tenant? q = some owner := by
  have rising : Rising (r.bind p name).entries := rising_insertEntry h.rising (tenant?_eq_none free)
  rw [tenant?_eq_some rising, tenant?_eq_some h.rising, Registry.bind, mem_insertEntry, Prod.mk.injEq,
    eq_comm (a := q), eq_comm (a := owner)]

/-! ## Registering -/

/-- A name is registered if it gives a prefix that is free or its own; a free one is bound. -/
lemma register_eq_ok : r.register name = .ok (p, s) ↔ TablePrefix.ofName name = .ok p ∧
    (r.tenant? p = some name ∧ s = r ∨ r.tenant? p = none ∧ s = r.bind p name) := by
  unfold register
  rcases TablePrefix.ofName name with failure | q
  · constructor
    · intro h
      cases h
    · rintro ⟨h, -⟩
      cases h
  · dsimp only [Bind.bind, Except.bind]
    constructor
    · intro h
      split at h
      · next owner found =>
        split at h
        · next same =>
          cases h
          exact ⟨rfl, .inl ⟨by rw [found, same], rfl⟩⟩
        · cases h
      · next free =>
        cases h
        exact ⟨rfl, .inr ⟨free, rfl⟩⟩
    · rintro ⟨own, ⟨bound, rfl⟩ | ⟨free, rfl⟩⟩
      · cases own
        simp [bound]
      · cases own
        simp [free, Registry.bind]

/-- A name is registered exactly when it is valid and nobody else has its prefix. -/
lemma register_succeeds_iff : (∃ out, r.register name = .ok out) ↔
    ∃ p, TablePrefix.ofName name = .ok p ∧ ∀ owner, r.tenant? p = some owner → owner = name := by
  constructor
  · rintro ⟨⟨p, s⟩, h⟩
    obtain ⟨own, ⟨bound, -⟩ | ⟨free, -⟩⟩ := register_eq_ok.1 h
    · exact ⟨p, own, fun owner found => Option.some.inj (found.symm.trans bound)⟩
    · refine ⟨p, own, fun owner found => ?_⟩
      rw [free] at found
      cases found
  · rintro ⟨p, own, alone⟩
    rcases found : r.tenant? p with _ | owner
    · exact ⟨_, register_eq_ok.2 ⟨own, .inr ⟨found, rfl⟩⟩⟩
    · obtain rfl := alone owner found
      exact ⟨_, register_eq_ok.2 ⟨own, .inl ⟨found, rfl⟩⟩⟩

/-- A sound registry stays so when a name is registered. -/
lemma Sound.register (h : r.Sound) (done : r.register name = .ok (p, s)) : s.Sound := by
  obtain ⟨own, ⟨-, rfl⟩ | ⟨free, rfl⟩⟩ := register_eq_ok.1 done
  · exact h
  · exact h.bind own free

/-- What is bound once a name is registered: its prefix, and what was bound before. -/
lemma Sound.tenant?_register (h : r.Sound) (done : r.register name = .ok (p, s)) :
    s.tenant? q = some owner ↔ p = q ∧ name = owner ∨ r.tenant? q = some owner := by
  obtain ⟨-, ⟨bound, rfl⟩ | ⟨free, rfl⟩⟩ := register_eq_ok.1 done
  · refine ⟨.inr, ?_⟩
    rintro (⟨rfl, rfl⟩ | found)
    · exact bound
    · exact found
  · exact h.tenant?_bind free

/-! ## Lists of names and prefixes -/

/-- Takes an entry of a list up into a registry. -/
def enter (r : Registry) (e : String × String) : Except Failure Registry := do
  let p ← TablePrefix.ofName e.1
  if p.text = e.2 then
    let (_, r) ← r.register e.1
    return r
  else throw (.configuration (.registryEntry e.1 e.2 p.text))

/-- A registry is made of pairs by entering one after the other. -/
lemma ofPairs_eq (pairs : List (String × String)) : ofPairs pairs = pairs.foldlM enter empty := rfl

/-- Whether an entry has the prefix that its name gives. -/
def IsOwn (e : String × String) : Prop := ∃ p, TablePrefix.ofName e.1 = .ok p ∧ p.text = e.2

/-- A pair is entered if its name gives its prefix and can be registered. -/
lemma enter_eq_ok {e : String × String} : r.enter e = .ok s ↔
    ∃ p, TablePrefix.ofName e.1 = .ok p ∧ p.text = e.2 ∧ r.register e.1 = .ok (p, s) := by
  unfold enter
  rcases own : TablePrefix.ofName e.1 with failure | q
  · constructor
    · intro h
      cases h
    · rintro ⟨_, h, -⟩
      cases h
  · change (if q.text = e.2 then (do
        let (_, r) ← r.register e.1
        return r) else Except.error _) = Except.ok s ↔ _
    constructor
    · intro h
      split at h
      · next same =>
        rcases done : r.register e.1 with failure | ⟨p, t⟩
        · rw [done] at h
          cases h
        · rw [done] at h
          cases h
          obtain ⟨own', -⟩ := register_eq_ok.1 done
          cases own.symm.trans own'
          exact ⟨q, rfl, same, rfl⟩
      · cases h
    · rintro ⟨p, eq, same, done⟩
      cases eq
      rw [if_pos same, done]
      rfl

/-- What a list of entries adds to a registry. -/
lemma Sound.foldlM_enter (h : r.Sound) {pairs : List (String × String)}
    (done : pairs.foldlM enter r = .ok s) : s.Sound ∧ (∀ e ∈ pairs, IsOwn e) ∧
      ∀ p name, s.tenant? p = some name ↔ r.tenant? p = some name ∨ (name, p.text) ∈ pairs := by
  induction pairs generalizing r with
  | nil =>
    cases done
    exact ⟨h, by simp, by simp⟩
  | cons e pairs ih =>
    rw [List.foldlM_cons] at done
    rcases entered : r.enter e with failure | t
    · rw [entered] at done
      cases done
    · rw [entered] at done
      obtain ⟨p, own, same, registered⟩ := enter_eq_ok.1 entered
      obtain ⟨sound, all, bound⟩ := ih (h.register registered) done
      refine ⟨sound, List.forall_mem_cons.2 ⟨⟨p, own, same⟩, all⟩, fun q name => ?_⟩
      have this : p = q ∧ e.1 = name ↔ (name, q.text) = e := by
        rw [Prod.ext_iff, ← same]
        constructor
        · rintro ⟨rfl, rfl⟩
          exact ⟨rfl, rfl⟩
        · rintro ⟨rfl, eq⟩
          exact ⟨(TablePrefix.eq_of_text eq).symm, rfl⟩
      rw [bound, h.tenant?_register registered, List.mem_cons, this, or_assoc, or_left_comm]

/-- A list is taken if every entry has its own prefix, and no prefix has two names, in the list or in the
registry it is added to. -/
lemma Sound.exists_foldlM_enter (h : r.Sound) {pairs : List (String × String)}
    (own : ∀ e ∈ pairs, IsOwn e) (alone : ∀ e ∈ pairs, ∀ f ∈ pairs, e.2 = f.2 → e.1 = f.1)
    (free : ∀ e ∈ pairs, ∀ p owner, p.text = e.2 → r.tenant? p = some owner → owner = e.1) :
    ∃ s, pairs.foldlM enter r = .ok s := by
  induction pairs generalizing r with
  | nil => exact ⟨r, rfl⟩
  | cons e pairs ih =>
    obtain ⟨⟨p, valid, same⟩, later⟩ := List.forall_mem_cons.1 own
    obtain ⟨⟨q, t⟩, registered⟩ : ∃ out, r.register e.1 = .ok out :=
      register_succeeds_iff.2 ⟨p, valid, fun owner => free e List.mem_cons_self p owner same⟩
    obtain rfl : q = p := Except.ok.inj ((register_eq_ok.1 registered).1.symm.trans valid)
    rw [List.foldlM_cons, enter_eq_ok.2 ⟨q, valid, same, registered⟩]
    refine ih (h.register registered) later
      (fun f memf g memg => alone f (.tail _ memf) g (.tail _ memg)) fun f mem p owner eq found => ?_
    rcases (h.tenant?_register registered).1 found with ⟨rfl, rfl⟩ | found
    · exact alone e List.mem_cons_self f (.tail _ mem) (same.symm.trans eq)
    · exact free f (.tail _ mem) p owner eq found

/-- What a list has to be to be taken for a registry: every prefix is its name's own, and no two names have
the same. -/
def Spells (pairs : List (String × String)) : Prop :=
  (∀ e ∈ pairs, IsOwn e) ∧ ∀ e ∈ pairs, ∀ f ∈ pairs, e.2 = f.2 → e.1 = f.1

/-- What a list makes a registry of: a sound one, which binds what stands in the list. -/
lemma ofPairs_spec {pairs : List (String × String)} (h : ofPairs pairs = .ok r) :
    r.Sound ∧ (∀ e ∈ pairs, IsOwn e) ∧
      ∀ p name, r.tenant? p = some name ↔ (name, p.text) ∈ pairs := by
  rw [ofPairs_eq] at h
  obtain ⟨sound, own, bound⟩ := sound_empty.foldlM_enter h
  refine ⟨sound, own, fun p name => ?_⟩
  rw [bound, or_iff_right]
  intro none
  cases none

/-- A registry that is made of pairs is sound. -/
lemma Sound.of_ofPairs {pairs : List (String × String)} (h : ofPairs pairs = .ok r) : r.Sound :=
  (ofPairs_spec h).1

/-- A registry that a list spells binds what stands in the list. -/
lemma tenant?_ofPairs {pairs : List (String × String)} (h : ofPairs pairs = .ok r) :
    r.tenant? p = some name ↔ (name, p.text) ∈ pairs := (ofPairs_spec h).2.2 p name

/-- Exactly pairs that spell a registry make one. -/
lemma ofPairs_succeeds_iff {pairs : List (String × String)} :
    (∃ r, ofPairs pairs = .ok r) ↔ Spells pairs := by
  constructor
  · rintro ⟨r, h⟩
    have own := (ofPairs_spec h).2.1
    refine ⟨own, fun e meme f memf eq => ?_⟩
    obtain ⟨p, -, text⟩ := own e meme
    have bound (g : String × String) (mem : g ∈ pairs) (same : g.2 = p.text) :
        r.tenant? p = some g.1 :=
      (tenant?_ofPairs h).2 (by rw [← same]; exact mem)
    exact Option.some.inj ((bound e meme text.symm).symm.trans (bound f memf (eq ▸ text.symm)))
  · rintro ⟨own, alone⟩
    simp only [ofPairs_eq]
    refine sound_empty.exists_foldlM_enter own alone fun e _ p owner _ none => ?_
    cases none

/-- Neither the order of a list nor repetitions in it matter. -/
lemma ofPairs_congr {pairs others : List (String × String)} (h : ∀ e, e ∈ pairs ↔ e ∈ others) :
    ofPairs pairs = .ok r ↔ ofPairs others = .ok r := by
  have key {pairs others : List (String × String)} (h : ∀ e, e ∈ pairs ↔ e ∈ others)
      (done : ofPairs pairs = .ok r) : ofPairs others = .ok r := by
    obtain ⟨own, alone⟩ := ofPairs_succeeds_iff.1 ⟨r, done⟩
    have spells : Spells others := ⟨fun e mem => own e ((h e).2 mem),
      fun e meme f memf => alone e ((h e).2 meme) f ((h f).2 memf)⟩
    obtain ⟨s, done'⟩ := ofPairs_succeeds_iff.2 spells
    obtain rfl : r = s := (Sound.of_ofPairs done).ext (.of_ofPairs done') fun p name => by
      rw [tenant?_ofPairs done, tenant?_ofPairs done', h]
    exact done'
  exact ⟨key h, key fun e => (h e).symm⟩

/-- The pairs of a sound registry are its bindings. -/
lemma Sound.mem_toPairs (h : r.Sound) : (name, p.text) ∈ r.toPairs ↔ r.tenant? p = some name := by
  rw [tenant?_eq_some h.rising, toPairs, List.mem_map]
  constructor
  · rintro ⟨⟨q, n⟩, mem, eq⟩
    obtain ⟨rfl, text⟩ := Prod.ext_iff.1 eq
    rwa [← TablePrefix.eq_of_text text]
  · exact fun mem => ⟨_, mem, rfl⟩

/-- A sound registry is what its own list spells. -/
lemma Sound.ofPairs_toPairs (h : r.Sound) : ofPairs r.toPairs = .ok r := by
  have own : ∀ e ∈ r.toPairs, IsOwn e := by
    intro e mem
    obtain ⟨f, memf, rfl⟩ := List.mem_map.1 mem
    exact ⟨f.1, h.own f memf, rfl⟩
  have alone : ∀ e ∈ r.toPairs, ∀ f ∈ r.toPairs, e.2 = f.2 → e.1 = f.1 := by
    intro e meme f memf eq
    obtain ⟨⟨p, n⟩, hp, rfl⟩ := List.mem_map.1 meme
    obtain ⟨⟨q, m⟩, hq, rfl⟩ := List.mem_map.1 memf
    obtain rfl : p = q := TablePrefix.eq_of_text eq
    have found := (tenant?_eq_some h.rising).2 hp
    exact Option.some.inj (found.symm.trans ((tenant?_eq_some h.rising).2 hq))
  obtain ⟨s, done⟩ := ofPairs_succeeds_iff.2 ⟨own, alone⟩
  obtain rfl : s = r := (Sound.of_ofPairs done).ext h fun p name => by
    rw [tenant?_ofPairs done, h.mem_toPairs]
  exact done

end Registry
end Tenancy
