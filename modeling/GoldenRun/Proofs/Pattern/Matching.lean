import GoldenRun.Pattern.Regex
import Mathlib

/-!
# What an expression matches

The meaning of an expression is a relation between three stretches of a text: the middle one is
matched, and the ones beside it are what a question about a place can see. The search follows what
is left of an expression from character to character. It finds a match exactly where the relation
has one: what `step` leaves matches the rest of what the expression matches, and an expression that
is `nullable` matches the stretch of no characters.

A repetition that asks for more rounds than it allows has no meaning in this relation, while `step`
would run through it, so the results are about expressions without one.
-/

namespace GoldenRun.Pattern

/-- A number of rounds of a relation, one behind another. -/
def Rounds (p : List Char → List Char → List Char → Prop) :
    ℕ → List Char → List Char → List Char → Prop
  | 0, _, middle, _ => middle = []
  | n + 1, left, middle, right => ∃ first rest, middle = first ++ rest ∧
      p left first (rest ++ right) ∧ Rounds p n (left ++ first) rest right

section Rounds

variable {p : List Char → List Char → List Char → Prop} {left middle right : List Char}

theorem rounds_nil (h : p left [] right) (n : ℕ) : Rounds p n left [] right := by
  induction n with
  | zero => rfl
  | succ n ih => exact ⟨[], [], rfl, h, by simpa using ih⟩

/-- Where a round can take nothing, further rounds may stand before. -/
theorem Rounds.pad {n : ℕ} (h : Rounds p n left middle right) (hnil : p left [] (middle ++ right))
    (k : ℕ) : Rounds p (n + k) left middle right := by
  induction k with
  | zero => exact h
  | succ k ih => exact ⟨[], middle, rfl, hnil, by simpa using ih⟩

theorem Rounds.first_nil {n : ℕ} (h : Rounds p n left [] right) (hn : n ≠ 0) :
    p left [] right := by
  cases n with
  | zero => contradiction
  | succ n =>
    obtain ⟨first, rest, hm, hp, -⟩ := h
    obtain ⟨rfl, rfl⟩ := List.append_eq_nil_iff.1 hm.symm
    simpa using hp

theorem Rounds.first_cons {n : ℕ} {c : Char} (h : Rounds p n left (c :: middle) right) :
    ∃ k m first rest, n = k + 1 + m ∧ middle = first ++ rest ∧
      (k ≠ 0 → p left [] (c :: middle ++ right)) ∧ p left (c :: first) (rest ++ right) ∧
      Rounds p m (left ++ c :: first) rest right := by
  induction n with
  | zero => exact absurd h (by simp [Rounds])
  | succ n ih =>
    obtain ⟨first, rest, hm, hp, hrest⟩ := h
    cases first with
    | nil =>
      obtain rfl : c :: middle = rest := hm
      obtain ⟨k, m, first, rest, rfl, rfl, -, hfirst, htail⟩ := ih (by simpa using hrest)
      exact ⟨k + 1, m, first, rest, by omega, rfl, fun _ => hp, hfirst, htail⟩
    | cons d first =>
      obtain ⟨rfl, rfl⟩ := List.cons.inj hm
      exact ⟨0, n, first, rest, by omega, rfl, fun h => absurd rfl h, hp, hrest⟩

end Rounds

namespace Regex

/-- Whether an expression matches the middle one of three stretches of a text. -/
def Matches : Regex → List Char → List Char → List Char → Prop
  | empty => fun _ middle _ => middle = []
  | set ignoreCase s => fun _ middle _ => ∃ c, middle = [c] ∧ s.mem ignoreCase c = true
  | look l => fun left middle right =>
      middle = [] ∧ l.holds ⟨left.getLast?, right.head?⟩ = true
  | seq a b => fun left middle right => ∃ first rest, middle = first ++ rest ∧
      a.Matches left first (rest ++ right) ∧ b.Matches (left ++ first) rest right
  | alt a b => fun left middle right => a.Matches left middle right ∨ b.Matches left middle right
  | times r least most => fun left middle right =>
      ∃ n, least ≤ n ∧ (∀ bound ∈ most, n ≤ bound) ∧ Rounds r.Matches n left middle right

/-- No repetition in an expression asks for more rounds than it allows. -/
def Proper : Regex → Prop
  | empty => True
  | set _ _ => True
  | look _ => True
  | seq a b => a.Proper ∧ b.Proper
  | alt a b => a.Proper ∧ b.Proper
  | times r least most => r.Proper ∧ ∀ bound ∈ most, least ≤ bound

/-- An expression is nullable at a place exactly if it matches the stretch of no characters. -/
theorem nullable_iff {r : Regex} (hr : r.Proper) (left right : List Char) :
    r.nullable ⟨left.getLast?, right.head?⟩ = true ↔ r.Matches left [] right := by
  induction r with
  | empty => simp [nullable, Matches]
  | set ignoreCase s => simp [nullable, Matches]
  | look l => simp [nullable, Matches]
  | seq a b iha ihb =>
    simp only [nullable, Bool.and_eq_true, iha hr.1, ihb hr.2, Matches]
    constructor
    · rintro ⟨ha, hb⟩
      exact ⟨[], [], rfl, ha, by simpa using hb⟩
    · rintro ⟨first, rest, hm, ha, hb⟩
      obtain ⟨rfl, rfl⟩ := List.append_eq_nil_iff.1 hm.symm
      exact ⟨ha, by simpa using hb⟩
  | alt a b iha ihb => simp only [nullable, Bool.or_eq_true, iha hr.1, ihb hr.2, Matches]
  | times r least most ih =>
    simp only [nullable, Bool.or_eq_true, beq_iff_eq, ih hr.1, Matches]
    constructor
    · rintro (rfl | h)
      · exact ⟨0, Nat.le_refl 0, fun bound _ => Nat.zero_le bound, rfl⟩
      · exact ⟨least, Nat.le_refl least, hr.2, rounds_nil h least⟩
    · rintro ⟨n, hleast, -, hn⟩
      rcases Nat.eq_zero_or_pos n with rfl | hpos
      · exact .inl (Nat.le_zero.1 hleast)
      · exact .inr (hn.first_nil (Nat.ne_of_gt hpos))

theorem proper_andThen {a b : Regex} (ha : a.Proper) (hb : b.Proper) : (a.andThen b).Proper := by
  unfold andThen
  split
  · exact hb
  · exact ⟨ha, hb⟩

theorem proper_of_mem_step {r s : Regex} {position : Position} {c : Char} (hr : r.Proper)
    (hs : s ∈ r.step position c) : s.Proper := by
  induction r generalizing s with
  | empty => simp [step] at hs
  | set ignoreCase set =>
    rw [step] at hs
    split at hs
    · obtain rfl : s = empty := by simpa using hs
      trivial
    · simp at hs
  | look l => simp [step] at hs
  | seq a b iha ihb =>
    rw [step, List.mem_append, List.mem_map] at hs
    rcases hs with ⟨s, hs, rfl⟩ | hs
    · exact proper_andThen (iha hr.1 hs) hr.2
    · split at hs
      · exact ihb hr.2 hs
      · simp at hs
  | alt a b iha ihb =>
    rw [step, List.mem_append] at hs
    exact hs.elim (iha hr.1) (ihb hr.2)
  | times r least most ih =>
    simp only [step] at hs
    split at hs
    · simp at hs
    · obtain ⟨s', hs', rfl⟩ := List.mem_map.1 hs
      refine proper_andThen (ih hr.1 hs') ⟨hr.1, fun bound hbound => ?_⟩
      obtain ⟨most, hmost, rfl⟩ := Option.map_eq_some_iff.1 hbound
      have := hr.2 most hmost
      split <;> omega

theorem matches_andThen (a b : Regex) (left middle right : List Char) :
    (a.andThen b).Matches left middle right ↔ (seq a b).Matches left middle right := by
  unfold andThen
  split
  · next h =>
    subst h
    constructor
    · intro hb
      exact ⟨[], middle, rfl, rfl, by simpa using hb⟩
    · rintro ⟨_, rest, rfl, rfl, hb⟩
      simpa using hb
  · rfl

theorem matches_seq_cons (a b : Regex) (c : Char) (left middle right : List Char) :
    (seq a b).Matches left (c :: middle) right ↔
      (∃ first rest, middle = first ++ rest ∧ a.Matches left (c :: first) (rest ++ right) ∧
        b.Matches (left ++ c :: first) rest right) ∨
      (a.Matches left [] (c :: middle ++ right) ∧ b.Matches left (c :: middle) right) := by
  constructor
  · rintro ⟨first, rest, hm, ha, hb⟩
    cases first with
    | nil =>
      obtain rfl : c :: middle = rest := hm
      exact .inr ⟨ha, by simpa using hb⟩
    | cons d first =>
      obtain ⟨rfl, rfl⟩ := List.cons.inj hm
      exact .inl ⟨first, rest, rfl, ha, hb⟩
  · rintro (⟨first, rest, rfl, ha, hb⟩ | ⟨ha, hb⟩)
    · exact ⟨c :: first, rest, rfl, ha, hb⟩
    · exact ⟨[], c :: middle, rfl, ha, by simpa using hb⟩

/-- What is left behind a character matches exactly what the expression matches behind it. -/
theorem step_iff {r : Regex} (hr : r.Proper) (c : Char) (left middle right : List Char) :
    (∃ s ∈ r.step ⟨left.getLast?, some c⟩ c, s.Matches (left ++ [c]) middle right) ↔
      r.Matches left (c :: middle) right := by
  induction r generalizing middle right with
  | empty => simp [step, Matches]
  | set ignoreCase s =>
    by_cases hc : s.mem ignoreCase c = true
    · simp [step, Matches, hc]
    · simp only [step, hc, Bool.false_eq_true, if_false, List.not_mem_nil, false_and, exists_false,
        Matches, false_iff, not_exists, not_and]
      intro d hd hmem
      obtain ⟨rfl, -⟩ := List.cons.inj hd
      exact hc hmem
  | look l => simp [step, Matches]
  | seq a b iha ihb =>
    have hnull := nullable_iff hr.1 left (c :: middle ++ right)
    rw [matches_seq_cons, ← ihb hr.2, ← hnull]
    simp only [step, List.mem_append, List.mem_map, or_and_right, exists_or]
    refine or_congr ?_ ?_
    · constructor
      · rintro ⟨_, ⟨s, hs, rfl⟩, hm⟩
        obtain ⟨first, rest, rfl, hfirst, hrest⟩ := (matches_andThen s b _ _ _).1 hm
        exact ⟨first, rest, rfl, (iha hr.1 _ _).1 ⟨s, hs, hfirst⟩, by simpa using hrest⟩
      · rintro ⟨first, rest, rfl, hfirst, hrest⟩
        obtain ⟨s, hs, hm⟩ := (iha hr.1 _ _).2 hfirst
        exact ⟨_, ⟨s, hs, rfl⟩,
          (matches_andThen s b _ _ _).2 ⟨first, rest, rfl, hm, by simpa using hrest⟩⟩
    · constructor
      · rintro ⟨s, hs, hm⟩
        split at hs
        · next h => exact ⟨h, s, hs, hm⟩
        · simp at hs
      · rintro ⟨h, s, hs, hm⟩
        exact ⟨s, by rwa [if_pos (by simpa using h)], hm⟩
  | alt a b iha ihb =>
    simp only [step, List.mem_append, or_and_right, exists_or, iha hr.1, ihb hr.2, Matches]
  | times r least most ih =>
    have hnull := nullable_iff hr.1 left (c :: middle ++ right)
    simp only [List.cons_append, List.head?_cons] at hnull
    constructor
    · rintro ⟨s, hs, hm⟩
      simp only [step] at hs
      split at hs
      · simp at hs
      · next hmost =>
        obtain ⟨s', hs', rfl⟩ := List.mem_map.1 hs
        obtain ⟨first, rest, rfl, hfirst, n, hleast, hbound, hrounds⟩ :=
          (matches_andThen s' _ _ _ _).1 hm
        have hr₁ : r.Matches left (c :: first) (rest ++ right) := (ih hr.1 _ _).1 ⟨s', hs', hfirst⟩
        have hall : Rounds r.Matches (n + 1) left (c :: (first ++ rest)) right :=
          ⟨c :: first, rest, rfl, hr₁, by simpa using hrounds⟩
        have hsucc : ∀ bound ∈ most, n + 1 ≤ bound := by
          intro bound hb
          have h₁ := hbound (bound - 1) (by simp [Option.mem_def.1 hb])
          have h₂ : bound ≠ 0 := fun h => hmost (h ▸ hb)
          omega
        split at hleast
        · next h =>
          -- Rounds that take nothing fill up what is missing.
          refine ⟨n + 1 + (least - (n + 1)), by omega, fun bound hb => ?_,
            hall.pad (hnull.1 h) _⟩
          have h₁ := hsucc bound hb
          have h₂ := hr.2 bound hb
          omega
        · exact ⟨n + 1, by omega, hsucc, hall⟩
    · rintro ⟨n, hleast, hbound, hrounds⟩
      obtain ⟨k, m, first, rest, rfl, rfl, hnil, hfirst, htail⟩ := hrounds.first_cons
      obtain ⟨s, hs, hm⟩ := (ih hr.1 _ _).2 hfirst
      have hmost : most ≠ some 0 := by
        rintro rfl
        have := hbound 0 rfl
        omega
      rw [step, if_neg hmost]
      refine ⟨_, List.mem_map.2 ⟨s, hs, rfl⟩, (matches_andThen s _ _ _ _).2
        ⟨first, rest, rfl, hm, m, ?_, fun bound hb => ?_, by simpa using htail⟩⟩
      · split
        · exact Nat.zero_le m
        · next h =>
          have hk : k = 0 := by
            by_contra hk
            exact h (hnull.2 (hnil hk))
          omega
      · obtain ⟨most, hmost, rfl⟩ := Option.map_eq_some_iff.1 hb
        have := hbound most hmost
        omega

/-- Whether an expression matches some beginning of a text. -/
def Begins (r : Regex) (left text : List Char) : Prop :=
  ∃ middle right, text = middle ++ right ∧ r.Matches left middle right

theorem begins_nil {r : Regex} (hr : r.Proper) (left : List Char) :
    r.Begins left [] ↔ r.nullable ⟨left.getLast?, none⟩ = true := by
  have hnull := nullable_iff hr left []
  rw [List.head?_nil] at hnull
  rw [hnull]
  constructor
  · rintro ⟨middle, right, h, hm⟩
    obtain ⟨rfl, rfl⟩ := List.append_eq_nil_iff.1 h.symm
    exact hm
  · intro hm
    exact ⟨[], [], rfl, hm⟩

theorem begins_cons {r : Regex} (hr : r.Proper) (left : List Char) (c : Char) (rest : List Char) :
    r.Begins left (c :: rest) ↔ r.nullable ⟨left.getLast?, some c⟩ = true ∨
      ∃ s ∈ r.step ⟨left.getLast?, some c⟩ c, s.Begins (left ++ [c]) rest := by
  have hnull := nullable_iff hr left (c :: rest)
  rw [List.head?_cons] at hnull
  rw [hnull]
  constructor
  · rintro ⟨middle, right, h, hm⟩
    cases middle with
    | nil =>
      obtain rfl : c :: rest = right := h
      exact .inl hm
    | cons d middle =>
      obtain ⟨rfl, rfl⟩ := List.cons.inj h
      obtain ⟨s, hs, hm⟩ := (step_iff hr c _ _ _).2 hm
      exact .inr ⟨s, hs, middle, right, rfl, hm⟩
  · rintro (hm | ⟨s, hs, middle, right, rfl, hm⟩)
    · exact ⟨[], c :: rest, rfl, hm⟩
    · exact ⟨c :: middle, right, rfl, (step_iff hr c _ _ _).1 ⟨s, hs, hm⟩⟩

theorem mem_distinct {r : Regex} {states : List Regex} : r ∈ distinct states ↔ r ∈ states := by
  induction states generalizing r with
  | nil => rfl
  | cons s states ih =>
    have hcons : distinct (s :: states) =
        if s ∈ distinct states then distinct states else s :: distinct states := rfl
    rw [hcons]
    split
    · next h =>
      rw [ih] at h ⊢
      simp only [List.mem_cons]
      exact ⟨.inr, fun hr => hr.elim (fun e => e ▸ h) id⟩
    · simp only [List.mem_cons, ih]

/-- What the search has found from a place on: one of the expressions that it follows matches at
the place, or the whole expression does there or later. -/
theorem searchFrom_iff {whole : Regex} (hwhole : whole.Proper) {left : List Char}
    {states : List Regex} (hstates : ∀ s ∈ states, s.Proper) (text : List Char) :
    searchFrom whole left.getLast? states text = true ↔
      (∃ s ∈ states, s.Begins left text) ∨
        ∃ skipped rest, text = skipped ++ rest ∧ whole.Begins (left ++ skipped) rest := by
  have hall : ∀ s ∈ whole :: states, s.Proper := List.forall_mem_cons.2 ⟨hwhole, hstates⟩
  induction text generalizing left states with
  | nil =>
    have hnull : ∀ s ∈ whole :: states,
        (s.nullable ⟨left.getLast?, none⟩ = true ↔ s.Begins left []) :=
      fun s hs => (begins_nil (hall s hs) left).symm
    simp only [searchFrom, List.any_eq_true]
    constructor
    · rintro ⟨s, hs, hn⟩
      rcases List.mem_cons.1 hs with rfl | hs'
      · exact .inr ⟨[], [], rfl, by simpa using (hnull s hs).1 hn⟩
      · exact .inl ⟨s, hs', (hnull s hs).1 hn⟩
    · rintro (⟨s, hs, hb⟩ | ⟨skipped, rest, h, hb⟩)
      · exact ⟨s, List.mem_cons_of_mem _ hs, (hnull s (List.mem_cons_of_mem _ hs)).2 hb⟩
      · obtain ⟨rfl, rfl⟩ := List.append_eq_nil_iff.1 h.symm
        exact ⟨whole, List.mem_cons_self, (hnull whole List.mem_cons_self).2 (by simpa using hb)⟩
  | cons c rest ih =>
    let position : Position := ⟨left.getLast?, some c⟩
    let next := distinct ((whole :: states).flatMap (step position c))
    have hnext : ∀ s ∈ next, s.Proper := by
      intro s hs
      obtain ⟨r, hr, hs⟩ := List.mem_flatMap.1 (mem_distinct.1 hs)
      exact proper_of_mem_step (hall r hr) hs
    have hfound : searchFrom whole (some c) next rest = true ↔
        (∃ s ∈ next, s.Begins (left ++ [c]) rest) ∨
          ∃ skipped tail, rest = skipped ++ tail ∧ whole.Begins (left ++ [c] ++ skipped) tail := by
      rw [← List.getLast?_concat (l := left)]
      exact ih hnext (List.forall_mem_cons.2 ⟨hwhole, hnext⟩)
    have hbegins : (∃ s ∈ whole :: states, s.Begins left (c :: rest)) ↔
        (whole :: states).any (nullable position) = true ∨
          ∃ s ∈ next, s.Begins (left ++ [c]) rest := by
      rw [List.any_eq_true]
      constructor
      · rintro ⟨s, hs, hb⟩
        rcases (begins_cons (hall s hs) left c rest).1 hb with hn | ⟨s', hs', hb⟩
        · exact .inl ⟨s, hs, hn⟩
        · exact .inr ⟨s', mem_distinct.2 (List.mem_flatMap.2 ⟨s, hs, hs'⟩), hb⟩
      · rintro (⟨s, hs, hn⟩ | ⟨s', hs', hb⟩)
        · exact ⟨s, hs, (begins_cons (hall s hs) left c rest).2 (.inl hn)⟩
        · obtain ⟨s, hs, hs'⟩ := List.mem_flatMap.1 (mem_distinct.1 hs')
          exact ⟨s, hs, (begins_cons (hall s hs) left c rest).2 (.inr ⟨s', hs', hb⟩)⟩
    have hsearch : searchFrom whole left.getLast? states (c :: rest) =
        ((whole :: states).any (nullable position) || searchFrom whole (some c) next rest) := rfl
    rw [hsearch, Bool.or_eq_true, hfound, ← or_assoc, ← hbegins]
    constructor
    · rintro (⟨s, hs, hb⟩ | ⟨skipped, tail, rfl, hb⟩)
      · rcases List.mem_cons.1 hs with rfl | hs
        · exact .inr ⟨[], c :: rest, rfl, by simpa using hb⟩
        · exact .inl ⟨s, hs, hb⟩
      · exact .inr ⟨c :: skipped, tail, rfl, by simpa using hb⟩
    · rintro (⟨s, hs, hb⟩ | ⟨skipped, tail, h, hb⟩)
      · exact .inl ⟨s, List.mem_cons_of_mem _ hs, hb⟩
      · cases skipped with
        | nil =>
          obtain rfl : c :: rest = tail := h
          exact .inl ⟨whole, List.mem_cons_self, by simpa using hb⟩
        | cons d skipped =>
          obtain ⟨rfl, rfl⟩ := List.cons.inj h
          exact .inr ⟨skipped, tail, rfl, by simpa using hb⟩

/-- The search finds a match exactly if the expression matches some stretch of the text. -/
theorem search_iff {r : Regex} (hr : r.Proper) (text : List Char) :
    r.search text = true ↔
      ∃ left middle right, text = left ++ middle ++ right ∧ r.Matches left middle right := by
  have h := @searchFrom_iff r hr [] [] (by simp) text
  rw [List.getLast?_nil] at h
  rw [search, h]
  constructor
  · rintro (⟨s, hs, -⟩ | ⟨left, rest, rfl, middle, right, rfl, hm⟩)
    · simp at hs
    · exact ⟨left, middle, right, by simp, by simpa using hm⟩
  · rintro ⟨left, middle, right, rfl, hm⟩
    exact .inr ⟨left, middle ++ right, by simp, middle, right, rfl, by simpa using hm⟩

end Regex

end GoldenRun.Pattern
