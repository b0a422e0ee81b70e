import GoldenRun.Pattern.Tool
import GoldenRun.Proofs.Pattern.Matching

/-!
# Expressions that have been read

A count in braces is refused if its least number is above its greatest one, so no repetition in an
expression that has been read asks for more rounds than it allows. A pattern therefore recognises
exactly the names of which its expression matches some part.
-/

namespace GoldenRun.Pattern

namespace Expr

/-- Whatever the flags are, an expression has no repetition that asks for more rounds than it
allows. -/
def Proper (e : Expr) : Prop :=
  ∀ flags, (e.compile flags).1.Proper

theorem proper_times {e : Expr} {least : Nat} {most : Option Nat} (he : e.Proper)
    (h : ∀ bound ∈ most, least ≤ bound) : (times e least most).Proper :=
  fun flags => ⟨he flags, h⟩

theorem proper_ofItems {items : List Expr} (h : ∀ e ∈ items, e.Proper) :
    (ofItems items).Proper := by
  fun_induction ofItems items with
  | case1 => exact fun _ => trivial
  | case2 e => exact h e List.mem_cons_self
  | case3 e rest _ ih =>
    exact fun flags => ⟨h e List.mem_cons_self flags,
      ih (fun e he => h e (List.mem_cons_of_mem _ he)) _⟩

theorem proper_ofBranches {branches : List Expr} (h : ∀ e ∈ branches, e.Proper) :
    (ofBranches branches).Proper := by
  fun_induction ofBranches branches with
  | case1 => exact fun _ => trivial
  | case2 e => exact h e List.mem_cons_self
  | case3 e rest _ ih =>
    exact fun flags => ⟨h e List.mem_cons_self flags,
      ih (fun e he => h e (List.mem_cons_of_mem _ he)) _⟩

end Expr

theorem proper_toExpr (atom : Atom) : atom.toExpr.Proper := by
  cases atom <;> exact fun _ => trivial

namespace Level

def Proper (level : Level) : Prop :=
  (∀ e ∈ level.branches, e.Proper) ∧ ∀ e ∈ level.items, e.Proper

variable {level : Level}

theorem proper_start (change : FlagChange) : (start change).Proper :=
  ⟨by simp [start], by simp [start]⟩

theorem Proper.add (h : level.Proper) {item : Expr} (hitem : item.Proper) :
    (level.add item).Proper :=
  ⟨h.1, List.forall_mem_cons.2 ⟨hitem, h.2⟩⟩

theorem Proper.bar (h : level.Proper) : level.bar.Proper := by
  refine ⟨List.forall_mem_cons.2 ⟨?_, h.1⟩, by simp [Level.bar]⟩
  exact Expr.proper_ofItems fun e he => h.2 e (List.mem_reverse.1 he)

theorem Proper.body (h : level.Proper) : level.body.Proper :=
  Expr.proper_ofBranches fun e he => h.bar.1 e (List.mem_reverse.1 he)

theorem Proper.repeatLast (h : level.Proper) {least : Nat} {most : Option Nat}
    (hle : ∀ bound ∈ most, least ≤ bound) {next : Level}
    (hnext : level.repeatLast least most = some next) : next.Proper := by
  unfold Level.repeatLast at hnext
  split at hnext
  · contradiction
  · contradiction
  · next item rest _ hitems =>
    obtain rfl := Option.some.inj hnext
    have hall := h.2
    rw [hitems, List.forall_mem_cons] at hall
    exact ⟨h.1, List.forall_mem_cons.2 ⟨Expr.proper_times hall.1 hle, hall.2⟩⟩

end Level

theorem le_of_readCount {text after : List Char} {least : Nat} {most : Option Nat}
    (h : readCount text = some (least, most, after)) : ∀ bound ∈ most, least ≤ bound := by
  unfold readCount at h
  split at h
  · contradiction
  · obtain ⟨rfl, rfl, -⟩ : _ = least ∧ _ = most ∧ _ := by simpa using h
    simp
  · obtain ⟨rfl, rfl, -⟩ : _ = least ∧ _ = most ∧ _ := by simpa using h
    simp
  · split at h
    · split at h
      · next hle =>
        obtain ⟨rfl, rfl, -⟩ : _ = least ∧ _ = most ∧ _ := by simpa using h
        simpa using hle
      · contradiction
    · contradiction
  · contradiction

namespace Reader

def Proper (reader : Reader) : Prop :=
  reader.level.Proper ∧ ∀ level ∈ reader.outer, level.Proper

variable {reader next : Reader}

theorem proper_start : start.Proper :=
  ⟨Level.proper_start {}, by simp [start]⟩

theorem Proper.add (h : reader.Proper) {item : Expr} (hitem : item.Proper) :
    (reader.add item).Proper :=
  ⟨h.1.add hitem, h.2⟩

theorem Proper.enter (h : reader.Proper) {opening : Opening}
    (hnext : reader.enter opening = some next) : next.Proper := by
  unfold Reader.enter at hnext
  split at hnext
  · obtain rfl := Option.some.inj hnext
    exact h.add fun _ => trivial
  · obtain rfl := Option.some.inj hnext
    exact ⟨Level.proper_start _, List.forall_mem_cons.2 h⟩
  · split at hnext
    · contradiction
    · obtain rfl := Option.some.inj hnext
      exact ⟨Level.proper_start _, List.forall_mem_cons.2 h⟩

theorem Proper.leave (h : reader.Proper) (hnext : reader.leave = some next) : next.Proper := by
  unfold Reader.leave at hnext
  split at hnext
  · contradiction
  · next level outer houter =>
    obtain rfl := Option.some.inj hnext
    have hall := h.2
    rw [houter, List.forall_mem_cons] at hall
    exact ⟨hall.1.add fun flags => h.1.body _, hall.2⟩

theorem Proper.repeatLast (h : reader.Proper) {least : Nat} {most : Option Nat}
    (hle : ∀ bound ∈ most, least ≤ bound) (hnext : reader.repeatLast least most = some next) :
    next.Proper := by
  obtain ⟨level, hlevel, rfl⟩ := Option.map_eq_some_iff.1 hnext
  exact ⟨h.1.repeatLast hle hlevel, h.2⟩

/-- Reading an item keeps every open group proper. -/
theorem Proper.read (h : reader.Proper) {c : Char} {rest after : List Char}
    (hnext : reader.read c rest = some (next, after)) : next.Proper := by
  unfold Reader.read at hnext
  split at hnext
  · split at hnext
    · obtain ⟨_, hr, he⟩ := Option.map_eq_some_iff.1 hnext
      obtain ⟨rfl, -⟩ := Prod.mk.inj he
      exact h.enter hr
    · contradiction
  · obtain ⟨_, hr, he⟩ := Option.map_eq_some_iff.1 hnext
    obtain ⟨rfl, -⟩ := Prod.mk.inj he
    exact h.leave hr
  · obtain ⟨rfl, -⟩ := Prod.mk.inj (Option.some.inj hnext)
    exact ⟨h.1.bar, h.2⟩
  · obtain ⟨⟨set, _⟩, -, he⟩ := Option.map_eq_some_iff.1 hnext
    obtain ⟨rfl, -⟩ := Prod.mk.inj he
    exact h.add fun _ => trivial
  · obtain ⟨_, hr, he⟩ := Option.map_eq_some_iff.1 hnext
    obtain ⟨rfl, -⟩ := Prod.mk.inj he
    exact h.repeatLast (by simp) hr
  · obtain ⟨_, hr, he⟩ := Option.map_eq_some_iff.1 hnext
    obtain ⟨rfl, -⟩ := Prod.mk.inj he
    exact h.repeatLast (by simp) hr
  · obtain ⟨_, hr, he⟩ := Option.map_eq_some_iff.1 hnext
    obtain ⟨rfl, -⟩ := Prod.mk.inj he
    exact h.repeatLast (by simp) hr
  · split at hnext
    · next hcount =>
      obtain ⟨_, hr, he⟩ := Option.map_eq_some_iff.1 hnext
      obtain ⟨rfl, -⟩ := Prod.mk.inj he
      exact h.repeatLast (le_of_readCount hcount) hr
    · contradiction
  · obtain ⟨⟨atom, _⟩, -, he⟩ := Option.map_eq_some_iff.1 hnext
    obtain ⟨rfl, -⟩ := Prod.mk.inj he
    exact h.add (proper_toExpr atom)
  all_goals
    obtain ⟨rfl, -⟩ := Prod.mk.inj (Option.some.inj hnext)
    exact h.add fun _ => trivial

theorem readAll_of_read {c : Char} {rest after : List Char}
    (h : reader.read c rest = some (next, after)) :
    reader.readAll (c :: rest) = next.readAll after := by
  rw [readAll]
  split
  · next hnone => simp [h] at hnone
  · next hsome =>
    obtain ⟨rfl, rfl⟩ := Prod.mk.inj (Option.some.inj (h.symm.trans hsome))
    rfl

theorem Proper.readAll (h : reader.Proper) {text : List Char}
    (hnext : reader.readAll text = some next) : next.Proper := by
  fun_induction Reader.readAll reader text with
  | case1 => exact Option.some.inj hnext ▸ h
  | case2 => contradiction
  | case3 reader c rest mid after hread _ ih => exact ih (h.read hread) hnext

end Reader

theorem Expr.proper_of_parse {text : List Char} {e : Expr} (h : Expr.parse? text = some e) :
    e.Proper := by
  obtain ⟨reader, hread, hresult⟩ := Option.bind_eq_some_iff.1 h
  unfold Reader.result? at hresult
  split at hresult
  · obtain rfl := Option.some.inj hresult
    exact (Reader.proper_start.readAll hread).1.body
  · contradiction

end GoldenRun.Pattern

namespace GoldenRun.ToolPattern

open Pattern

variable {pattern : ToolPattern} {text : String}

theorem ofRegex_of_parse {e : Expr} (h : Expr.parse? text.toList = some e) :
    ofRegex text = .ok ⟨text, e.toRegex⟩ := by
  simp only [ofRegex, compile?, h, Option.map_some]

theorem exists_of_ofSpec {spec : PatternSpec} (h : ofSpec spec = .ok pattern) :
    ∃ text e, Expr.parse? text = some e ∧ pattern.regex = e.toRegex := by
  cases spec with
  | substring text =>
    rw [ofSpec, ofSubstring] at h
    split at h
    · next hc =>
      obtain ⟨e, he, rfl⟩ := Option.map_eq_some_iff.1 hc
      exact ⟨_, e, he, by rw [← Except.ok.inj h]⟩
    · contradiction
  | regex text =>
    rw [ofSpec, ofRegex] at h
    split at h
    · next hc =>
      obtain ⟨e, he, rfl⟩ := Option.map_eq_some_iff.1 hc
      exact ⟨_, e, he, by rw [← Except.ok.inj h]⟩
    · contradiction

/-- A pattern recognises exactly the names of which its expression matches some part. -/
theorem recognises_iff {spec : PatternSpec} (h : ofSpec spec = .ok pattern) (name : String) :
    pattern.recognises name = true ↔
      ∃ left middle right, name.toList = left ++ middle ++ right ∧
        pattern.regex.Matches left middle right := by
  obtain ⟨text, e, he, hr⟩ := exists_of_ofSpec h
  rw [recognises, hr]
  exact Regex.search_iff (Expr.proper_of_parse he {}) name.toList

end GoldenRun.ToolPattern
