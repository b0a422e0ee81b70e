import GoldenRun.Suite.Ident
import Mathlib

/-!
# What is an identifier

A text can stand in a listing as an identifier if it is made of small letters, digits and
underscores in the right way and means nothing else there. Whatever a text is like, its identifier
is of this sort, and a text that is of this sort already is its own identifier: two characters in
front of a text are enough to part it from every word that is in use.
-/

namespace GoldenRun.Suite

/-- The words that the language of a listing gives a meaning to, and behind them those that it keeps
for later use. -/
def reservedWords : List String :=
  ["_", "as", "async", "await", "break", "const", "continue", "crate", "dyn", "else", "enum",
   "extern", "false", "fn", "for", "if", "impl", "in", "let", "loop", "match", "mod", "move", "mut",
   "pub", "ref", "return", "self", "Self", "static", "struct", "super", "trait", "true", "type",
   "unsafe", "use", "where", "while",
   "abstract", "become", "box", "do", "final", "gen", "macro", "override", "priv", "try", "typeof",
   "unsized", "virtual", "yield"]

/-- Whether a character may stand in an identifier. -/
def IsIdentChar (c : Char) : Prop :=
  c.isLower = true ∨ c.isDigit = true ∨ c = '_'

/-- A text that can stand in a listing as an identifier. -/
structure IsIdent (text : String) : Prop where
  ne_empty : text ≠ ""
  chars : ∀ c ∈ text.toList, IsIdentChar c
  head : ∀ c ∈ text.toList.head?, c.isDigit = false
  telling : ∃ c ∈ text.toList, c ≠ '_'
  not_reserved : text ∉ reservedWords
  not_used : text ∉ ["harness", "rvtest_core", "std"]

theorem isLower_toLower {c : Char} (h : c.isUpper = true) : c.toLower.isLower = true := by
  have hbounds : 65 ≤ c.toNat ∧ c.toNat ≤ 90 := by
    simpa [Char.isUpper, Char.le_def, UInt32.le_iff_toNat_le] using h
  rw [← Char.ofNat_toNat c]
  obtain ⟨hlower, hupper⟩ := hbounds
  interval_cases c.toNat <;> rfl

theorem mem_snake {divide : Bool} {text : List Char} {c : Char} (h : c ∈ snake divide text) :
    IsIdentChar c := by
  induction text generalizing divide with
  | nil => simp [snake] at h
  | cons first rest ih =>
    unfold snake at h
    split_ifs at h with hupper hdivide halnum
    · simp only [List.cons_append, List.nil_append, List.mem_cons] at h
      rcases h with rfl | rfl | h
      · exact Or.inr (Or.inr rfl)
      · exact Or.inl (isLower_toLower hupper)
      · exact ih h
    · simp only [List.nil_append, List.mem_cons] at h
      rcases h with rfl | h
      · exact Or.inl (isLower_toLower hupper)
      · exact ih h
    · rcases List.mem_cons.mp h with rfl | h
      · simp only [Char.isAlphanum, Char.isAlpha, Bool.or_eq_true] at halnum
        unfold IsIdentChar
        tauto
      · exact ih h
    · rcases List.mem_cons.mp h with rfl | h
      · exact Or.inr (Or.inr rfl)
      · exact ih h

theorem IsIdentChar.isUpper_eq_false {c : Char} (h : IsIdentChar c) : c.isUpper = false := by
  rw [Bool.eq_false_iff]
  intro hupper
  simp only [IsIdentChar, Char.isLower, Char.isDigit, Char.isUpper, Bool.and_eq_true,
    decide_eq_true_eq, ge_iff_le, UInt32.le_iff_toNat_le] at h hupper
  rcases h with h | h | rfl
  · exact absurd (h.1.trans hupper.2) (by decide)
  · exact absurd (hupper.1.trans h.2) (by decide)
  · exact absurd hupper.2 (by decide)

theorem snake_of_isIdentChar {divide : Bool} {text : List Char}
    (h : ∀ c ∈ text, IsIdentChar c) : snake divide text = text := by
  induction text generalizing divide with
  | nil => rfl
  | cons first rest ih =>
    have hfirst : IsIdentChar first := h first (by simp)
    have hrest : ∀ divide, snake divide rest = rest :=
      fun divide => ih fun c hc => h c (List.mem_cons_of_mem first hc)
    unfold snake
    rw [if_neg (by simp [hfirst.isUpper_eq_false]), hrest, hrest]
    split_ifs with halnum
    · rfl
    · rcases hfirst with hlower | hdigit | rfl
      · exact absurd (by simp [Char.isAlphanum, Char.isAlpha, hlower]) halnum
      · exact absurd (by simp [Char.isAlphanum, hdigit]) halnum
      · rfl

theorem isUnusable_eq_false_iff {text : List Char} : isUnusable text = false ↔
    text ≠ [] ∧ (∀ c ∈ text.head?, c.isDigit = false) ∧ (∃ c ∈ text, c ≠ '_') ∧
      String.ofList text ∉ keywords ∧ String.ofList text ∉ usedNames := by
  have hhead : text.head?.any Char.isDigit = false ↔ ∀ c ∈ text.head?, c.isDigit = false := by
    cases text.head? <;> simp
  have htelling : text.all (· == '_') = false ↔ ∃ c ∈ text, c ≠ '_' := by simp
  simp only [isUnusable, Bool.or_eq_false_iff, hhead, htelling, and_assoc,
    List.isEmpty_eq_false_iff, List.contains_eq_mem, decide_eq_false_iff_not]

/-- A reserved word is one that is avoided, or it could be no identifier anyway. -/
theorem mem_keywords_or_of_mem_reservedWords : ∀ word ∈ reservedWords,
    word ∈ keywords ∨ 'S' ∈ word.toList ∨ word = "_" := by
  decide

theorem mem_reservedWords_of_mem_keywords : ∀ word ∈ keywords, word ∈ reservedWords := by
  decide

/-- No word that is in use begins as the identifiers do that had to be changed. -/
theorem take_ne_of_mem_inUse : ∀ word ∈ reservedWords ++ usedNames,
    word.toList.take 2 ≠ ['t', '_'] := by
  decide

theorem isIdent_of_isUnusable_eq_false {text : List Char} (hchars : ∀ c ∈ text, IsIdentChar c)
    (h : isUnusable text = false) : IsIdent (String.ofList text) := by
  obtain ⟨hne, hhead, htelling, hkeyword, hused⟩ := isUnusable_eq_false_iff.mp h
  refine ⟨by simpa using hne, by simpa using hchars, by simpa using hhead, by simpa using htelling,
    fun hreserved => ?_, hused⟩
  rcases mem_keywords_or_of_mem_reservedWords _ hreserved with hmem | hcapital | hblank
  · exact hkeyword hmem
  · have hupper := (hchars 'S' (by simpa using hcapital)).isUpper_eq_false
    contradiction
  · obtain rfl : text = ['_'] := by simpa using congrArg String.toList hblank
    simp at htelling

/-- Whatever the characters behind it are, the mark of an identifier that had to be changed makes it
harmless. -/
theorem isIdent_marked {text : List Char} (hchars : ∀ c ∈ text, IsIdentChar c) :
    IsIdent (String.ofList ('t' :: '_' :: text)) := by
  have hinUse : String.ofList ('t' :: '_' :: text) ∉ reservedWords ++ usedNames :=
    fun hmem => take_ne_of_mem_inUse _ hmem (by simp)
  rw [List.mem_append, not_or] at hinUse
  refine ⟨by simp, ?_, by simp, ⟨'t', by simp, by decide⟩, hinUse.1, hinUse.2⟩
  intro c hc
  simp only [String.toList_ofList, List.mem_cons] at hc
  rcases hc with rfl | rfl | hc
  · exact Or.inl rfl
  · exact Or.inr (Or.inr rfl)
  · exact hchars c hc

theorem isIdent_ident (text : String) : IsIdent (ident text) := by
  have hchars : ∀ c ∈ snake false text.toList, IsIdentChar c := fun c hc => mem_snake hc
  unfold ident
  cases hunusable : isUnusable (snake false text.toList) with
  | true =>
    simp only [hunusable, if_true]
    exact isIdent_marked hchars
  | false =>
    simp only [hunusable, Bool.false_eq_true, if_false]
    exact isIdent_of_isUnusable_eq_false hchars hunusable

theorem IsIdent.ident_eq {text : String} (h : IsIdent text) : ident text = text := by
  have husable : isUnusable text.toList = false := by
    refine isUnusable_eq_false_iff.mpr ⟨by simpa using h.ne_empty, h.head, h.telling, ?_, ?_⟩
    · rw [String.ofList_toList]
      exact fun hmem => h.not_reserved (mem_reservedWords_of_mem_keywords text hmem)
    · rw [String.ofList_toList]
      exact h.not_used
  unfold ident
  simp only [snake_of_isIdentChar h.chars, husable, Bool.false_eq_true, if_false,
    String.ofList_toList]

/-- Taking the identifier is a projection of all texts onto the identifiers. -/
theorem ident_projects (text : String) :
    IsIdent (ident text) ∧ (IsIdent text → ident text = text) ∧ ident (ident text) = ident text :=
  ⟨isIdent_ident text, IsIdent.ident_eq, (isIdent_ident text).ident_eq⟩

example : ident "Type" = "t_type" := by decide

end GoldenRun.Suite
