import GoldenRun.Json.Token
import Mathlib.Data.List.Chain

/-!
# Written forms of JSON tokens

The tokens of a text are those it is written from, with any white space between them. Nothing marks
the end of a number, so a number must not stand directly in front of a word, a string or another
number.
-/

namespace GoldenRun.Json

/-- Written forms of the parts of a string. -/
inductive Body : List Part → List Char → Prop
  | nil : Body [] []
  | plain {c : Char} {parts : List Part} {text : List Char} (hquote : c ≠ '"') (hslash : c ≠ '\\')
      (hprint : 0x20 ≤ c.toNat) (h : Body parts text) : Body (.char c :: parts) (c :: text)
  | escape {letter c : Char} {parts : List Part} {text : List Char}
      (hescape : (letter, c) ∈ [('"', '"'), ('\\', '\\'), ('/', '/'), ('b', '\x08'), ('f', '\x0C'),
        ('n', '\n'), ('r', '\r'), ('t', '\t')])
      (h : Body parts text) : Body (.char c :: parts) ('\\' :: letter :: text)
  | code {a b c d : Char} {parts : List Part} {text : List Char}
      (hdigits : ∀ digit ∈ [a, b, c, d], Hex.isDigit digit = true) (h : Body parts text) :
      Body (.code (Hex.value [a, b, c, d]) :: parts) ('\\' :: 'u' :: a :: b :: c :: d :: text)

def IsDigits (digits : List Char) : Prop :=
  digits ≠ [] ∧ ∀ c ∈ digits, c.isDigit = true

inductive Fraction : List Char → Prop
  | missing : Fraction []
  | given {digits : List Char} (h : IsDigits digits) : Fraction ('.' :: digits)

inductive Exponent : List Char → Prop
  | missing : Exponent []
  | given {mark : Char} {sign digits : List Char} (hmark : mark ∈ ['e', 'E'])
      (hsign : sign ∈ [[], ['+'], ['-']]) (h : IsDigits digits) :
      Exponent (mark :: (sign ++ digits))

/-- Written forms of a token. -/
inductive Spells : Token → List Char → Prop
  | openArray : Spells .openArray ['[']
  | closeArray : Spells .closeArray [']']
  | openObject : Spells .openObject ['\x7b']
  | closeObject : Spells .closeObject ['\x7d']
  | comma : Spells .comma [',']
  | colon : Spells .colon [':']
  | null : Spells .null ['n', 'u', 'l', 'l']
  | true : Spells (.bool true) ['t', 'r', 'u', 'e']
  | false : Spells (.bool false) ['f', 'a', 'l', 's', 'e']
  | natural (n : ℕ) : Spells (.number (some n)) (Nat.toDigits 10 n)
  | other {sign fraction exponent : List Char} (n : ℕ) (hsign : sign ∈ [[], ['-']])
      (hfraction : Fraction fraction) (hexponent : Exponent exponent)
      (hother : sign ≠ [] ∨ fraction ≠ [] ∨ exponent ≠ []) :
      Spells (.number none) (sign ++ (Nat.toDigits 10 n ++ (fraction ++ exponent)))
  | text {parts : List Part} {body : List Char} (h : Body parts body) :
      Spells (.text ((joinParts parts).map String.ofList)) ('"' :: (body ++ ['"']))

def blanks : List Char :=
  [' ', '\n', '\t', '\r']

/-- A text is written from tokens with any white space around them. -/
inductive Layout : List Token → List Char → Prop
  | nil {space : List Char} (hspace : ∀ c ∈ space, c ∈ blanks) : Layout [] space
  | cons {space lexeme text : List Char} {token : Token} {tokens : List Token}
      (hspace : ∀ c ∈ space, c ∈ blanks) (hspell : Spells token lexeme) (h : Layout tokens text) :
      Layout (token :: tokens) (space ++ (lexeme ++ text))

namespace Token

def IsMark (token : Token) : Prop :=
  token ∈ [openArray, closeArray, openObject, closeObject, comma, colon]

instance (token : Token) : Decidable token.IsMark :=
  inferInstanceAs (Decidable (token ∈ _))

/-- Two tokens can stand side by side: where the first is a number, the second is a mark. -/
def Parts (first second : Token) : Prop :=
  (∃ value, first = .number value) → second.IsMark

end Token

variable {c : Char} {text rest body digits fraction exponent lexeme space : List Char} {n : ℕ}
  {parts : List Part} {token : Token} {list : List Token}

/-- A number ends in front of a text that does not go on with it. -/
def Stops (rest : List Char) : Prop :=
  ∀ c ∈ rest.head?, c.isDigit = false ∧ c ∉ ['.', 'e', 'E']

theorem scanString_of_body (h : Body parts body) :
    scanString (body ++ '"' :: rest) = some (parts, rest) := by
  induction h with
  | nil =>
    rw [List.nil_append, scanString.eq_def]
    simp only [if_pos]
  | @plain c parts text hquote hslash hprint h ih =>
    rw [List.cons_append, scanString.eq_def]
    simp only [if_neg hquote, if_neg hslash, if_neg (Nat.not_lt.mpr hprint), ih, Option.map_some]
  | @escape letter c parts text hescape h ih =>
    have hletter : letter ≠ 'u' ∧ ofEscape? letter = some c := by
      simp only [List.mem_cons, Prod.mk.injEq, List.not_mem_nil, or_false] at hescape
      rcases hescape with ⟨rfl, rfl⟩ | ⟨rfl, rfl⟩ | ⟨rfl, rfl⟩ | ⟨rfl, rfl⟩ | ⟨rfl, rfl⟩ |
        ⟨rfl, rfl⟩ | ⟨rfl, rfl⟩ | ⟨rfl, rfl⟩ <;> decide
    rw [List.cons_append, List.cons_append, scanString.eq_def]
    simp only [if_neg (by decide : '\\' ≠ '"'), if_pos, if_neg hletter.1, hletter.2, ih,
      Option.map_some]
  | @code a b c d parts text hdigits h ih =>
    have hall : [a, b, c, d].all Hex.isDigit = true := List.all_eq_true.mpr hdigits
    simp only [List.cons_append]
    rw [scanString.eq_def]
    simp only [if_neg (by decide : '\\' ≠ '"'), if_pos, hall, ih, Option.map_some]

theorem body_plain (h : ∀ c ∈ text, c ≠ '"' ∧ c ≠ '\\' ∧ 0x20 ≤ c.toNat) :
    Body (text.map .char) text ∧ joinParts (text.map .char) = some text := by
  induction text with
  | nil => exact ⟨.nil, rfl⟩
  | cons c text ih =>
    obtain ⟨⟨hquote, hslash, hprint⟩, hmore⟩ := List.forall_mem_cons.mp h
    obtain ⟨hbody, hjoin⟩ := ih hmore
    exact ⟨.plain hquote hslash hprint hbody, by simp [joinParts, hjoin]⟩

theorem spells_plain (text : String)
    (h : ∀ c ∈ text.toList, c ≠ '"' ∧ c ≠ '\\' ∧ 0x20 ≤ c.toNat) :
    Spells (.text (some text)) ('"' :: (text.toList ++ ['"'])) := by
  obtain ⟨hbody, hjoin⟩ := body_plain h
  have hspell := Spells.text hbody
  rwa [hjoin, Option.map_some, String.ofList_toList] at hspell

theorem leadingDigits_append (h : ∀ c ∈ digits, c.isDigit = true)
    (hrest : ∀ c ∈ rest.head?, c.isDigit = false) : leadingDigits (digits ++ rest) = digits := by
  unfold leadingDigits
  rw [List.takeWhile_append_of_pos h]
  cases rest with
  | nil => simp
  | cons c rest => simp [hrest c rfl]

theorem skipFraction_append (h : Fraction fraction)
    (hrest : ∀ c ∈ rest.head?, c.isDigit = false ∧ c ≠ '.') :
    skipFraction (fraction ++ rest) = some rest := by
  cases h with
  | missing =>
    cases rest with
    | nil => rfl
    | cons c rest => simp [skipFraction, (hrest c rfl).2]
  | given h =>
    rw [List.cons_append, skipFraction, leadingDigits_append h.2 fun c hc => (hrest c hc).1,
      if_neg h.1, List.drop_left]

theorem skipExponent_append (h : Exponent exponent) (hrest : Stops rest) :
    skipExponent (exponent ++ rest) = some rest := by
  cases h with
  | missing =>
    cases rest with
    | nil => rfl
    | cons c rest =>
      have hmark : ¬(c = 'e' ∨ c = 'E') := by
        have := (hrest c rfl).2
        simp_all
      rw [List.nil_append, skipExponent, if_neg hmark]
  | @given mark sign digits hmark hsign h =>
    obtain ⟨first, more, rfl⟩ := List.exists_cons_of_ne_nil h.1
    have hfirst := h.2 first (by simp)
    have hsigned : skipSign (sign ++ (first :: more ++ rest)) = first :: more ++ rest := by
      simp only [List.mem_cons, List.not_mem_nil, or_false] at hsign
      rcases hsign with rfl | rfl | rfl
      · unfold skipSign
        split
        · simp_all
        · simp_all
        · rfl
      · rfl
      · rfl
    rw [List.cons_append, skipExponent, if_pos (by simpa using hmark), List.append_assoc, hsigned]
    simp only [leadingDigits_append h.2 fun c hc => (hrest c hc).1, List.drop_left]
    rw [if_neg h.1]

theorem isDigits_toDigits (n : ℕ) : IsDigits (Nat.toDigits 10 n) :=
  ⟨Nat.toDigits_ne_nil, fun _ hc => Nat.isDigit_of_mem_toDigits (by decide) (by decide) hc⟩

theorem decimal_toDigits (n : ℕ) : decimal (Nat.toDigits 10 n) = n := by
  have hsame : decimal (Nat.toDigits 10 n) = Nat.ofDigitChars 10 (Nat.toDigits 10 n) 0 := by
    unfold decimal Nat.ofDigitChars
    simp only [Nat.mul_comm]
    rfl
  rw [hsame, Nat.ofDigitChars_toDigits (by decide) (by decide)]

theorem eq_zero_of_head? (h : (Nat.toDigits 10 n).head? = some '0') : n = 0 := by
  induction n using Nat.strongRecOn with
  | ind n ih =>
    -- The first digit is that of the number without its last digit.
    by_cases hlow : n < 10
    · have hzero : ∀ n < 10, n.digitChar = '0' → n = 0 := by decide
      rw [Nat.toDigits_of_lt_base hlow] at h
      exact hzero n hlow (Option.some.inj h)
    · rw [Nat.toDigits_of_base_le (by decide) (by omega),
        List.head?_append_of_ne_nil _ Nat.toDigits_ne_nil] at h
      have := ih (n / 10) (by omega) h
      omega

theorem Exponent.head (h : Exponent exponent) (hrest : Stops rest) :
    ∀ c ∈ (exponent ++ rest).head?, c.isDigit = false ∧ c ≠ '.' := by
  cases h with
  | missing =>
    intro c hc
    obtain ⟨hdigit, hmark⟩ := hrest c hc
    exact ⟨hdigit, by simp_all⟩
  | given hmark =>
    simp only [List.mem_cons, List.not_mem_nil, or_false] at hmark
    rcases hmark with rfl | rfl <;> simp

theorem Fraction.head (h : Fraction fraction) (hrest : ∀ c ∈ rest.head?, c.isDigit = false) :
    ∀ c ∈ (fraction ++ rest).head?, c.isDigit = false := by
  cases h with
  | missing => exact hrest
  | given => simp

theorem scanUnsigned_append (hfraction : Fraction fraction) (hexponent : Exponent exponent)
    (hrest : Stops rest) :
    scanUnsigned (Nat.toDigits 10 n ++ (fraction ++ (exponent ++ rest))) =
      some (Nat.toDigits 10 n, decide (fraction = [] ∧ exponent = []), rest) := by
  have hbehind := hexponent.head hrest
  have hleading : leadingDigits (Nat.toDigits 10 n ++ (fraction ++ (exponent ++ rest))) =
      Nat.toDigits 10 n :=
    leadingDigits_append (isDigits_toDigits n).2 (hfraction.head fun c hc => (hbehind c hc).1)
  have hzero : ¬(Nat.toDigits 10 n = [] ∨
      (Nat.toDigits 10 n).head? = some '0' ∧ (Nat.toDigits 10 n).length ≠ 1) := by
    rintro (hnil | ⟨hhead, hlength⟩)
    · exact Nat.toDigits_ne_nil hnil
    · rw [eq_zero_of_head? hhead] at hlength
      exact hlength rfl
  unfold scanUnsigned
  simp only [hleading, if_neg hzero, List.drop_left, skipFraction_append hfraction hbehind,
    skipExponent_append hexponent hrest]
  congr 3
  rw [decide_eq_decide, ← List.length_eq_zero_iff, ← List.length_eq_zero_iff]
  simp only [List.length_append]
  omega

theorem exists_toDigits (n : ℕ) :
    ∃ first more, Nat.toDigits 10 n = first :: more ∧ first.isDigit = true := by
  obtain ⟨first, more, hcons⟩ := List.exists_cons_of_ne_nil (isDigits_toDigits n).1
  exact ⟨first, more, hcons, (isDigits_toDigits n).2 first (by simp [hcons])⟩

theorem scanNumber_digits : scanNumber (Nat.toDigits 10 n ++ text) =
    (scanUnsigned (Nat.toDigits 10 n ++ text)).map fun (digits, plain, after) =>
      (if plain then some (decimal digits) else none, after) := by
  obtain ⟨first, more, hcons, hdigit⟩ := exists_toDigits n
  rw [hcons, List.cons_append]
  unfold scanNumber
  split
  · next he =>
    obtain ⟨rfl, -⟩ := List.cons.inj he
    contradiction
  · rfl

theorem scanNumber_natural (hrest : Stops rest) :
    scanNumber (Nat.toDigits 10 n ++ rest) = some (some n, rest) := by
  have hscan := scanUnsigned_append Fraction.missing Exponent.missing hrest (n := n)
  simp only [List.nil_append] at hscan
  rw [scanNumber_digits, hscan]
  simp [decimal_toDigits]

theorem scanNumber_other {sign : List Char} (hsign : sign ∈ [[], ['-']])
    (hfraction : Fraction fraction) (hexponent : Exponent exponent)
    (hother : sign ≠ [] ∨ fraction ≠ [] ∨ exponent ≠ []) (hrest : Stops rest) :
    scanNumber (sign ++ (Nat.toDigits 10 n ++ (fraction ++ (exponent ++ rest)))) =
      some (none, rest) := by
  have hscan := scanUnsigned_append hfraction hexponent hrest (n := n)
  simp only [List.mem_cons, List.not_mem_nil, or_false] at hsign
  rcases hsign with rfl | rfl
  · rw [List.nil_append, scanNumber_digits, hscan]
    have hplain : ¬(fraction = [] ∧ exponent = []) := by tauto
    simp [hplain]
  · rw [List.singleton_append, scanNumber, hscan]
    rfl

theorem tokens_blank (h : c ∈ blanks) : tokens (c :: text) = tokens text := by
  have hspace : isSpace c = true := by
    simp only [blanks, List.mem_cons, List.not_mem_nil, or_false] at h
    rcases h with rfl | rfl | rfl | rfl <;> decide
  rw [tokens, if_pos hspace]

theorem tokens_blanks (h : ∀ c ∈ space, c ∈ blanks) : tokens (space ++ text) = tokens text := by
  induction space with
  | nil => rfl
  | cons c space ih =>
    rw [List.cons_append, tokens_blank (h c (by simp)), ih fun c hc => h c (by simp [hc])]

theorem tokens_mark (hspace : isSpace c = false) (h : ofMark? c = some token) :
    tokens (c :: text) = (tokens text).map (token :: ·) := by
  rw [tokens, if_neg (by simp [hspace])]
  simp only [h]

theorem tokens_value (hspace : isSpace c = false) (hmark : ofMark? c = none)
    (h : scanValue (c :: text) = some (token, rest)) :
    tokens (c :: text) = (tokens rest).map (token :: ·) := by
  rw [tokens, if_neg (by simp [hspace])]
  simp only [hmark]
  split
  · next hnone => rw [h] at hnone; contradiction
  · next hsome =>
    obtain ⟨rfl, rfl⟩ := Prod.mk.inj (Option.some.inj (h.symm.trans hsome))
    rfl

theorem tokens_number {value : Option ℕ} (hfirst : c.isDigit = true ∨ c = '-')
    (h : scanNumber (c :: text) = some (value, rest)) :
    tokens (c :: text) = (tokens rest).map (.number value :: ·) := by
  -- No other token begins with a digit or a minus.
  have hne : ∀ other : Char, other.isDigit = false → other ≠ '-' → other ≠ c := by
    rintro other hdigit hminus rfl
    rcases hfirst with hfirst | hfirst
    · rw [hdigit] at hfirst
      contradiction
    · exact hminus hfirst
  have hword : scanWord (c :: text) = none := by
    simp [scanWord, words, skipWord, hne 'n' (by decide) (by decide),
      hne 't' (by decide) (by decide), hne 'f' (by decide) (by decide)]
  apply tokens_value
  · rcases hfirst with hfirst | rfl
    · simp [isSpace, (hne ' ' (by decide) (by decide)).symm,
        (hne '\n' (by decide) (by decide)).symm, (hne '\t' (by decide) (by decide)).symm,
        (hne '\r' (by decide) (by decide)).symm]
    · decide
  · unfold ofMark?
    split <;> first | rfl | exact absurd rfl (hne _ (by decide) (by decide))
  · unfold scanValue
    split
    · next he => exact absurd (List.cons.inj he).1.symm (hne '"' (by decide) (by decide))
    · rw [hword, h]
      rfl

/-- A written form is read back as its token, and nothing behind it is taken. -/
theorem tokens_append (h : Spells token lexeme)
    (hstop : (∃ value, token = .number value) → Stops rest) :
    tokens (lexeme ++ rest) = (tokens rest).map (token :: ·) := by
  cases h with
  | openArray | closeArray | openObject | closeObject | comma | colon =>
    exact tokens_mark (by decide) rfl
  | null | true | false => exact tokens_value (by decide) (by decide) rfl
  | natural n =>
    obtain ⟨first, more, hcons, hdigit⟩ := exists_toDigits n
    have hscan := scanNumber_natural (n := n) (hstop ⟨_, rfl⟩)
    rw [hcons, List.cons_append] at hscan ⊢
    exact tokens_number (Or.inl hdigit) hscan
  | @other sign fraction exponent n hsign hfraction hexponent hother =>
    obtain ⟨first, more, hcons, hdigit⟩ := exists_toDigits n
    have hscan :=
      scanNumber_other (n := n) hsign hfraction hexponent hother (hstop ⟨_, rfl⟩)
    simp only [List.append_assoc]
    simp only [List.mem_cons, List.not_mem_nil, or_false] at hsign
    rcases hsign with rfl | rfl
    · rw [List.nil_append, hcons, List.cons_append] at hscan ⊢
      exact tokens_number (Or.inl hdigit) hscan
    · exact tokens_number (Or.inr rfl) hscan
  | @text parts body h =>
    rw [List.cons_append, List.append_assoc]
    apply tokens_value (by decide) (by decide)
    rw [scanValue, List.singleton_append, scanString_of_body h]
    rfl

theorem stops_blank (h : c ∈ blanks) : Stops (c :: text) := by
  rintro _ ⟨⟩
  simp only [blanks, List.mem_cons, List.not_mem_nil, or_false] at h
  rcases h with rfl | rfl | rfl | rfl <;> decide

theorem Layout.stops (h : Layout list text) (hmark : ∀ token ∈ list.head?, token.IsMark) :
    Stops text := by
  cases h with
  | @nil space hspace =>
    cases text with
    | nil => exact fun _ hc => nomatch hc
    | cons c text => exact stops_blank (hspace c (by simp))
  | @cons space lexeme text token more hspace hspell h =>
    cases space with
    | cons c space => exact stops_blank (hspace c (by simp))
    | nil =>
      have hmark := hmark token rfl
      cases hspell with
      | openArray | closeArray | openObject | closeObject | comma | colon =>
        rintro _ ⟨⟩
        decide
      | _ => simp [Token.IsMark] at hmark

/-- A text is read as the tokens it is written from. -/
theorem tokens_of_layout (h : Layout list text) (hparts : list.IsChain Token.Parts) :
    tokens text = some list := by
  induction h with
  | @nil space hspace => rw [← List.append_nil space, tokens_blanks hspace, tokens]
  | @cons space lexeme text token more hspace hspell h ih =>
    obtain ⟨hhead, hmore⟩ := List.isChain_cons.mp hparts
    rw [tokens_blanks hspace, tokens_append hspell, ih hmore, Option.map_some]
    intro hnumber
    exact h.stops fun next hnext => hhead next hnext hnumber

end GoldenRun.Json
