import GoldenRun.Text.Hex

/-!
# Tokens of JSON

A JSON text is cut into punctuation, words, numbers and strings. A string may name halves of
surrogate pairs that do not fit together; it is then well formed, but has no value. A number has a
value if it is written as plain digits.
-/

namespace GoldenRun.Json

/-- The smallest parts of a JSON text. -/
inductive Token
  | openArray
  | closeArray
  | openObject
  | closeObject
  | comma
  | colon
  | null
  | bool (value : Bool)
  | number (value : Option Nat)
  | text (value : Option String)
  deriving DecidableEq, Repr

/-- A part of a string: a character, or a number of sixteen bits. -/
inductive Part
  | char (c : Char)
  | code (n : Nat)
  deriving DecidableEq, Repr

/-- Whether a number is the first half of a surrogate pair. -/
def isHigh (n : Nat) : Bool :=
  0xD800 ≤ n && n < 0xDC00

/-- Whether a number is the second half of a surrogate pair. -/
def isLow (n : Nat) : Bool :=
  0xDC00 ≤ n && n < 0xE000

/-- The character of a surrogate pair. -/
def ofPair (high low : Nat) : Char :=
  Char.ofNat (0x10000 + (high - 0xD800) * 0x400 + (low - 0xDC00))

/-- The text of a string's parts, if its surrogates come in pairs. -/
def joinParts : List Part → Option (List Char)
  | [] => some []
  | .char c :: rest => (joinParts rest).map (c :: ·)
  | [.code n] => if isHigh n || isLow n then none else some [Char.ofNat n]
  | .code n :: .char c :: rest =>
    if isHigh n || isLow n then none
    else (joinParts (.char c :: rest)).map (Char.ofNat n :: ·)
  | .code n :: .code m :: rest =>
    if isHigh n then
      if isLow m then (joinParts rest).map (ofPair n m :: ·) else none
    else if isLow n then none
    else (joinParts (.code m :: rest)).map (Char.ofNat n :: ·)

def ofEscape? (letter : Char) : Option Char :=
  match letter with
  | '"' => some '"'
  | '\\' => some '\\'
  | '/' => some '/'
  | 'b' => some '\x08'
  | 'f' => some '\x0C'
  | 'n' => some '\n'
  | 'r' => some '\r'
  | 't' => some '\t'
  | _ => none

/-- Reads a string up to its closing quote, and gives what follows. -/
def scanString : List Char → Option (List Part × List Char)
  | [] => none
  | c :: rest =>
    if c = '"' then some ([], rest)
    else if c = '\\' then
      match rest with
      | [] => none
      | letter :: more =>
        if letter = 'u' then
          match more with
          | a :: b :: c :: d :: tail =>
            if [a, b, c, d].all Hex.isDigit then
              (scanString tail).map fun (parts, after) =>
                (.code (Hex.value [a, b, c, d]) :: parts, after)
            else none
          | _ => none
        else
          match ofEscape? letter with
          | some e => (scanString more).map fun (parts, after) => (.char e :: parts, after)
          | none => none
    else if c.toNat < 0x20 then none
    else (scanString rest).map fun (parts, after) => (.char c :: parts, after)

theorem length_of_scanString {text after : List Char} {parts : List Part}
    (h : scanString text = some (parts, after)) : after.length < text.length := by
  fun_induction scanString text generalizing parts after
  all_goals simp_all only [Option.map_eq_some_iff, Prod.mk.injEq, reduceCtorEq, Option.some.injEq,
    Prod.exists, List.length_cons]
  all_goals first
    | omega
    | (rename_i ih
       obtain ⟨u, t, ht, -, rfl⟩ := h
       have := ih ht
       omega)

def leadingDigits (text : List Char) : List Char :=
  text.takeWhile Char.isDigit

/-- What follows the fraction of a number; none if there is a point without digits. -/
def skipFraction : List Char → Option (List Char)
  | '.' :: rest =>
    if leadingDigits rest = [] then none else some (rest.drop (leadingDigits rest).length)
  | text => some text

def skipSign : List Char → List Char
  | '+' :: rest => rest
  | '-' :: rest => rest
  | text => text

/-- What follows the exponent of a number; none if there is a mark without digits. -/
def skipExponent : List Char → Option (List Char)
  | [] => some []
  | c :: rest =>
    if c = 'e' ∨ c = 'E' then
      let digits := skipSign rest
      if leadingDigits digits = [] then none
      else some (digits.drop (leadingDigits digits).length)
    else some (c :: rest)

def decimal (digits : List Char) : Nat :=
  digits.foldl (fun n c => n * 10 + (c.toNat - 48)) 0

/-- Reads a number without its sign: its digits, and what follows the number. -/
def scanUnsigned (text : List Char) : Option (List Char × Bool × List Char) :=
  let digits := leadingDigits text
  if digits = [] ∨ (digits.head? = some '0' ∧ digits.length ≠ 1) then none
  else
    let behind := text.drop digits.length
    match skipFraction behind with
    | none => none
    | some more =>
      match skipExponent more with
      | none => none
      | some after => some (digits, decide (after.length = behind.length), after)

/-- Reads a number: its value if it is written as plain digits, and what follows. -/
def scanNumber : List Char → Option (Option Nat × List Char)
  | '-' :: rest => (scanUnsigned rest).map fun (_, _, after) => (none, after)
  | text =>
    (scanUnsigned text).map fun (digits, plain, after) =>
      (if plain then some (decimal digits) else none, after)

theorem length_of_skipFraction {text after : List Char} (h : skipFraction text = some after) :
    after.length ≤ text.length := by
  unfold skipFraction at h
  split at h
  · split at h
    · contradiction
    · injection h with h; subst h; simp only [List.length_drop, List.length_cons]; omega
  · injection h with h; subst h; exact Nat.le_refl _

theorem length_skipSign_le (text : List Char) : (skipSign text).length ≤ text.length := by
  unfold skipSign
  split <;> simp

theorem length_of_skipExponent {text after : List Char} (h : skipExponent text = some after) :
    after.length ≤ text.length := by
  unfold skipExponent at h
  split at h
  · injection h with h; subst h; exact Nat.le_refl _
  · next c rest =>
    have := length_skipSign_le rest
    split at h
    · simp only at h
      split at h
      · contradiction
      · injection h with h; subst h; simp only [List.length_drop, List.length_cons]; omega
    · injection h with h; subst h; exact Nat.le_refl _

theorem length_of_scanUnsigned {text digits after : List Char} {plain : Bool}
    (h : scanUnsigned text = some (digits, plain, after)) : after.length < text.length := by
  unfold scanUnsigned at h
  simp only at h
  split at h
  · contradiction
  · next hd =>
    split at h
    · contradiction
    · next more hm =>
      split at h
      · contradiction
      · next rest hr =>
        have h₁ := length_of_skipFraction hm
        have h₂ := length_of_skipExponent hr
        simp only [Option.some.injEq, Prod.mk.injEq] at h
        obtain ⟨-, -, rfl⟩ := h
        simp only [not_or] at hd
        have hpos : 0 < (leadingDigits text).length := List.length_pos_iff.2 hd.1
        have hle : (leadingDigits text).length ≤ text.length := by
          unfold leadingDigits
          exact (List.takeWhile_sublist _).length_le
        simp only [List.length_drop] at h₁
        omega

theorem length_of_scanNumber {text after : List Char} {value : Option Nat}
    (h : scanNumber text = some (value, after)) : after.length < text.length := by
  unfold scanNumber at h
  split at h
  · next rest =>
    obtain ⟨⟨digits, plain, rest'⟩, hu, he⟩ := Option.map_eq_some_iff.1 h
    simp only [Prod.mk.injEq] at he
    obtain ⟨-, rfl⟩ := he
    have := length_of_scanUnsigned hu
    simp only [List.length_cons]
    omega
  · obtain ⟨⟨digits, plain, rest'⟩, hu, he⟩ := Option.map_eq_some_iff.1 h
    simp only [Prod.mk.injEq] at he
    obtain ⟨-, rfl⟩ := he
    exact length_of_scanUnsigned hu

def isSpace (c : Char) : Bool :=
  c == ' ' || c == '\n' || c == '\t' || c == '\r'

def ofMark? (c : Char) : Option Token :=
  match c with
  | '[' => some .openArray
  | ']' => some .closeArray
  | '\x7b' => some .openObject
  | '\x7d' => some .closeObject
  | ',' => some .comma
  | ':' => some .colon
  | _ => none

def skipWord (word text : List Char) : Option (List Char) :=
  if word.isPrefixOf text then some (text.drop word.length) else none

def words : List (List Char × Token) :=
  [("null".toList, .null), ("true".toList, .bool true), ("false".toList, .bool false)]

def scanWord (text : List Char) : Option (Token × List Char) :=
  words.findSome? fun (word, token) => (skipWord word text).map (token, ·)

theorem length_of_scanWord {text after : List Char} {token : Token}
    (h : scanWord text = some (token, after)) : after.length < text.length := by
  unfold scanWord at h
  obtain ⟨⟨word, value⟩, hm, hs⟩ := List.exists_of_findSome?_eq_some h
  have hw : 0 < word.length := by
    simp only [words, List.mem_cons, Prod.mk.injEq, List.not_mem_nil, or_false] at hm
    rcases hm with ⟨rfl, -⟩ | ⟨rfl, -⟩ | ⟨rfl, -⟩ <;> decide
  simp only [skipWord, Option.map_eq_some_iff, Prod.mk.injEq] at hs
  obtain ⟨rest, hr, -, rfl⟩ := hs
  split at hr
  · next hp =>
    injection hr with hr
    subst hr
    have := (List.isPrefixOf_iff_prefix.1 hp).length_le
    simp only [List.length_drop]
    omega
  · contradiction

/-- Reads one token that is no punctuation mark. -/
def scanValue (text : List Char) : Option (Token × List Char) :=
  match text with
  | '"' :: rest =>
    (scanString rest).map fun (parts, after) =>
      (.text ((joinParts parts).map String.ofList), after)
  | _ =>
    match scanWord text with
    | some found => some found
    | none => (scanNumber text).map fun (value, after) => (.number value, after)

theorem length_of_scanValue {text after : List Char} {token : Token}
    (h : scanValue text = some (token, after)) : after.length < text.length := by
  unfold scanValue at h
  split at h
  · next rest =>
    obtain ⟨⟨parts, rest'⟩, hs, he⟩ := Option.map_eq_some_iff.1 h
    simp only [Prod.mk.injEq] at he
    obtain ⟨-, rfl⟩ := he
    have := length_of_scanString hs
    simp only [List.length_cons]
    omega
  · split at h
    · next found hf =>
      injection h with h
      subst h
      exact length_of_scanWord hf
    · obtain ⟨⟨value, rest'⟩, hs, he⟩ := Option.map_eq_some_iff.1 h
      simp only [Prod.mk.injEq] at he
      obtain ⟨-, rfl⟩ := he
      exact length_of_scanNumber hs

def tokens : List Char → Option (List Token)
  | [] => some []
  | c :: rest =>
    if isSpace c then tokens rest
    else
      match ofMark? c with
      | some mark => (tokens rest).map (mark :: ·)
      | none =>
        match h : scanValue (c :: rest) with
        | none => none
        | some (token, after) =>
          have := length_of_scanValue h
          (tokens after).map (token :: ·)
termination_by text => text.length
decreasing_by
  all_goals simp only [List.length_cons] at *
  all_goals omega

end GoldenRun.Json
