import GoldenRun.Pattern.Expr
import GoldenRun.Text.Hex

/-!
# Escapes

What a backslash makes of the characters behind it: itself for every mark, a control character, a
character by its number, a kind of characters, or a question about the place. Digits and most
letters have no meaning behind a backslash.
-/

namespace GoldenRun.Pattern

/-- The smallest parts of an expression. -/
inductive Atom
  | literal (c : Char)
  | set (set : CharSet)
  | look (look : Look)
  deriving DecidableEq, Repr

def Atom.toExpr : Atom → Expr
  | literal c => .literal c
  | set s => .set s
  | look l => .look l

theorem length_dropWhile_le {α : Type} (p : α → Bool) (text : List α) :
    (text.dropWhile p).length ≤ text.length :=
  (List.dropWhile_sublist p).length_le

/-- Whether a character has a meaning of its own in an expression. -/
def isMeta (c : Char) : Bool :=
  "\\.+*?()|[]\x7b\x7d^$#&-~".toList.contains c

/-- Whether a backslash takes away a meaning that a character may have: so it is with every
character of ASCII but letters, digits and angle brackets. -/
def isEscapable (c : Char) : Bool :=
  isMeta c || (c.toNat < 128 && !c.isAlphanum && c != '<' && c != '>')

def control? (c : Char) : Option Char :=
  match c with
  | 'a' => some '\x07'
  | 'f' => some '\x0C'
  | 't' => some '\t'
  | 'n' => some '\n'
  | 'r' => some '\r'
  | 'v' => some '\x0B'
  | _ => none

def kind? (c : Char) : Option CharSet :=
  match c with
  | 'd' => some .digit
  | 's' => some .blank
  | 'w' => some .word
  | 'D' => some (.complement .digit)
  | 'S' => some (.complement .blank)
  | 'W' => some (.complement .word)
  | _ => none

def look? (c : Char) : Option Look :=
  match c with
  | 'A' => some .start
  | 'z' => some .finish
  | 'B' => some .notBoundary
  | '<' => some .wordStart
  | '>' => some .wordEnd
  | _ => none

/-- The question about the place that a word in braces behind a boundary stands for. -/
def boundary? (word : List Char) : Option Look :=
  if word = "start".toList then some .wordStart
  else if word = "end".toList then some .wordEnd
  else if word = "start-half".toList then some .wordStartHalf
  else if word = "end-half".toList then some .wordEndHalf
  else none

def isBoundaryChar (c : Char) : Bool :=
  c.isAlpha || c == '-'

/-- Reads what follows the letter of a boundary. Braces around anything but a word belong to what
comes next. -/
def readBoundary (text : List Char) : Option (Look × List Char) :=
  match text with
  | '\x7b' :: rest =>
    match rest with
    | [] => none
    | c :: _ =>
      if isBoundaryChar c then
        match rest.dropWhile isBoundaryChar with
        | '\x7d' :: after => (boundary? (rest.takeWhile isBoundaryChar)).map (·, after)
        | _ => none
      else some (.boundary, text)
  | _ => some (.boundary, text)

def ofHex? (digits : List Char) : Option Char :=
  let n := Hex.value digits
  if digits ≠ [] ∧ digits.all Hex.isDigit ∧ n.isValidChar then some (Char.ofNat n) else none

/-- Reads the number of a character: a fixed count of digits, or any digits in braces. -/
def readHex (width : Nat) (text : List Char) : Option (Char × List Char) :=
  match text with
  | '\x7b' :: rest =>
    match rest.dropWhile Hex.isDigit with
    | '\x7d' :: after => (ofHex? (rest.takeWhile Hex.isDigit)).map (·, after)
    | _ => none
  | _ =>
    if (text.take width).length = width then
      (ofHex? (text.take width)).map (·, text.drop width)
    else none

/-- How many digits the number of a character has behind a letter. -/
def hexWidth? (c : Char) : Option Nat :=
  match c with
  | 'x' => some 2
  | 'u' => some 4
  | 'U' => some 8
  | _ => none

def simpleEscape? (c : Char) : Option Atom :=
  if isEscapable c then some (.literal c)
  else
    match control? c, kind? c, look? c with
    | some control, _, _ => some (.literal control)
    | none, some kind, _ => some (.set kind)
    | none, none, some look => some (.look look)
    | none, none, none => none

def readEscape : List Char → Option (Atom × List Char)
  | [] => none
  | c :: rest =>
    match hexWidth? c with
    | some width => (readHex width rest).map fun (d, after) => (.literal d, after)
    | none =>
      if c = 'b' then (readBoundary rest).map fun (look, after) => (.look look, after)
      else (simpleEscape? c).map (·, rest)

theorem length_of_readBoundary {text after : List Char} {look : Look}
    (h : readBoundary text = some (look, after)) : after.length ≤ text.length := by
  unfold readBoundary at h
  split at h
  · next rest =>
    split at h
    · contradiction
    · next c tail =>
      split at h
      · split at h
        · next after' hd =>
          obtain ⟨_, -, he⟩ := Option.map_eq_some_iff.1 h
          injection he with _ he
          subst he
          have hle := length_dropWhile_le isBoundaryChar (c :: tail)
          rw [hd] at hle
          simp only [List.length_cons] at hle ⊢
          omega
        · contradiction
      · injection h with h
        injection h with _ h
        subst h
        exact Nat.le_refl _
  · injection h with h
    injection h with _ h
    subst h
    exact Nat.le_refl _

theorem length_of_readHex {width : Nat} {text after : List Char} {c : Char}
    (h : readHex width text = some (c, after)) : after.length ≤ text.length := by
  unfold readHex at h
  split at h
  · next rest =>
    split at h
    · next after' hd =>
      obtain ⟨_, -, he⟩ := Option.map_eq_some_iff.1 h
      injection he with _ he
      subst he
      have hle := length_dropWhile_le Hex.isDigit rest
      rw [hd] at hle
      simp only [List.length_cons] at hle ⊢
      omega
    · contradiction
  · split at h
    · obtain ⟨_, -, he⟩ := Option.map_eq_some_iff.1 h
      injection he with _ he
      subst he
      simp
    · contradiction

theorem length_of_readEscape {text after : List Char} {atom : Atom}
    (h : readEscape text = some (atom, after)) : after.length < text.length := by
  unfold readEscape at h
  split at h
  · contradiction
  · next c rest =>
    split at h
    · obtain ⟨⟨_, tail⟩, hr, he⟩ := Option.map_eq_some_iff.1 h
      injection he with _ he
      subst he
      exact Nat.lt_succ_of_le (length_of_readHex hr)
    · split at h
      · obtain ⟨⟨_, tail⟩, hr, he⟩ := Option.map_eq_some_iff.1 h
        injection he with _ he
        subst he
        exact Nat.lt_succ_of_le (length_of_readBoundary hr)
      · obtain ⟨_, -, he⟩ := Option.map_eq_some_iff.1 h
        injection he with _ he
        subst he
        exact Nat.lt_succ_self _

end GoldenRun.Pattern
