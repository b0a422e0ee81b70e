import GoldenRun.Text.Hex
import GoldenRun.Text.Printable

/-!
# String literals

A text in double quotes, in the form that program sources and listings of tests use. A quote and a
backslash are preceded by a backslash, the usual controls have a letter of their own, and every
other character that is not visible on its own is written by its code point. `decode` reads such a
literal back.
-/

namespace GoldenRun.Text.Quoted

/-- The letter that stands for a character behind a backslash. -/
def letter? : Char → Option Char
  | '\x00' => some '0'
  | '\t' => some 't'
  | '\r' => some 'r'
  | '\n' => some 'n'
  | '"' => some '"'
  | '\\' => some '\\'
  | _ => none

/-- The character that a letter behind a backslash stands for. -/
def ofLetter? : Char → Option Char
  | '0' => some '\x00'
  | 't' => some '\t'
  | 'r' => some '\r'
  | 'n' => some '\n'
  | '"' => some '"'
  | '\\' => some '\\'
  | '\'' => some '\''
  | _ => none

theorem ofLetter?_letter? {c l : Char} (h : letter? c = some l) : ofLetter? l = some c := by
  unfold letter? at h
  split at h <;> first | (injection h with h; subst h; rfl) | contradiction

def byCode (c : Char) : List Char :=
  ['\\', 'u', '\x7b'] ++ Hex.shortest c.toNat ++ ['\x7d']

def escape (c : Char) : List Char :=
  match letter? c with
  | some l => ['\\', l]
  | none => if isPrintable c then [c] else byCode c

def encode (text : List Char) : List Char :=
  '"' :: text.flatMap escape ++ ['"']

/-- The character with a code point given by hexadecimal digits, six at most. Underscores may stand
behind the first of them. -/
def ofCode? (digits : List Char) : Option Char :=
  let plain := digits.filter (· != '_')
  if digits.head? = some '_' ∨ plain = [] ∨ 6 < plain.length ∨ plain.all Hex.isDigit = false then
    none
  else if (Hex.value plain).isValidChar then some (Char.ofNat (Hex.value plain))
  else none

/-- The ASCII character with a code point given by two hexadecimal digits. -/
def ofByte? (high low : Char) : Option Char :=
  let n := Hex.value [high, low]
  if Hex.isDigit high ∧ Hex.isDigit low ∧ n < 128 then some (Char.ofNat n) else none

/-- Whether a character is skipped at the beginning of a line that goes on from the one before. -/
def isIndent (c : Char) : Bool :=
  c == ' ' || c == '\t' || c == '\n' || c == '\r'

/-- Reads the inside of a literal up to the closing quote, which must be the last character. A
backslash at the end of a line joins it with the next one. -/
def decodeBody : List Char → Option (List Char)
  | [] => none
  | ['"'] => some []
  | '"' :: _ :: _ => none
  | '\r' :: _ => none
  | '\\' :: 'u' :: '\x7b' :: rest => do
    let digits := rest.takeWhile (· != '\x7d')
    let c ← ofCode? digits
    let tail ← decodeBody (rest.drop (digits.length + 1))
    if digits.length < rest.length then some (c :: tail) else none
  | '\\' :: 'x' :: high :: low :: rest => do
    let c ← ofByte? high low
    let tail ← decodeBody rest
    some (c :: tail)
  | '\\' :: '\n' :: rest => decodeBody (rest.dropWhile isIndent)
  | '\\' :: l :: rest => do
    let c ← ofLetter? l
    let tail ← decodeBody rest
    some (c :: tail)
  | ['\\'] => none
  | c :: rest => do
    let tail ← decodeBody rest
    some (c :: tail)
termination_by literal => literal.length
decreasing_by
  all_goals simp only [List.length_cons, List.length_drop]
  all_goals have := (List.dropWhile_sublist isIndent (l := rest)).length_le
  all_goals omega

def decode : List Char → Option (List Char)
  | '"' :: rest => decodeBody rest
  | _ => none

end GoldenRun.Text.Quoted
