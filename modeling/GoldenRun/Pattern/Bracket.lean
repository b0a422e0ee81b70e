import GoldenRun.Pattern.Escape

/-!
# Brackets

A set of characters in brackets: single characters, ranges, kinds of characters and further
brackets side by side, and sets combined by doubled marks, each mark taking all that stands before
it. A closing bracket at the very beginning is a member, and so are hyphens there.
-/

namespace GoldenRun.Pattern

/-- A bracket that is still open: whether it is negated, the sets before the last mark with that
mark, and the members since. -/
structure Bracket where
  negated : Bool
  pending : Option (SetOperation × CharSet)
  members : CharSet
  deriving DecidableEq, Repr

namespace Bracket

def add (bracket : Bracket) (set : CharSet) : Bracket :=
  { bracket with members := .union bracket.members set }

def content (bracket : Bracket) : CharSet :=
  match bracket.pending with
  | none => bracket.members
  | some (operation, left) => .combination operation left bracket.members

/-- Takes a mark: what comes next is combined with all that stands before it. -/
def mark (bracket : Bracket) (operation : SetOperation) : Bracket :=
  ⟨bracket.negated, some (operation, bracket.content), .none⟩

def close (bracket : Bracket) : CharSet :=
  .bracket bracket.negated bracket.content

end Bracket

def ranges (bounds : List (Char × Char)) : CharSet :=
  bounds.foldl (fun set (first, last) => .union set (.range first last)) .none

def asciiSets : List (String × List (Char × Char)) :=
  [("alnum", [('0', '9'), ('A', 'Z'), ('a', 'z')]),
   ("alpha", [('A', 'Z'), ('a', 'z')]),
   ("ascii", [('\x00', '\x7F')]),
   ("blank", [('\t', '\t'), (' ', ' ')]),
   ("cntrl", [('\x00', '\x1F'), ('\x7F', '\x7F')]),
   ("digit", [('0', '9')]),
   ("graph", [('!', '~')]),
   ("lower", [('a', 'z')]),
   ("print", [(' ', '~')]),
   ("punct", [('!', '/'), (':', '@'), ('[', '\x60'), ('\x7b', '~')]),
   ("space", [('\t', '\r'), (' ', ' ')]),
   ("upper", [('A', 'Z')]),
   ("word", [('0', '9'), ('A', 'Z'), ('_', '_'), ('a', 'z')]),
   ("xdigit", [('0', '9'), ('A', 'F'), ('a', 'f')])]

def named? (name : List Char) : Option CharSet :=
  (asciiSets.lookup (String.ofList name)).map ranges

def dropNegation : List Char → Bool × List Char
  | '^' :: rest => (true, rest)
  | text => (false, text)

/-- Reads the name of a set behind an opening bracket, between colons. -/
def readNamed : List Char → Option (CharSet × List Char)
  | ':' :: rest =>
    let (negated, text) := dropNegation rest
    match text.dropWhile (· != ':') with
    | ':' :: ']' :: after =>
      (named? (text.takeWhile (· != ':'))).map fun set =>
        (if negated then .complement set else set, after)
    | _ => none
  | _ => none

def openBracket (text : List Char) : Bracket × List Char :=
  let (negated, inside) := dropNegation text
  let hyphens := inside.takeWhile (· == '-')
  let rest := inside.dropWhile (· == '-')
  let start : Bracket := ⟨negated, none, .none⟩
  if hyphens = [] then
    match rest with
    | ']' :: more => (start.add (.single ']'), more)
    | _ => (start, rest)
  else (start.add (.single '-'), rest)

def readMember : List Char → Option (Atom × List Char)
  | [] => none
  | '\\' :: rest => readEscape rest
  | c :: rest => some (.literal c, rest)

def Atom.toSet? : Atom → Option CharSet
  | literal c => some (.single c)
  | set s => some s
  | look _ => none

def rangeOf? : Atom → Atom → Option CharSet
  | .literal first, .literal last => if first ≤ last then some (.range first last) else none
  | _, _ => none

/-- Reads a member, or a range if a hyphen and another member follow. -/
def readRange (text : List Char) : Option (CharSet × List Char) :=
  match readMember text with
  | none => none
  | some (_, []) => none
  | some (first, '-' :: rest) =>
    if rest.head? = some ']' ∨ rest.head? = some '-' then first.toSet?.map (·, '-' :: rest)
    else
      match readMember rest with
      | none => none
      | some (last, after) => (rangeOf? first last).map (·, after)
  | some (first, after) => first.toSet?.map (·, after)

theorem length_dropNegation_le (text : List Char) : (dropNegation text).2.length ≤ text.length := by
  unfold dropNegation
  split <;> simp

theorem length_of_readNamed {text after : List Char} {set : CharSet}
    (h : readNamed text = some (set, after)) : after.length < text.length := by
  unfold readNamed at h
  split at h
  · next rest =>
    simp only at h
    split at h
    · next after' hd =>
      obtain ⟨_, -, he⟩ := Option.map_eq_some_iff.1 h
      injection he with _ he
      subst he
      have h₁ := length_dropWhile_le (· != ':') (dropNegation rest).2
      have h₂ := length_dropNegation_le rest
      rw [hd] at h₁
      simp only [List.length_cons] at h₁ ⊢
      omega
    · contradiction
  · contradiction

theorem length_openBracket_le (text : List Char) : (openBracket text).2.length ≤ text.length := by
  have h₁ := length_dropNegation_le text
  have h₂ := length_dropWhile_le (· == '-') (dropNegation text).2
  unfold openBracket
  simp only
  split
  · split
    · next more hr =>
      rw [hr] at h₂
      simp only [List.length_cons] at h₂
      simp only
      omega
    · simp only
      omega
  · simp only
    omega

theorem length_of_readMember {text after : List Char} {atom : Atom}
    (h : readMember text = some (atom, after)) : after.length < text.length := by
  unfold readMember at h
  split at h
  · contradiction
  · next rest => exact Nat.lt_succ_of_lt (length_of_readEscape h)
  · injection h with h
    injection h with _ h
    subst h
    exact Nat.lt_succ_self _

theorem length_of_readRange {text after : List Char} {set : CharSet}
    (h : readRange text = some (set, after)) : after.length < text.length := by
  unfold readRange at h
  split at h
  · contradiction
  · contradiction
  · next first rest hm =>
    have hlt := length_of_readMember hm
    split at h
    · obtain ⟨_, -, he⟩ := Option.map_eq_some_iff.1 h
      injection he with _ he
      subst he
      exact hlt
    · split at h
      · contradiction
      · next last after' hl =>
        obtain ⟨_, -, he⟩ := Option.map_eq_some_iff.1 h
        injection he with _ he
        subst he
        have := length_of_readMember hl
        simp only [List.length_cons] at hlt
        omega
  · next first after' _ _ hm =>
    obtain ⟨_, -, he⟩ := Option.map_eq_some_iff.1 h
    injection he with _ he
    subst he
    exact length_of_readMember hm

/-- Reads the members of a bracket up to its end, with the brackets around it still open. -/
def readMembers (outer : List Bracket) (bracket : Bracket) (text : List Char) :
    Option (CharSet × List Char) :=
  match text with
  | [] => none
  | c :: rest =>
    if c = '[' then
      match hn : readNamed rest with
      | some (set, after) =>
        have := length_of_readNamed hn
        readMembers outer (bracket.add set) after
      | none =>
        have := length_openBracket_le rest
        readMembers (bracket :: outer) (openBracket rest).1 (openBracket rest).2
    else if c = ']' then
      match outer with
      | [] => some (bracket.close, rest)
      | around :: others => readMembers others (around.add bracket.close) rest
    else if c = '&' ∧ rest.head? = some '&' then readMembers outer (bracket.mark .both) rest.tail
    else if c = '-' ∧ rest.head? = some '-' then readMembers outer (bracket.mark .without) rest.tail
    else if c = '~' ∧ rest.head? = some '~' then readMembers outer (bracket.mark .either) rest.tail
    else
      match hr : readRange (c :: rest) with
      | none => none
      | some (set, after) =>
        have := length_of_readRange hr
        readMembers outer (bracket.add set) after
termination_by text.length
decreasing_by
  all_goals simp_all only [List.length_cons, List.length_tail]
  all_goals omega

def readBracket (text : List Char) : Option (CharSet × List Char) :=
  readMembers [] (openBracket text).1 (openBracket text).2

end GoldenRun.Pattern
