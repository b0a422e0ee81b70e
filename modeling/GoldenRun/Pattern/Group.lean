import GoldenRun.Pattern.Escape
import GoldenRun.Text.Letter

/-!
# Groups and repetitions

What may follow an opening parenthesis: the members of a group at once, a name for it, flags that
hold inside it, or flags that hold from here on. And what may follow an item: a mark or a count
that repeats it, eagerly or not.
-/

namespace GoldenRun.Pattern

/-- What an opening parenthesis begins. -/
inductive Opening
  | group (change : FlagChange) (name : Option (List Char))
  | change (change : FlagChange)
  deriving DecidableEq, Repr

/-- Switches a flag on or off. Eagerness is a flag too, but has no bearing on whether there is a
match. -/
def FlagChange.set? (change : FlagChange) (flag : Char) (on : Bool) : Option FlagChange :=
  match flag with
  | 'i' => some { change with ignoreCase := some on }
  | 's' => some { change with dotAll := some on }
  | 'm' => some { change with multiline := some on }
  | 'U' => some change
  | _ => none

/-- Reads flags up to a colon, which begins a group, or a closing parenthesis. None may stand twice,
those behind a hyphen are switched off, and a hyphen must not be the last. -/
def readFlags (seen : List Char) (change : FlagChange) : List Char → Option (Opening × List Char)
  | [] => none
  | c :: rest =>
    if c = ':' then
      if seen.head? = some '-' then none else some (.group change none, rest)
    else if c = ')' then
      if seen = [] ∨ seen.head? = some '-' then none else some (.change change, rest)
    else if c ∈ seen then none
    else if c = '-' then readFlags ('-' :: seen) change rest
    else
      match change.set? c (!seen.contains '-') with
      | some next => readFlags (c :: seen) next rest
      | none => none

def beginsName (c : Char) : Bool :=
  c == '_' || Text.isLetter c

def continuesName (c : Char) : Bool :=
  c == '_' || c == '.' || c == '[' || c == ']' || Text.isLetterOrNumeral c

def readName (text : List Char) : Option (Opening × List Char) :=
  let name := text.takeWhile (· != '>')
  match name, text.dropWhile (· != '>') with
  | c :: others, _ :: after =>
    if beginsName c && others.all continuesName then some (.group {} (some name), after) else none
  | _, _ => none

/-- Reads what follows an opening parenthesis. A question that looks beyond the group is refused. -/
def readOpening (text : List Char) : Option (Opening × List Char) :=
  match text with
  | '?' :: rest =>
    match rest with
    | '=' :: _ => none
    | '!' :: _ => none
    | '<' :: '=' :: _ => none
    | '<' :: '!' :: _ => none
    | 'P' :: '<' :: more => readName more
    | '<' :: more => readName more
    | _ => readFlags [] {} rest
  | _ => some (.group {} none, text)

theorem length_of_readFlags {seen text after : List Char} {change : FlagChange} {opening : Opening}
    (h : readFlags seen change text = some (opening, after)) : after.length < text.length := by
  induction text generalizing seen change with
  | nil => simp [readFlags] at h
  | cons c rest ih =>
    unfold readFlags at h
    split at h
    · split at h
      · contradiction
      · injection h with h
        injection h with _ h
        subst h
        exact Nat.lt_succ_self _
    · split at h
      · split at h
        · contradiction
        · injection h with h
          injection h with _ h
          subst h
          exact Nat.lt_succ_self _
      · split at h
        · contradiction
        · split at h
          · exact Nat.lt_succ_of_lt (ih h)
          · split at h
            · exact Nat.lt_succ_of_lt (ih h)
            · contradiction

theorem length_of_readName {text after : List Char} {opening : Opening}
    (h : readName text = some (opening, after)) : after.length < text.length := by
  unfold readName at h
  simp only at h
  split at h
  · next c others d after' _ hd =>
    split at h
    · injection h with h
      injection h with _ h
      subst h
      have hle := length_dropWhile_le (· != '>') text
      rw [hd] at hle
      exact hle
    · contradiction
  · contradiction

theorem length_of_readOpening {text after : List Char} {opening : Opening}
    (h : readOpening text = some (opening, after)) : after.length ≤ text.length := by
  unfold readOpening at h
  split at h
  · next rest =>
    split at h
    · contradiction
    · contradiction
    · contradiction
    · contradiction
    · next more =>
      have := length_of_readName h
      simp only [List.length_cons]
      omega
    · next more _ _ =>
      have := length_of_readName h
      simp only [List.length_cons]
      omega
    · have := length_of_readFlags h
      simp only [List.length_cons]
      omega
  · injection h with h
    injection h with _ h
    subst h
    exact Nat.le_refl _

/-- A text without the mark that makes a repetition take as little as it can. -/
def dropLazy : List Char → List Char
  | '?' :: rest => rest
  | text => text

def countLimit : Nat := Nat.pow 2 32 - 1

def readDecimal (text : List Char) : Option (Nat × List Char) :=
  let start := text.dropWhile Text.isBlank
  let digits := start.takeWhile Char.isDigit
  let n := digits.foldl (fun n c => n * 10 + (c.toNat - 48)) 0
  if digits = [] ∨ countLimit < n then none
  else some (n, (start.dropWhile Char.isDigit).dropWhile Text.isBlank)

/-- Reads a count behind its opening brace: an exact one, a least one, or a least and a greatest
one. -/
def readCount (text : List Char) : Option (Nat × Option Nat × List Char) :=
  match readDecimal text with
  | none => none
  | some (least, '\x7d' :: after) => some (least, some least, dropLazy after)
  | some (least, ',' :: '\x7d' :: after) => some (least, none, dropLazy after)
  | some (least, ',' :: rest) =>
    match readDecimal rest with
    | some (most, '\x7d' :: after) =>
      if least ≤ most then some (least, some most, dropLazy after) else none
    | _ => none
  | _ => none

theorem length_dropLazy_le (text : List Char) : (dropLazy text).length ≤ text.length := by
  unfold dropLazy
  split <;> simp

theorem length_of_readDecimal {text after : List Char} {n : Nat}
    (h : readDecimal text = some (n, after)) : after.length ≤ text.length := by
  unfold readDecimal at h
  simp only at h
  split at h
  · contradiction
  · injection h with h
    injection h with _ h
    subst h
    exact Nat.le_trans (length_dropWhile_le _ _)
      (Nat.le_trans (length_dropWhile_le _ _) (length_dropWhile_le _ _))

theorem length_of_readCount {text after : List Char} {least : Nat} {most : Option Nat}
    (h : readCount text = some (least, most, after)) : after.length ≤ text.length := by
  unfold readCount at h
  split at h
  · contradiction
  · next after' hd =>
    have h₁ := length_of_readDecimal hd
    have h₂ := length_dropLazy_le after'
    simp only [Option.some.injEq, Prod.mk.injEq] at h
    obtain ⟨-, -, rfl⟩ := h
    simp only [List.length_cons] at h₁
    omega
  · next after' hd =>
    have h₁ := length_of_readDecimal hd
    have h₂ := length_dropLazy_le after'
    simp only [Option.some.injEq, Prod.mk.injEq] at h
    obtain ⟨-, -, rfl⟩ := h
    simp only [List.length_cons] at h₁
    omega
  · next rest _ hd =>
    have h₁ := length_of_readDecimal hd
    split at h
    · next after' hm =>
      have h₂ := length_of_readDecimal hm
      have h₃ := length_dropLazy_le after'
      split at h
      · simp only [Option.some.injEq, Prod.mk.injEq] at h
        obtain ⟨-, -, rfl⟩ := h
        simp only [List.length_cons] at h₁ h₂
        omega
      · contradiction
    · contradiction
  · contradiction

end GoldenRun.Pattern
