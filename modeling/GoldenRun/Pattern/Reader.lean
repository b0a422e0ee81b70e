import GoldenRun.Pattern.Bracket
import GoldenRun.Pattern.Group

/-!
# Reading expressions

An expression is read from left to right. The groups that are still open are kept with the branches
and items that have been read of them.
-/

namespace GoldenRun.Pattern

/-- What has been read of a group: the flags it sets, its complete branches and the items of its
last branch, the last first. -/
structure Level where
  change : FlagChange
  branches : List Expr
  items : List Expr
  deriving DecidableEq, Repr

namespace Level

def start (change : FlagChange) : Level :=
  ⟨change, [], []⟩

def add (level : Level) (item : Expr) : Level :=
  { level with items := item :: level.items }

def bar (level : Level) : Level :=
  { level with branches := .ofItems level.items.reverse :: level.branches, items := [] }

def body (level : Level) : Expr :=
  .ofBranches level.bar.branches.reverse

/-- Repeats the last item, which must not be a change of flags. -/
def repeatLast (level : Level) (least : Nat) (most : Option Nat) : Option Level :=
  match level.items with
  | [] => none
  | .change _ :: _ => none
  | item :: rest => some { level with items := .times item least most :: rest }

end Level

/-- A reader between two items: the open groups from the innermost on, the group that is being read,
and the names of groups so far. -/
structure Reader where
  outer : List Level
  level : Level
  names : List (List Char)
  deriving DecidableEq, Repr

namespace Reader

def start : Reader :=
  ⟨[], .start {}, []⟩

def add (reader : Reader) (item : Expr) : Reader :=
  { reader with level := reader.level.add item }

def enter (reader : Reader) : Opening → Option Reader
  | .change change => some (reader.add (.change change))
  | .group change none => some ⟨reader.level :: reader.outer, .start change, reader.names⟩
  | .group change (some name) =>
    if name ∈ reader.names then none
    else some ⟨reader.level :: reader.outer, .start change, name :: reader.names⟩

def leave (reader : Reader) : Option Reader :=
  match reader.outer with
  | [] => none
  | level :: outer =>
    some ⟨outer, level.add (.group reader.level.change reader.level.body), reader.names⟩

def repeatLast (reader : Reader) (least : Nat) (most : Option Nat) : Option Reader :=
  (reader.level.repeatLast least most).map fun level => { reader with level := level }

def read (reader : Reader) (c : Char) (rest : List Char) : Option (Reader × List Char) :=
  match c with
  | '(' =>
    match readOpening rest with
    | some (opening, after) => (reader.enter opening).map (·, after)
    | none => none
  | ')' => reader.leave.map (·, rest)
  | '|' => some ({ reader with level := reader.level.bar }, rest)
  | '[' => (readBracket rest).map fun (set, after) => (reader.add (.set set), after)
  | '?' => (reader.repeatLast 0 (some 1)).map (·, dropLazy rest)
  | '*' => (reader.repeatLast 0 none).map (·, dropLazy rest)
  | '+' => (reader.repeatLast 1 none).map (·, dropLazy rest)
  | '\x7b' =>
    match readCount rest with
    | some (least, most, after) => (reader.repeatLast least most).map (·, after)
    | none => none
  | '\\' => (readEscape rest).map fun (atom, after) => (reader.add atom.toExpr, after)
  | '.' => some (reader.add .dot, rest)
  | '^' => some (reader.add .lineStart, rest)
  | '$' => some (reader.add .lineEnd, rest)
  | c => some (reader.add (.literal c), rest)

theorem length_of_readMembers {outer : List Bracket} {bracket : Bracket} {text after : List Char}
    {set : CharSet} (h : readMembers outer bracket text = some (set, after)) :
    after.length ≤ text.length := by
  fun_induction readMembers outer bracket text generalizing set after with
  | case1 | case9 => contradiction
  | case2 =>
    rename_i hlt ih
    exact Nat.le_succ_of_le (Nat.le_trans (ih h) (Nat.le_of_lt hlt))
  | case3 =>
    rename_i hle ih
    exact Nat.le_succ_of_le (Nat.le_trans (ih h) hle)
  | case4 =>
    injection h with h
    injection h with _ h
    subst h
    exact Nat.le_succ _
  | case5 =>
    rename_i ih
    exact Nat.le_succ_of_le (ih h)
  | case6 | case7 | case8 =>
    rename_i ih
    exact Nat.le_succ_of_le (Nat.le_trans (ih h) (by simp))
  | case10 =>
    rename_i hlt ih
    exact Nat.le_trans (ih h) (Nat.le_of_lt hlt)

theorem length_of_readBracket {text after : List Char} {set : CharSet}
    (h : readBracket text = some (set, after)) : after.length ≤ text.length :=
  Nat.le_trans (length_of_readMembers h) (length_openBracket_le text)

theorem length_of_read {reader next : Reader} {c : Char} {rest after : List Char}
    (h : reader.read c rest = some (next, after)) : after.length ≤ rest.length := by
  unfold read at h
  split at h
  · split at h
    · next hr =>
      obtain ⟨_, -, he⟩ := Option.map_eq_some_iff.1 h
      injection he with _ he
      subst he
      exact length_of_readOpening hr
    · contradiction
  · obtain ⟨_, -, he⟩ := Option.map_eq_some_iff.1 h
    injection he with _ he
    subst he
    exact Nat.le_refl _
  · injection h with h
    injection h with _ h
    subst h
    exact Nat.le_refl _
  · obtain ⟨⟨_, tail⟩, hr, he⟩ := Option.map_eq_some_iff.1 h
    injection he with _ he
    subst he
    exact length_of_readBracket hr
  · obtain ⟨_, -, he⟩ := Option.map_eq_some_iff.1 h
    injection he with _ he
    subst he
    exact length_dropLazy_le rest
  · obtain ⟨_, -, he⟩ := Option.map_eq_some_iff.1 h
    injection he with _ he
    subst he
    exact length_dropLazy_le rest
  · obtain ⟨_, -, he⟩ := Option.map_eq_some_iff.1 h
    injection he with _ he
    subst he
    exact length_dropLazy_le rest
  · split at h
    · next hr =>
      obtain ⟨_, -, he⟩ := Option.map_eq_some_iff.1 h
      injection he with _ he
      subst he
      exact length_of_readCount hr
    · contradiction
  · obtain ⟨⟨_, tail⟩, hr, he⟩ := Option.map_eq_some_iff.1 h
    injection he with _ he
    subst he
    exact Nat.le_of_lt (length_of_readEscape hr)
  all_goals
    injection h with h
    injection h with _ h
    subst h
    exact Nat.le_refl _

def readAll (reader : Reader) : List Char → Option Reader
  | [] => some reader
  | c :: rest =>
    match h : reader.read c rest with
    | none => none
    | some (next, after) =>
      have := length_of_read h
      readAll next after
termination_by text => text.length
decreasing_by simp only [List.length_cons]; omega

/-- The expression that has been read, if no group is open. -/
def result? (reader : Reader) : Option Expr :=
  if reader.outer = [] then some reader.level.body else none

end Reader

def Expr.parse? (text : List Char) : Option Expr :=
  (Reader.start.readAll text).bind Reader.result?

end GoldenRun.Pattern
