import GoldenRun.Proofs.Stream
import GoldenRun.Proofs.Text.Utf8

/-!
# What a cursor accounts for

Each line of a listing holds an instruction, or is text of no interest, or is no text. However often
a cursor is asked for the next thing to report, its answers and the number of skipped lines account
for all lines in front of it, each of them once.
-/

namespace GoldenRun

namespace Text

theorem dropEndWhile_append_replicate {text : List Char} {c : Char} (h : text.getLast? ≠ some c)
    (n : ℕ) : dropEndWhile (· == c) (text ++ List.replicate n c) = text := by
  have hreverse : text.reverse.dropWhile (· == c) = text.reverse := by
    rw [← List.head?_reverse] at h
    cases hrest : text.reverse with
    | nil => rfl
    | cons d rest =>
      rw [hrest] at h
      have hne : (d == c) = false := by simpa using h
      rw [List.dropWhile_cons, hne]
      rfl
  have hrun : ∀ d ∈ List.replicate n c, (d == c) = true := by
    intro d hd
    rw [List.eq_of_mem_replicate hd, beq_self_eq_true]
  unfold dropEndWhile
  rw [List.reverse_append, List.reverse_replicate, List.dropWhile_append_of_pos hrun, hreverse,
    List.reverse_reverse]

theorem exists_replicate_of_dropEndWhile (text : List Char) (c : Char) :
    ∃ n, text = dropEndWhile (· == c) text ++ List.replicate n c ∧
      (dropEndWhile (· == c) text).getLast? ≠ some c := by
  induction text using List.reverseRecOn with
  | nil => exact ⟨0, rfl, by simp [dropEndWhile]⟩
  | append_singleton text d ih =>
    by_cases hd : d = c
    · subst hd
      obtain ⟨n, htext, hlast⟩ := ih
      have hdrop : dropEndWhile (· == d) (text ++ [d]) = dropEndWhile (· == d) text := by
        simp [dropEndWhile]
      refine ⟨n + 1, ?_, hdrop ▸ hlast⟩
      rw [hdrop, List.replicate_succ', ← List.append_assoc, ← htext]
    · have hdrop : dropEndWhile (· == c) (text ++ [d]) = text ++ [d] := by
        simp [dropEndWhile, hd]
      exact ⟨0, by rw [hdrop]; simp, by rw [hdrop]; simpa using hd⟩

end Text

namespace Cursor

open Utf8 (IsText)

/-- What a line that is text holds: the instruction that stands in it, or nothing of interest.
Carriage returns at its end do not belong to it. -/
def Holds (line : Bytes) (found : Option Instruction) : Prop :=
  ∃ text returns, Utf8.encode (text ++ List.replicate returns '\r') = line ∧
    text.getLast? ≠ some '\r' ∧ Instruction.parse? text = found

/-- What there is to report of lines, in their order: the instruction of each line that holds one,
and a fault for each line that is no text. -/
inductive Meets : List Bytes → List (Except Fault Instruction) → Prop
  | nil : Meets [] []
  | instruction {line instruction lines items} : Holds line (some instruction) →
      Meets lines items → Meets (line :: lines) (.ok instruction :: items)
  | garbled {line lines items} : ¬IsText line → Meets lines items →
      Meets (line :: lines) (.error .notText :: items)
  | skipped {line lines items} : Holds line none → Meets lines items → Meets (line :: lines) items

/-- The instructions in lines that are text, in their order. -/
inductive Lists : List Bytes → List Instruction → Prop
  | nil : Lists [] []
  | instruction {line instruction lines instructions} : Holds line (some instruction) →
      Lists lines instructions → Lists (line :: lines) (instruction :: instructions)
  | skipped {line lines instructions} : Holds line none → Lists lines instructions →
      Lists (line :: lines) instructions

section Lines

variable {line bad : Bytes} {lines front back : List Bytes} {found : Option Instruction}
  {items others : List (Except Fault Instruction)} {instructions : List Instruction}
  {fault : Option Fault} {skipped : ℕ}

theorem readLine_eq_ok_iff : readLine line = .ok found ↔ Holds line found := by
  unfold readLine Holds
  constructor
  · intro h
    cases hdecode : Utf8.decode? line with
    | none => simp [hdecode] at h
    | some text =>
      obtain ⟨returns, htext, hlast⟩ := Text.exists_replicate_of_dropEndWhile text '\r'
      refine ⟨_, returns, ?_, hlast, ?_⟩
      · rw [← htext]
        exact Utf8.decode?_eq_some_iff.mp hdecode
      · simpa [hdecode] using h
  · rintro ⟨text, returns, hline, hlast, hfound⟩
    rw [Utf8.decode?_eq_some_iff.mpr hline]
    simp only [Text.dropEndWhile_append_replicate hlast, hfound]

theorem readLine_eq_error_iff {found : Fault} :
    readLine line = .error found ↔ found = .notText ∧ ¬IsText line := by
  unfold readLine
  rw [← Utf8.decode?_eq_none_iff]
  cases Utf8.decode? line with
  | none => simp [eq_comm]
  | some text => simp

theorem Holds.isText (h : Holds line found) : IsText line := by
  obtain ⟨text, returns, hline, -⟩ := h
  exact ⟨_, hline⟩

theorem holds_or (line : Bytes) : (∃ found, Holds line found) ∨ ¬IsText line := by
  cases hread : readLine line with
  | ok found => exact Or.inl ⟨found, readLine_eq_ok_iff.mp hread⟩
  | error fault => exact Or.inr (readLine_eq_error_iff.mp hread).2

theorem advance_of_holds (h : Holds line found) (fault : Option Fault) (skipped : ℕ)
    (lines : List Bytes) :
    advance fault skipped (line :: lines) = match found with
      | some instruction => (some (.ok instruction), ⟨lines, fault, skipped⟩)
      | none => advance fault (skipped + 1) lines := by
  rw [advance, readLine_eq_ok_iff.mpr h]
  cases found <;> rfl

theorem advance_of_garbled (h : ¬IsText line) (fault : Option Fault) (skipped : ℕ)
    (lines : List Bytes) :
    advance fault skipped (line :: lines) =
      (some (.error .notText), ⟨lines, fault, skipped⟩) := by
  rw [advance, readLine_eq_error_iff.mpr ⟨rfl, h⟩]

theorem collect_of_holds (h : Holds line found) (fault : Option Fault) (lines : List Bytes) :
    collect fault (line :: lines) =
      (found.toList ++ (collect fault lines).1, (collect fault lines).2) := by
  rw [collect, readLine_eq_ok_iff.mpr h]
  cases found <;> rfl

theorem collect_of_garbled (h : ¬IsText line) (fault : Option Fault) (lines : List Bytes) :
    collect fault (line :: lines) = ([], some .notText) := by
  rw [collect, readLine_eq_error_iff.mpr ⟨rfl, h⟩]

theorem Meets.append (h : Meets front items) (h' : Meets back others) :
    Meets (front ++ back) (items ++ others) := by
  induction h with
  | nil => exact h'
  | instruction hline _ ih => exact .instruction hline ih
  | garbled hline _ ih => exact .garbled hline ih
  | skipped hline _ ih => exact .skipped hline ih

/-- One call passes over lines of no interest to the next thing to report, or to the end. -/
theorem advance_cases (fault : Option Fault) (skipped : ℕ) (lines : List Bytes) :
    (∃ front back item next, lines = front ++ back ∧ Meets front [item] ∧
      advance fault skipped lines = (some item, ⟨back, fault, next⟩) ∧
      next + 1 = skipped + front.length) ∨
    Meets lines [] ∧
      advance fault skipped lines = (fault.map .error, ⟨[], fault, skipped + lines.length⟩) := by
  induction lines generalizing skipped with
  | nil => exact Or.inr ⟨.nil, rfl⟩
  | cons line lines ih =>
    rcases holds_or line with ⟨found, hholds⟩ | hgarbled
    · have hadvance := advance_of_holds hholds fault skipped lines
      cases found with
      | some instruction =>
        exact Or.inl ⟨[line], lines, .ok instruction, skipped, rfl, .instruction hholds .nil,
          hadvance, rfl⟩
      | none =>
        rcases ih (skipped + 1) with ⟨front, back, item, next, rfl, hmeets, hstep, hcount⟩ |
          ⟨hmeets, hstep⟩
        · refine Or.inl ⟨line :: front, back, item, next, rfl, .skipped hholds hmeets,
            hadvance.trans hstep, ?_⟩
          rw [hcount, List.length_cons]
          omega
        · refine Or.inr ⟨.skipped hholds hmeets, hadvance.trans (hstep.trans ?_)⟩
          rw [List.length_cons, Nat.add_assoc, Nat.add_comm 1]
    · exact Or.inl ⟨[line], lines, .error .notText, skipped, rfl, .garbled hgarbled .nil,
        advance_of_garbled hgarbled fault skipped lines, rfl⟩

theorem Lists.collect_append (h : Lists front instructions) (fault : Option Fault)
    (back : List Bytes) :
    collect fault (front ++ back) =
      (instructions ++ (collect fault back).1, (collect fault back).2) := by
  induction h with
  | nil => rfl
  | instruction hline _ ih =>
    rw [List.cons_append, collect_of_holds hline, ih]
    rfl
  | skipped hline _ ih =>
    rw [List.cons_append, collect_of_holds hline, ih]
    rfl

theorem Lists.collect (h : Lists lines instructions) (fault : Option Fault) :
    collect fault lines = (instructions, fault) := by
  simpa [Cursor.collect] using h.collect_append fault []

theorem Lists.collect_garbled (h : Lists front instructions) (hbad : ¬IsText bad)
    (fault : Option Fault) :
    Cursor.collect fault (front ++ bad :: back) = (instructions, some .notText) := by
  rw [h.collect_append, collect_of_garbled hbad, List.append_nil]

theorem Lists.isText (h : Lists lines instructions) : ∀ line ∈ lines, IsText line := by
  induction h with
  | nil => simp
  | instruction hline _ ih => simpa [hline.isText] using ih
  | skipped hline _ ih => simpa [hline.isText] using ih

theorem lists_nil_iff : Lists lines [] ↔ ∀ line ∈ lines, Holds line none := by
  induction lines with
  | nil => simp [Lists.nil]
  | cons line lines ih =>
    rw [List.forall_mem_cons, ← ih]
    constructor
    · rintro (_ | _ | ⟨hline, hrest⟩)
      exact ⟨hline, hrest⟩
    · rintro ⟨hline, hrest⟩
      exact .skipped hline hrest

theorem lists_or_garbled (lines : List Bytes) :
    (∃ instructions, Lists lines instructions) ∨
    ∃ front bad back instructions, lines = front ++ bad :: back ∧ Lists front instructions ∧
      ¬IsText bad := by
  induction lines with
  | nil => exact Or.inl ⟨[], .nil⟩
  | cons line lines ih =>
    rcases holds_or line with ⟨found, hholds⟩ | hgarbled
    · have hcons : ∀ {lines instructions}, Lists lines instructions →
          ∃ instructions, Lists (line :: lines) instructions := by
        intro lines instructions h
        cases found with
        | none => exact ⟨_, .skipped hholds h⟩
        | some instruction => exact ⟨_, .instruction hholds h⟩
      rcases ih with ⟨instructions, h⟩ | ⟨front, bad, back, instructions, rfl, h, hbad⟩
      · exact Or.inl (hcons h)
      · obtain ⟨instructions, h⟩ := hcons h
        exact Or.inr ⟨line :: front, bad, back, instructions, rfl, h, hbad⟩
    · exact Or.inr ⟨[], line, lines, [], rfl, .nil, hgarbled⟩

end Lines

/-- The answers to a number of calls, one after the other, and where the cursor is then. -/
def calls : ℕ → Cursor → List (Option (Except Fault Instruction)) × Cursor
  | 0, cursor => ([], cursor)
  | n + 1, cursor => (cursor.next.1 :: (calls n cursor.next.2).1, (calls n cursor.next.2).2)

variable {cursor : Cursor} {m n : ℕ}

theorem calls_of_lines_nil (h : cursor.lines = []) (n : ℕ) :
    calls n cursor = (List.replicate n (cursor.fault.map .error), cursor) := by
  obtain ⟨lines, fault, skipped⟩ := cursor
  subst h
  induction n with
  | zero => rfl
  | succ n ih =>
    have hnext : next ⟨[], fault, skipped⟩ = (fault.map .error, ⟨[], fault, skipped⟩) := rfl
    rw [calls, hnext]
    simp only [ih, List.replicate_succ]

theorem calls_add (m n : ℕ) (cursor : Cursor) : calls (n + m) cursor =
    ((calls n cursor).1 ++ (calls m (calls n cursor).2).1, (calls m (calls n cursor).2).2) := by
  induction n generalizing cursor with
  | zero => simp [calls]
  | succ n ih =>
    rw [Nat.add_right_comm, calls, ih]
    rfl

/-- What calls come to: they report what there is in the lines that they pass over, and then the
end. Every line that they pass over is skipped or reported. -/
structure Passes (cursor : Cursor) (n : ℕ) (front : List Bytes)
    (items : List (Except Fault Instruction)) (last : Cursor) : Prop where
  lines : cursor.lines = front ++ last.lines
  fault : last.fault = cursor.fault
  meets : Meets front items
  calls : cursor.calls n =
    (items.map some ++ List.replicate (n - items.length) (cursor.fault.map .error), last)
  few : items.length ≤ n
  count : last.skipped + items.length = cursor.skipped + front.length
  exhausted : items.length < n → last.lines = []

theorem exists_passes (n : ℕ) (cursor : Cursor) :
    ∃ front items last, cursor.Passes n front items last := by
  induction n generalizing cursor with
  | zero => exact ⟨[], [], cursor, rfl, rfl, .nil, rfl, le_rfl, rfl, fun h => by contradiction⟩
  | succ n ih =>
    rcases advance_cases cursor.fault cursor.skipped cursor.lines with
      ⟨front, back, item, skipped, hlines, hmeets, hstep, hcount⟩ | ⟨hmeets, hstep⟩
    · obtain ⟨front', items, last, h⟩ := ih ⟨back, cursor.fault, skipped⟩
      have hnext : cursor.next = (some item, ⟨back, cursor.fault, skipped⟩) := hstep
      refine ⟨front ++ front', item :: items, last, ?_, h.fault, hmeets.append h.meets, ?_, ?_, ?_,
        ?_⟩
      · rw [hlines, List.append_assoc, ← h.lines]
      · rw [calls, hnext, h.calls, List.length_cons, Nat.add_sub_add_right]
        rfl
      · exact Nat.succ_le_succ h.few
      · have hcount' := h.count
        simp only at hcount'
        rw [List.length_cons, List.length_append]
        omega
      · intro hlt
        exact h.exhausted (Nat.lt_of_succ_lt_succ hlt)
    · have hnext : cursor.next =
          (cursor.fault.map .error, ⟨[], cursor.fault, cursor.skipped + cursor.lines.length⟩) :=
        hstep
      refine ⟨cursor.lines, [], ⟨[], cursor.fault, cursor.skipped + cursor.lines.length⟩,
        (List.append_nil _).symm, rfl, hmeets, ?_, Nat.zero_le _, rfl, fun _ => rfl⟩
      rw [calls, hnext, calls_of_lines_nil rfl]
      rfl

/-- An account of a number of calls on a listing that is gone through from its beginning. -/
structure Account (listing : Stream) (n : ℕ) where
  /-- The lines that have been read, and the part of the listing that has not. -/
  front : List Bytes
  behind : Stream
  passes : listing.Passes front behind
  /-- Where reading behind the content fails, newlines end all lines that have been read. -/
  ended : listing.fault ≠ none → listing.content = Lines.written front ++ behind.content
  /-- What there is to report of these lines, in their order. -/
  items : List (Except Fault Instruction)
  meets : Meets front items
  /-- The calls have given all of it, and nothing else but the end, or the fault behind it. -/
  answers : ((start listing).calls n).1 =
    items.map some ++ List.replicate (n - items.length) (listing.fault.map .error)
  few : items.length ≤ n
  /-- The end is given only when no line is left. -/
  exhausted : items.length < n → behind.lines = []
  /-- Every line that has been read is skipped or reported. -/
  count : ((start listing).calls n).2.skipped + items.length = front.length
  /-- Behind the last line each further call gives the end, and changes nothing. -/
  settled : behind.lines = [] → ∀ m, (start listing).calls (n + m) =
    (((start listing).calls n).1 ++ List.replicate m (listing.fault.map .error),
      ((start listing).calls n).2)

/-- Any number of calls on any listing can be accounted for. -/
theorem nonempty_account (listing : Stream) (n : ℕ) : Nonempty (Account listing n) := by
  obtain ⟨front, items, last, h⟩ := exists_passes n (start listing)
  obtain ⟨behind, hpasses, hbehind⟩ := Stream.exists_passes h.lines
  have hlast : ((start listing).calls n).2 = last := by rw [h.calls]
  refine ⟨⟨front, behind, hpasses, hpasses.content, items, h.meets, ?_, h.few, ?_, ?_, ?_⟩⟩
  · rw [h.calls]
    rfl
  · intro hlt
    rw [hbehind]
    exact h.exhausted hlt
  · rw [hlast, h.count]
    exact Nat.zero_add _
  · intro hnil m
    rw [hbehind] at hnil
    rw [calls_add, hlast, calls_of_lines_nil hnil, h.fault]
    rfl

example :
    (start ⟨Utf8.encode "t:\n".toList ++ 0xFF :: Utf8.encode "\n0: 13131313\r".toList,
      none⟩).calls 3 =
      ([some (.error .notText), some (.ok ⟨['0'], 0x13131313⟩), none], ⟨[], none, 1⟩) := by
  cbv

end Cursor

end GoldenRun
