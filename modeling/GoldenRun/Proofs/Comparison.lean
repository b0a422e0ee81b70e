import GoldenRun.Comparison
import GoldenRun.Proofs.Text.Lines
import Mathlib.Order.Bounds.Basic

/-!
# What a comparison answers

Both sides have lines, and a greatest number of lines in front agree pair by pair. This number
and what follows on either side determine the whole answer: its count, its difference, its
leftover side and whether it is a pass.
-/

namespace GoldenRun.Comparison

/-- Whether two bytes are equal up to the case of an ASCII letter. -/
def SameLetter (a b : UInt8) : Prop :=
  a = b ∨ (0x41 ≤ a ∧ a ≤ 0x5A ∧ b = a + 0x20) ∨ (0x41 ≤ b ∧ b ≤ 0x5A ∧ a = b + 0x20)

/-- Whether two lines agree byte by byte, up to the case of letters and one carriage return at
the end of each. -/
def LinesAgree (a b : Bytes) : Prop :=
  List.Forall₂ SameLetter (Lines.trimOne a) (Lines.trimOne b)

theorem lowerByte_eq_iff {a b : UInt8} : lowerByte a = lowerByte b ↔ SameLetter a b := by
  have ha := a.toNat_lt
  have hb := b.toNat_lt
  unfold lowerByte SameLetter
  simp only [UInt8.le_iff_toNat_le, ← UInt8.toNat_inj]
  split_ifs with h₁ h₂ h₂ <;> simp only [UInt8.toNat_add, UInt8.reduceToNat] at * <;> omega

theorem linesEqual_iff {a b : Bytes} : linesEqual a b = true ↔ LinesAgree a b := by
  unfold linesEqual essence LinesAgree
  rw [beq_iff_eq, ← List.forall₂_eq_eq_eq, List.forall₂_map_left_iff, List.forall₂_map_right_iff]
  simp only [lowerByte_eq_iff]

/-- How many lines in front agree pair by pair. -/
def agreement : List Bytes → List Bytes → ℕ
  | e :: es, a :: as => if linesEqual e a then agreement es as + 1 else 0
  | _, _ => 0

/-- The numbers of lines in front that agree pair by pair. -/
def agreeing (expected actual : List Bytes) : Set ℕ :=
  {k | k ≤ min expected.length actual.length ∧
    List.Forall₂ LinesAgree (expected.take k) (actual.take k)}

theorem isGreatest_agreement (expected actual : List Bytes) :
    IsGreatest (agreeing expected actual) (agreement expected actual) := by
  induction expected generalizing actual with
  | nil =>
    refine ⟨by simp [agreeing, agreement], ?_⟩
    intro k hk
    have : k = 0 := by simpa using hk.1
    exact this.le
  | cons e es ih =>
    cases actual with
    | nil =>
      refine ⟨by simp [agreeing, agreement], ?_⟩
      intro k hk
      have : k = 0 := by simpa using hk.1
      exact this.le
    | cons a as =>
      obtain ⟨⟨hle, hall⟩, hgreatest⟩ := ih as
      by_cases heq : linesEqual e a = true
      · simp only [agreement, heq, if_true]
        refine ⟨⟨by simpa using hle, ?_⟩, ?_⟩
        · simpa using ⟨linesEqual_iff.mp heq, hall⟩
        · rintro k ⟨hk, hagree⟩
          cases k with
          | zero => exact Nat.zero_le _
          | succ k =>
            simp only [List.take_succ_cons, List.forall₂_cons] at hagree
            exact Nat.succ_le_succ (hgreatest ⟨by simpa using hk, hagree.2⟩)
      · simp only [agreement, heq]
        refine ⟨⟨Nat.zero_le _, by simp⟩, ?_⟩
        rintro k ⟨-, hagree⟩
        cases k with
        | zero => exact Nat.zero_le _
        | succ k =>
          simp only [List.take_succ_cons, List.forall₂_cons] at hagree
          exact absurd (linesEqual_iff.mpr hagree.1) heq

/-- The answer behind a number of equal pairs, given the lines that are left on both sides. -/
def behind (rule : LengthRule) (matched : ℕ) : List Bytes → List Bytes → Comparison
  | e :: _, a :: _ => differing matched e a
  | e :: _, [] => uneven rule matched .expected e
  | [], a :: _ => uneven rule matched .actual a
  | [], [] => complete matched

/-- Where nothing fails, the walk passes over the lines that agree and answers there. -/
theorem walk_eq (rule : LengthRule) (matched : ℕ) (expected actual : List Bytes) :
    walk rule none none matched expected actual =
      .ok (behind rule (matched + agreement expected actual)
        (expected.drop (agreement expected actual)) (actual.drop (agreement expected actual))) := by
  induction expected generalizing matched actual with
  | nil => cases actual <;> rfl
  | cons e es ih =>
    cases actual with
    | nil => rfl
    | cons a as =>
      by_cases heq : linesEqual e a = true
      · simp only [walk, agreement, heq, if_true, ih, List.drop_succ_cons]
        rw [Nat.add_assoc, Nat.add_comm 1]
      · simp [walk, agreement, heq, behind]

/-- What an answer says of lines of which a given number agree in front. -/
structure Answers (rule : LengthRule) (expected actual : List Bytes) (m : ℕ) (c : Comparison) :
    Prop where
  matched : c.matched = m
  /-- Both sides go on: the next lines differ and are reported. -/
  differing : m < min expected.length actual.length →
    c.leftover = none ∧ c.passed = false ∧ ∃ e a, expected[m]? = some e ∧ actual[m]? = some a ∧
      c.difference = some ⟨m + 1, some (lineText e), some (lineText a)⟩
  /-- A side has ended: the longer one is left over, and the rule tells whether that counts. -/
  exhausted : m = min expected.length actual.length →
    c.leftover = (if actual.length < expected.length then some .expected
      else if expected.length < actual.length then some .actual else none) ∧
    c.difference = (if rule = .strict ∧ expected.length ≠ actual.length then
      some ⟨m + 1, expected[m]?.map lineText, actual[m]?.map lineText⟩ else none) ∧
    (c.passed = true ↔ c.difference = none ∧ 0 < m)

theorem getElem?_of_drop {lines rest : List Bytes} {m : ℕ} {line : Bytes}
    (h : lines.drop m = line :: rest) : lines[m]? = some line := by
  rw [← List.head?_drop, h, List.head?_cons]

theorem answers_behind (rule : LengthRule) {expected actual : List Bytes} {m : ℕ}
    (hm : m ≤ min expected.length actual.length) :
    Answers rule expected actual m (behind rule m (expected.drop m) (actual.drop m)) := by
  obtain ⟨hme, hma⟩ := le_min_iff.mp hm
  cases he : expected.drop m with
  | cons e es =>
    have hgete := getElem?_of_drop he
    obtain ⟨hlte, hvale⟩ := List.getElem?_eq_some_iff.mp hgete
    cases ha : actual.drop m with
    | cons a as =>
      have hgeta := getElem?_of_drop ha
      obtain ⟨hlta, -⟩ := List.getElem?_eq_some_iff.mp hgeta
      exact ⟨rfl, fun _ => ⟨rfl, rfl, e, a, hgete, hgeta, rfl⟩, fun h => by omega⟩
    | nil =>
      have hlena : actual.length = m := le_antisymm (List.drop_eq_nil_iff.mp ha) hma
      refine ⟨rfl, fun h => by omega, ?_⟩
      intro _
      cases rule <;> simp [behind, uneven, hlena, hlte, hlte.ne', hvale]
  | nil =>
    have hlene : expected.length = m := le_antisymm (List.drop_eq_nil_iff.mp he) hme
    cases ha : actual.drop m with
    | cons a as =>
      obtain ⟨hlta, hvala⟩ := List.getElem?_eq_some_iff.mp (getElem?_of_drop ha)
      refine ⟨rfl, fun h => by omega, ?_⟩
      intro _
      cases rule <;> simp [behind, uneven, hlene, hlta, hlta.le, hlta.ne, hvala]
    | nil =>
      have hlena : actual.length = m := le_antisymm (List.drop_eq_nil_iff.mp ha) hma
      refine ⟨rfl, fun h => by omega, ?_⟩
      intro _
      simp [behind, complete, hlene, hlena]

/-- The answer for two contents. -/
def ofContents (rule : LengthRule) (expected actual : Bytes) : Comparison :=
  let m := agreement (Lines.all expected) (Lines.all actual)
  behind rule m ((Lines.all expected).drop m) ((Lines.all actual).drop m)

theorem ofStreams_eq_ofContents (rule : LengthRule) (expected actual : Bytes) :
    ofStreams rule ⟨expected, none⟩ ⟨actual, none⟩ = .ok (ofContents rule expected actual) := by
  have hwalk := walk_eq rule 0 (Lines.all expected) (Lines.all actual)
  simpa [ofStreams, ofContents, Stream.lines] using hwalk

end GoldenRun.Comparison
