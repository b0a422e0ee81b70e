import GoldenRun.Proofs.Comparison
import GoldenRun.Proofs.Stream

/-!
# How far a comparison reads

Both sides are read in step, the expected line first. The comparison breaks off at the first line
that cannot be read, and it stops at the first pair of lines that differ: what stands behind, on
either side, plays no part, be it a fault or not.
-/

namespace GoldenRun.Comparison

open Lines (newline)

/-- Reading two sides in step breaks off: the lines in front are read and agree pair by pair, and
then the expected line cannot be read, or the actual line cannot, while the expected one can or
there is none. -/
inductive BreaksOff (expected actual : Stream) : Side → Fault → Prop
  | expected {front front' behind behind' fault} : expected.Passes front behind →
      actual.Passes front' behind' → List.Forall₂ LinesAgree front front' →
      behind.Breaks fault → BreaksOff expected actual .expected fault
  | actual {front front' behind behind' fault} : expected.Passes front behind →
      actual.Passes front' behind' → List.Forall₂ LinesAgree front front' →
      (∀ fault, ¬behind.Breaks fault) → behind'.Breaks fault →
      BreaksOff expected actual .actual fault

/-- A walk cannot go on: there is no line where one is looked for, and a fault instead. -/
def Halts (expectedFault actualFault : Option Fault) (expected actual : List Bytes) :
    Side → Fault → Prop
  | .expected, fault => expected = [] ∧ expectedFault = some fault
  | .actual, fault =>
    (expected = [] → expectedFault = none) ∧ actual = [] ∧ actualFault = some fault

variable {rule : LengthRule} {expectedFault actualFault : Option Fault} {matched : ℕ}
  {front front' left left' tail tail' : List Bytes} {side : Side} {fault : Fault}
  {expected actual : Stream}

theorem walk_append (h : List.Forall₂ LinesAgree front front') :
    walk rule expectedFault actualFault matched (front ++ left) (front' ++ left') =
      walk rule expectedFault actualFault (matched + front.length) left left' := by
  induction h generalizing matched with
  | nil => rfl
  | cons hagree _ ih =>
    rw [List.cons_append, List.cons_append, walk, if_pos (linesEqual_iff.mpr hagree), ih,
      List.length_cons, Nat.add_right_comm, Nat.add_assoc]

theorem walk_differing {e a : Bytes} (h : List.Forall₂ LinesAgree front front')
    (hdiffer : ¬LinesAgree e a) :
    walk rule expectedFault actualFault 0 (front ++ e :: tail) (front' ++ a :: tail') =
      .ok (differing front.length e a) := by
  rw [walk_append h, walk, if_neg (fun heq => hdiffer (linesEqual_iff.mp heq)), Nat.zero_add]

theorem exists_agreeing (lines lines' : List Bytes) : ∃ front left front' left',
    lines = front ++ left ∧ lines' = front' ++ left' ∧ List.Forall₂ LinesAgree front front' ∧
      ∀ e a, left.head? = some e → left'.head? = some a → ¬LinesAgree e a := by
  induction lines generalizing lines' with
  | nil => exact ⟨[], [], [], lines', rfl, rfl, .nil, by simp⟩
  | cons e es ih =>
    cases lines' with
    | nil => exact ⟨[], e :: es, [], [], rfl, rfl, .nil, by simp⟩
    | cons a as =>
      by_cases hagree : LinesAgree e a
      · obtain ⟨front, left, front', left', rfl, rfl, hfront, hleft⟩ := ih as
        exact ⟨e :: front, left, a :: front', left', rfl, rfl, .cons hagree hfront, hleft⟩
      · refine ⟨[], e :: es, [], a :: as, rfl, rfl, .nil, ?_⟩
        rintro _ _ ⟨⟩ ⟨⟩
        exact hagree

theorem walk_expected_fault (lines : List Bytes) :
    walk rule (some fault) actualFault matched [] lines = .error (.expected, fault) := by
  cases lines <;> rfl

theorem walk_eq_error_of_halts (h : Halts expectedFault actualFault left left' side fault) :
    walk rule expectedFault actualFault matched left left' = .error (side, fault) := by
  cases side with
  | expected =>
    obtain ⟨rfl, rfl⟩ := h
    exact walk_expected_fault left'
  | actual =>
    obtain ⟨hnone, rfl, rfl⟩ := h
    cases left with
    | nil =>
      rw [hnone rfl]
      rfl
    | cons e es => rfl

theorem halts_of_walk (h : walk rule expectedFault actualFault matched left left' =
      .error (side, fault))
    (hleft : ∀ e a, left.head? = some e → left'.head? = some a → ¬LinesAgree e a) :
    Halts expectedFault actualFault left left' side fault := by
  cases left with
  | nil =>
    cases expectedFault with
    | some found =>
      rw [walk_expected_fault] at h
      obtain ⟨rfl, rfl⟩ := Prod.mk.inj (Except.error.inj h)
      exact ⟨rfl, rfl⟩
    | none =>
      cases left' with
      | cons a as => contradiction
      | nil =>
        cases actualFault with
        | none => contradiction
        | some found =>
          obtain ⟨rfl, rfl⟩ := Prod.mk.inj (Except.error.inj h)
          exact ⟨fun _ => rfl, rfl, rfl⟩
  | cons e es =>
    cases left' with
    | cons a as =>
      rw [walk, if_neg fun heq => hleft e a rfl rfl (linesEqual_iff.mp heq)] at h
      contradiction
    | nil =>
      cases actualFault with
      | none => contradiction
      | some found =>
        obtain ⟨rfl, rfl⟩ := Prod.mk.inj (Except.error.inj h)
        exact ⟨fun hnil => by contradiction, rfl, rfl⟩

/-- A walk fails exactly where the lines in front agree and it cannot go on behind them. -/
theorem walk_eq_error_iff {lines lines' : List Bytes} :
    walk rule expectedFault actualFault matched lines lines' = .error (side, fault) ↔
      ∃ front left front' left', lines = front ++ left ∧ lines' = front' ++ left' ∧
        List.Forall₂ LinesAgree front front' ∧
        Halts expectedFault actualFault left left' side fault := by
  constructor
  · intro h
    obtain ⟨front, left, front', left', rfl, rfl, hfront, hleft⟩ := exists_agreeing lines lines'
    rw [walk_append hfront] at h
    exact ⟨front, left, front', left', rfl, rfl, hfront, halts_of_walk h hleft⟩
  · rintro ⟨front, left, front', left', rfl, rfl, hfront, hhalts⟩
    rw [walk_append hfront]
    exact walk_eq_error_of_halts hhalts

theorem not_breaks_iff :
    (∀ fault, ¬expected.Breaks fault) ↔ (expected.lines = [] → expected.fault = none) := by
  simp only [Stream.breaks_iff, not_and, Option.eq_none_iff_forall_ne_some]
  exact ⟨fun h hnil fault => h fault hnil, fun h fault hnil => h hnil fault⟩

theorem breaksOff_iff : BreaksOff expected actual side fault ↔
    ∃ front left front' left', expected.lines = front ++ left ∧ actual.lines = front' ++ left' ∧
      List.Forall₂ LinesAgree front front' ∧
      Halts expected.fault actual.fault left left' side fault := by
  constructor
  · rintro (⟨hpasses, hpasses', hagree, hbreaks⟩ | ⟨hpasses, hpasses', hagree, hnot, hbreaks⟩)
    · obtain ⟨hlines, hfault⟩ := hpasses.lines
      exact ⟨_, _, _, _, hlines, hpasses'.lines.1, hagree, hfault ▸ Stream.breaks_iff.mp hbreaks⟩
    · obtain ⟨hlines, hfault⟩ := hpasses.lines
      obtain ⟨hlines', hfault'⟩ := hpasses'.lines
      exact ⟨_, _, _, _, hlines, hlines', hagree, hfault ▸ not_breaks_iff.mp hnot,
        hfault' ▸ Stream.breaks_iff.mp hbreaks⟩
  · rintro ⟨front, left, front', left', hlines, hlines', hagree, hhalts⟩
    obtain ⟨behind, hpasses, rfl⟩ := Stream.exists_passes hlines
    obtain ⟨behind', hpasses', rfl⟩ := Stream.exists_passes hlines'
    have hfault := hpasses.lines.2
    have hfault' := hpasses'.lines.2
    rw [← hfault, ← hfault'] at hhalts
    cases side with
    | expected => exact .expected hpasses hpasses' hagree (Stream.breaks_iff.mpr hhalts)
    | actual =>
      exact .actual hpasses hpasses' hagree (not_breaks_iff.mpr hhalts.1)
        (Stream.breaks_iff.mpr hhalts.2)

/-- A walk that succeeds has not looked behind a line that a fault follows. -/
theorem walk_of_ok {lines lines' : List Bytes} {answer : Comparison}
    (h : walk rule expectedFault actualFault matched lines lines' = .ok answer)
    (htail : expectedFault = none → tail = []) (htail' : actualFault = none → tail' = []) :
    walk rule none none matched (lines ++ tail) (lines' ++ tail') = .ok answer := by
  induction lines generalizing matched lines' with
  | nil =>
    cases expectedFault with
    | some fault =>
      rw [walk_expected_fault] at h
      contradiction
    | none =>
      obtain rfl := htail rfl
      cases lines' with
      | nil =>
        cases actualFault with
        | some fault => contradiction
        | none =>
          obtain rfl := htail' rfl
          exact h
      | cons a as => exact h
  | cons e es ih =>
    cases lines' with
    | nil =>
      cases actualFault with
      | some fault => contradiction
      | none =>
        obtain rfl := htail' rfl
        exact h
    | cons a as =>
      rw [walk] at h
      rw [List.cons_append, List.cons_append, walk]
      split_ifs at h ⊢
      · exact ih h
      · exact h

theorem ofStreams_of_not_breaksOff (h : ∀ side fault, ¬BreaksOff expected actual side fault) :
    ofStreams rule expected actual =
      ofStreams rule ⟨expected.content, none⟩ ⟨actual.content, none⟩ := by
  obtain ⟨tail, hlines, htail⟩ := expected.exists_lines_append
  obtain ⟨tail', hlines', htail'⟩ := actual.exists_lines_append
  cases hresult : ofStreams rule expected actual with
  | error found =>
    obtain ⟨side, fault⟩ := found
    exact absurd (breaksOff_iff.mpr (walk_eq_error_iff.mp hresult)) (h side fault)
  | ok answer =>
    unfold ofStreams at hresult ⊢
    rw [hlines, hlines', walk_of_ok hresult htail htail']

/-- A comparison reads no further than to the first pair of lines that differ, if newlines end them:
it answers as it does where both contents end there. It fails exactly where reading both sides in
step breaks off, with the side and the fault that it breaks off at; where it does not, faults play
no part. -/
theorem ofStreams_reads_in_step (rule : LengthRule) :
    (∀ (front front' : List Bytes) (e a rest rest' : Bytes) (fault fault' : Option Fault),
      (∀ line ∈ front ++ [e], newline ∉ line) → (∀ line ∈ front' ++ [a], newline ∉ line) →
      List.Forall₂ LinesAgree front front' → ¬LinesAgree e a →
      ofStreams rule ⟨Lines.written (front ++ [e]) ++ rest, fault⟩
          ⟨Lines.written (front' ++ [a]) ++ rest', fault'⟩ =
        ofStreams rule ⟨Lines.written (front ++ [e]), none⟩
          ⟨Lines.written (front' ++ [a]), none⟩) ∧
    ∀ expected actual : Stream,
      (∀ side fault, ofStreams rule expected actual = .error (side, fault) ↔
        BreaksOff expected actual side fault) ∧
      ((∀ side fault, ¬BreaksOff expected actual side fault) →
        ofStreams rule expected actual =
          ofStreams rule ⟨expected.content, none⟩ ⟨actual.content, none⟩) := by
  refine ⟨?_, fun expected actual => ⟨fun side fault => ?_, ofStreams_of_not_breaksOff⟩⟩
  · intro front front' e a rest rest' fault fault' hfront hfront' hagree hdiffer
    -- Both answers are the one at the first difference, with nothing read behind it.
    have hstops : ∀ (rest rest' : Bytes) (fault fault' : Option Fault),
        ofStreams rule ⟨Lines.written (front ++ [e]) ++ rest, fault⟩
          ⟨Lines.written (front' ++ [a]) ++ rest', fault'⟩ =
            .ok (differing front.length e a) := by
      intro rest rest' fault fault'
      unfold ofStreams
      rw [Stream.lines_written_append hfront, Stream.lines_written_append hfront',
        List.append_assoc, List.append_assoc]
      exact walk_differing hagree hdiffer
    have hcut := hstops [] [] none none
    rw [List.append_nil, List.append_nil] at hcut
    rw [hstops, hcut]
  · exact walk_eq_error_iff.trans breaksOff_iff.symm

/-- The second lines differ, so that neither the bytes nor the faults behind them are met. An
expected line without newline is met in front of the end of the dump. -/
theorem ofStreams_reads_in_step_sample :
    ofStreams .strict ⟨[0x61, 0x0A, 0x62, 0x0A, 0xFF], some .denied⟩
        ⟨[0x41, 0x0D, 0x0A, 0x63, 0x0A], some .isADirectory⟩ =
      ofStreams .strict ⟨[0x61, 0x0A, 0x62, 0x0A], none⟩
        ⟨[0x41, 0x0D, 0x0A, 0x63, 0x0A], none⟩ ∧
    BreaksOff ⟨[0x61, 0x0A, 0x62], some .denied⟩ ⟨[0x61, 0x0A], some .isADirectory⟩
      .expected .denied ∧
    ofStreams .strict ⟨[0x61, 0x0A], none⟩ ⟨[0x62, 0x0A, 0x63], some .denied⟩ =
      ofStreams .strict ⟨[0x61, 0x0A], none⟩ ⟨[0x62, 0x0A, 0x63], none⟩ := by
  obtain ⟨hstops, hbreaks⟩ := ofStreams_reads_in_step .strict
  have hagree : LinesAgree [0x61] [0x41, 0x0D] := linesEqual_iff.mp (by decide)
  have hdiffer : ¬LinesAgree [0x62] [0x63] := fun h => absurd (linesEqual_iff.mpr h) (by decide)
  refine ⟨?_, ?_, ?_⟩
  · exact hstops [[0x61]] [[0x41, 0x0D]] [0x62] [0x63] [0xFF] [] (some .denied)
      (some .isADirectory) (by decide) (by decide) (.cons hagree .nil) hdiffer
  · exact ((hbreaks _ _).1 .expected .denied).mp rfl
  · refine (hbreaks ⟨[0x61, 0x0A], none⟩ ⟨[0x62, 0x0A, 0x63], some .denied⟩).2 ?_
    intro side fault hoff
    have hfails := ((hbreaks _ _).1 side fault).mpr hoff
    contradiction

end GoldenRun.Comparison
