import GoldenRun.Text.Lines
import Mathlib.Data.List.TakeWhile
import Mathlib.Tactic

/-!
# How a content divides into lines

The lines of a content are told without the function that computes them: each is free of newlines
and ends with one, save that bytes behind the last newline make up a line as well. A content has
exactly one row of lines in this sense, and it is the computed one.
-/

namespace GoldenRun.Lines

/-- The lines of a content. Nothing has no lines, and a last line without newline is not blank. -/
inductive Of : Bytes → List Bytes → Prop
  | nothing : Of [] []
  | last {line} : line ≠ [] → newline ∉ line → Of line [line]
  | ended {line rest lines} : newline ∉ line → Of rest lines →
      Of (line ++ newline :: rest) (line :: lines)

@[simp] theorem all_nil : all [] = [] := by
  simp [all, remainder, ended, pieces]

theorem all_of_not_mem {line : Bytes} (hne : line ≠ []) (h : newline ∉ line) :
    all line = [line] := by
  simp [all, remainder, pieces_of_not_mem h, hne]

theorem ended_of_not_mem {line : Bytes} (h : newline ∉ line) : ended line = [] := by
  simp [ended, pieces_of_not_mem h]

theorem ended_append_cons {line : Bytes} (h : newline ∉ line) (rest : Bytes) :
    ended (line ++ newline :: rest) = line :: ended rest := by
  rw [ended, pieces_append_cons h, ended]
  exact List.dropLast_cons_of_ne_nil (pieces_ne_nil newline rest)

theorem all_append_cons {line : Bytes} (h : newline ∉ line) (rest : Bytes) :
    all (line ++ newline :: rest) = line :: all rest := by
  have hp := pieces_append_cons h rest
  have hr : remainder (line ++ newline :: rest) = remainder rest := by
    simp only [remainder, hp]
    exact List.getLast_cons (pieces_ne_nil newline rest)
  unfold all
  rw [hr, ended_append_cons h, hp]
  split_ifs <;> rfl

theorem eq_append_cons_of_mem {bytes : Bytes} (h : newline ∈ bytes) :
    ∃ line rest, bytes = line ++ newline :: rest ∧ newline ∉ line := by
  induction bytes with
  | nil => simp at h
  | cons b bytes ih =>
    by_cases hb : b = newline
    · exact ⟨[], bytes, by simp [hb], by simp⟩
    · have hmem : newline ∈ bytes := by
        rcases List.mem_cons.mp h with he | hm
        · exact absurd he.symm hb
        · exact hm
      obtain ⟨line, rest, rfl, hline⟩ := ih hmem
      refine ⟨b :: line, rest, rfl, ?_⟩
      simp only [List.mem_cons, not_or]
      exact ⟨fun he => hb he.symm, hline⟩

theorem of_all (bytes : Bytes) : Of bytes (all bytes) := by
  by_cases h : newline ∈ bytes
  · obtain ⟨line, rest, hbytes, hline⟩ := eq_append_cons_of_mem h
    have ih := of_all rest
    rw [hbytes, all_append_cons hline]
    exact .ended hline ih
  · by_cases hne : bytes = []
    · subst hne
      rw [all_nil]
      exact .nothing
    · rw [all_of_not_mem hne h]
      exact .last hne h
termination_by bytes.length
decreasing_by
  rw [hbytes]
  simp only [List.length_append, List.length_cons]
  omega

theorem Of.eq_all {bytes : Bytes} {lines : List Bytes} (h : Of bytes lines) :
    lines = all bytes := by
  induction h with
  | nothing => exact all_nil.symm
  | last hne hline => exact (all_of_not_mem hne hline).symm
  | ended hline _ ih => rw [all_append_cons hline, ih]

theorem of_iff {bytes : Bytes} {lines : List Bytes} : Of bytes lines ↔ lines = all bytes := by
  constructor
  · exact Of.eq_all
  · rintro rfl
    exact of_all bytes

def written (lines : List Bytes) : Bytes :=
  lines.flatMap (· ++ [newline])

theorem written_cons (line : Bytes) (lines : List Bytes) :
    written (line :: lines) = line ++ newline :: written lines := by
  simp [written]

theorem of_written {lines : List Bytes} (h : ∀ line ∈ lines, newline ∉ line) :
    Of (written lines) lines := by
  induction lines with
  | nil => exact .nothing
  | cons line lines ih =>
    rw [written_cons]
    exact .ended (h line (by simp)) (ih fun other hmem => h other (by simp [hmem]))

end GoldenRun.Lines
