import GoldenRun.Proofs.Listing.Grammar
import GoldenRun.Proofs.Pattern.Naming

/-!
# The expression of instruction lines

One regular expression says which lines hold an instruction. Read and matched like any other
pattern, it finds the lines that can be cut, and so exactly those from which the reader of lines
gets an instruction.
-/

namespace GoldenRun

namespace Pattern.Expr

open Instruction (Cut)
open Text (isBlank)

def hexSet : CharSet :=
  .bracket false (ranges [('0', '9'), ('A', 'F'), ('a', 'f')])

def remark : Expr :=
  .group {} (.ofItems [.set .blank, .times .dot 0 none])

/-- What the expression of instruction lines is read as. -/
def instructionLine : Expr :=
  .ofItems [.lineStart, .times (.set .blank) 0 none, .group {} (.times (.set hexSet) 1 none),
    .times (.literal ':') 0 (some 1), .times (.set .blank) 1 none,
    .group {} (.times (.set hexSet) 8 (some 8)), .times remark 0 (some 1), .lineEnd]

variable {left middle right : List Char}

theorem mem_hexSet (c : Char) : hexSet.mem false c = true ↔ c ∈ Hex.alphabet := by
  rw [← Hex.isDigit_iff]
  unfold Hex.isDigit Hex.digit?
  simp only [hexSet, ranges, List.foldl_cons, List.foldl_nil, CharSet.mem, CharSet.upToCase,
    Bool.false_eq_true, if_false, Bool.bne_false, Bool.false_or, Bool.or_eq_true, Bool.and_eq_true,
    decide_eq_true_eq]
  split_ifs with hdigit hlower hupper <;> simp_all

theorem mem_noNewline (c : Char) : noNewline.mem false c = true ↔ c ≠ '\n' := by
  simp [noNewline, CharSet.mem, CharSet.mem_single]

theorem matches_remark : remark.toRegex.Matches left middle right ↔
    ∃ c rest, middle = c :: rest ∧ isBlank c = true ∧ '\n' ∉ rest := by
  have hdots : ∀ left middle right, (times .dot 0 none).toRegex.Matches left middle right ↔
      '\n' ∉ middle := by
    intro left middle right
    refine (matches_times_set noNewline 0 none).trans ?_
    simp only [mem_noNewline, Nat.zero_le, Option.mem_def, true_and]
    exact ⟨fun h hmem => h.2 _ hmem rfl, fun h => ⟨by simp, fun c hc hline => h (hline ▸ hc)⟩⟩
  rw [remark, matches_group, matches_ofItems_cons rfl]
  simp only [ofItems, hdots]
  constructor
  · rintro ⟨_, rest, rfl, ⟨c, rfl, hc⟩, hrest⟩
    exact ⟨c, rest, rfl, hc, hrest⟩
  · rintro ⟨c, rest, rfl, hc, hrest⟩
    exact ⟨[c], rest, rfl, ⟨c, rfl, hc⟩, hrest⟩

/-- An instruction line is matched from end to end, and its parts are those of a cut. -/
theorem matches_instructionLine : instructionLine.toRegex.Matches left middle right ↔
    left = [] ∧ right = [] ∧ Nonempty (Cut middle) := by
  simp only [instructionLine, matches_ofItems_cons (e := .lineStart) rfl, matches_lineStart,
    matches_ofItems_cons (e := .times _ _ _) rfl, matches_ofItems_cons (e := .group _ _) rfl,
    matches_group, matches_times_set, matches_optional, matches_literal, matches_remark,
    matches_lineEnd, mem_hexSet]
  constructor
  · rintro ⟨_, _, rfl, ⟨rfl, rfl⟩, margin, _, rfl, ⟨-, -, hmargin⟩, address, _, rfl,
      ⟨haddress, -, hhex⟩, colon, _, rfl, hcolon, gap, _, rfl, ⟨hgap, -, hblank⟩, word, _, rfl,
      ⟨hleast, hmost, hword⟩, tail, _, rfl, htail, rfl, rfl⟩
    refine ⟨rfl, rfl, ⟨margin, address, colon, gap, word, tail, by simp, hmargin,
      List.ne_nil_of_length_pos haddress, hhex, hcolon, List.ne_nil_of_length_pos hgap, hblank,
      Nat.le_antisymm (hmost 8 rfl) hleast, hword, htail⟩⟩
  · rintro ⟨rfl, rfl, ⟨p⟩⟩
    refine ⟨[], middle, rfl, ⟨rfl, rfl⟩, p.margin, _, ?_, ⟨Nat.zero_le _, by simp, p.margin_blank⟩,
      p.address, _, rfl, ⟨List.length_pos_iff.2 p.address_ne_nil, by simp, p.address_hex⟩,
      p.colon, _, rfl, p.colon_optional, p.gap, _, rfl,
      ⟨List.length_pos_iff.2 p.gap_ne_nil, by simp, p.gap_blank⟩, p.word, _, rfl,
      ⟨p.word_length.ge, by simp [p.word_length], p.word_hex⟩, p.tail, [], rfl, p.tail_ignored,
      rfl, rfl⟩
    conv_lhs => rw [p.whole]
    simp

end Pattern.Expr

namespace Instruction

open Pattern

/-- The expression of the lines that hold an instruction. -/
def lineExpression : String :=
  "^\\s*([0-9A-Fa-f]+):?\\s+([0-9A-Fa-f]\x7b8\x7d)(?:\\s.*)?$"

theorem parse_lineExpression :
    Expr.parse? lineExpression.toList = some .instructionLine := by
  decide +kernel

/-- The expression finds the lines that hold an instruction and no others. -/
theorem search_lineExpression : ∃ e, Expr.parse? lineExpression.toList = some e ∧
    ∀ line, e.toRegex.search line = true ↔ (parse? line).isSome = true := by
  refine ⟨_, parse_lineExpression, fun line => ?_⟩
  have hproper : Expr.instructionLine.toRegex.Proper :=
    Expr.proper_of_parse parse_lineExpression {}
  rw [Regex.search_iff hproper]
  constructor
  · rintro ⟨_, middle, _, rfl, h⟩
    obtain ⟨rfl, rfl, ⟨p⟩⟩ := Expr.matches_instructionLine.1 h
    simp [parse?_of_cut p]
  · intro h
    obtain ⟨i, hi⟩ := Option.isSome_iff_exists.1 h
    exact ⟨[], line, [], by simp,
      Expr.matches_instructionLine.2 ⟨rfl, rfl, exists_cut_of_parse? hi⟩⟩

end Instruction

end GoldenRun
