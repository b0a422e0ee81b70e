import GoldenRun.Proofs.Image.Extraction
import GoldenRun.Proofs.Listing.Grammar
import GoldenRun.Proofs.Text.Hex

/-!
# Images read back

The line of an image is a line of a listing that holds the instruction it was written for, in any
margin and before any comment. So an image lists its own instructions, and what is extracted from it
is the same image again.
-/

namespace GoldenRun

namespace Instruction

open Text (isBlank)

/-- The address of an instruction can stand in a line: it consists of digits, of one at least. -/
def Addressed (i : Instruction) : Prop :=
  i.address ≠ [] ∧ ∀ c ∈ i.address, c ∈ Hex.alphabet

variable {i : Instruction} {line margin tail : List Char}

theorem addressed_of_parse? (h : parse? line = some i) : i.Addressed := by
  obtain ⟨p⟩ := exists_cut_of_parse? h
  rw [parse?_of_cut p] at h
  obtain rfl := Option.some.inj h
  exact ⟨p.address_ne_nil, p.address_hex⟩

def Cut.ofDisplay (h : i.Addressed) (hmargin : ∀ c ∈ margin, isBlank c = true)
    (htail : tail = [] ∨ ∃ c rest, tail = c :: rest ∧ isBlank c = true ∧ '\n' ∉ rest) :
    Cut (margin ++ i.display ++ tail) where
  margin := margin
  address := i.address
  colon := [':']
  gap := [' ', ' ', ' ']
  word := Hex.fixed width i.encoding.toNat
  tail := tail
  whole := by simp [display, separator]
  margin_blank := hmargin
  address_ne_nil := h.1
  address_hex := h.2
  colon_optional := Or.inr rfl
  gap_ne_nil := by simp
  gap_blank := List.all_eq_true.mp (by decide)
  word_length := Hex.length_fixed _ _
  word_hex _ hc := Hex.isDigit_iff.mp (Hex.isDigit_of_mem_fixed hc)
  tail_ignored := htail

theorem parse?_display (h : i.Addressed) (hmargin : ∀ c ∈ margin, isBlank c = true)
    (htail : tail = [] ∨ ∃ c rest, tail = c :: rest ∧ isBlank c = true ∧ '\n' ∉ rest) :
    parse? (margin ++ i.display ++ tail) = some i := by
  have hvalue : Hex.value (Hex.fixed width i.encoding.toNat) = i.encoding.toNat := by
    rw [Hex.value_fixed]
    exact Nat.mod_eq_of_lt i.encoding.toNat_lt
  rw [parse?_of_cut (.ofDisplay h hmargin htail)]
  simp only [Cut.ofDisplay, hvalue, UInt32.ofNat_toNat]

theorem newline_notMem_display (h : i.Addressed) : '\n' ∉ i.display := by
  have halphabet : '\n' ∉ Hex.alphabet := by decide
  have hword : '\n' ∉ Hex.fixed width i.encoding.toNat :=
    fun hmem => halphabet (Hex.isDigit_iff.mp (Hex.isDigit_of_mem_fixed hmem))
  have haddress : '\n' ∉ i.address := fun hmem => halphabet (h.2 _ hmem)
  simp [display, separator, haddress, hword]

theorem getLast?_display_ne (i : Instruction) : i.display.getLast? ≠ some '\r' := by
  have hword : Hex.fixed width i.encoding.toNat =
      Hex.fixed 7 (i.encoding.toNat / 16) ++ [Hex.digit (i.encoding.toNat % 16)] := rfl
  have hdigit := Hex.isDigit_digit (Nat.mod_lt i.encoding.toNat (by decide : 16 > 0))
  rw [display, hword, ← List.append_assoc, List.getLast?_concat]
  intro h
  rw [Option.some.inj h] at hdigit
  revert hdigit
  decide

theorem holds_display (h : i.Addressed) : Cursor.Holds (Utf8.encode i.display) (some i) := by
  have hparse : parse? ([] ++ i.display ++ []) = some i := parse?_display h (by simp) (Or.inl rfl)
  exact ⟨i.display, 0, by simp, getLast?_display_ne i, by simpa using hparse⟩

end Instruction

theorem Cursor.Lists.addressed {lines : List Bytes} {instructions : List Instruction}
    (h : Lists lines instructions) : ∀ i ∈ instructions, i.Addressed := by
  induction h with
  | nil => simp
  | instruction hline _ ih =>
    obtain ⟨text, _, -, -, hparse⟩ := hline
    simpa [Instruction.addressed_of_parse? hparse] using ih
  | skipped _ _ ih => exact ih

namespace Image

open Text (isBlank)
open Instruction (parse?)

variable {instructions : List Instruction}

def lines (instructions : List Instruction) : List Bytes :=
  instructions.map fun i => Utf8.encode i.display

theorem text_eq_written (instructions : List Instruction) :
    text instructions = Lines.written (lines instructions) := by
  have hnewline : Utf8.encode ['\n'] = [Lines.newline] := by decide
  simp [text, lines, Lines.written, List.flatMap_map, hnewline]

theorem lines_of_text (h : ∀ i ∈ instructions, i.Addressed) :
    Lines.Of (text instructions) (lines instructions) := by
  rw [text_eq_written]
  refine Lines.of_written fun line hline => ?_
  obtain ⟨i, hi, rfl⟩ := List.mem_map.mp hline
  exact Utf8.newline_notMem_encode (Instruction.newline_notMem_display (h i hi))

theorem lists_lines (h : ∀ i ∈ instructions, i.Addressed) :
    Cursor.Lists (lines instructions) instructions := by
  induction instructions with
  | nil => exact .nil
  | cons i instructions ih =>
    rw [List.forall_mem_cons] at h
    exact .instruction (Instruction.holds_display h.1) (ih h.2)

theorem instructions_text (h : ∀ i ∈ instructions, i.Addressed) :
    Stream.instructions ⟨text instructions, none⟩ = (instructions, none) := by
  have hlines : Stream.lines ⟨text instructions, none⟩ = lines instructions :=
    (lines_of_text h).eq_all.symm
  rw [Stream.instructions, hlines]
  exact (lists_lines h).collect none

theorem calls_text (h : ∀ i ∈ instructions, i.Addressed) :
    (Cursor.start ⟨text instructions, none⟩).calls (instructions.length + 1) =
      (instructions.map (some ∘ .ok) ++ [none], ⟨[], none, 0⟩) := by
  have hlines : Stream.lines ⟨text instructions, none⟩ = lines instructions :=
    (lines_of_text h).eq_all.symm
  rw [Cursor.start, hlines]
  clear hlines
  induction instructions with
  | nil => rfl
  | cons i instructions ih =>
    rw [List.forall_mem_cons] at h
    have hnext : Cursor.next ⟨lines (i :: instructions), none, 0⟩ =
        (some (.ok i), ⟨lines instructions, none, 0⟩) :=
      Cursor.advance_of_holds (Instruction.holds_display h.1) none 0 (lines instructions)
    rw [List.length_cons, Cursor.calls, hnext]
    simp only [ih h.2]
    rfl

/-- An instruction is read back from any line that holds its line of an image between white space.
So extraction from an image that extraction has made succeeds as well: the copy is the same image,
of as many instructions, and no line is skipped. -/
theorem extract_round_trip (machine : Machine) :
    (∀ (i : Instruction) (margin tail : List Char), i.Addressed →
      (∀ c ∈ margin, isBlank c = true) →
      (tail = [] ∨ ∃ c rest, tail = c :: rest ∧ isBlank c = true ∧ '\n' ∉ rest) →
      parse? (margin ++ i.display ++ tail) = some i) ∧
    ∀ disk listing image count after,
      machine.attempt (extract listing image) disk = (.ok count, after) →
      ∀ copy target, after.ReceivesAt copy target → after.site? image ≠ some target →
        ∃ (instructions : List Instruction) (last : Disk), count = instructions.length ∧
          after.content? image = some (text instructions) ∧
          machine.attempt (extract image copy) after = (.ok count, last) ∧
          last.content? copy = some (text instructions) ∧
          last.content? image = some (text instructions) ∧
          (Cursor.start ⟨text instructions, none⟩).calls (count + 1) =
            (instructions.map (some ∘ .ok) ++ [none], ⟨[], none, 0⟩) := by
  refine ⟨fun i margin tail h hmargin htail => Instruction.parse?_display h hmargin htail, ?_⟩
  intro disk listing image count after hextract copy target htarget hother
  obtain ⟨lines, instructions, hlists, hne, rfl, himage⟩ := of_attempt_extract hextract
  obtain ⟨last, hattempt, hcopy, hkept⟩ := attempt_extract_of_content machine himage htarget hother
    (instructions_text hlists.addressed)
  rw [answer_none_of_ne_nil hne] at hattempt
  exact ⟨instructions, last, rfl, himage, hattempt, hcopy, hkept image _ himage hother,
    calls_text hlists.addressed⟩

section Sample

def sampleInstruction : Instruction :=
  ⟨['0'], 0x13⟩

def extractedDisk : Disk where
  home := []
  entries :=
    [(["m"], .file (text [sampleInstruction]) false),
      (["l"], .file (Lines.written sampleListing) false)]
  nodup := by decide

theorem attempt_extract_sampleDisk :
    sampleMachine.attempt (extract "l" "m") sampleDisk = (.ok 1, extractedDisk) := by
  cbv

theorem extractedDisk_receivesAt : extractedDisk.ReceivesAt "n" ["n"] :=
  ⟨extractedDisk, extractedDisk.put ["n"] (.file [] false), by cbv, by cbv⟩

theorem sampleInstruction_addressed : sampleInstruction.Addressed :=
  ⟨by simp [sampleInstruction], by simp [sampleInstruction, Hex.alphabet]⟩

/-- A line of the image is read in a margin and before a comment, and the image is copied. -/
theorem extract_round_trip_sample :
    parse? (['\t'] ++ sampleInstruction.display ++ "\tnop".toList) = some sampleInstruction ∧
    ∃ last, sampleMachine.attempt (extract "m" "n") extractedDisk = (.ok 1, last) ∧
      last.content? "n" = extractedDisk.content? "m" := by
  obtain ⟨hread, hcopies⟩ := extract_round_trip sampleMachine
  obtain ⟨instructions, last, -, himage, hattempt, hcopy, -⟩ :=
    hcopies _ _ _ _ _ attempt_extract_sampleDisk "n" ["n"] extractedDisk_receivesAt (by cbv; simp)
  have hmargin : ∀ c ∈ ['\t'], isBlank c = true := List.all_eq_true.mp (by decide)
  have htail : isBlank '\t' = true ∧ '\n' ∉ "nop".toList := by decide
  exact ⟨hread _ _ _ sampleInstruction_addressed hmargin (Or.inr ⟨'\t', _, rfl, htail⟩), last,
    hattempt, hcopy.trans himage.symm⟩

end Sample

end Image

end GoldenRun
