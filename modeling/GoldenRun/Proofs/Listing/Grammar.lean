import GoldenRun.Listing.Instruction
import Mathlib

/-!
# The grammar of instruction lines

A line that holds an instruction is cut into six parts, and the reader of lines accepts exactly
the lines that can be cut this way. White space is no digit and a colon is neither, so a cut has
no choice about its address and its word.
-/

namespace GoldenRun

namespace Hex

def alphabet : List Char :=
  ['0', '1', '2', '3', '4', '5', '6', '7', '8', '9', 'a', 'b', 'c', 'd', 'e', 'f',
    'A', 'B', 'C', 'D', 'E', 'F']

/-- The place of a digit among the digits of base sixteen. -/
def rank (c : Char) : ℕ :=
  alphabet.idxOf c.toLower

theorem mem_alphabet_of_isDigit {c : Char} (h : isDigit c = true) : c ∈ alphabet := by
  have key : ∀ least greatest : Char, least ≤ c ∧ c ≤ greatest →
      least.toNat ≤ c.toNat ∧ c.toNat ≤ greatest.toNat := fun _ _ h => h
  have hc : c = Char.ofNat c.toNat := (Char.ofNat_toNat c).symm
  unfold isDigit digit? at h
  split_ifs at h with h₁ h₂ h₃
  · obtain ⟨hl, hu⟩ := key _ _ h₁
    simp only [Char.reduceToNat] at hl hu
    rw [hc]
    interval_cases c.toNat <;> decide
  · obtain ⟨hl, hu⟩ := key _ _ h₂
    simp only [Char.reduceToNat] at hl hu
    rw [hc]
    interval_cases c.toNat <;> decide
  · obtain ⟨hl, hu⟩ := key _ _ h₃
    simp only [Char.reduceToNat] at hl hu
    rw [hc]
    interval_cases c.toNat <;> decide
  · simp at h

theorem digit?_of_mem_alphabet {c : Char} (h : c ∈ alphabet) : digit? c = some (rank c) := by
  have hall : alphabet.all (fun c => digit? c = some (rank c)) = true := by decide
  simpa using List.all_eq_true.mp hall c h

theorem isDigit_iff {c : Char} : isDigit c = true ↔ c ∈ alphabet := by
  refine ⟨mem_alphabet_of_isDigit, ?_⟩
  intro h
  rw [isDigit, digit?_of_mem_alphabet h]
  rfl

theorem rank_lt {c : Char} (h : c ∈ alphabet) : rank c < 16 := by
  have hall : alphabet.all (fun c => rank c < 16) = true := by decide
  simpa using List.all_eq_true.mp hall c h

/-- The fold that reads digits is the usual number in base sixteen, its lowest digit first. -/
theorem value_eq_ofDigits {digits : List Char} (h : ∀ c ∈ digits, c ∈ alphabet) :
    value digits = Nat.ofDigits 16 (digits.reverse.map rank) := by
  induction digits using List.reverseRecOn with
  | nil => rfl
  | append_singleton rest c ih =>
    have hc : digit? c = some (rank c) := digit?_of_mem_alphabet (h c (by simp))
    have ih := ih fun d hd => h d (by simp [hd])
    unfold value at ih ⊢
    simp only [List.foldl_append, List.foldl_cons, List.foldl_nil, ih, hc, Option.getD_some,
      List.reverse_append, List.reverse_cons, List.reverse_nil, List.nil_append,
      List.cons_append, List.map_cons, Nat.ofDigits_cons]
    ring

theorem value_lt {digits : List Char} (h : ∀ c ∈ digits, c ∈ alphabet) :
    value digits < 16 ^ digits.length := by
  rw [value_eq_ofDigits h]
  have hlen : (digits.reverse.map rank).length = digits.length := by simp
  rw [← hlen]
  apply Nat.ofDigits_lt_base_pow_length (by decide)
  intro n hn
  obtain ⟨c, hc, rfl⟩ := List.mem_map.mp hn
  exact rank_lt (h c (List.mem_reverse.mp hc))

end Hex

namespace Instruction

open Text (isBlank)

/-- A way to cut a line into a margin, an address, perhaps a colon, a gap, a word of eight digits
and a tail. The tail is empty, or begins with white space and goes on without a newline. -/
structure Cut (line : List Char) where
  margin : List Char
  address : List Char
  colon : List Char
  gap : List Char
  word : List Char
  tail : List Char
  whole : line = margin ++ address ++ colon ++ gap ++ word ++ tail
  margin_blank : ∀ c ∈ margin, isBlank c = true
  address_ne_nil : address ≠ []
  address_hex : ∀ c ∈ address, c ∈ Hex.alphabet
  colon_optional : colon = [] ∨ colon = [':']
  gap_ne_nil : gap ≠ []
  gap_blank : ∀ c ∈ gap, isBlank c = true
  word_length : word.length = 8
  word_hex : ∀ c ∈ word, c ∈ Hex.alphabet
  tail_ignored : tail = [] ∨ ∃ c rest, tail = c :: rest ∧ isBlank c = true ∧ '\n' ∉ rest

theorem isBlank_eq_false_of_mem_alphabet {c : Char} (h : c ∈ Hex.alphabet) :
    isBlank c = false := by
  have hall : Hex.alphabet.all (fun c => !isBlank c) = true := by decide
  simpa using List.all_eq_true.mp hall c h

theorem isDigit_eq_false_of_isBlank {c : Char} (h : isBlank c = true) : Hex.isDigit c = false := by
  cases hd : Hex.isDigit c with
  | false => rfl
  | true =>
    have := isBlank_eq_false_of_mem_alphabet (Hex.isDigit_iff.mp hd)
    rw [h] at this
    contradiction

theorem takeWhile_run {p : Char → Bool} {run : List Char} (hrun : ∀ c ∈ run, p c = true)
    {rest : List Char} (hrest : ∀ c ∈ rest.head?, p c = false) :
    (run ++ rest).takeWhile p = run ∧ (run ++ rest).dropWhile p = rest := by
  rw [List.takeWhile_append_of_pos hrun, List.dropWhile_append_of_pos hrun]
  cases rest with
  | nil => simp
  | cons c rest =>
    have hc : p c = false := hrest c rfl
    simp [hc]

theorem isIgnored_iff {text : List Char} : isIgnored text = true ↔
    text = [] ∨ ∃ c rest, text = c :: rest ∧ isBlank c = true ∧ '\n' ∉ rest := by
  cases text with
  | nil => simp [isIgnored]
  | cons c rest => simp [isIgnored]

theorem parseWord?_eq_some_iff {text : List Char} {encoding : UInt32} :
    parseWord? text = some encoding ↔ ∃ word tail, text = word ++ tail ∧ word.length = 8 ∧
      (∀ c ∈ word, c ∈ Hex.alphabet) ∧ isIgnored tail = true ∧
        encoding = UInt32.ofNat (Hex.value word) := by
  unfold parseWord?
  constructor
  · intro h
    simp only [Option.ite_none_right_eq_some, Option.some.injEq, List.all_eq_true] at h
    obtain ⟨⟨hlen, hdigits, htail⟩, rfl⟩ := h
    have hword : ∀ c ∈ text.take width, c ∈ Hex.alphabet := by
      intro c hc
      exact Hex.isDigit_iff.mp (hdigits c hc)
    exact ⟨text.take width, text.drop width, (List.take_append_drop _ _).symm, hlen, hword, htail,
      rfl⟩
  · rintro ⟨word, tail, rfl, hlen, hword, htail, rfl⟩
    have htake : (word ++ tail).take width = word := List.take_left' hlen
    have hdrop : (word ++ tail).drop width = tail := List.drop_left' hlen
    have hall : word.all Hex.isDigit = true :=
      List.all_eq_true.mpr fun c hc => Hex.isDigit_iff.mpr (hword c hc)
    simp only [htake, hdrop]
    rw [if_pos ⟨hlen, hall, htail⟩]

theorem dropColon_append {colon gap rest : List Char} (hcolon : colon = [] ∨ colon = [':'])
    (hgap : gap ≠ []) (hblank : ∀ c ∈ gap, isBlank c = true) :
    dropColon (colon ++ (gap ++ rest)) = gap ++ rest := by
  obtain ⟨c, gap, rfl⟩ := List.exists_cons_of_ne_nil hgap
  have hne : c ≠ ':' := by
    rintro rfl
    have := hblank ':' (by simp)
    revert this
    decide
  rcases hcolon with rfl | rfl <;> simp [dropColon, hne]

theorem exists_colon (text : List Char) :
    ∃ colon, text = colon ++ dropColon text ∧ (colon = [] ∨ colon = [':']) := by
  unfold dropColon
  split
  · exact ⟨[':'], rfl, Or.inr rfl⟩
  · exact ⟨[], rfl, Or.inl rfl⟩

theorem parseField?_eq (text : List Char) :
    parseField? text = if (∃ c ∈ (dropColon text).head?, isBlank c = true) then
      parseWord? ((dropColon text).dropWhile isBlank) else none := by
  unfold parseField?
  cases dropColon text with
  | nil => simp
  | cons c rest => by_cases hc : isBlank c = true <;> simp [hc]

namespace Cut

variable {line : List Char} (p : Cut line)

theorem head_not_blank : ∀ c ∈ (p.word ++ p.tail).head?, isBlank c = false := by
  intro c hc
  obtain ⟨d, word, hd⟩ := List.exists_cons_of_length_pos (l := p.word) (by simp [p.word_length])
  have : d = c := by simpa [hd] using hc
  exact isBlank_eq_false_of_mem_alphabet (p.word_hex c (by simp [hd, this]))

theorem head_not_hex :
    ∀ c ∈ (p.colon ++ (p.gap ++ (p.word ++ p.tail))).head?, Hex.isDigit c = false := by
  intro c hc
  rcases p.colon_optional with hcolon | hcolon
  · obtain ⟨d, gap, hd⟩ := List.exists_cons_of_ne_nil p.gap_ne_nil
    have : d = c := by simpa [hcolon, hd] using hc
    exact isDigit_eq_false_of_isBlank (p.gap_blank c (by simp [hd, this]))
  · have : ':' = c := by simpa [hcolon] using hc
    subst this
    decide

theorem dropWhile_margin :
    line.dropWhile isBlank = p.address ++ (p.colon ++ (p.gap ++ (p.word ++ p.tail))) := by
  have hline : line.dropWhile isBlank =
      (p.margin ++ (p.address ++ (p.colon ++ (p.gap ++ (p.word ++ p.tail))))).dropWhile
        isBlank := by
    conv_lhs => rw [p.whole]
    simp
  rw [hline]
  refine (takeWhile_run p.margin_blank ?_).2
  intro c hc
  obtain ⟨d, address, hd⟩ := List.exists_cons_of_ne_nil p.address_ne_nil
  have : d = c := by simpa [hd] using hc
  exact isBlank_eq_false_of_mem_alphabet (p.address_hex c (by simp [hd, this]))

theorem takeWhile_address : (line.dropWhile isBlank).takeWhile Hex.isDigit = p.address := by
  rw [p.dropWhile_margin]
  exact (takeWhile_run (fun c hc => Hex.isDigit_iff.mpr (p.address_hex c hc)) p.head_not_hex).1

theorem dropWhile_address : (line.dropWhile isBlank).dropWhile Hex.isDigit =
    p.colon ++ (p.gap ++ (p.word ++ p.tail)) := by
  rw [p.dropWhile_margin]
  exact (takeWhile_run (fun c hc => Hex.isDigit_iff.mpr (p.address_hex c hc)) p.head_not_hex).2

theorem dropColon_address : dropColon ((line.dropWhile isBlank).dropWhile Hex.isDigit) =
    p.gap ++ (p.word ++ p.tail) := by
  rw [p.dropWhile_address, dropColon_append p.colon_optional p.gap_ne_nil p.gap_blank]

theorem dropWhile_gap :
    (dropColon ((line.dropWhile isBlank).dropWhile Hex.isDigit)).dropWhile isBlank =
      p.word ++ p.tail := by
  rw [p.dropColon_address]
  exact (takeWhile_run p.gap_blank p.head_not_blank).2

/-- All cuts of a line agree on the address and on the word. -/
theorem unique (q : Cut line) : p.address = q.address ∧ p.word = q.word := by
  constructor
  · rw [← p.takeWhile_address, q.takeWhile_address]
  · have h : p.word ++ p.tail = q.word ++ q.tail := by rw [← p.dropWhile_gap, q.dropWhile_gap]
    exact (List.append_inj h (p.word_length.trans q.word_length.symm)).1

end Cut

theorem parse?_of_cut {line : List Char} (p : Cut line) :
    parse? line = some ⟨p.address, UInt32.ofNat (Hex.value p.word)⟩ := by
  have hword : parseWord? (p.word ++ p.tail) = some (UInt32.ofNat (Hex.value p.word)) :=
    parseWord?_eq_some_iff.mpr ⟨p.word, p.tail, rfl, p.word_length, p.word_hex,
      isIgnored_iff.mpr p.tail_ignored, rfl⟩
  have hgap : ∃ c ∈ (p.gap ++ (p.word ++ p.tail)).head?, isBlank c = true := by
    obtain ⟨c, gap, hc⟩ := List.exists_cons_of_ne_nil p.gap_ne_nil
    exact ⟨c, by simp [hc], p.gap_blank c (by simp [hc])⟩
  have hfield : parseField? ((line.dropWhile isBlank).dropWhile Hex.isDigit) =
      some (UInt32.ofNat (Hex.value p.word)) := by
    rw [parseField?_eq, p.dropWhile_gap, p.dropColon_address, if_pos hgap, hword]
  unfold parse?
  simp only [p.takeWhile_address, hfield, p.address_ne_nil, if_false, Option.map_some]

theorem exists_cut_of_parse? {line : List Char} {i : Instruction} (h : parse? line = some i) :
    Nonempty (Cut line) := by
  unfold parse? at h
  simp only [Option.ite_none_left_eq_some, Option.map_eq_some_iff] at h
  obtain ⟨hne, encoding, hfield, -⟩ := h
  rw [parseField?_eq] at hfield
  split_ifs at hfield with hgap
  obtain ⟨colon, hcolon, hoptional⟩ :=
    exists_colon ((line.dropWhile isBlank).dropWhile Hex.isDigit)
  generalize dropColon ((line.dropWhile isBlank).dropWhile Hex.isDigit) = behind
    at hfield hgap hcolon
  obtain ⟨word, tail, hword, hlength, hhex, htail, -⟩ := parseWord?_eq_some_iff.mp hfield
  have hgap_ne : behind.takeWhile isBlank ≠ [] := by
    obtain ⟨c, hc, hblank⟩ := hgap
    obtain ⟨rest, rfl⟩ := List.head?_eq_some_iff.mp (Option.mem_def.mp hc)
    simp [hblank]
  refine ⟨⟨line.takeWhile isBlank, (line.dropWhile isBlank).takeWhile Hex.isDigit, colon,
    behind.takeWhile isBlank, word, tail, ?_, fun c hc => List.mem_takeWhile_imp hc, hne,
    fun c hc => Hex.isDigit_iff.mp (List.mem_takeWhile_imp hc), hoptional, hgap_ne,
    fun c hc => List.mem_takeWhile_imp hc, hlength, hhex, isIgnored_iff.mp htail⟩⟩
  calc
    line = line.takeWhile isBlank ++ ((line.dropWhile isBlank).takeWhile Hex.isDigit ++
        (line.dropWhile isBlank).dropWhile Hex.isDigit) := by
      rw [List.takeWhile_append_dropWhile, List.takeWhile_append_dropWhile]
    _ = line.takeWhile isBlank ++ ((line.dropWhile isBlank).takeWhile Hex.isDigit ++
        (colon ++ (behind.takeWhile isBlank ++ behind.dropWhile isBlank))) := by
      rw [List.takeWhile_append_dropWhile (p := isBlank) (l := behind), ← hcolon]
    _ = _ := by
      rw [hword]
      simp

/-- Exactly the lines that can be cut hold an instruction. All cuts of a line have the same address
and the same word; the instruction has this address as it is written, and the number that the word
denotes in base sixteen. -/
theorem parse?_grammar (line : List Char) :
    ((parse? line).isSome = true ↔ Nonempty (Cut line)) ∧
      (∀ p q : Cut line, p.address = q.address ∧ p.word = q.word) ∧
      ∀ p : Cut line, ∃ i, parse? line = some i ∧ i.address = p.address ∧
        i.encoding.toNat = Nat.ofDigits 16 (p.word.reverse.map Hex.rank) := by
  refine ⟨⟨?_, ?_⟩, fun p q => p.unique q, ?_⟩
  · intro h
    obtain ⟨i, hi⟩ := Option.isSome_iff_exists.mp h
    exact exists_cut_of_parse? hi
  · rintro ⟨p⟩
    rw [parse?_of_cut p]
    rfl
  · intro p
    refine ⟨_, parse?_of_cut p, rfl, ?_⟩
    -- Eight digits fit into a word, so nothing is lost.
    have hlt := Hex.value_lt p.word_hex
    rw [p.word_length] at hlt
    rw [← Hex.value_eq_ofDigits p.word_hex]
    exact UInt32.toNat_ofNat_of_lt' hlt

example : parse? "1004:\t00a50513\taddi\ta0,a0,10".toList =
    some ⟨"1004".toList, 0x00a50513⟩ := by decide

end Instruction

end GoldenRun
