import GoldenRun.Proofs.Text.Lines
import GoldenRun.Proofs.Text.Order

/-!
# Bytes that are text

The forms that the strict way back from bytes to text accepts are those that are written for
characters, so bytes are decoded exactly if they are the form of a text. The newline byte stands in
no form but that of the newline: cutting bytes into lines neither makes nor hides ill-formed parts.
-/

namespace GoldenRun.Utf8

def Continues (b : UInt8) : Prop :=
  0x80 ≤ b.toNat ∧ b.toNat ≤ 0xBF

/-- The forms of code points. The bounds of the second byte leave out surrogates, code points above
the last, and forms that are longer than need be. -/
inductive Form : ℕ → Bytes → Prop
  | one {b : UInt8} : b.toNat < 0x80 → Form b.toNat [b]
  | two {b b₁ : UInt8} : 0xC2 ≤ b.toNat → b.toNat ≤ 0xDF → Continues b₁ →
      Form (b.toNat % 32 * 64 + b₁.toNat % 64) [b, b₁]
  | three {b b₁ b₂ : UInt8} : 0xE0 ≤ b.toNat → b.toNat ≤ 0xEF →
      (b.toNat = 0xE0 → 0xA0 ≤ b₁.toNat) → (b.toNat = 0xED → b₁.toNat ≤ 0x9F) →
      Continues b₁ → Continues b₂ →
      Form ((b.toNat % 16 * 64 + b₁.toNat % 64) * 64 + b₂.toNat % 64) [b, b₁, b₂]
  | four {b b₁ b₂ b₃ : UInt8} : 0xF0 ≤ b.toNat → b.toNat ≤ 0xF4 →
      (b.toNat = 0xF0 → 0x90 ≤ b₁.toNat) → (b.toNat = 0xF4 → b₁.toNat ≤ 0x8F) →
      Continues b₁ → Continues b₂ → Continues b₃ →
      Form (((b.toNat % 8 * 64 + b₁.toNat % 64) * 64 + b₂.toNat % 64) * 64 + b₃.toNat % 64)
        [b, b₁, b₂, b₃]

section Scan

variable {b b₁ : UInt8} {n : ℕ} {bytes tail rest : Bytes}

theorem within_iff {least greatest : UInt8} :
    within least greatest b = true ↔ least.toNat ≤ b.toNat ∧ b.toNat ≤ greatest.toNat := by
  simp [within, UInt8.le_iff_toNat_le]

theorem isTail_iff : isTail b = true ↔ Continues b :=
  within_iff

theorem second_of_three_iff :
    within (secondOfThree b).1 (secondOfThree b).2 b₁ = true ↔ Continues b₁ ∧
      (b.toNat = 0xE0 → 0xA0 ≤ b₁.toNat) ∧ (b.toNat = 0xED → b₁.toNat ≤ 0x9F) := by
  rw [within_iff]
  unfold secondOfThree Continues
  simp only [← UInt8.toNat_inj]
  split_ifs <;> simp only [UInt8.reduceToNat] at * <;> omega

theorem second_of_four_iff :
    within (secondOfFour b).1 (secondOfFour b).2 b₁ = true ↔ Continues b₁ ∧
      (b.toNat = 0xF0 → 0x90 ≤ b₁.toNat) ∧ (b.toNat = 0xF4 → b₁.toNat ≤ 0x8F) := by
  rw [within_iff]
  unfold secondOfFour Continues
  simp only [← UInt8.toNat_inj]
  split_ifs <;> simp only [UInt8.reduceToNat] at * <;> omega

theorem first_iff (b : UInt8) : (b < 0x80 ↔ b.toNat < 0x80) ∧
    (within 0xC2 0xDF b = true ↔ 0xC2 ≤ b.toNat ∧ b.toNat ≤ 0xDF) ∧
    (within 0xE0 0xEF b = true ↔ 0xE0 ≤ b.toNat ∧ b.toNat ≤ 0xEF) ∧
    (within 0xF0 0xF4 b = true ↔ 0xF0 ≤ b.toNat ∧ b.toNat ≤ 0xF4) :=
  ⟨UInt8.lt_iff_toNat_lt, within_iff, within_iff, within_iff⟩

theorem Form.scan (h : Form n (b :: tail)) (rest : Bytes) :
    scan b (tail ++ rest) = (some (Char.ofNat n), rest) := by
  obtain ⟨hone, htwo, hthree, hfour⟩ := first_iff b
  unfold Utf8.scan
  simp only [hone, htwo, hthree, hfour]
  cases h with
  | one h =>
    rw [if_pos h]
    rfl
  | two hl hu h₁ =>
    rw [if_neg (by omega), if_pos ⟨hl, hu⟩]
    simp only [List.cons_append, List.nil_append, if_pos (isTail_iff.mpr h₁), low]
  | three hl hu hlong hplain h₁ h₂ =>
    rw [if_neg (by omega), if_neg (by omega), if_pos ⟨hl, hu⟩]
    simp only [List.cons_append, List.nil_append, if_pos (isTail_iff.mpr h₂), low,
      if_pos (second_of_three_iff.mpr ⟨h₁, hlong, hplain⟩)]
  | four hl hu hlong hlast h₁ h₂ h₃ =>
    rw [if_neg (by omega), if_neg (by omega), if_neg (by omega), if_pos ⟨hl, hu⟩]
    simp only [List.cons_append, List.nil_append, if_pos (isTail_iff.mpr h₂),
      if_pos (isTail_iff.mpr h₃), low, if_pos (second_of_four_iff.mpr ⟨h₁, hlong, hlast⟩)]

theorem exists_form_of_scan {c : Char} (h : scan b bytes = (some c, rest)) :
    ∃ n tail, Form n (b :: tail) ∧ c = Char.ofNat n ∧ bytes = tail ++ rest := by
  obtain ⟨hone, htwo, hthree, hfour⟩ := first_iff b
  unfold Utf8.scan at h
  simp only [hone, htwo, hthree, hfour] at h
  split_ifs at h with h₁ h₂ h₃ h₄
  · obtain ⟨hc, rfl⟩ := Prod.mk.inj h
    exact ⟨_, [], .one h₁, (Option.some.inj hc).symm, rfl⟩
  · rcases bytes with _ | ⟨b₁, bytes⟩
    · simp at h
    · by_cases ht : isTail b₁ = true <;> simp only [ht, if_true] at h
      · obtain ⟨hc, rfl⟩ := Prod.mk.inj h
        exact ⟨_, [b₁], .two h₂.1 h₂.2 (isTail_iff.mp ht), (Option.some.inj hc).symm, rfl⟩
      · simp at h
  · rcases bytes with _ | ⟨b₁, _ | ⟨b₂, bytes⟩⟩
    · simp at h
    · dsimp only at h
      split_ifs at h <;> simp at h
    · by_cases hs : within (secondOfThree b).1 (secondOfThree b).2 b₁ = true <;>
        by_cases ht : isTail b₂ = true <;> simp only [hs, ht, if_true] at h
      · obtain ⟨hc, rfl⟩ := Prod.mk.inj h
        obtain ⟨hs, hlong, hplain⟩ := second_of_three_iff.mp hs
        exact ⟨_, [b₁, b₂], .three h₃.1 h₃.2 hlong hplain hs (isTail_iff.mp ht),
          (Option.some.inj hc).symm, rfl⟩
      all_goals simp at h
  · rcases bytes with _ | ⟨b₁, _ | ⟨b₂, _ | ⟨b₃, bytes⟩⟩⟩
    · simp at h
    · dsimp only at h
      split_ifs at h <;> simp at h
    · dsimp only at h
      split_ifs at h <;> simp at h
    · by_cases hs : within (secondOfFour b).1 (secondOfFour b).2 b₁ = true <;>
        by_cases ht : isTail b₂ = true <;> by_cases ht' : isTail b₃ = true <;>
        simp only [hs, ht, ht', if_true] at h
      · obtain ⟨hc, rfl⟩ := Prod.mk.inj h
        obtain ⟨hs, hlong, hlast⟩ := second_of_four_iff.mp hs
        exact ⟨_, [b₁, b₂, b₃], .four h₄.1 h₄.2 hlong hlast hs (isTail_iff.mp ht)
          (isTail_iff.mp ht'), (Option.some.inj hc).symm, rfl⟩
      all_goals simp at h
  · simp at h

end Scan

section Character

variable {m n k : ℕ} {bytes : Bytes} {b : UInt8} {c : Char}

theorem Form.of_eq (h : Form m bytes) (hcode : m = n) : Form n bytes :=
  hcode ▸ h

theorem toNat_ofNat (h : k < 256) : (UInt8.ofNat k).toNat = k :=
  UInt8.toNat_ofNat_of_lt' h

theorem ofNat_eq_iff (h : k < 256) : UInt8.ofNat k = b ↔ k = b.toNat := by
  rw [← UInt8.toNat_inj, toNat_ofNat h]

theorem form_encodeChar (c : Char) : Form c.val.toNat (String.utf8EncodeChar c) := by
  have hlast := code_lt c
  have hvalid := c.valid
  unfold UInt32.isValidChar Nat.isValidChar at hvalid
  rw [String.utf8EncodeChar.eq_1]
  generalize c.val.toNat = n at *
  split_ifs with h₁ h₂ h₃
  · exact (Form.one (by rw [toNat_ofNat] <;> omega)).of_eq (toNat_ofNat (by omega))
  · refine Form.of_eq (.two ?_ ?_ ?_) ?_
    all_goals simp (disch := omega) only [Continues, toNat_ofNat]; omega
  · refine Form.of_eq (.three ?_ ?_ ?_ ?_ ?_ ?_) ?_
    all_goals simp (disch := omega) only [Continues, toNat_ofNat]; omega
  · refine Form.of_eq (.four ?_ ?_ ?_ ?_ ?_ ?_ ?_) ?_
    all_goals simp (disch := omega) only [Continues, toNat_ofNat]; omega

theorem Form.isValidChar (h : Form n bytes) : n.isValidChar := by
  unfold Nat.isValidChar
  cases h with
  | one h => omega
  | two hl hu h₁ =>
    unfold Continues at h₁
    omega
  | three hl hu hlong hplain h₁ h₂ =>
    unfold Continues at h₁ h₂
    omega
  | four hl hu hlong hlast h₁ h₂ h₃ =>
    unfold Continues at h₁ h₂ h₃
    omega

theorem Form.encodeChar (h : Form n bytes) : String.utf8EncodeChar (Char.ofNat n) = bytes := by
  have hcode : (Char.ofNat n).val.toNat = n := by
    change (Char.ofNat n).toNat = n
    rw [Char.toNat_ofNat, if_pos h.isValidChar]
  rw [String.utf8EncodeChar.eq_1, hcode]
  clear hcode
  cases h with
  | one h => rw [if_pos (by omega), UInt8.ofNat_toNat]
  | two hl hu h₁ =>
    unfold Continues at h₁
    rw [if_neg (by omega), if_pos (by omega)]
    simp (disch := omega) only [List.cons.injEq, ofNat_eq_iff, and_true]
    omega
  | three hl hu hlong hplain h₁ h₂ =>
    unfold Continues at h₁ h₂
    rw [if_neg (by omega), if_neg (by omega), if_pos (by omega)]
    simp (disch := omega) only [List.cons.injEq, ofNat_eq_iff, and_true]
    omega
  | four hl hu hlong hlast h₁ h₂ h₃ =>
    unfold Continues at h₁ h₂ h₃
    rw [if_neg (by omega), if_neg (by omega), if_neg (by omega)]
    simp (disch := omega) only [List.cons.injEq, ofNat_eq_iff, and_true]
    omega

/-- A byte of ASCII stands in no form but its own. -/
theorem Form.eq_of_mem (h : Form n bytes) (hmem : b ∈ bytes) (hb : b.toNat < 0x80) :
    n = b.toNat := by
  cases h with
  | one => rw [List.mem_singleton.mp hmem]
  | two hl hu h₁ =>
    simp only [List.mem_cons, List.not_mem_nil, or_false] at hmem
    obtain ⟨h₁, -⟩ := h₁
    rcases hmem with rfl | rfl <;> omega
  | three hl hu hlong hplain h₁ h₂ =>
    simp only [List.mem_cons, List.not_mem_nil, or_false] at hmem
    obtain ⟨⟨h₁, -⟩, ⟨h₂, -⟩⟩ := And.intro h₁ h₂
    rcases hmem with rfl | rfl | rfl <;> omega
  | four hl hu hlong hlast h₁ h₂ h₃ =>
    simp only [List.mem_cons, List.not_mem_nil, or_false] at hmem
    obtain ⟨⟨h₁, -⟩, ⟨h₂, -⟩, ⟨h₃, -⟩⟩ := And.intro h₁ (And.intro h₂ h₃)
    rcases hmem with rfl | rfl | rfl | rfl <;> omega

theorem newline_mem_encodeChar (h : Lines.newline ∈ String.utf8EncodeChar c) : c = '\n' := by
  have hcode : c.val.toNat = 10 := (form_encodeChar c).eq_of_mem h (by decide)
  rw [← Char.ofNat_toNat c]
  exact congrArg Char.ofNat hcode

theorem units_encodeChar_append (c : Char) (rest : Bytes) :
    units (String.utf8EncodeChar c ++ rest) = some c :: units rest := by
  have hform := form_encodeChar c
  obtain ⟨b, tail, hcons⟩ := List.exists_cons_of_ne_nil (String.utf8EncodeChar_ne_nil (c := c))
  rw [hcons] at hform ⊢
  have hchar : Char.ofNat c.val.toNat = c := Char.ofNat_toNat c
  rw [List.cons_append, units_cons, hform.scan, hchar]

end Character

section Text

variable {bytes line rest : Bytes} {text : List Char} {lines : List Bytes}

theorem encode_cons (c : Char) (text : List Char) :
    encode (c :: text) = String.utf8EncodeChar c ++ encode text := rfl

theorem newline_notMem_encode (h : '\n' ∉ text) : Lines.newline ∉ encode text := by
  unfold encode
  rw [List.mem_flatMap]
  rintro ⟨c, hc, hmem⟩
  exact h (newline_mem_encodeChar hmem ▸ hc)

theorem units_encode (text : List Char) : units (encode text) = text.map some := by
  induction text with
  | nil =>
    rw [encode_nil, units]
    rfl
  | cons c text ih => rw [encode_cons, units_encodeChar_append, ih, List.map_cons]

theorem encode_of_units (h : units bytes = text.map some) : encode text = bytes := by
  fun_induction units bytes generalizing text with
  | case1 =>
    obtain rfl : text = [] := by simpa using h.symm
    rfl
  | case2 b rest _ ih =>
    obtain _ | ⟨c, text⟩ := text
    · simp at h
    · obtain ⟨hc, hrest⟩ := List.cons.inj h
      obtain ⟨n, tail, hform, rfl, hbytes⟩ := exists_form_of_scan (Prod.ext hc rfl)
      rw [encode_cons, hform.encodeChar, ih hrest, List.cons_append, ← hbytes]

theorem mapM_id_eq_some_iff {α : Type} {units : List (Option α)} {list : List α} :
    units.mapM id = some list ↔ units = list.map some := by
  induction units generalizing list with
  | nil => cases list <;> simp
  | cons unit units ih =>
    rw [List.mapM_cons]
    cases unit with
    | none => cases list <;> simp
    | some a => cases list <;> simp [Option.bind_eq_some_iff, ih, and_comm]

theorem decode?_eq_some_iff : decode? bytes = some text ↔ encode text = bytes := by
  rw [decode?, mapM_id_eq_some_iff]
  refine ⟨encode_of_units, ?_⟩
  rintro rfl
  exact units_encode text

def IsText (bytes : Bytes) : Prop :=
  ∃ text, encode text = bytes

theorem decode?_eq_none_iff : decode? bytes = none ↔ ¬IsText bytes := by
  rw [Option.eq_none_iff_forall_ne_some, IsText, not_exists]
  simp only [ne_eq, decode?_eq_some_iff]

theorem exists_cut_of_encode (hline : Lines.newline ∉ line)
    (h : encode text = line ++ Lines.newline :: rest) :
    ∃ front back, text = front ++ '\n' :: back ∧ encode front = line ∧ encode back = rest := by
  induction text generalizing line with
  | nil => simp at h
  | cons c text ih =>
    rw [encode_cons] at h
    by_cases hc : c = '\n'
    · subst hc
      obtain _ | ⟨b, line⟩ := line
      · exact ⟨[], text, rfl, rfl, (List.cons.inj h).2⟩
      · have hb : Lines.newline = b := (List.cons.inj h).1
        exact absurd (by simp [hb]) hline
    · have hform : Lines.newline ∉ String.utf8EncodeChar c :=
        fun hmem => hc (newline_mem_encodeChar hmem)
      -- The form of the first character lies within the line, or it would hold the newline.
      rcases List.append_eq_append_iff.mp h with ⟨line, rfl, hrest⟩ | ⟨tail, hsplit, hrest⟩
      · obtain ⟨front, back, rfl, rfl, hback⟩ := ih (fun hmem => hline (by simp [hmem])) hrest
        exact ⟨c :: front, back, rfl, rfl, hback⟩
      · obtain _ | ⟨b, tail⟩ := tail
        · have hnil : Lines.newline ∉ ([] : Bytes) := by simp
          obtain ⟨front, back, rfl, hfront, hback⟩ := ih hnil hrest.symm
          refine ⟨c :: front, back, rfl, ?_, hback⟩
          rw [encode_cons, hfront, hsplit, List.append_nil, List.append_nil]
        · have hb : Lines.newline = b := (List.cons.inj hrest).1
          exact absurd (by simp [hsplit, hb]) hform

theorem isText_append_cons (hline : Lines.newline ∉ line) (rest : Bytes) :
    IsText (line ++ Lines.newline :: rest) ↔ IsText line ∧ IsText rest := by
  constructor
  · rintro ⟨text, htext⟩
    obtain ⟨front, back, -, hfront, hback⟩ := exists_cut_of_encode hline htext
    exact ⟨⟨front, hfront⟩, ⟨back, hback⟩⟩
  · rintro ⟨⟨front, rfl⟩, ⟨back, rfl⟩⟩
    exact ⟨front ++ '\n' :: back, encode_append front ('\n' :: back)⟩

/-- Bytes are a text exactly if each of their lines is one. -/
theorem isText_iff_of_lines (h : Lines.Of bytes lines) :
    IsText bytes ↔ ∀ line ∈ lines, IsText line := by
  induction h with
  | nothing => simp [show IsText [] from ⟨[], rfl⟩]
  | last => simp
  | ended hline _ ih => simp [isText_append_cons hline, ih]

end Text

end GoldenRun.Utf8
