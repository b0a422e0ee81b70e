import GoldenRun.Text.Utf8
import Mathlib

/-!
# The order of texts and the order of bytes

Texts come in the same order by their characters as by the bytes of their UTF-8 form. Of two
characters the greater one has the greater byte at the first place where their forms differ, and
no form is the beginning of another.
-/

namespace GoldenRun.Utf8

theorem code_lt (c : Char) : c.val.toNat < 0x110000 := by
  have hvalid := c.valid
  unfold UInt32.isValidChar Nat.isValidChar at hvalid
  omega

theorem cons_lt_cons_ofNat {k l : ℕ} (hk : k < 256) (hl : l < 256) (s t : Bytes) :
    UInt8.ofNat k :: s < UInt8.ofNat l :: t ↔ k < l ∨ k = l ∧ s < t := by
  rw [List.cons_lt_cons_iff, UInt8.lt_iff_toNat_lt, ← UInt8.toNat_inj]
  simp [Nat.mod_eq_of_lt hk, Nat.mod_eq_of_lt hl]

/-- The first of two characters that differ decides, whatever follows. -/
theorem encodeChar_append_lt {c d : Char} (h : c < d) (s t : Bytes) :
    String.utf8EncodeChar c ++ s < String.utf8EncodeChar d ++ t := by
  have hlt : c.val.toNat < d.val.toNat := h
  have hlast := code_lt d
  have hdigits : ∀ k : ℕ, k / 4096 = k / 64 / 64 ∧ k / 262144 = k / 64 / 64 / 64 := by
    intro k
    omega
  rw [String.utf8EncodeChar.eq_1, String.utf8EncodeChar.eq_1]
  simp only [(hdigits _).1, (hdigits _).2]
  generalize c.val.toNat = m at *
  generalize d.val.toNat = n at *
  -- A longer form begins with a greater byte. The bytes of forms of one length are digits.
  split_ifs
  all_goals
    simp only [List.cons_append, List.nil_append]
    repeat rw [cons_lt_cons_ofNat (by omega) (by omega)]
    omega

theorem encode_lt_encode {s t : List Char} (h : s < t) : encode s < encode t := by
  induction s generalizing t with
  | nil =>
    obtain _ | ⟨d, t⟩ := t
    · exact absurd h (lt_irrefl _)
    · have hne : encode (d :: t) ≠ [] := by
        simp [encode, String.utf8EncodeChar_ne_nil]
      obtain ⟨b, rest, hcons⟩ := List.exists_cons_of_ne_nil hne
      rw [hcons]
      exact List.nil_lt_cons b rest
  | cons c s ih =>
    obtain _ | ⟨d, t⟩ := t
    · exact absurd h (List.not_lt_nil _)
    · rcases List.cons_lt_cons_iff.mp h with hlt | ⟨rfl, hrest⟩
      · exact encodeChar_append_lt hlt (encode s) (encode t)
      · exact List.append_left_lt (ih hrest)

end GoldenRun.Utf8
