import GoldenRun.Text.Hex
import Mathlib.Tactic

/-!
# Hexadecimal digits read back

The digits that are written for a number are digits, and they denote the number again.
-/

namespace GoldenRun.Hex

theorem digit?_digit : ∀ n < 16, digit? (digit n) = some n := by
  decide

theorem isDigit_digit {n : ℕ} (h : n < 16) : isDigit (digit n) = true := by
  rw [isDigit, digit?_digit n h]
  rfl

theorem value_append_digit (digits : List Char) {n : ℕ} (h : n < 16) :
    value (digits ++ [digit n]) = value digits * 16 + n := by
  simp [value, List.foldl_append, digit?_digit n h]

theorem value_shortest (n : ℕ) : value (shortest n) = n := by
  fun_induction shortest n with
  | case1 n h => simpa [value] using value_append_digit [] h
  | case2 n h ih =>
    rw [value_append_digit _ (Nat.mod_lt n (by decide)), ih]
    omega

theorem isDigit_of_mem_fixed {width n : ℕ} {c : Char} (h : c ∈ fixed width n) :
    isDigit c = true := by
  induction width generalizing n with
  | zero => simp [fixed] at h
  | succ width ih =>
    rcases List.mem_append.mp h with hfront | hlast
    · exact ih hfront
    · rw [List.mem_singleton.mp hlast]
      exact isDigit_digit (Nat.mod_lt n (by decide))

theorem value_fixed (width n : ℕ) : value (fixed width n) = n % 16 ^ width := by
  induction width generalizing n with
  | zero =>
    rw [pow_zero, Nat.mod_one]
    rfl
  | succ width ih =>
    rw [fixed, value_append_digit _ (Nat.mod_lt n (by decide)), ih, pow_succ', Nat.mod_mul]
    ring

theorem shortest_ne_nil (n : ℕ) : shortest n ≠ [] := by
  unfold shortest
  split_ifs <;> simp

theorem isDigit_of_mem_shortest {n : ℕ} {c : Char} (h : c ∈ shortest n) : isDigit c = true := by
  fun_induction shortest n with
  | case1 n hsmall =>
    rw [List.mem_singleton.mp h]
    exact isDigit_digit hsmall
  | case2 n _ ih =>
    rcases List.mem_append.mp h with hfront | hlast
    · exact ih hfront
    · rw [List.mem_singleton.mp hlast]
      exact isDigit_digit (Nat.mod_lt n (by decide))

theorem length_shortest_le {n k : ℕ} (h : n < 16 ^ (k + 1)) : (shortest n).length ≤ k + 1 := by
  induction k generalizing n with
  | zero =>
    rw [shortest, if_pos (by simpa using h)]
    rfl
  | succ k ih =>
    unfold shortest
    split_ifs with hsmall
    · simp
    · have hrest : n / 16 < 16 ^ (k + 1) := by
        rw [Nat.div_lt_iff_lt_mul (by decide), ← pow_succ]
        exact h
      simpa using ih hrest

end GoldenRun.Hex
