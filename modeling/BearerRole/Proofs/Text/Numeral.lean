import BearerRole.Text.Basic
import Mathlib.Algebra.Group.Nat.Defs
import Mathlib.Data.Nat.Basic

/-!
Written numbers. The decimal digits of a number are as few as can be, without a zero before them, and they
write that number; four hexadecimal digits write any number of sixteen bits.
-/

namespace BearerRole.Text

set_option autoImplicit false

theorem digit_of_lt_ten {value : Nat} (bound : value < 10) : digit value = 48 + value := by
  rw [digit, if_pos bound]

theorem hex_value_digit (value : Nat) (bound : value < 16) : hexValue? (digit value) = some value := by
  revert value
  decide

theorem is_ascii_digit_digit (value : Nat) (bound : value < 10) : isAsciiDigit (digit value) = true := by
  revert value
  decide

theorem digits_of_nat (n : Nat) : ∀ c ∈ ofNat n, isAsciiDigit c = true := by
  fun_induction ofNat n with
  | case1 n small =>
      intro c member
      rw [List.mem_singleton.mp member]
      exact is_ascii_digit_digit n small
  | case2 n large ih =>
      intro c member
      rcases List.mem_append.mp member with earlier | last
      · exact ih c earlier
      · rw [List.mem_singleton.mp last]
        exact is_ascii_digit_digit _ (Nat.mod_lt n (by decide))

theorem of_nat_ne_nil (n : Nat) : ofNat n ≠ [] := by
  fun_cases ofNat n with
  | case1 => exact List.cons_ne_nil _ _
  | case2 => exact List.append_ne_nil_of_right_ne_nil _ (List.cons_ne_nil _ _)

theorem digits_value_append (digits : Text) (c : CodePoint) :
    digitsValue (digits ++ [c]) = 10 * digitsValue digits + (c - 48) := by
  simp [digitsValue, List.foldl_append]

theorem digits_value_of_nat (n : Nat) : digitsValue (ofNat n) = n := by
  fun_induction ofNat n with
  | case1 n small =>
      rw [digit_of_lt_ten small]
      simp [digitsValue]
  | case2 n large ih =>
      have last : n % 10 < 10 := Nat.mod_lt n (by decide)
      rw [digits_value_append, ih, digit_of_lt_ten last]
      omega

theorem of_nat_first {n : Nat} {rest : Text} (first : ofNat n = 48 :: rest) : n = 0 := by
  fun_induction ofNat n generalizing rest with
  | case1 n small =>
      rw [digit_of_lt_ten small, List.cons.injEq] at first
      exact Nat.add_eq_left.mp first.1
  | case2 n large ih =>
      cases front : ofNat (n / 10) with
      | nil => exact absurd front (of_nat_ne_nil _)
      | cons c tail =>
          rw [front, List.cons_append, List.cons.injEq] at first
          rw [front] at ih
          have none : n / 10 = 0 := ih (by rw [first.1])
          omega

theorem length_of_nat_le {n digits : Nat} (some : 0 < digits) (bound : n < 10 ^ digits) :
    (ofNat n).length ≤ digits := by
  fun_induction ofNat n generalizing digits with
  | case1 n small => exact some
  | case2 n large ih =>
      obtain ⟨fewer, rfl⟩ : ∃ fewer, digits = fewer + 1 := ⟨digits - 1, by omega⟩
      have shorter : n / 10 < 10 ^ fewer := by
        rw [Nat.div_lt_iff_lt_mul (by decide)]
        rwa [Nat.pow_succ] at bound
      have positive : 0 < fewer := by
        by_contra zero
        have equal : fewer = 0 := by omega
        rw [equal, Nat.pow_zero] at shorter
        omega
      rw [List.length_append, List.length_singleton]
      exact Nat.succ_le_succ (ih positive shorter)

theorem hex_padded_four {n : Nat} (bound : n < 65536) :
    hexPadded 4 n =
      [digit (n / 4096), digit (n / 256 % 16), digit (n / 16 % 16), digit (n % 16)] := by
  have zero : digit 0 = 48 := rfl
  by_cases one : n < 16
  · rw [hexPadded, hex, if_pos one, show n / 4096 = 0 by omega, show n / 256 % 16 = 0 by omega,
      show n / 16 % 16 = 0 by omega, show n % 16 = n by omega, zero]
    rfl
  by_cases two : n < 256
  · rw [hexPadded, hex, if_neg one, hex, if_pos (by omega), show n / 4096 = 0 by omega,
      show n / 256 % 16 = 0 by omega, show n / 16 % 16 = n / 16 by omega, zero]
    rfl
  by_cases three : n < 4096
  · rw [hexPadded, hex, if_neg one, hex, if_neg (by omega), hex, if_pos (by omega),
      show n / 4096 = 0 by omega, show n / 16 / 16 = n / 256 % 16 by omega, zero]
    rfl
  · rw [hexPadded, hex, if_neg one, hex, if_neg (by omega), hex, if_neg (by omega), hex,
      if_pos (by omega), show n / 16 / 16 / 16 = n / 4096 by omega,
      show n / 16 / 16 % 16 = n / 256 % 16 by omega]
    rfl

end BearerRole.Text
