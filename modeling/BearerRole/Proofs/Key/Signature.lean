import BearerRole.Key.Signature
import Mathlib.Tactic.Ring

/-!
What a valid signature is, in numbers: a byte string of the modulus' width whose power to the public exponent is the
padded digest. `Signature.verifies` computes that power by squaring and reduces at each step.
-/

namespace BearerRole

set_option autoImplicit false

theorem pow_mod_eq (b e m : Nat) : powMod b e m = b ^ e % m := by
  induction e using Nat.strong_induction_on generalizing b with
  | h e ih =>
      rw [powMod]
      by_cases zero : e = 0
      · rw [if_pos zero, zero, Nat.pow_zero]
      · have half : powMod (b * b % m) (e / 2) m = (b * b) ^ (e / 2) % m := by
          rw [ih (e / 2) (by omega), ← Nat.pow_mod]
        rw [if_neg zero, half]
        by_cases odd : e % 2 = 1
        · have split : e = 2 * (e / 2) + 1 := by omega
          have power : b * (b * b) ^ (e / 2) = b ^ e := by
            calc
              b * (b * b) ^ (e / 2) = b ^ (2 * (e / 2) + 1) := by
                rw [pow_succ, pow_mul]
                ring
              _ = b ^ e := by rw [← split]
          rw [if_pos odd, Nat.mul_mod_mod, power]
        · have split : e = 2 * (e / 2) := by omega
          have power : (b * b) ^ (e / 2) = b ^ e := by
            calc
              (b * b) ^ (e / 2) = b ^ (2 * (e / 2)) := by rw [pow_mul, pow_two]
              _ = b ^ e := by rw [← split]
          rw [if_neg odd, power]

namespace Signature

def block (width : Nat) (info : Bytes) : Bytes :=
  [0x00, 0x01] ++ List.replicate (width - info.length - 3) 0xFF ++ [0x00] ++ info

/-- A signature of a message by an algorithm under a key, as PKCS #1 v1.5 has it: as wide as the modulus, a number
below it, and with the padded digest as its power. The padding has at least eight bytes. -/
structure IsValid (key : RsaKey) (algorithm : Algorithm) (message signature : Bytes) : Prop where
  room : (algorithm.digestInfo message).length + 11 ≤ key.width
  width : signature.length = key.width
  reduced : Bytes.toNat signature < key.modulus
  power : Bytes.toNat signature ^ key.exponent % key.modulus =
    Bytes.toNat (block key.width (algorithm.digestInfo message))

/-- A key that can verify accepts the valid signatures and no others; one that cannot accepts none. -/
theorem verifies_iff {key : RsaKey} {algorithm : Algorithm} {message signature : Bytes} :
    verifies key algorithm message signature = true ↔
      canVerify key = true ∧ IsValid key algorithm message signature := by
  unfold verifies paddedBlock?
  by_cases room : (algorithm.digestInfo message).length + 11 ≤ key.width
  · simp only [if_pos room, Bool.and_eq_true, beq_iff_eq, decide_eq_true_eq, pow_mod_eq]
    constructor
    · intro facts
      rcases facts with ⟨⟨⟨able, width⟩, reduced⟩, power⟩
      exact ⟨able, room, width, reduced, power⟩
    · intro facts
      rcases facts with ⟨able, valid⟩
      exact ⟨⟨⟨able, valid.width⟩, valid.reduced⟩, valid.power⟩
  · simp only [if_neg room]
    constructor
    · intro accepted
      cases accepted
    · intro facts
      rcases facts with ⟨_, valid⟩
      exact absurd valid.room room

end Signature

end BearerRole
