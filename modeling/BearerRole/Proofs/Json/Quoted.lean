import BearerRole.Json.Printer
import BearerRole.Json.Reader
import BearerRole.Proofs.Text.Numeral
import Mathlib.Tactic.SplitIfs

/-!
Quoted text reads back. Every code point that is no surrogate is written in one of four ways: as it is, by an
escape of one letter, by one escape by number, or by two of them that make a pair. None of them begins with a
quote, so the closing quote is the first that reading meets.
-/

namespace BearerRole

set_option autoImplicit false

/-- A code point that every Unicode encoding can carry. -/
def Text.IsScalar (c : CodePoint) : Prop := c < 0x110000 ∧ Text.isSurrogate c = false

instance (c : CodePoint) : Decidable (Text.IsScalar c) :=
  inferInstanceAs (Decidable (c < 0x110000 ∧ Text.isSurrogate c = false))

namespace Json

theorem hex_unit_padded {n : Nat} (bound : n < 65536) (rest : Text) :
    hexUnit? (Text.hexPadded 4 n ++ rest) = some (n, rest) := by
  rw [Text.hex_padded_four bound]
  simp only [List.cons_append, List.nil_append, hexUnit?,
    Text.hex_value_digit (n / 4096) (by omega), Text.hex_value_digit (n / 256 % 16) (by omega),
    Text.hex_value_digit (n / 16 % 16) (by omega), Text.hex_value_digit (n % 16) (by omega),
    Option.bind_eq_bind, Option.bind_some]
  rw [show 4096 * (n / 4096) + 256 * (n / 256 % 16) + 16 * (n / 16 % 16) + n % 16 = n by omega]

private theorem high_of_pair {c : Nat} (large : 0x10000 ≤ c) (bound : c < 0x110000) :
    Utf16.isHigh (0xD800 + (c - 0x10000) / 1024) = true := by
  simp only [Utf16.isHigh, Bool.and_eq_true, decide_eq_true_eq]
  omega

private theorem low_of_pair (c : Nat) : Utf16.isLow (0xDC00 + (c - 0x10000) % 1024) = true := by
  simp only [Utf16.isLow, Bool.and_eq_true, decide_eq_true_eq]
  omega

private theorem join_of_pair {c : Nat} (large : 0x10000 ≤ c) :
    Utf16.joinPair (0xD800 + (c - 0x10000) / 1024) (0xDC00 + (c - 0x10000) % 1024) = c := by
  have halves : 0x10000 + (0xD800 + (c - 0x10000) / 1024 - 0xD800) * 1024 +
      (0xDC00 + (c - 0x10000) % 1024 - 0xDC00) = c := by omega
  exact halves

private theorem not_high_of_scalar {c : Nat} (scalar : Text.IsScalar c) : Utf16.isHigh c = false := by
  obtain ⟨_, whole⟩ := scalar
  by_contra high
  simp only [Utf16.isHigh, Bool.not_eq_false, Bool.and_eq_true, decide_eq_true_eq] at high
  have surrogate : Text.isSurrogate c = true := by
    simp only [Text.isSurrogate, Bool.and_eq_true, decide_eq_true_eq]
    exact ⟨high.1, Nat.le_of_lt (Nat.lt_trans high.2 (by decide))⟩
  rw [whole] at surrogate
  contradiction

theorem character_of_unit {t rest : Text} {unit : Nat} (read : hexUnit? t = some (unit, rest))
    (single : Utf16.isHigh unit = false) : character? (92 :: 117 :: t) = some (unit, rest) := by
  simp only [character?, numbered?, read, Option.bind_eq_bind, Option.bind_some, single,
    Bool.false_eq_true, if_false]

theorem character_of_pair {t after rest : Text} {high low : Nat}
    (first : hexUnit? t = some (high, 92 :: 117 :: after)) (second : hexUnit? after = some (low, rest))
    (isHigh : Utf16.isHigh high = true) (isLow : Utf16.isLow low = true) :
    character? (92 :: 117 :: t) = some (Utf16.joinPair high low, rest) := by
  simp only [character?, numbered?, first, second, Option.bind_eq_bind, Option.bind_some, isHigh,
    isLow, if_true]

theorem numbered_of_unit {c : Nat} (small : c < 0x10000) :
    numbered c = 92 :: 117 :: Text.hexPadded 4 c := by
  rw [numbered, if_pos small]
  rfl

theorem numbered_of_pair {c : Nat} (large : ¬c < 0x10000) :
    numbered c = 92 :: 117 :: (Text.hexPadded 4 (0xD800 + (c - 0x10000) / 1024) ++
      92 :: 117 :: Text.hexPadded 4 (0xDC00 + (c - 0x10000) % 1024)) := by
  have mark : text "\\u" = [92, 117] := rfl
  rw [numbered, if_neg large, mark, List.append_assoc, List.append_assoc]
  simp only [List.cons_append, List.nil_append]

theorem character_numbered {c : Nat} (scalar : Text.IsScalar c) (rest : Text) :
    character? (numbered c ++ rest) = some (c, rest) := by
  by_cases small : c < 0x10000
  · rw [numbered_of_unit small]
    exact character_of_unit (hex_unit_padded small rest) (not_high_of_scalar scalar)
  · have least : 0x10000 ≤ c := Nat.le_of_not_lt small
    have bound : c < 0x110000 := scalar.1
    have high : 0xD800 + (c - 0x10000) / 1024 < 65536 := by omega
    have low : 0xDC00 + (c - 0x10000) % 1024 < 65536 := by omega
    rw [numbered_of_pair small, List.cons_append, List.cons_append, List.append_assoc,
      List.cons_append, List.cons_append,
      character_of_pair (hex_unit_padded high _) (hex_unit_padded low rest)
        (high_of_pair least bound) (low_of_pair c), join_of_pair least]

theorem character_plain {c : Nat} (noEscape : c ≠ 92) (visible : ¬c < 32) (rest : Text) :
    character? (c :: rest) = some (c, rest) := by
  unfold character?
  split
  · next equal => exact absurd (List.cons.inj equal).1 noEscape
  · next equal => exact absurd (List.cons.inj equal).1 noEscape
  · next equal => exact absurd (List.cons.inj equal).1 noEscape
  · next equal =>
      obtain ⟨rfl, rfl⟩ := List.cons.inj equal
      rw [if_neg visible]
  · next equal => exact absurd equal (List.cons_ne_nil _ _)

theorem character_character {c : Nat} (scalar : Text.IsScalar c) (rest : Text) :
    character? (character true c ++ rest) = some (c, rest) := by
  unfold character
  split_ifs with quoted backspace feed line carriage tab control wide
  · rcases quoted with rfl | rfl <;> rfl
  · rw [backspace]
    rfl
  · rw [feed]
    rfl
  · rw [line]
    rfl
  · rw [carriage]
    rfl
  · rw [tab]
    rfl
  · exact character_numbered scalar rest
  · exact character_numbered scalar rest
  · exact character_plain (fun equal => quoted (Or.inr equal)) control rest

theorem character_first (c : Nat) : ∃ first tail, character true c = first :: tail ∧ first ≠ 34 := by
  have byNumber : ∃ first tail, numbered c = first :: tail ∧ first ≠ 34 := by
    by_cases small : c < 0x10000
    · exact ⟨92, _, numbered_of_unit small, by decide⟩
    · exact ⟨92, _, numbered_of_pair small, by decide⟩
  unfold character
  split_ifs with quoted
  · exact ⟨92, _, rfl, by decide⟩
  · exact ⟨92, _, rfl, by decide⟩
  · exact ⟨92, _, rfl, by decide⟩
  · exact ⟨92, _, rfl, by decide⟩
  · exact ⟨92, _, rfl, by decide⟩
  · exact ⟨92, _, rfl, by decide⟩
  · exact byNumber
  · exact byNumber
  · exact ⟨c, [], rfl, fun equal => quoted (Or.inl equal)⟩

theorem quoted_step {fuel : Nat} {seen t rest : Text} {c : CodePoint}
    (goesOn : ∀ tail, t ≠ 34 :: tail) (read : character? t = some (c, rest)) :
    quoted? (fuel + 1) seen t = quoted? fuel (c :: seen) rest := by
  rw [quoted?, read]
  · rfl
  · exact goesOn

/-- Quoted text reads back, given fuel for each of its code points and the closing quote. -/
theorem quoted_flat_map {t : Text} (scalars : ∀ c ∈ t, Text.IsScalar c) (fuel : Nat)
    (enough : t.length < fuel) (seen rest : Text) :
    quoted? fuel seen (t.flatMap (character true) ++ 34 :: rest) = some (seen.reverse ++ t, rest) := by
  induction t generalizing fuel seen with
  | nil =>
      obtain ⟨less, rfl⟩ := Nat.exists_eq_add_of_lt enough
      rw [List.append_nil]
      rfl
  | cons c t ih =>
      obtain ⟨less, rfl⟩ : ∃ less, fuel = less + 1 := ⟨fuel - 1, by simp at enough; omega⟩
      obtain ⟨first, tail, shape, notQuote⟩ := character_first c
      have scalar := scalars c (List.mem_cons_self ..)
      have goesOn : ∀ other, character true c ++ (t.flatMap (character true) ++ 34 :: rest) ≠ 34 :: other := by
        intro other equal
        rw [shape, List.cons_append] at equal
        exact notQuote (List.cons.inj equal).1
      rw [List.flatMap_cons, List.append_assoc, quoted_step goesOn (character_character scalar _),
        ih (fun d member => scalars d (List.mem_cons_of_mem _ member)) less (by simpa using enough),
        List.reverse_cons, List.append_assoc]
      rfl

theorem length_le_flat_map (t : Text) : t.length ≤ (t.flatMap (character true)).length := by
  induction t with
  | nil => exact Nat.le_refl 0
  | cons c t ih =>
      obtain ⟨first, tail, shape, _⟩ := character_first c
      rw [List.flatMap_cons, shape, List.length_append, List.length_cons, List.length_cons]
      omega

/-- The closing quote ends a text, whatever follows; the length of both is fuel enough. -/
theorem quoted_written {t : Text} (scalars : ∀ c ∈ t, Text.IsScalar c) (rest : Text) :
    quoted? ((t.flatMap (character true) ++ 34 :: rest).length + 1) []
      (t.flatMap (character true) ++ 34 :: rest) = some (t, rest) := by
  have longer := length_le_flat_map t
  exact quoted_flat_map scalars _ (by rw [List.length_append]; omega) [] rest

end Json

end BearerRole
