import BearerRole.Json.Printer
import BearerRole.Json.Reader
import BearerRole.Proofs.Text.Numeral

/-!
Written integers read back. Reading takes as many digits as there are, so it matters what follows: in a written
value that is never a digit, a point, or the mark of an exponent.
-/

namespace BearerRole.Json

set_option autoImplicit false

/-- What may follow a value: nothing, a comma, or a closing bracket or brace. -/
def EndsValue (rest : Text) : Prop := ∀ c ∈ rest.head?, c = 44 ∨ c = 93 ∨ c = 125

theorem ends_value_nil : EndsValue [] := by
  intro c member
  cases member

theorem ends_value_cons {c : CodePoint} (mark : c = 44 ∨ c = 93 ∨ c = 125) (rest : Text) :
    EndsValue (c :: rest) := by
  intro d member
  rw [List.head?_cons, Option.mem_some_iff] at member
  rwa [← member]

theorem EndsValue.head_ne {rest : Text} {c : CodePoint} (ends : EndsValue rest)
    (other : c ≠ 44 ∧ c ≠ 93 ∧ c ≠ 125) (tail : Text) : rest ≠ c :: tail := by
  rintro rfl
  rcases ends c rfl with comma | bracket | brace
  · exact other.1 comma
  · exact other.2.1 bracket
  · exact other.2.2 brace

theorem take_digits_append {digits rest : Text} (all : ∀ c ∈ digits, Text.isAsciiDigit c = true)
    (ends : EndsValue rest) : takeDigits (digits ++ rest) = (digits, rest) := by
  have stop : rest.takeWhile Text.isAsciiDigit = [] ∧ rest.dropWhile Text.isAsciiDigit = rest := by
    cases rest with
    | nil => exact ⟨rfl, rfl⟩
    | cons c tail =>
        have other : Text.isAsciiDigit c = false := by
          rcases ends c rfl with rfl | rfl | rfl <;> rfl
        simp [other]
  rw [takeDigits, List.takeWhile_append_of_pos all, List.dropWhile_append_of_pos all, stop.1, stop.2,
    List.append_nil]

theorem fraction_of_ends {rest : Text} (ends : EndsValue rest) : fraction? rest = (none, rest) := by
  unfold fraction?
  split
  · next tail => exact absurd rfl (ends.head_ne (by decide) tail)
  · rfl

theorem exponent_of_ends {rest : Text} (ends : EndsValue rest) : exponent? rest = (none, rest) := by
  cases rest with
  | nil => rfl
  | cons c tail =>
      have other : ¬(c = 101 ∨ c = 69) := by
        rcases ends c rfl with rfl | rfl | rfl <;> decide
      unfold exponent?
      exact if_neg other

theorem unsigned_of_nat (negative : Bool) (n : Nat) {rest : Text} (ends : EndsValue rest) :
    unsigned? negative (Text.ofNat n ++ rest) = some (⟨negative, Text.ofNat n, none, none⟩, rest) := by
  have finish : ∀ digits : Text,
      (let fraction := fraction? rest
       let exponent := exponent? fraction.2
       some (Numeral.mk negative digits fraction.1 exponent.1, exponent.2)) =
        some (⟨negative, digits, none, none⟩, rest) := by
    intro digits
    simp only [fraction_of_ends ends, exponent_of_ends ends]
  by_cases zero : n = 0
  · have single : Text.ofNat 0 = [48] := by
      rw [Text.ofNat]
      rfl
    rw [zero, single]
    exact finish [48]
  · have some : (Text.ofNat n).isEmpty = false := by
      rw [List.isEmpty_eq_false_iff]
      exact Text.of_nat_ne_nil n
    unfold unsigned?
    split
    · next tail equal =>
        exfalso
        cases front : Text.ofNat n with
        | nil => exact Text.of_nat_ne_nil n front
        | cons c digits =>
            rw [front, List.cons_append, List.cons.injEq] at equal
            rw [equal.1] at front
            exact zero (Text.of_nat_first front)
    · rw [take_digits_append (Text.digits_of_nat n) ends]
      simp only [some, Bool.false_eq_true, if_false]
      exact finish _

theorem of_nat_front (n : Nat) :
    ∃ c digits, Text.ofNat n = c :: digits ∧ Text.isAsciiDigit c = true := by
  cases front : Text.ofNat n with
  | nil => exact absurd front (Text.of_nat_ne_nil n)
  | cons c digits =>
      exact ⟨c, digits, rfl, Text.digits_of_nat n c (by rw [front]; exact List.mem_cons_self ..)⟩

theorem of_int_front (n : Int) : ∃ c digits, Text.isAsciiDigit c = true ∧
    (Text.ofInt n = c :: digits ∨ Text.ofInt n = 45 :: c :: digits) := by
  cases n with
  | ofNat m =>
      obtain ⟨c, digits, shape, digit⟩ := of_nat_front m
      exact ⟨c, digits, digit, Or.inl shape⟩
  | negSucc m =>
      obtain ⟨c, digits, shape, digit⟩ := of_nat_front (m + 1)
      exact ⟨c, digits, digit, Or.inr (by rw [Text.ofInt, shape])⟩

theorem of_nat_append_ne (n : Nat) (rest tail : Text) : Text.ofNat n ++ rest ≠ 45 :: tail := by
  intro equal
  obtain ⟨c, digits, shape, digit⟩ := of_nat_front n
  rw [shape, List.cons_append, List.cons.injEq] at equal
  rw [equal.1] at digit
  exact absurd digit (by decide)

theorem number_of_int {limits : Limits} (n : Int)
    (fits : limits.allowsDigits (Text.ofNat n.natAbs).length = true) {rest : Text}
    (ends : EndsValue rest) : number? limits (Text.ofInt n ++ rest) = some (.int n, rest) := by
  have value : ∀ negative, Numeral.value? limits ⟨negative, Text.ofNat n.natAbs, none, none⟩ =
      some (.int (if negative then -(n.natAbs : Int) else n.natAbs)) := by
    intro negative
    simp only [Numeral.value?, fits, if_true, Text.digits_value_of_nat]
  cases n with
  | ofNat m =>
      have read := unsigned_of_nat false m ends
      have positive := value false
      simp only [Int.ofNat_eq_natCast, Int.natAbs_natCast] at positive
      unfold number? Text.ofInt
      split
      · next tail equal => exact absurd equal (of_nat_append_ne m rest tail)
      · simp only [read, positive, Option.bind_eq_bind, Option.bind_some]
        rfl
  | negSucc m =>
      have read := unsigned_of_nat true (m + 1) ends
      have negative := value true
      simp only [Int.natAbs_negSucc] at negative
      simp only [Text.ofInt, List.cons_append, number?, read, negative, Option.bind_eq_bind, Option.bind_some]
      rfl

end BearerRole.Json
