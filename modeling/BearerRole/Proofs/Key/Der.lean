import BearerRole.Key.Der
import Mathlib.Algebra.Group.Nat.Defs
import Mathlib.Data.List.Basic
import Mathlib.Data.List.Induction

/-!
The distinguished encoding is exact in both directions: what is written reads back in front of anything that may follow, and whatever
is read is the written form of what it reads as. Writing fails of itself only for lengths that have no form, which take more
bytes than the byte that counts them can say.
-/

namespace BearerRole

set_option autoImplicit false

namespace Bytes

theorem to_nat_concat (bytes : Bytes) (b : UInt8) : toNat (bytes ++ [b]) = 256 * toNat bytes + b.toNat := by
  rw [toNat, List.foldl_append]
  rfl

theorem to_nat_zero_cons (bytes : Bytes) : toNat (0 :: bytes) = toNat bytes := rfl

theorem to_nat_lt (bytes : Bytes) : toNat bytes < 256 ^ bytes.length := by
  induction bytes using List.reverseRecOn with
  | nil => exact Nat.one_pos
  | append_singleton bytes b ih =>
      have last := b.toNat_lt
      rw [to_nat_concat, List.length_append, List.length_singleton, Nat.pow_succ]
      omega

end Bytes

namespace Der

theorem to_nat_magnitude (n : Nat) : Bytes.toNat (magnitude n) = n := by
  induction n using Nat.strongRecOn with
  | ind n ih =>
      rw [magnitude]
      by_cases zero : n = 0
      · rw [if_pos zero, zero]
        rfl
      · have last : (UInt8.ofNat (n % 256)).toNat = n % 256 := by
          rw [UInt8.toNat_ofNat']
          omega
        rw [if_neg zero, Bytes.to_nat_concat, ih (n / 256) (by omega), last]
        omega

theorem magnitude_length_le {n width : Nat} (bound : n < 256 ^ width) : (magnitude n).length ≤ width := by
  induction width generalizing n with
  | zero =>
      have zero : n = 0 := by simpa using bound
      rw [magnitude, if_pos zero]
      exact Nat.le_refl 0
  | succ width ih =>
      rw [magnitude]
      split
      · exact Nat.zero_le _
      · have front : n / 256 < 256 ^ width := by
          apply Nat.div_lt_of_lt_mul
          rwa [← Nat.pow_succ']
        have shorter := ih front
        rw [List.length_append, List.length_singleton]
        omega

theorem magnitude_length_mono {n m : Nat} (order : n ≤ m) : (magnitude n).length ≤ (magnitude m).length := by
  have bound := Bytes.to_nat_lt (magnitude m)
  rw [to_nat_magnitude] at bound
  exact magnitude_length_le (Nat.lt_of_le_of_lt order bound)

theorem to_nat_natural_content (n : Nat) : Bytes.toNat (naturalContent n) = n := by
  have value := to_nat_magnitude n
  unfold naturalContent
  split
  · next empty =>
      rw [empty] at value
      exact value
  · next first rest digits =>
      rw [digits] at value
      split
      · exact value
      · rw [Bytes.to_nat_zero_cons, value]

theorem natural_eq_some_iff {e : Element} {n : Nat} : natural? e = some n ↔ e = Element.natural n := by
  unfold natural? Element.natural
  constructor
  · intro read
    dsimp only at read
    split at read
    · next written =>
        cases read
        rw [written.2, ← written.1]
    · cases read
  · rintro rfl
    simp only [to_nat_natural_content, and_self, if_true]

theorem bit_string_eq_some_iff {e : Element} {bytes : Bytes} : bitString? e = some bytes ↔ e = bitString bytes := by
  unfold bitString? bitString
  constructor
  · intro read
    split at read
    · next content whole =>
        split at read
        · next tagged =>
            cases read
            rw [← whole, ← tagged]
        · cases read
    · cases read
  · rintro rfl
    simp only [if_true]

/-- The lengths that have a form are those below this one: a byte counts the bytes of a length, up to 127. -/
def lengthLimit : Nat := 256 ^ 127

theorem decode_length_encode {n : Nat} (bound : n < lengthLimit) (rest : Bytes) :
    decodeLength (encodeLength n ++ rest) = some (n, rest) := by
  unfold encodeLength
  by_cases small : n < 0x80
  · have number : (UInt8.ofNat n).toNat = n := by
      rw [UInt8.toNat_ofNat']
      omega
    have single : UInt8.ofNat n < 0x80 := by
      rw [UInt8.lt_iff_toNat_lt, number]
      exact small
    rw [if_pos small, List.singleton_append, decodeLength, if_pos single, number]
  · have few : (magnitude n).length ≤ 127 := magnitude_length_le bound
    have number : (UInt8.ofNat (0x80 + (magnitude n).length)).toNat = 0x80 + (magnitude n).length := by
      rw [UInt8.toNat_ofNat']
      omega
    have several : ¬UInt8.ofNat (0x80 + (magnitude n).length) < 0x80 := by
      rw [UInt8.lt_iff_toNat_lt, number]
      exact Nat.not_lt.mpr (Nat.le_add_right _ _)
    have again : encodeLength n = UInt8.ofNat (0x80 + (magnitude n).length) :: magnitude n := by
      rw [encodeLength, if_neg small]
    rw [if_neg small, List.cons_append, decodeLength, if_neg several, number, Nat.add_sub_cancel_left]
    simp only [List.take_left, List.drop_left, to_nat_magnitude, again, and_self, if_true]

theorem encode_length_mono {n m : Nat} (order : n ≤ m) : (encodeLength n).length ≤ (encodeLength m).length := by
  have digits := magnitude_length_mono order
  unfold encodeLength
  split
  · split
    · exact Nat.le_refl _
    · simp
  · rw [if_neg (by omega), List.length_cons, List.length_cons]
    omega

theorem written_of_decode_length {bytes rest : Bytes} {n : Nat} (read : decodeLength bytes = some (n, rest)) :
    n < lengthLimit ∧ bytes = encodeLength n ++ rest := by
  cases bytes with
  | nil => cases read
  | cons first after =>
      have byte := first.toNat_lt
      rw [decodeLength] at read
      split at read
      · next single =>
          cases read
          rw [UInt8.lt_iff_toNat_lt] at single
          have small : first.toNat < 0x80 := single
          have bound : 0x80 ≤ lengthLimit := by decide
          rw [encodeLength, if_pos small, UInt8.ofNat_toNat]
          exact ⟨Nat.lt_of_lt_of_le small bound, rfl⟩
      · dsimp only at read
        split at read
        · next written =>
            rw [Option.some.injEq, Prod.mk.injEq] at read
            obtain ⟨rfl, rfl⟩ := read
            have bound := Bytes.to_nat_lt (after.take (first.toNat - 0x80))
            have order : 256 ^ (first.toNat - 0x80) ≤ lengthLimit := by
              rw [lengthLimit]
              exact Nat.pow_le_pow_right (by decide) (by omega)
            rw [written.1] at bound
            refine ⟨Nat.lt_of_lt_of_le bound order, ?_⟩
            rw [written.2, List.cons_append, List.take_append_drop]
        · cases read

def Element.IsLow (e : Element) : Prop := e.tag.toNat % 32 ≠ 31

theorem Element.decode_encode {e : Element} (low : e.IsLow) (short : e.content.length < lengthLimit) (rest : Bytes) :
    Element.decode (e.encode ++ rest) = some (e, rest) := by
  unfold Element.IsLow at low
  unfold Element.encode
  rw [List.cons_append, List.cons_append, List.append_assoc, Element.decode, if_neg low, decode_length_encode short]
  simp

theorem Element.written_of_decode {bytes rest : Bytes} {e : Element} (read : Element.decode bytes = some (e, rest)) :
    e.IsLow ∧ e.content.length < lengthLimit ∧ bytes = e.encode ++ rest := by
  cases bytes with
  | nil => cases read
  | cons tag after =>
      rw [Element.decode] at read
      split at read
      · cases read
      · next low =>
          obtain ⟨⟨length, content⟩, found, read⟩ := Option.bind_eq_some_iff.mp read
          obtain ⟨bound, whole⟩ := written_of_decode_length found
          dsimp only at read
          split at read
          · next fits =>
              cases read
              have exactly : (content.take length).length = length := List.length_take_of_le fits
              refine ⟨low, by rw [exactly]; exact bound, ?_⟩
              rw [whole, Element.encode, exactly, List.cons_append, List.cons_append, List.append_assoc,
                List.take_append_drop]
          · cases read

theorem Element.front_unique {e f : Element} {rest rest' : Bytes} (low : e.IsLow) (low' : f.IsLow)
    (short : e.content.length < lengthLimit) (short' : f.content.length < lengthLimit)
    (same : e.encode ++ rest = f.encode ++ rest') : e = f := by
  have read := Element.decode_encode low short rest
  rw [same, Element.decode_encode low' short', Option.some.injEq, Prod.mk.injEq] at read
  exact read.1.symm

theorem Element.content_lt_encode (e : Element) : e.content.length < e.encode.length := by
  rw [Element.encode, List.cons_append, List.length_cons, List.length_append]
  omega

/-- Two elements never share a form, since a longer content has a longer form. -/
theorem Element.encode_injective {e f : Element} (same : e.encode = f.encode) : e = f := by
  rw [Element.encode, Element.encode, List.cons_append, List.cons_append, List.cons.injEq] at same
  obtain ⟨tags, rest⟩ := same
  have lengths : e.content.length = f.content.length := by
    have whole := congrArg List.length rest
    rw [List.length_append, List.length_append] at whole
    rcases Nat.lt_trichotomy e.content.length f.content.length with less | equal | more
    · have fewer := encode_length_mono (Nat.le_of_lt less)
      omega
    · exact equal
    · have fewer := encode_length_mono (Nat.le_of_lt more)
      omega
  rw [lengths] at rest
  obtain ⟨tag, content⟩ := e
  obtain ⟨tag', content'⟩ := f
  rw [Element.mk.injEq]
  exact ⟨tags, List.append_cancel_left rest⟩

theorem sequence_tag_low : sequenceTag.toNat % 32 ≠ 31 := by decide

theorem encode_length_le {members : List Element} {e : Element} (member : e ∈ members) :
    e.encode.length ≤ (members.flatMap Element.encode).length := by
  rw [List.flatMap_def]
  exact (List.infix_of_mem_flatten (List.mem_map_of_mem member)).length_le

theorem member_length_lt {members : List Element} (short : (members.flatMap Element.encode).length < lengthLimit)
    {e : Element} (member : e ∈ members) : e.content.length < lengthLimit :=
  calc
    e.content.length < e.encode.length := e.content_lt_encode
    _ ≤ (members.flatMap Element.encode).length := encode_length_le member
    _ < lengthLimit := short

theorem decode_all_encode {members : List Element} (low : ∀ e ∈ members, e.IsLow)
    (short : ∀ e ∈ members, e.content.length < lengthLimit) {fuel : Nat}
    (enough : (members.flatMap Element.encode).length ≤ fuel) :
    decodeAll fuel (members.flatMap Element.encode) = some members := by
  induction members generalizing fuel with
  | nil =>
      rw [List.flatMap_nil, decodeAll]
  | cons e members ih =>
      have takes := e.content_lt_encode
      rw [List.flatMap_cons, List.length_append] at enough
      cases fuel with
      | zero => omega
      | succ fuel =>
          have first := Element.decode_encode (low e List.mem_cons_self) (short e List.mem_cons_self)
            (members.flatMap Element.encode)
          have later := ih (fun f member => low f (List.mem_cons_of_mem e member))
            (fun f member => short f (List.mem_cons_of_mem e member)) (by omega : _ ≤ fuel)
          rw [List.flatMap_cons, decodeAll, first]
          simp only [Option.bind_eq_bind, Option.bind_some, later]
          exact List.append_ne_nil_of_left_ne_nil (List.cons_ne_nil _ _) _

theorem written_of_decode_all {fuel : Nat} {bytes : Bytes} {members : List Element}
    (read : decodeAll fuel bytes = some members) :
    (∀ e ∈ members, e.IsLow) ∧ bytes = members.flatMap Element.encode := by
  fun_induction decodeAll fuel bytes generalizing members with
  | case1 =>
      cases read
      exact ⟨fun e member => absurd member List.not_mem_nil, rfl⟩
  | case2 => cases read
  | case3 fuel bytes notEmpty ih =>
      obtain ⟨⟨e, rest⟩, first, read⟩ := Option.bind_eq_some_iff.mp read
      obtain ⟨others, later, read⟩ := Option.bind_eq_some_iff.mp read
      cases read
      obtain ⟨low, _, whole⟩ := Element.written_of_decode first
      obtain ⟨lows, remains⟩ := ih _ later
      rw [List.flatMap_cons, ← remains]
      exact ⟨List.forall_mem_cons.mpr ⟨low, lows⟩, whole⟩

theorem members_eq_some_iff {e : Element} (short : e.content.length < lengthLimit) {members : List Element} :
    e.members? = some members ↔
      e.tag = sequenceTag ∧ (∀ m ∈ members, m.IsLow) ∧ e.content = members.flatMap Element.encode := by
  unfold Element.members?
  constructor
  · intro read
    split at read
    · next tagged => exact ⟨tagged, written_of_decode_all read⟩
    · cases read
  · rintro ⟨tagged, low, whole⟩
    rw [whole] at short
    rw [if_pos tagged, whole, decode_all_encode low (fun m => member_length_lt short) (Nat.le_refl _)]

theorem sequence_short {members : List Element} (short : (encodeSequence members).length < lengthLimit) :
    (members.flatMap Element.encode).length < lengthLimit :=
  Nat.lt_trans (Element.content_lt_encode ⟨sequenceTag, members.flatMap Element.encode⟩) short

/-- The bytes that read as a sequence are those that write it, with nothing after them. -/
theorem sequence_eq_some_iff {bytes : Bytes} {members : List Element} :
    sequence? bytes = some members ↔
      (members.flatMap Element.encode).length < lengthLimit ∧ (∀ m ∈ members, m.IsLow) ∧ bytes = encodeSequence members := by
  unfold sequence? encodeSequence
  constructor
  · intro read
    split at read
    · next e found =>
        obtain ⟨_, short, whole⟩ := Element.written_of_decode found
        obtain ⟨tagged, low, content⟩ := (members_eq_some_iff short).mp read
        rw [List.append_nil] at whole
        rw [content] at short
        refine ⟨short, low, ?_⟩
        rw [whole, ← tagged, ← content]
    · cases read
  · rintro ⟨short, low, rfl⟩
    have sequenceLow : (Element.mk sequenceTag (members.flatMap Element.encode)).IsLow := sequence_tag_low
    have read := Element.decode_encode sequenceLow short []
    rw [List.append_nil] at read
    rw [read]
    exact (members_eq_some_iff short).mpr ⟨rfl, low, rfl⟩

end Der

end BearerRole
