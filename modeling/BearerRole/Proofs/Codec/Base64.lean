import BearerRole.Codec.Base64
import BearerRole.Proofs.Partial
import Mathlib.Data.List.Basic

/-!
Base64 reads back what it writes, for byte strings of every length. Writing goes through six-bit values, and a
length of bytes that is no multiple of three leaves bits over that reading wants to be zero. What is read as a
token segment has the letters of one, with or without its padding; so it is ASCII. The form with padding, which fills up the last
group, reads back too.
-/

namespace BearerRole.Base64

set_option autoImplicit false

theorem Alphabet.value_char (alphabet : Alphabet) (value : Nat) (bound : value < 64) :
    alphabet.value? (alphabet.char value) = some value := by
  revert value
  cases alphabet <;> decide

/-- The six-bit values of a byte string, the bits that are left over filled up with zeros. -/
def sextets : Bytes → List Nat
  | [] => []
  | [a] => [a.toNat / 4, a.toNat % 4 * 16]
  | [a, b] => [a.toNat / 4, a.toNat % 4 * 16 + b.toNat / 16, b.toNat % 16 * 4]
  | a :: b :: c :: rest =>
      a.toNat / 4 :: (a.toNat % 4 * 16 + b.toNat / 16) :: (b.toNat % 16 * 4 + c.toNat / 64) ::
        c.toNat % 64 :: sextets rest

theorem encode_eq_map_sextets (alphabet : Alphabet) (bytes : Bytes) :
    encode alphabet bytes = (sextets bytes).map alphabet.char := by
  fun_induction sextets bytes with
  | case1 => rfl
  | case2 a => rfl
  | case3 a b => rfl
  | case4 a b c rest ih =>
      rw [encode, ih]
      rfl

theorem sextets_lt (bytes : Bytes) : ∀ value ∈ sextets bytes, value < 64 := by
  fun_induction sextets bytes with
  | case1 => simp
  | case2 a =>
      have first := a.toNat_lt
      simp only [List.mem_cons, List.not_mem_nil, or_false]
      rintro value (rfl | rfl) <;> omega
  | case3 a b =>
      have first := a.toNat_lt
      have second := b.toNat_lt
      simp only [List.mem_cons, List.not_mem_nil, or_false]
      rintro value (rfl | rfl | rfl) <;> omega
  | case4 a b c rest ih =>
      have first := a.toNat_lt
      have second := b.toNat_lt
      have third := c.toNat_lt
      simp only [List.mem_cons]
      rintro value (rfl | rfl | rfl | rfl | later)
      · omega
      · omega
      · omega
      · omega
      · exact ih value later

private theorem byte_of_eq {n : Nat} {b : UInt8} (same : n = b.toNat) : UInt8.ofNat n = b := by
  rw [same, UInt8.ofNat_toNat]

theorem pack_sextets (bytes : Bytes) : pack (sextets bytes) = some bytes := by
  fun_induction sextets bytes with
  | case1 => rfl
  | case2 a =>
      have first : UInt8.ofNat (a.toNat / 4 * 4 + a.toNat % 4 * 16 / 16) = a :=
        byte_of_eq (by omega)
      rw [pack, if_pos (by omega), first]
  | case3 a b =>
      have bound := b.toNat_lt
      have first : UInt8.ofNat (a.toNat / 4 * 4 + (a.toNat % 4 * 16 + b.toNat / 16) / 16) = a :=
        byte_of_eq (by omega)
      have second : UInt8.ofNat
          ((a.toNat % 4 * 16 + b.toNat / 16) % 16 * 16 + b.toNat % 16 * 4 / 4) = b :=
        byte_of_eq (by omega)
      rw [pack, if_pos (by omega), first, second]
  | case4 a b c rest ih =>
      have middle := b.toNat_lt
      have last := c.toNat_lt
      have first : UInt8.ofNat (a.toNat / 4 * 4 + (a.toNat % 4 * 16 + b.toNat / 16) / 16) = a :=
        byte_of_eq (by omega)
      have second : UInt8.ofNat ((a.toNat % 4 * 16 + b.toNat / 16) % 16 * 16 +
          (b.toNat % 16 * 4 + c.toNat / 64) / 4) = b :=
        byte_of_eq (by omega)
      have third : UInt8.ofNat ((b.toNat % 16 * 4 + c.toNat / 64) % 4 * 64 + c.toNat % 64) = c :=
        byte_of_eq (by omega)
      rw [pack, ih, Option.map_some, first, second, third]

private theorem values_of_chars (alphabet : Alphabet) (values : List Nat)
    (bound : ∀ value ∈ values, value < 64) :
    (values.map alphabet.char).mapM alphabet.value? = some values := by
  induction values with
  | nil => rfl
  | cons value values ih =>
      have head := alphabet.value_char value (bound value (List.mem_cons_self ..))
      have tail := ih fun v member => bound v (List.mem_cons_of_mem _ member)
      rw [List.map_cons, List.mapM_cons, head, tail]
      rfl

theorem decode_encode (alphabet : Alphabet) (bytes : Bytes) :
    decode alphabet (encode alphabet bytes) = some bytes := by
  rw [decode, encode_eq_map_sextets, values_of_chars alphabet _ (sextets_lt bytes)]
  exact pack_sextets bytes

/-- Characters that an alphabet writes: neither padding nor blank nor dot is among the url ones. -/
theorem mem_encode {alphabet : Alphabet} {bytes : Bytes} {c : CodePoint}
    (member : c ∈ encode alphabet bytes) : ∃ value < 64, c = alphabet.char value := by
  rw [encode_eq_map_sextets, List.mem_map] at member
  obtain ⟨value, present, rfl⟩ := member
  exact ⟨value, sextets_lt bytes value present, rfl⟩

theorem padding_not_mem_encode (alphabet : Alphabet) (bytes : Bytes) : 61 ∉ encode alphabet bytes := by
  intro member
  obtain ⟨value, bound, equal⟩ := mem_encode member
  revert value
  cases alphabet <;> decide

theorem drop_padding_eq_self {t : Text} (unpadded : 61 ∉ t) : dropPadding t = t := by
  have reversed : 61 ∉ t.reverse := by rwa [List.mem_reverse]
  unfold dropPadding
  split
  · next equal => simp [equal] at reversed
  · next equal => simp [equal] at reversed
  · rfl

theorem decode_segment_encode (bytes : Bytes) : decodeSegment (encode .url bytes) = some bytes := by
  rw [decodeSegment, drop_padding_eq_self (padding_not_mem_encode .url bytes), ite_self, decode_encode]

theorem padding_dropped (t : Text) : ∃ padding ≤ 2, t = dropPadding t ++ List.replicate padding 61 := by
  unfold dropPadding
  split
  · next rest equal =>
      refine ⟨2, by decide, ?_⟩
      simpa using congrArg List.reverse equal
  · next rest _ equal =>
      refine ⟨1, by decide, ?_⟩
      simpa using congrArg List.reverse equal
  · exact ⟨0, by decide, by simp⟩

def IsUrlLetter (c : CodePoint) : Prop :=
  (65 ≤ c ∧ c ≤ 90) ∨ (97 ≤ c ∧ c ≤ 122) ∨ (48 ≤ c ∧ c ≤ 57) ∨ c = 45 ∨ c = 95

/-- A token segment by its characters: letters alone, or letters with the one or two signs of padding that fill the segment
up to a multiple of four. -/
inductive IsSegment : Text → Prop
  | bare (letters : Text) (plain : ∀ c ∈ letters, IsUrlLetter c) : IsSegment letters
  | padded (letters : Text) (padding : Nat) (plain : ∀ c ∈ letters, IsUrlLetter c) (few : padding ≤ 2)
      (filled : (letters.length + padding) % 4 = 0) : IsSegment (letters ++ List.replicate padding 61)

theorem letter_of_value {c : CodePoint} {value : Nat} (read : Alphabet.url.value? c = some value) :
    IsUrlLetter c := by
  simp only [Alphabet.value?, Alphabet.char62, Alphabet.char63] at read
  unfold IsUrlLetter
  grind

theorem letters_of_decode {t : Text} {bytes : Bytes} (read : decode .url t = some bytes) :
    ∀ c ∈ t, IsUrlLetter c := by
  obtain ⟨values, found, _⟩ := Option.bind_eq_some_iff.mp read
  intro c member
  obtain ⟨value, single⟩ := read_of_mem found c member
  exact letter_of_value single

/-- Whatever can be read as a segment has the characters of one. -/
theorem segment_of_decode_segment {t : Text} {bytes : Bytes} (read : decodeSegment t = some bytes) : IsSegment t := by
  rw [decodeSegment] at read
  split at read
  · next filled =>
      obtain ⟨padding, few, whole⟩ := padding_dropped t
      have length := congrArg List.length whole
      rw [List.length_append, List.length_replicate] at length
      rw [whole]
      rw [length] at filled
      exact .padded (dropPadding t) padding (letters_of_decode read) few filled
  · exact .bare t (letters_of_decode read)

theorem IsUrlLetter.ascii {c : CodePoint} (letter : IsUrlLetter c) : c < 128 := by
  unfold IsUrlLetter at letter
  grind

theorem IsSegment.ascii {t : Text} (segment : IsSegment t) : ∀ c ∈ t, c < 128 := by
  intro c member
  cases segment with
  | bare letters plain => exact (plain c member).ascii
  | padded letters padding plain =>
      rcases List.mem_append.mp member with letter | sign
      · exact (plain c letter).ascii
      · rw [List.eq_of_mem_replicate sign]
        decide

theorem ascii_of_decode_segment {t : Text} {bytes : Bytes} (read : decodeSegment t = some bytes) :
    ∀ c ∈ t, c < 128 :=
  (segment_of_decode_segment read).ascii

theorem encode_length_mod (alphabet : Alphabet) (bytes : Bytes) : (encode alphabet bytes).length % 4 ≠ 1 := by
  fun_induction encode alphabet bytes with
  | case1 => decide
  | case2 a =>
      simp only [List.length_cons, List.length_nil]
      decide
  | case3 a b =>
      simp only [List.length_cons, List.length_nil]
      decide
  | case4 a b c rest ih =>
      simp only [List.length_cons]
      omega

theorem drop_padding_padded {t : Text} (unpadded : 61 ∉ t) {padding : Nat} (few : padding ≤ 2) :
    dropPadding (t ++ List.replicate padding 61) = t := by
  have reversed : 61 ∉ t.reverse := by rwa [List.mem_reverse]
  have whole : (t ++ List.replicate padding 61).reverse = List.replicate padding 61 ++ t.reverse := by
    rw [List.reverse_append, List.reverse_replicate]
  match padding, few with
  | 0, _ => rw [List.replicate_zero, List.append_nil, drop_padding_eq_self unpadded]
  | 1, _ =>
      unfold dropPadding
      rw [whole]
      split
      · next rest equal =>
          have tail : t.reverse = 61 :: rest := (List.cons.inj equal).2
          rw [tail] at reversed
          exact absurd List.mem_cons_self reversed
      · next equal =>
          rw [← (List.cons.inj equal).2]
          exact List.reverse_reverse t
      · next other => exact absurd rfl (other t.reverse)
  | 2, _ =>
      unfold dropPadding
      rw [whole]
      exact List.reverse_reverse t

theorem decode_padded_encode (bytes : Bytes) : decodePadded (encodePadded .standard bytes) = some bytes := by
  have unpadded := padding_not_mem_encode .standard bytes
  have groups := encode_length_mod .standard bytes
  have filled : (encodePadded .standard bytes).length % 4 = 0 := by
    rw [encodePadded, List.length_append, List.length_replicate]
    omega
  have few : (4 - (encode .standard bytes).length % 4) % 4 ≤ 2 := by omega
  rw [decodePadded, if_pos filled, encodePadded, drop_padding_padded unpadded few, decode_encode]

end BearerRole.Base64
