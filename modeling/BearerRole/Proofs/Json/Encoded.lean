import BearerRole.Proofs.Codec.Utf8
import BearerRole.Proofs.Json.RoundTrip

/-!
The bytes of a written object. Compact JSON with its escapes is ASCII, and its first two bytes show UTF-8, so that
reading the bytes gives the object back.
-/

namespace BearerRole.Json

set_option autoImplicit false

theorem ascii_digit (value : Nat) (bound : value < 16) : Text.digit value < 128 := by
  revert value
  decide

theorem ascii_of_nat (n : Nat) : ∀ c ∈ Text.ofNat n, c < 128 := by
  intro c member
  have digit := Text.digits_of_nat n c member
  simp only [Text.isAsciiDigit, Bool.and_eq_true, decide_eq_true_eq] at digit
  exact Nat.lt_of_le_of_lt digit.2 (by decide)

theorem ascii_of_int (n : Int) : ∀ c ∈ Text.ofInt n, c < 128 := by
  cases n with
  | ofNat m => exact ascii_of_nat m
  | negSucc m =>
      intro c member
      rcases List.mem_cons.mp member with rfl | digit
      · decide
      · exact ascii_of_nat (m + 1) c digit

theorem ascii_hex (n : Nat) : ∀ c ∈ Text.hex n, c < 128 := by
  fun_induction Text.hex n with
  | case1 n small =>
      intro c member
      rw [List.mem_singleton.mp member]
      exact ascii_digit n small
  | case2 n large ih =>
      intro c member
      rcases List.mem_append.mp member with earlier | last
      · exact ih c earlier
      · rw [List.mem_singleton.mp last]
        exact ascii_digit _ (Nat.mod_lt n (by decide))

theorem ascii_hex_padded (width n : Nat) : ∀ c ∈ Text.hexPadded width n, c < 128 := by
  intro c member
  rcases List.mem_append.mp member with zero | digit
  · rw [List.eq_of_mem_replicate zero]
    decide
  · exact ascii_hex n c digit

theorem ascii_numbered (c : Nat) : ∀ d ∈ numbered c, d < 128 := by
  have mark : ∀ d ∈ text "\\u", d < 128 := by decide
  intro d member
  unfold numbered at member
  split at member
  · rcases List.mem_append.mp member with first | second
    · exact mark d first
    · exact ascii_hex_padded _ _ d second
  · simp only [List.mem_append] at member
    rcases member with ((first | second) | third) | fourth
    · exact mark d first
    · exact ascii_hex_padded _ _ d second
    · exact mark d third
    · exact ascii_hex_padded _ _ d fourth

theorem mem_character {asciiOnly : Bool} {c d : Nat} (member : d ∈ character asciiOnly c) :
    d < 128 ∨ (asciiOnly = false ∧ d = c) := by
  unfold character at member
  split_ifs at member with quoted backspace feed line carriage tab control wide
  · simp only [List.mem_cons, List.not_mem_nil, or_false] at member
    left
    rcases quoted with rfl | rfl <;> rcases member with rfl | rfl <;> decide
  · exact Or.inl ((by decide : ∀ d ∈ text "\\b", d < 128) d member)
  · exact Or.inl ((by decide : ∀ d ∈ text "\\f", d < 128) d member)
  · exact Or.inl ((by decide : ∀ d ∈ text "\\n", d < 128) d member)
  · exact Or.inl ((by decide : ∀ d ∈ text "\\r", d < 128) d member)
  · exact Or.inl ((by decide : ∀ d ∈ text "\\t", d < 128) d member)
  · exact Or.inl (ascii_numbered c d member)
  · exact Or.inl (ascii_numbered c d member)
  · have same := List.mem_singleton.mp member
    cases asciiOnly with
    | false => exact Or.inr ⟨rfl, same⟩
    | true =>
        simp only [Bool.true_and, decide_eq_true_eq] at wide
        rw [same]
        exact Or.inl (Nat.lt_succ_of_lt (Nat.lt_of_not_le wide))

theorem ascii_character (c : Nat) : ∀ d ∈ character true c, d < 128 := by
  intro d member
  rcases mem_character member with ascii | ⟨unescaped, _⟩
  · exact ascii
  · contradiction

theorem mem_join {sep : Text} {ts : List Text} {c : CodePoint} (member : c ∈ Text.join sep ts) :
    c ∈ sep ∨ ∃ t ∈ ts, c ∈ t := by
  induction ts with
  | nil => simp [Text.join] at member
  | cons first ts ih =>
      cases ts with
      | nil =>
          rw [join_singleton] at member
          exact Or.inr ⟨first, List.mem_cons_self .., member⟩
      | cons second ts =>
          rw [join_cons_cons] at member
          simp only [List.mem_append] at member
          rcases member with inFirst | inSep | later
          · exact Or.inr ⟨first, List.mem_cons_self .., inFirst⟩
          · exact Or.inl inSep
          · rcases ih later with inSep | ⟨t, present, inside⟩
            · exact Or.inl inSep
            · exact Or.inr ⟨t, List.mem_cons_of_mem _ present, inside⟩

theorem ascii_quoted (t : Text) : ∀ c ∈ t.flatMap (character true), c < 128 := by
  intro c member
  obtain ⟨point, _, inside⟩ := List.mem_flatMap.mp member
  exact ascii_character point c inside

theorem well_formed_quote (asciiOnly : Bool) {t : Text} (whole : Text.isWellFormed t = true) :
    Text.isWellFormed (quote asciiOnly t) = true := by
  have inside : Text.isWellFormed (t.flatMap (character asciiOnly)) = true := by
    apply Utf8.well_formed_flat_map whole
    intro c d member
    rcases mem_character member with ascii | ⟨_, same⟩
    · exact Or.inl ascii
    · exact Or.inr same
  simp only [quote, Utf8.well_formed_append, inside, Bool.and_true]
  rfl

theorem ascii_write {digits depth : Nat} {v : Value} (plain : IsPlain digits depth v) :
    ∀ c ∈ write .segment v, c < 128 := by
  induction plain with
  | null => decide
  | bool _ b => cases b <;> decide
  | int _ n => exact ascii_of_int n
  | text _ t =>
      intro c member
      have shape : write .segment (.text t) = 34 :: (t.flatMap (character true) ++ [34]) := rfl
      simp only [shape, List.mem_cons, List.mem_append, List.not_mem_nil, or_false] at member
      rcases member with rfl | inside | rfl
      · decide
      · exact ascii_quoted t c inside
      · decide
  | list _ items _ ih =>
      intro c member
      simp only [write_list, List.mem_cons, List.mem_append, List.not_mem_nil, or_false] at member
      rcases member with rfl | inside | rfl
      · decide
      · rcases mem_join inside with comma | ⟨t, written, present⟩
        · rw [List.mem_singleton.mp comma]
          decide
        · obtain ⟨item, here, rfl⟩ := List.mem_map.mp written
          exact ih item here c present
      · decide
  | object _ fields _ _ _ ih =>
      intro c member
      simp only [write_object, List.mem_cons, List.mem_append, List.not_mem_nil, or_false] at member
      rcases member with rfl | inside | rfl
      · decide
      · rcases mem_join inside with comma | ⟨t, written, present⟩
        · rw [List.mem_singleton.mp comma]
          decide
        · obtain ⟨entry, here, rfl⟩ := List.mem_map.mp written
          simp only [writtenEntry, List.mem_cons, List.mem_append] at present
          rcases present with rfl | key | rfl | rfl | value
          · decide
          · exact ascii_quoted entry.1 c key
          · decide
          · decide
          · exact ih entry here c value
      · decide

theorem write_object_front (fields : Fields) : ∃ second tail,
    write .segment (.object fields) = 123 :: second :: tail ∧ (second = 34 ∨ second = 125) := by
  rw [write_object]
  match fields with
  | [] => exact ⟨125, [], rfl, Or.inr rfl⟩
  | [entry] =>
      rw [List.map_cons, List.map_nil, join_singleton]
      exact ⟨34, _, rfl, Or.inl rfl⟩
  | entry :: next :: fields =>
      rw [List.map_cons, List.map_cons, join_cons_cons]
      exact ⟨34, _, rfl, Or.inl rfl⟩

theorem detect_of_object {second : UInt8} (rest : Bytes) (nonzero : second ≠ 0) :
    Encoding.detect (123 :: second :: rest) = (.utf8, 123 :: second :: rest) := by
  have brace : (123 : UInt8) ≠ 0 := by decide
  match rest with
  | [] =>
      have steps : Encoding.detect [123, second] =
          if (123 : UInt8) = 0 then (.utf16 true, [123, second])
          else if second = 0 then (.utf16 false, [123, second])
          else (.utf8, [123, second]) := rfl
      rw [steps, if_neg brace, if_neg nonzero]
  | [c] => rfl
  | c :: d :: rest =>
      have steps : Encoding.detect (123 :: second :: c :: d :: rest) =
          if (123 : UInt8) = 0 then
            if second = 0 then (.utf32 true, 123 :: second :: c :: d :: rest)
            else (.utf16 true, 123 :: second :: c :: d :: rest)
          else if second = 0 then
            if c = 0 ∧ d = 0 then (.utf32 false, 123 :: second :: c :: d :: rest)
            else (.utf16 false, 123 :: second :: c :: d :: rest)
          else (.utf8, 123 :: second :: c :: d :: rest) := rfl
      rw [steps, if_neg brace, if_neg nonzero]

theorem read_bytes_write {limits : Limits} {digits : Nat} {fields : Fields}
    (limited : limits.digits = some digits) (positive : 0 < digits)
    (plain : IsPlain digits limits.depth (.object fields)) :
    readBytes limits ((write .segment (.object fields)).map UInt8.ofNat) = some (.object fields) := by
  have utf8 := Utf8.decode_of_ascii true (ascii_write plain)
  have back := read_write limited positive plain
  obtain ⟨second, tail, shape, mark⟩ := write_object_front fields
  have nonzero : UInt8.ofNat second ≠ 0 := by
    rcases mark with rfl | rfl <;> decide
  have brace : UInt8.ofNat 123 = 123 := rfl
  rw [shape, List.map_cons, List.map_cons, ← shape, brace] at utf8
  rw [shape, List.map_cons, List.map_cons, brace]
  rw [readBytes, detect_of_object _ nonzero]
  simp only [Encoding.decode, utf8, Option.bind_eq_bind, Option.bind_some, back]

end BearerRole.Json
