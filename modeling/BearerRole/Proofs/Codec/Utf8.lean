import BearerRole.Codec.Utf8
import Mathlib.Data.List.Basic

/-!
ASCII text in UTF-8: each code point is one byte, and the bytes read back. No other bytes read as ASCII text.
-/

namespace BearerRole.Utf8

set_option autoImplicit false

theorem to_nat_of_ascii {c : Nat} (ascii : c < 128) : (UInt8.ofNat c).toNat = c := by
  rw [UInt8.toNat_ofNat']
  omega

theorem ascii_well_formed {t : Text} (ascii : ∀ c ∈ t, c < 128) : Text.isWellFormed t = true := by
  simp only [Text.isWellFormed, List.all_eq_true, Text.isSurrogate]
  intro c member
  have small := ascii c member
  grind

theorem well_formed_append (s t : Text) :
    Text.isWellFormed (s ++ t) = (Text.isWellFormed s && Text.isWellFormed t) :=
  List.all_append

/-- Replacing code points by ASCII, or by themselves, leaves a text well formed. -/
theorem well_formed_flat_map {t : Text} {f : CodePoint → Text} (whole : Text.isWellFormed t = true)
    (kept : ∀ c, ∀ d ∈ f c, d < 128 ∨ d = c) : Text.isWellFormed (t.flatMap f) = true := by
  simp only [Text.isWellFormed, List.all_eq_true] at whole ⊢
  intro d member
  obtain ⟨c, present, inside⟩ := List.mem_flatMap.mp member
  rcases kept c d inside with ascii | rfl
  · simp only [Text.isSurrogate]
    grind
  · exact whole d present

theorem encode_point_of_ascii {c : Nat} (ascii : c < 128) : encodePoint c = [UInt8.ofNat c] := by
  rw [encodePoint, if_pos ascii]

theorem encode_of_ascii {t : Text} (ascii : ∀ c ∈ t, c < 128) :
    encode? t = some (t.map UInt8.ofNat) := by
  rw [encode?, if_pos (ascii_well_formed ascii)]
  apply congrArg some
  induction t with
  | nil => rfl
  | cons c t ih =>
      rw [List.flatMap_cons, List.map_cons, encode_point_of_ascii (ascii c (List.mem_cons_self ..)),
        ih fun d member => ascii d (List.mem_cons_of_mem _ member)]
      rfl

theorem decode_cons (surrogates : Bool) {a : UInt8} (rest : Bytes) (single : a < 0x80) :
    decode surrogates (a :: rest) = (decode surrogates rest).map (a.toNat :: ·) := by
  rw [decode.eq_def]
  exact if_pos single

theorem decode_of_ascii (surrogates : Bool) {t : Text} (ascii : ∀ c ∈ t, c < 128) :
    decode surrogates (t.map UInt8.ofNat) = some t := by
  induction t with
  | nil => rfl
  | cons c t ih =>
      have number := to_nat_of_ascii (ascii c (List.mem_cons_self ..))
      have single : UInt8.ofNat c < 0x80 := by
        rw [UInt8.lt_iff_toNat_lt, number]
        exact ascii c (List.mem_cons_self ..)
      rw [List.map_cons, decode_cons _ _ single,
        ih fun d member => ascii d (List.mem_cons_of_mem _ member), number]
      rfl

theorem le_pair {a b : UInt8} {point : Nat} (read : pair? a b = some point) : 128 ≤ point := by
  unfold pair? at read
  split at read
  · next form =>
      have first : 0xC2 ≤ a.toNat := form.1
      rw [← Option.some.inj read]
      omega
  · cases read

theorem le_triple {surrogates : Bool} {a b c : UInt8} {point : Nat} (read : triple? surrogates a b c = some point) :
    128 ≤ point := by
  unfold triple? at read
  dsimp only at read
  split at read
  · next form =>
      rw [← Option.some.inj read]
      exact Nat.le_trans (by decide) form.2.2.2.2.1
  · cases read

theorem le_quadruple {a b c d : UInt8} {point : Nat} (read : quadruple? a b c d = some point) : 128 ≤ point := by
  unfold quadruple? at read
  dsimp only at read
  split at read
  · next form =>
      rw [← Option.some.inj read]
      exact Nat.le_trans (by decide) form.2.2.2.2.1
  · cases read

theorem not_ascii_of_large {point : Nat} {later : Option Text} {t : Text} (large : 128 ≤ point)
    (read : later.map (point :: ·) = some t) : ¬∀ c ∈ t, c < 128 := by
  obtain ⟨rest, _, rfl⟩ := Option.map_eq_some_iff.mp read
  intro ascii
  exact absurd (ascii point List.mem_cons_self) (Nat.not_lt.mpr large)

theorem of_decode_ascii {surrogates : Bool} {bytes : Bytes} {t : Text} (read : decode surrogates bytes = some t)
    (ascii : ∀ c ∈ t, c < 128) : bytes = t.map UInt8.ofNat := by
  induction bytes generalizing t with
  | nil =>
      cases read
      rfl
  | cons a rest ih =>
      by_cases single : a < 0x80
      · rw [decode_cons surrogates rest single] at read
        obtain ⟨later, found, rfl⟩ := Option.map_eq_some_iff.mp read
        have tail := ih found (fun c member => ascii c (List.mem_cons_of_mem _ member))
        rw [List.map_cons, UInt8.ofNat_toNat, ← tail]
      · rw [decode.eq_def] at read
        simp only [if_neg single] at read
        split at read
        · cases read
        · split at read
          · next two => exact absurd ascii (not_ascii_of_large (le_pair two) read)
          · split at read
            · cases read
            · split at read
              · next three => exact absurd ascii (not_ascii_of_large (le_triple three) read)
              · split at read
                · cases read
                · split at read
                  · next four => exact absurd ascii (not_ascii_of_large (le_quadruple four) read)
                  · cases read

end BearerRole.Utf8
