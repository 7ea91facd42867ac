import BearerRole.Files

/-!
Which texts have a form as a path. A surrogate that stands for a byte is written as that byte and any other has no form at all;
of the bytes that are written, the one that no path may hold comes of the code point of the same number alone.
-/

namespace BearerRole.FileName

set_option autoImplicit false

/-- A surrogate that stands for no byte. -/
def IsFormless (c : CodePoint) : Prop := Text.isSurrogate c = true ∧ ¬(0xDC80 ≤ c ∧ c ≤ 0xDCFF)

def piece? (c : CodePoint) : Option Bytes :=
  if 0xDC80 ≤ c ∧ c ≤ 0xDCFF then some [UInt8.ofNat (c - 0xDC00)]
  else if Text.isSurrogate c then none
  else some (Utf8.encodePoint c)

theorem encode_cons (c : CodePoint) (t : Text) :
    encode? (c :: t) = (piece? c).bind fun piece => (encode? t).map (piece ++ ·) := by
  show ((c :: t).mapM piece?).map List.flatten = (piece? c).bind fun piece => ((t.mapM piece?).map List.flatten).map _
  rw [List.mapM_cons]
  cases piece? c with
  | none => rfl
  | some piece =>
      cases t.mapM piece? with
      | none => rfl
      | some pieces => rfl

theorem piece_eq_none_iff {c : CodePoint} : piece? c = none ↔ IsFormless c := by
  unfold piece? IsFormless
  by_cases byte : 0xDC80 ≤ c ∧ c ≤ 0xDCFF
  · simp [byte]
  · simp [byte]

theorem encode_eq_none_iff {t : Text} : encode? t = none ↔ ∃ c ∈ t, IsFormless c := by
  induction t with
  | nil => simp [encode?]
  | cons c t ih =>
      simp only [encode_cons, Option.bind_eq_none_iff, Option.map_eq_none_iff, ih, List.mem_cons, exists_eq_or_imp,
        ← piece_eq_none_iff]
      cases piece? c with
      | none => simp
      | some piece => simp

theorem of_nat_eq_zero_iff {n : Nat} : UInt8.ofNat n = 0 ↔ n % 256 = 0 := by
  rw [← UInt8.toNat_inj]
  simp

theorem zero_mem_encode_point {c : Nat} (point : c < 0x110000) : 0 ∈ Utf8.encodePoint c ↔ c = 0 := by
  unfold Utf8.encodePoint
  by_cases one : c < 0x80
  · rw [if_pos one, List.mem_singleton, eq_comm, of_nat_eq_zero_iff]
    omega
  · refine iff_of_false ?_ (by omega)
    rw [if_neg one]
    by_cases two : c < 0x800
    · rw [if_pos two]
      simp only [List.mem_cons, List.not_mem_nil, or_false, @eq_comm UInt8 0, of_nat_eq_zero_iff]
      omega
    · rw [if_neg two]
      by_cases three : c < 0x10000
      · rw [if_pos three]
        simp only [List.mem_cons, List.not_mem_nil, or_false, @eq_comm UInt8 0, of_nat_eq_zero_iff]
        omega
      · rw [if_neg three]
        simp only [List.mem_cons, List.not_mem_nil, or_false, @eq_comm UInt8 0, of_nat_eq_zero_iff]
        omega

theorem zero_mem_piece {c : Nat} {piece : Bytes} (point : c < 0x110000) (written : piece? c = some piece) :
    0 ∈ piece ↔ c = 0 := by
  unfold piece? at written
  by_cases byte : 0xDC80 ≤ c ∧ c ≤ 0xDCFF
  · rw [if_pos byte] at written
    cases written
    rw [List.mem_singleton, eq_comm, of_nat_eq_zero_iff]
    omega
  · rw [if_neg byte] at written
    split at written
    · cases written
    · cases written
      exact zero_mem_encode_point point

theorem zero_mem_encode {t : Text} {bytes : Bytes} (points : ∀ c ∈ t, c < 0x110000) (written : encode? t = some bytes) :
    0 ∈ bytes ↔ 0 ∈ t := by
  induction t generalizing bytes with
  | nil =>
      cases written
      simp
  | cons c t ih =>
      rw [encode_cons] at written
      simp only [Option.bind_eq_some_iff, Option.map_eq_some_iff] at written
      obtain ⟨piece, first, rest, later, rfl⟩ := written
      rw [List.mem_append, List.mem_cons, zero_mem_piece (points c List.mem_cons_self) first,
        ih (fun other member => points other (List.mem_cons_of_mem c member)) later, eq_comm]

/-- A path is refused for a surrogate that stands for no byte, and for a byte that no path may hold. -/
theorem path_bytes_eq_error_iff {path : Text} {fault : Fault} :
    Files.pathBytes path = .error fault ↔
      (fault = .unencodable ∧ ∃ c ∈ path, IsFormless c) ∨
        fault = .badPath ∧ ∃ bytes, encode? path = some bytes ∧ 0 ∈ bytes := by
  rw [← encode_eq_none_iff]
  unfold Files.pathBytes
  cases encode? path with
  | none => simp [eq_comm]
  | some bytes =>
      by_cases nul : 0 ∈ bytes
      · simp [nul, eq_comm]
      · simp [nul]

end BearerRole.FileName
