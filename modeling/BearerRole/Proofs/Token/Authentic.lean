import BearerRole.Proofs.Codec.Base64
import BearerRole.Proofs.Codec.Utf8
import BearerRole.Proofs.Token.Acceptance
import BearerRole.Proofs.Token.Checks

/-!
Tokens that have passed the checks before their claims: of structure, of header, and under a key of signature. Such a token is
ASCII throughout, and from there on only its claims are asked.
-/

namespace BearerRole.Token

set_option autoImplicit false

variable {key : Option RsaKey} {token : Text} {decoded : Decoded}

theorem ascii_of_parts {front back : Text} (asciiFront : ∀ c ∈ front, c < 128) (asciiBack : ∀ c ∈ back, c < 128) :
    ∀ c ∈ front ++ dot :: back, c < 128 := by
  intro c member
  rcases List.mem_append.mp member with inFront | rest
  · exact asciiFront c inFront
  · rcases List.mem_cons.mp rest with rfl | inBack
    · decide
    · exact asciiBack c inBack

theorem compact_of_segments {header signature : Text} (payload : Text) (firstDot : dot ∉ header)
    (lastDot : dot ∉ signature) :
    Compact.ofText? (header ++ dot :: payload ++ dot :: signature) =
      some ⟨header ++ dot :: payload, header, payload, signature⟩ :=
  compact_eq_some_iff.mpr ⟨rfl, lastDot, rfl, firstDot⟩

theorem decodes_of_authenticate (passed : authenticate key token = .ok decoded) :
    ∃ compact, Compact.ofText? token = some compact ∧ Decodes compact decoded := by
  obtain ⟨structured, checked, _⟩ := authenticate_eq_ok_iff.mp passed
  exact (decode_eq_ok_iff (attached_of_check checked)).mp structured

theorem well_formed_of_authenticate (passed : authenticate key token = .ok decoded) :
    Text.isWellFormed token = true := by
  obtain ⟨compact, parts, decodes⟩ := decodes_of_authenticate passed
  obtain ⟨whole, _, signed, _⟩ := compact_eq_some_iff.mp parts
  obtain ⟨json, headerRead, _⟩ := decodes.header
  have asciiHeader := Base64.ascii_of_decode_segment headerRead
  have asciiPayload := Base64.ascii_of_decode_segment decodes.payload
  have asciiSignature := Base64.ascii_of_decode_segment decodes.signature
  rw [whole, signed]
  exact Utf8.ascii_well_formed (ascii_of_parts (ascii_of_parts asciiHeader asciiPayload) asciiSignature)

theorem claims_of_authentic {expected : Expectations} {now : Instant} {fields : Fields}
    (passed : authenticate key token = .ok decoded) (holds : object? decoded.payload = some fields) :
    claims key expected now token = (do
      let wanted ← wantedAudiences expected.audience
      reject (configuredChecks expected wanted now fields)
      .ok fields) := by
  rw [claims_eq]
  rw [if_pos (well_formed_of_authenticate passed), passed]
  show (reject (require .malformed (object? decoded.payload)) >>= _) = _
  rw [holds]
  rfl

theorem claims_of_authenticate {expected : Expectations} {now : Instant} {wanted : List Text} {fields : Fields}
    (passed : authenticate key token = .ok decoded) (holds : object? decoded.payload = some fields)
    (asked : wantedAudiences expected.audience = .ok wanted) :
    claims key expected now token = (reject (configuredChecks expected wanted now fields)).map fun _ => fields := by
  rw [claims_of_authentic passed holds, asked]
  show (reject (configuredChecks expected wanted now fields) >>= _) = _
  cases reject (configuredChecks expected wanted now fields) <;> rfl

theorem claims_of_failed_authenticate {expected : Expectations} {now : Instant} {r : Rejection}
    (wellFormed : Text.isWellFormed token = true) (failed : authenticate key token = .error r) :
    claims key expected now token = .error r.fault := by
  rw [claims_eq]
  rw [if_pos wellFormed, failed]
  rfl

end BearerRole.Token
