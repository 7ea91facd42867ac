import BearerRole.Proofs.Token.Authentic
import BearerRole.Proofs.Token.Decomposition
import BearerRole.Proofs.Token.Failure

/-!
The form of the tokens that are accepted: three segments with two dots between them, each of base64url letters and perhaps
the padding that fills it up. Every other text is turned away as malformed, unless it has no UTF-8 form at all.
-/

namespace BearerRole.Token

set_option autoImplicit false

open Base64 (IsSegment IsUrlLetter)

/-- The form of a token by its characters alone, whatever its segments hold. -/
inductive IsCompact : Text → Prop
  | segments {header payload signature : Text} (ofHeader : IsSegment header) (ofPayload : IsSegment payload)
      (ofSignature : IsSegment signature) : IsCompact (header ++ dot :: payload ++ dot :: signature)

theorem not_letter_dot : ¬IsUrlLetter dot := by
  unfold IsUrlLetter
  decide

theorem dot_not_mem_of_segment {t : Text} (segment : IsSegment t) : dot ∉ t := by
  cases segment with
  | bare letters plain => exact fun member => not_letter_dot (plain dot member)
  | padded letters padding plain =>
      intro member
      rcases List.mem_append.mp member with letter | sign
      · exact not_letter_dot (plain dot letter)
      · exact absurd (List.eq_of_mem_replicate sign) (by decide)

theorem IsCompact.two_dots {token : Text} (compact : IsCompact token) : token.count dot = 2 := by
  cases compact with
  | segments ofHeader ofPayload ofSignature =>
      have inHeader := List.count_eq_zero_of_not_mem (dot_not_mem_of_segment ofHeader)
      have inPayload := List.count_eq_zero_of_not_mem (dot_not_mem_of_segment ofPayload)
      have inSignature := List.count_eq_zero_of_not_mem (dot_not_mem_of_segment ofSignature)
      simp only [List.count_append, List.count_cons_self, inHeader, inPayload, inSignature]

theorem segment_of_payload {header : Fields} {t : Text} {bytes : Bytes} (found : payloadOf header t = .ok bytes) :
    IsSegment t := by
  unfold payloadOf at found
  split at found
  · split at found
    · next empty =>
        rw [List.isEmpty_iff.mp empty]
        exact .bare [] (by simp)
    · cases found
  · exact Base64.segment_of_decode_segment (require_eq_ok_iff.mp found)

theorem compact_of_decode {token : Text} {decoded : Decoded} (structured : decode token = .ok decoded) :
    IsCompact token := by
  rw [decode_eq] at structured
  obtain ⟨compact, found, structured⟩ := bind_eq_ok_iff.mp structured
  obtain ⟨json, headerRead, structured⟩ := bind_eq_ok_iff.mp structured
  obtain ⟨header, _, structured⟩ := bind_eq_ok_iff.mp structured
  obtain ⟨payload, payloadFound, structured⟩ := bind_eq_ok_iff.mp structured
  obtain ⟨signature, signatureRead, _⟩ := bind_eq_ok_iff.mp structured
  rw [require_eq_ok_iff] at found headerRead signatureRead
  have ofHeader := Base64.segment_of_decode_segment headerRead
  have ofSignature := Base64.segment_of_decode_segment signatureRead
  obtain ⟨whole, _, signed, _⟩ := compact_eq_some_iff.mp found
  rw [whole, signed]
  exact .segments ofHeader (segment_of_payload payloadFound) ofSignature

theorem malformed_of_not_compact {token : Text} (formless : ¬IsCompact token) (key : Option RsaKey) :
    authenticate key token = .error .malformed := by
  cases structured : decode token with
  | ok decoded => exact absurd (compact_of_decode structured) formless
  | error r =>
      rw [authenticate, structured, malformed_of_decode structured]
      rfl

theorem read_not_compact {token : Text} (formless : ¬IsCompact token) (wellFormed : Text.isWellFormed token = true)
    (key : Option RsaKey) (expected : Expectations) (now : Instant) :
    (TokenReader.forKey key expected).read token now = .error Rejection.malformed.fault := by
  rw [read_for_key, claims_of_failed_authenticate wellFormed (malformed_of_not_compact formless key)]
  rfl

/-- Only a text in compact form is accepted, and such a text has exactly two dots. Any other is turned away whatever the reader
expects: as malformed, or, when it has no UTF-8 form, with the fault that says so. -/
theorem accepted_only_in_compact_form (key : Option RsaKey) (expected : Expectations) (now : Instant) (token : Text) :
    let parsed := (TokenReader.forKey key expected).read token now
    (∀ value, parsed = .ok value → IsCompact token ∧ token.count dot = 2) ∧
      (¬IsCompact token →
        if Text.isWellFormed token then RejectedFor (text "malformed_token") parsed
        else parsed = .error .unencodable) := by
  intro parsed
  constructor
  · intro value read
    obtain ⟨_, decoded, _, _, structured, _⟩ := read_eq_ok_iff.mp read
    have compact := compact_of_decode structured
    exact ⟨compact, compact.two_dots⟩
  · intro formless
    cases form : Text.isWellFormed token with
    | true =>
        have rejected : parsed = .error Rejection.malformed.fault := read_not_compact formless form key expected now
        rw [if_pos rfl, rejected]
        exact rejected_for_fault_iff.mpr rfl
    | false => exact read_ill_formed key expected now form

/-- A token with a valid signature is in this form, and with one dot more it is no token any longer. -/
theorem gateway_token_compact :
    IsCompact gatewayToken ∧ gatewayToken.count dot = 2 ∧ ¬IsCompact (gatewayToken ++ [dot]) ∧
      RejectedFor (text "malformed_token") ((TokenReader.verifying gatewayKey .none).read (gatewayToken ++ [dot]) 0) := by
  have reads : ((TokenReader.verifying gatewayKey .none).read gatewayToken 1750000000).toOption.isSome = true := by
    decide +kernel
  obtain ⟨value, found⟩ := Option.isSome_iff_exists.mp reads
  obtain ⟨accepted, _⟩ := accepted_only_in_compact_form (some gatewayKey) .none 1750000000 gatewayToken
  obtain ⟨compact, dots⟩ := accepted value (to_option_eq_some_iff.mp found)
  have formless : ¬IsCompact (gatewayToken ++ [dot]) := by
    intro other
    have more := other.two_dots
    rw [List.count_append, dots] at more
    cases more
  obtain ⟨_, refused⟩ := accepted_only_in_compact_form (some gatewayKey) .none 0 (gatewayToken ++ [dot])
  have wellFormed : Text.isWellFormed (gatewayToken ++ [dot]) = true := by decide +kernel
  have rejected := refused formless
  rw [if_pos wellFormed] at rejected
  exact ⟨compact, dots, formless, rejected⟩

/-- A payload that comes with its padding is accepted, so the letters are not all that a segment may hold. -/
theorem padding_accepted :
    let token := segment unsignedHeader ++ dot :: Base64.encodePadded .url [123, 125] ++ dot :: []
    (∃ value, (TokenReader.trusting .none).read token 0 = .ok value) ∧
      ¬∃ header payload signature, token = header ++ dot :: payload ++ dot :: signature ∧
        ∀ c ∈ header ++ payload ++ signature, IsUrlLetter c := by
  intro token
  have reads : ((TokenReader.trusting .none).read token 0).toOption.isSome = true := by decide +kernel
  obtain ⟨value, found⟩ := Option.isSome_iff_exists.mp reads
  refine ⟨⟨value, to_option_eq_some_iff.mp found⟩, ?_⟩
  rintro ⟨header, payload, signature, whole, letters⟩
  have sign : 61 ∈ token := by decide
  have inSegment : 61 ∈ header ++ payload ++ signature := by
    rw [whole] at sign
    have notDot : 61 ≠ dot := by decide
    simpa [notDot] using sign
  have letter := letters 61 inSegment
  unfold IsUrlLetter at letter
  exact absurd letter (by decide)

end BearerRole.Token
