import BearerRole.Proofs.Elevation
import BearerRole.Proofs.Token.Failure
import BearerRole.Proofs.Token.Minting

/-!
What a verifying reader tells of a token that its key has not signed. Claims are asked only after the signature, so of two such
tokens with the same header and signature both are rejected alike, whatever their payloads hold. Only a header that declares its
payload detached makes a difference, between a payload segment that is empty and one that is not.
-/

namespace BearerRole.Token

set_option autoImplicit false

def claimReasons : List Text :=
  [text "token_expired", text "token_not_yet_valid", text "invalid_issuer", text "invalid_audience",
    text "missing_claim"]

/-- A step that fails with nothing but some rejections, of which none tells of the claims. -/
def IsBlind {α : Type} (step : Except Rejection α) : Prop :=
  ∀ r, step = .error r → r.reason ∉ claimReasons

variable {α β : Type}

theorem blind_ok (a : α) : IsBlind (.ok a) := by
  intro r failed
  cases failed

theorem blind_error {r : Rejection} (silent : r.reason ∉ claimReasons) : IsBlind (.error r : Except Rejection α) := by
  intro other failed
  cases failed
  exact silent

theorem IsBlind.bind {step : Except Rejection α} {next : α → Except Rejection β} (first : IsBlind step)
    (second : ∀ a, IsBlind (next a)) : IsBlind (step >>= next) := by
  intro r failed
  rcases bind_eq_error_iff.mp failed with failed | ⟨a, _, failed⟩
  · exact first r failed
  · exact second a r failed

theorem decode_blind (token : Text) : IsBlind (decode token) := by
  intro r failed
  rw [malformed_of_decode failed]
  decide

theorem check_header_blind (header : Fields) : IsBlind (checkHeader header) := by
  unfold checkHeader
  split
  · exact blind_error (by decide)
  · split
    · split
      · exact blind_error (by decide)
      · exact blind_error (by decide)
    · exact blind_ok ()

theorem check_signature_blind (key : RsaKey) (header : Fields) (signed signature : Bytes) :
    IsBlind (checkSignature key header signed signature) := by
  unfold checkSignature
  split
  · exact blind_error (by decide)
  · split
    · exact blind_ok ()
    · exact blind_error (by decide)

theorem authenticate_blind (key : RsaKey) (token : Text) : IsBlind (authenticate (some key) token) :=
  (decode_blind token).bind fun decoded => (check_header_blind _).bind fun _ =>
    (check_signature_blind key _ _ _).bind fun _ => blind_ok decoded

variable {key : RsaKey} {header signature first second : Text}

/-- Two tokens come apart alike: both fail with one rejection, or both have one header. -/
inductive DecodedAlike : Except Rejection Decoded → Except Rejection Decoded → Prop
  | failed (r : Rejection) : DecodedAlike (.error r) (.error r)
  | decoded {one other : Decoded} (header : one.header = other.header) : DecodedAlike (.ok one) (.ok other)

/-- A header with a detached payload wants the payload segment empty; this is all that is found out of two payloads that can both
be decoded. -/
theorem payloads_alike {fields : Fields} {firstBytes secondBytes : Bytes}
    (firstRead : Base64.decodeSegment first = some firstBytes)
    (secondRead : Base64.decodeSegment second = some secondBytes)
    (detachedAlike : isDetached fields = true → (first = [] ↔ second = [])) :
    (payloadOf fields first = .error .malformed ∧ payloadOf fields second = .error .malformed) ∨
      ∃ one other, payloadOf fields first = .ok one ∧ payloadOf fields second = .ok other := by
  cases detached : isDetached fields with
  | false =>
      rw [payload_of_attached detached, payload_of_attached detached, firstRead, secondRead]
      exact .inr ⟨firstBytes, secondBytes, rfl, rfl⟩
  | true =>
      have alike := detachedAlike detached
      simp only [payloadOf, detached, if_true, List.isEmpty_iff]
      by_cases empty : first = []
      · rw [if_pos empty, if_pos (alike.mp empty)]
        exact .inr ⟨[], [], rfl, rfl⟩
      · rw [if_neg empty, if_neg fun none => empty (alike.mpr none)]
        exact .inl ⟨rfl, rfl⟩

theorem decode_alike {firstBytes secondBytes : Bytes} (firstDot : dot ∉ header) (lastDot : dot ∉ signature)
    (firstRead : Base64.decodeSegment first = some firstBytes)
    (secondRead : Base64.decodeSegment second = some secondBytes)
    (detachedAlike : ∀ fields, Holds header fields → isDetached fields = true → (first = [] ↔ second = [])) :
    DecodedAlike (decode (header ++ dot :: first ++ dot :: signature))
      (decode (header ++ dot :: second ++ dot :: signature)) := by
  rw [decode_eq, decode_eq, compact_of_segments first firstDot lastDot, compact_of_segments second firstDot lastDot]
  simp only [require, ok_bind]
  cases headerRead : Base64.decodeSegment header with
  | none => exact .failed .malformed
  | some json =>
      simp only [ok_bind]
      cases object : object? json with
      | none => exact .failed .malformed
      | some fields =>
          simp only [ok_bind]
          rcases payloads_alike firstRead secondRead (detachedAlike fields ⟨json, headerRead, object⟩) with
            ⟨one, other⟩ | ⟨_, _, one, other⟩
          · rw [one, other]
            exact .failed .malformed
          · rw [one, other]
            cases Base64.decodeSegment signature with
            | none => exact .failed .malformed
            | some bytes => exact .decoded rfl

theorem check_signature_eq_error {fields : Fields} {signed bytes : Bytes} {r : Rejection}
    (failed : checkSignature key fields signed bytes = .error r) :
    r = if (algorithm? fields).isSome then .invalidSignature else .invalidAlgorithm := by
  unfold checkSignature at failed
  split at failed
  · next none =>
      cases failed
      rw [none]
      rfl
  · next algorithm named =>
      split at failed
      · cases failed
      · cases failed
        rw [named]
        rfl

/-- Once a token has come apart, its header alone settles by which rejection it fails to be authentic. -/
theorem rejection_of_header {token : Text} {decoded : Decoded} {r : Rejection} (structured : decode token = .ok decoded)
    (failed : authenticate (some key) token = .error r) :
    checkHeader decoded.header = .error r ∨ checkHeader decoded.header = .ok () ∧
      r = if (algorithm? decoded.header).isSome then .invalidSignature else .invalidAlgorithm := by
  unfold authenticate at failed
  rw [structured, ok_bind] at failed
  rcases bind_eq_error_iff.mp failed with failed | ⟨_, checked, failed⟩
  · exact .inl failed
  · rcases bind_eq_error_iff.mp failed with failed | ⟨_, _, failed⟩
    · exact .inr ⟨checked, check_signature_eq_error failed⟩
    · cases failed

theorem authenticate_alike {one other : Text} {r r' : Rejection} (alike : DecodedAlike (decode one) (decode other))
    (oneFails : authenticate (some key) one = .error r) (otherFails : authenticate (some key) other = .error r') :
    r = r' := by
  generalize oneDecoded : decode one = x at alike
  generalize otherDecoded : decode other = y at alike
  cases alike with
  | failed early =>
      rw [authenticate, oneDecoded] at oneFails
      rw [authenticate, otherDecoded] at otherFails
      cases oneFails
      cases otherFails
      rfl
  | decoded header =>
      have oneRejection := rejection_of_header oneDecoded oneFails
      have otherRejection := rejection_of_header otherDecoded otherFails
      rw [header] at oneRejection
      rcases oneRejection with failed | ⟨checked, rfl⟩
      · rcases otherRejection with other | ⟨other, _⟩
        · exact Except.error.inj (failed.symm.trans other)
        · cases failed.symm.trans other
      · rcases otherRejection with other | ⟨_, rfl⟩
        · cases checked.symm.trans other
        · rfl

theorem not_authentic_of_unsigned (firstDot : dot ∉ header) (lastDot : dot ∉ signature)
    (unsigned : ¬IsSigned key header first signature) (decoded : Decoded) :
    authenticate (some key) (header ++ dot :: first ++ dot :: signature) ≠ .ok decoded := by
  intro passed
  obtain ⟨header', payload', signature', whole, firstDot', lastDot', signed, _⟩ :=
    authenticate_iff_signed.mp ⟨decoded, passed, rfl⟩
  have parts := compact_of_segments first firstDot lastDot
  rw [whole, compact_of_segments payload' firstDot' lastDot', Option.some.injEq, Compact.mk.injEq] at parts
  obtain ⟨_, rfl, rfl, rfl⟩ := parts
  exact unsigned signed

def FailsBlindly (parsed : Except Fault Value) : Prop :=
  ∃ fault, parsed = .error fault ∧ ∀ reason ∈ claimReasons, ¬RejectedFor reason parsed

theorem fails_blindly_unencodable : FailsBlindly (.error .unencodable) := by
  refine ⟨_, rfl, ?_⟩
  intro reason _ rejected
  cases rejected_for_iff.mp rejected

theorem fails_blindly_of_silent {r : Rejection} (silent : r.reason ∉ claimReasons) : FailsBlindly (.error r.fault) := by
  refine ⟨_, rfl, ?_⟩
  intro reason tells rejected
  rw [← rejected_for_fault_iff.mp rejected] at tells
  exact silent tells

/-- A payload that can be decoded is ASCII, so whether the token has a UTF-8 form lies with the other two segments. -/
theorem well_formed_around (header signature : Text) {payload : Text} {bytes : Bytes}
    (payloadRead : Base64.decodeSegment payload = some bytes) :
    Text.isWellFormed (header ++ dot :: payload ++ dot :: signature) =
      (Text.isWellFormed header && Text.isWellFormed signature) := by
  have ofDot : Text.isWellFormed [dot] = true := by decide
  have ofPayload := Utf8.ascii_well_formed (Base64.ascii_of_decode_segment payloadRead)
  rw [← List.singleton_append, ← List.singleton_append (l := signature)]
  simp only [Utf8.well_formed_append, ofDot, ofPayload, Bool.true_and, Bool.and_true]

theorem read_unsigned (expected : Expectations) (now : Instant) (firstDot : dot ∉ header) (lastDot : dot ∉ signature)
    (unsigned : ¬IsSigned key header first signature)
    (wellFormed : Text.isWellFormed (header ++ dot :: first ++ dot :: signature) = true) :
    ∃ r, authenticate (some key) (header ++ dot :: first ++ dot :: signature) = .error r ∧
      (TokenReader.verifying key expected).read (header ++ dot :: first ++ dot :: signature) now = .error r.fault := by
  cases ended : authenticate (some key) (header ++ dot :: first ++ dot :: signature) with
  | ok decoded => exact absurd ended (not_authentic_of_unsigned firstDot lastDot unsigned decoded)
  | error r =>
      refine ⟨r, rfl, ?_⟩
      show (TokenReader.forKey (some key) expected).read _ now = _
      rw [read_for_key, claims_of_failed_authenticate wellFormed ended]
      rfl

/-- Of two tokens with the same header and signature segments, and with payloads that can be decoded, that the key of a
verifying reader has not signed, both fail without a word of their claims, and both with a rejection or neither: with one where
no surrogate stands alone in the segments that they share. They fail alike in all, unless the header declares its payload
detached and just one of the payloads is empty. -/
theorem payload_unseen_before_signature (key : RsaKey) (expected : Expectations) (now : Instant)
    {header signature first second : Text} (firstDot : dot ∉ header) (lastDot : dot ∉ signature)
    (firstRead : (Base64.decodeSegment first).isSome = true)
    (secondRead : (Base64.decodeSegment second).isSome = true)
    (firstUnsigned : ¬IsSigned key header first signature)
    (secondUnsigned : ¬IsSigned key header second signature) :
    let parsed (payload : Text) :=
      (TokenReader.verifying key expected).read (header ++ dot :: payload ++ dot :: signature) now
    FailsBlindly (parsed first) ∧ FailsBlindly (parsed second) ∧
      (EndsAsDeclared (parsed first) ↔ EndsAsDeclared (parsed second)) ∧
      (Text.isWellFormed header = true → Text.isWellFormed signature = true →
        ∃ r r' : Rejection, parsed first = .error r.fault ∧ parsed second = .error r'.fault) ∧
      ((∀ fields, Holds header fields → isDetached fields = true → (first = [] ↔ second = [])) →
        parsed first = parsed second) := by
  intro parsed
  obtain ⟨firstBytes, firstRead⟩ := Option.isSome_iff_exists.mp firstRead
  obtain ⟨secondBytes, secondRead⟩ := Option.isSome_iff_exists.mp secondRead
  have firstForm := well_formed_around header signature firstRead
  have secondForm := well_formed_around header signature secondRead
  cases wellFormed : Text.isWellFormed header && Text.isWellFormed signature with
  | false =>
      have firstFails : parsed first = .error .unencodable :=
        read_ill_formed (some key) expected now (firstForm.trans wellFormed)
      have secondFails : parsed second = .error .unencodable :=
        read_ill_formed (some key) expected now (secondForm.trans wellFormed)
      rw [firstFails, secondFails]
      refine ⟨fails_blindly_unencodable, fails_blindly_unencodable, Iff.rfl, ?_, fun _ => rfl⟩
      intro headerForm signatureForm
      simp [headerForm, signatureForm] at wellFormed
  | true =>
      obtain ⟨r, firstFails, firstEnds⟩ : ∃ r, authenticate (some key) _ = .error r ∧ parsed first = .error r.fault :=
        read_unsigned expected now firstDot lastDot firstUnsigned (firstForm.trans wellFormed)
      obtain ⟨r', secondFails, secondEnds⟩ : ∃ r, authenticate (some key) _ = .error r ∧ parsed second = .error r.fault :=
        read_unsigned expected now firstDot lastDot secondUnsigned (secondForm.trans wellFormed)
      have firstSilent := authenticate_blind key _ r firstFails
      have secondSilent := authenticate_blind key _ r' secondFails
      rw [firstEnds, secondEnds]
      refine ⟨fails_blindly_of_silent firstSilent, fails_blindly_of_silent secondSilent,
        iff_of_true (.rejected r) (.rejected r'), fun _ _ => ⟨r, r', rfl, rfl⟩, ?_⟩
      intro detachedAlike
      have alike := decode_alike firstDot lastDot firstRead secondRead detachedAlike
      rw [authenticate_alike alike firstFails secondFails]

/-- Claims that are expired, and claims of another issuer, under a signature that the key has made for neither. -/
theorem forged_payloads_alike :
    let header := segment gatewayHeader
    let signature := Base64.encode .url gatewaySignature
    let expired := segment [(text "exp", .int 0)]
    let foreign := segment [(text "iss", .ofText "https://other.test")]
    let parsed (payload : Text) := (TokenReader.verifying gatewayKey ⟨.ofText "https://issuer.test", .null⟩).read
      (header ++ dot :: payload ++ dot :: signature) 1750000000
    ¬IsSigned gatewayKey header expired signature ∧ ¬IsSigned gatewayKey header foreign signature ∧
      parsed expired = parsed foreign ∧ RejectedFor (text "invalid_signature") (parsed expired) := by
  intro header signature expired foreign parsed
  have firstDot : dot ∉ header := dot_not_mem_segment gatewayHeader
  have lastDot : dot ∉ signature := by decide +kernel
  have unsigned : ∀ payload : Text, (Base64.decodeSegment payload).isSome = true →
      (authenticate (some gatewayKey) (header ++ dot :: payload ++ dot :: signature)).toOption.isSome = false →
        ¬IsSigned gatewayKey header payload signature := by
    intro payload readable fails signed
    obtain ⟨json, decoded⟩ := Option.isSome_iff_exists.mp readable
    obtain ⟨_, passed, _⟩ := authenticate_iff_signed.mpr ⟨_, _, _, rfl, firstDot, lastDot, signed, decoded⟩
    rw [passed] at fails
    cases fails
  have readable (claims : Fields) : (Base64.decodeSegment (segment claims)).isSome = true := by
    rw [segment, Base64.decode_segment_encode]
    rfl
  have expiredUnsigned := unsigned expired (readable _) (by decide +kernel)
  have foreignUnsigned := unsigned foreign (readable _) (by decide +kernel)
  obtain ⟨_, _, _, _, alike⟩ := payload_unseen_before_signature gatewayKey ⟨.ofText "https://issuer.test", .null⟩ 1750000000
    firstDot lastDot (readable _) (readable _) expiredUnsigned foreignUnsigned
  have same := alike fun _ _ _ => iff_of_false (by decide +kernel) (by decide +kernel)
  exact ⟨expiredUnsigned, foreignUnsigned, same, by decide +kernel⟩

theorem holds_unique {segment : Text} {fields others : Fields} (holds : Holds segment fields)
    (alsoHolds : Holds segment others) : fields = others := by
  obtain ⟨json, read, object⟩ := holds
  obtain ⟨json', read', object'⟩ := alsoHolds
  cases read.symm.trans read'
  exact Option.some.inj (object.symm.trans object')

theorem unsigned_of_detached {fields : Fields} (holds : Holds header fields) (detached : isDetached fields = true) :
    ¬IsSigned key header first signature := by
  intro signed
  obtain ⟨others, _, _, _, alsoHolds, checked, _⟩ := signed.valid
  have attached := attached_of_check checked
  rw [← holds_unique holds alsoHolds, detached] at attached
  cases attached

def detachedHeader : Fields := [(text "alg", .ofText "RS256"), (text "b64", .bool false)]

theorem plain_detached_header : Json.IsPlain 4300 limits.depth (.object detachedHeader) := by
  refine .object 979 detachedHeader (by decide) (by decide) ?_
  intro entry member
  simp only [detachedHeader, List.mem_cons, List.not_mem_nil, or_false] at member
  rcases member with rfl | rfl
  · exact plain_literal 979 "RS256" (by decide)
  · exact .bool 979 false

/-- A detached payload is told from one that is sent along by the reason of the rejection, though neither is signed. -/
theorem detached_payload_told_apart :
    let header := segment detachedHeader
    let sent := segment [(text "role", .ofText "operator")]
    let parsed (payload : Text) :=
      (TokenReader.verifying gatewayKey .none).read (header ++ dot :: payload ++ dot :: []) 0
    dot ∉ header ∧ Text.isWellFormed header = true ∧ dot ∉ sent ∧ Text.isWellFormed sent = true ∧
      (Base64.decodeSegment []).isSome = true ∧ (Base64.decodeSegment sent).isSome = true ∧
        ¬IsSigned gatewayKey header [] [] ∧ ¬IsSigned gatewayKey header sent [] ∧
          RejectedFor (text "invalid_token") (parsed []) ∧ RejectedFor (text "malformed_token") (parsed sent) := by
  intro header sent parsed
  have holds : Holds header detachedHeader := read_segment plain_detached_header
  have detached : isDetached detachedHeader = true := rfl
  exact ⟨by decide, by decide, by decide, by decide, by decide, by decide, unsigned_of_detached holds detached,
    unsigned_of_detached holds detached, by decide +kernel, by decide +kernel⟩

end BearerRole.Token
