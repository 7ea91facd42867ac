import BearerRole.Proofs.Partial
import BearerRole.Proofs.Text.Cutting
import BearerRole.Token.Reader

/-!
When a token is accepted, said check by check. Reading a token runs through its stages and stops at the first that
fails, so a token is accepted with some claims exactly when each stage passes by itself; which stage fails
first matters for the rejection alone.
-/

namespace BearerRole

set_option autoImplicit false

namespace Token

theorem require_eq_ok_iff {α : Type} {r : Rejection} {part : Option α} {a : α} :
    require r part = .ok a ↔ part = some a := by
  cases part <;> simp [require]

theorem reject_eq_ok_iff {α : Type} {x : Except Rejection α} {a : α} :
    reject x = .ok a ↔ x = .ok a := by
  cases x <;> simp [reject]

theorem compact_eq_some_iff {token : Text} {compact : Compact} :
    Compact.ofText? token = some compact ↔
      token = compact.signed ++ dot :: compact.signature ∧ dot ∉ compact.signature ∧
        compact.signed = compact.header ++ dot :: compact.payload ∧ dot ∉ compact.header := by
  unfold Compact.ofText?
  simp only [Option.bind_eq_bind, Option.bind_eq_some_iff, Prod.exists, Text.cut_last_eq_some_iff,
    Text.cut_eq_some_iff]
  constructor
  · intro facts
    rcases facts with ⟨signed, signature, ⟨whole, last⟩, header, payload, ⟨parts, first⟩, same⟩
    cases same
    exact ⟨whole, last, parts, first⟩
  · intro facts
    rcases facts with ⟨whole, last, parts, first⟩
    exact ⟨_, _, ⟨whole, last⟩, _, _, ⟨parts, first⟩, rfl⟩

def payloadOf (header : Fields) (segment : Text) : Except Rejection Bytes :=
  if isDetached header then
    if segment.isEmpty then .ok [] else .error .malformed
  else require .malformed (Base64.decodeSegment segment)

theorem decode_eq (token : Text) :
    decode token = (do
      let compact ← require .malformed (Compact.ofText? token)
      let json ← require .malformed (Base64.decodeSegment compact.header)
      let header ← require .malformed (object? json)
      let payload ← payloadOf header compact.payload
      let signature ← require .malformed (Base64.decodeSegment compact.signature)
      .ok ⟨header, compact.signed.map UInt8.ofNat, payload, signature⟩) := by
  unfold decode payloadOf
  refine bind_congr fun compact => bind_congr fun json => bind_congr fun header => ?_
  split
  · split <;> rfl
  · rfl

theorem payload_of_attached {header : Fields} (attached : isDetached header = false) (segment : Text) :
    payloadOf header segment = require .malformed (Base64.decodeSegment segment) := by
  rw [payloadOf, if_neg (by simp [attached])]

/-- The parts of a token from which its decoded form comes, of a header that keeps its payload in the token. -/
structure Decodes (compact : Compact) (decoded : Decoded) : Prop where
  header : ∃ json, Base64.decodeSegment compact.header = some json ∧ object? json = some decoded.header
  payload : Base64.decodeSegment compact.payload = some decoded.payload
  signature : Base64.decodeSegment compact.signature = some decoded.signature
  signed : decoded.signed = compact.signed.map UInt8.ofNat

theorem decode_eq_ok_iff {token : Text} {decoded : Decoded} (attached : isDetached decoded.header = false) :
    decode token = .ok decoded ↔ ∃ compact, Compact.ofText? token = some compact ∧ Decodes compact decoded := by
  simp only [decode_eq, bind_eq_ok_iff, require_eq_ok_iff, Except.ok.injEq]
  constructor
  · intro structured
    rcases structured with ⟨compact, found, json, headerRead, header, object, payload, payloadRead, signature, signatureRead, rfl⟩
    rw [payload_of_attached attached, require_eq_ok_iff] at payloadRead
    exact ⟨compact, found, ⟨json, headerRead, object⟩, payloadRead, signatureRead, rfl⟩
  · intro facts
    rcases facts with ⟨compact, found, ⟨json, headerRead, object⟩, payloadRead, signatureRead, signed⟩
    refine ⟨compact, found, json, headerRead, decoded.header, object, decoded.payload, ?_, decoded.signature,
      signatureRead, ?_⟩
    · rw [payload_of_attached attached]
      exact require_eq_ok_iff.mpr payloadRead
    · rw [← signed]

/-- Every reader checks the window, and the claims with names only where they are asked for. Of the registered claims besides
these none is checked. -/
theorem asks_of_key (key : Option RsaKey) (expected : Expectations) (check : Check) :
    (Options.ofKey key expected).asks check =
      match check with
      | .signature => key.isSome
      | .notBefore => true
      | .expiry => true
      | .issuer => key.isSome || !expected.issuer.isNull
      | .audience => !expected.audience.isNull
      | .issuedAt => false
      | .subject => false
      | .tokenId => false := by
  cases key <;> cases check <;> rfl

def askAudience (expected : Value) (wanted : List Text) (claims : Fields) : Except Rejection Unit :=
  if expected.isNull then .ok () else checkAudience expected wanted claims

theorem ask_audience_text (expected : Text) (wanted : List Text) (claims : Fields) :
    askAudience (.text expected) wanted claims = checkAudience (.text expected) wanted claims := rfl

def configuredChecks (expected : Expectations) (wanted : List Text) (now : Instant) (claims : Fields) :
    Except Rejection Unit := do
  checkNotBefore now claims
  checkExpiry now claims
  checkIssuer expected.issuer claims
  askAudience expected.audience wanted claims

theorem check_issuer_null (claims : Fields) : checkIssuer .null claims = .ok () := rfl

theorem check_claims_of_key (key : Option RsaKey) (expected : Expectations) (wanted : List Text) (now : Instant)
    (claims : Fields) :
    checkClaims (.ofKey key expected) expected wanted now claims = configuredChecks expected wanted now claims := by
  obtain ⟨issuer, audience⟩ := expected
  have ofIssuer : (Options.ofKey key ⟨issuer, audience⟩).ask .issuer (checkIssuer issuer claims) =
      checkIssuer issuer claims := by
    simp only [Options.ask, asks_of_key]
    cases issuer <;> simp [Value.isNull, check_issuer_null]
  have ofAudience : (Options.ofKey key ⟨issuer, audience⟩).ask .audience (checkAudience audience wanted claims) =
      askAudience audience wanted claims := by
    simp only [Options.ask, asks_of_key, askAudience]
    cases audience <;> rfl
  simp only [checkClaims, ofIssuer, ofAudience]
  simp only [Options.ask, asks_of_key, if_true, Bool.false_eq_true, if_false, ok_bind, bind_ok_unit, configuredChecks]

theorem claims_eq (key : Option RsaKey) (expected : Expectations) (now : Instant) (token : Text) :
    claims key expected now token =
      if Text.isWellFormed token then do
        let decoded ← reject (authenticate key token)
        let claims ← reject (require .malformed (object? decoded.payload))
        let wanted ← wantedAudiences expected.audience
        reject (configuredChecks expected wanted now claims)
        .ok claims
      else .error .unencodable := by
  have asked : (if (Options.ofKey key expected).asks .signature then key else none) = key := by
    cases key <;> rfl
  simp only [claims, asked, check_claims_of_key]

/-- The checks on the claims alone. The audiences are asked for only where one is configured, and what cannot be
asked for is a fault of its own. -/
structure ClaimsPass (expected : Expectations) (now : Instant) (claims : Fields) : Prop where
  notBefore : checkNotBefore now claims = .ok ()
  expiry : checkExpiry now claims = .ok ()
  issuer : checkIssuer expected.issuer claims = .ok ()
  audience : ∃ wanted, wantedAudiences expected.audience = .ok wanted ∧
    askAudience expected.audience wanted claims = .ok ()

/-- The checks on a token that was taken apart, of which only a key adds one. -/
structure Passes (key : Option RsaKey) (expected : Expectations) (now : Instant) (decoded : Decoded)
    (claims : Fields) : Prop where
  header : checkHeader decoded.header = .ok ()
  signature : ∀ k, key = some k →
    checkSignature k decoded.header decoded.signed decoded.signature = .ok ()
  payload : object? decoded.payload = some claims
  claims : ClaimsPass expected now claims

theorem configured_checks_eq_ok_iff {expected : Expectations} {wanted : List Text} {now : Instant}
    {claims : Fields} {passed : Unit} :
    configuredChecks expected wanted now claims = .ok passed ↔
      checkNotBefore now claims = .ok () ∧ checkExpiry now claims = .ok () ∧
        checkIssuer expected.issuer claims = .ok () ∧
          askAudience expected.audience wanted claims = .ok () := by
  simp only [configuredChecks, check_bind_eq_ok_iff]

theorem authenticate_eq_ok_iff {key : Option RsaKey} {token : Text} {decoded : Decoded} :
    authenticate key token = .ok decoded ↔
      decode token = .ok decoded ∧ checkHeader decoded.header = .ok () ∧
        ∀ k, key = some k →
          checkSignature k decoded.header decoded.signed decoded.signature = .ok () := by
  rw [authenticate, bind_eq_ok_iff]
  cases key with
  | none =>
      simp only [check_bind_eq_ok_iff, Except.ok.injEq, true_and, reduceCtorEq, false_implies,
        implies_true, and_true]
      constructor
      · intro facts
        rcases facts with ⟨_, structured, header, rfl⟩
        exact ⟨structured, header⟩
      · intro facts
        rcases facts with ⟨structured, header⟩
        exact ⟨decoded, structured, header, rfl⟩
  | some k =>
      simp only [check_bind_eq_ok_iff, Except.ok.injEq, Option.some.injEq, forall_eq']
      constructor
      · intro facts
        rcases facts with ⟨_, structured, header, signature, rfl⟩
        exact ⟨structured, header, signature⟩
      · intro facts
        rcases facts with ⟨structured, header, signature⟩
        exact ⟨decoded, structured, header, signature, rfl⟩

/-- A token is accepted exactly when it has the structure of one and every check passes. -/
theorem claims_eq_ok_iff {key : Option RsaKey} {expected : Expectations} {now : Instant} {token : Text}
    {accepted : Fields} :
    claims key expected now token = .ok accepted ↔
      Text.isWellFormed token = true ∧
        ∃ decoded, decode token = .ok decoded ∧ Passes key expected now decoded accepted := by
  rw [claims_eq]
  split
  · next wellFormed =>
      simp only [bind_eq_ok_iff, reject_eq_ok_iff, authenticate_eq_ok_iff, require_eq_ok_iff,
        configured_checks_eq_ok_iff, Except.ok.injEq, wellFormed, true_and]
      constructor
      · intro facts
        rcases facts with ⟨decoded, ⟨structured, header, signature⟩, _, payload, wanted, asked, _,
          ⟨notBefore, expiry, issuer, audience⟩, rfl⟩
        exact ⟨decoded, structured, header, signature, payload,
          notBefore, expiry, issuer, wanted, asked, audience⟩
      · intro facts
        rcases facts with ⟨decoded, structured, header, signature, payload, notBefore, expiry, issuer, wanted,
          asked, audience⟩
        exact ⟨decoded, ⟨structured, header, signature⟩, accepted, payload, wanted, asked, (),
          ⟨notBefore, expiry, issuer, audience⟩, rfl⟩
  · next illFormed =>
      constructor
      · intro failed
        cases failed
      · intro facts
        rcases facts with ⟨wellFormed, _⟩
        exact absurd wellFormed illFormed

theorem read_for_key (key : Option RsaKey) (expected : Expectations) (now : Instant) (token : Text) :
    (TokenReader.forKey key expected).read token now = (claims key expected now token).map .object := by
  cases key <;> rfl

theorem read_eq_ok_iff {key : Option RsaKey} {expected : Expectations} {now : Instant} {token : Text}
    {value : Value} :
    (TokenReader.forKey key expected).read token now = .ok value ↔
      Text.isWellFormed token = true ∧ ∃ decoded accepted, value = .object accepted ∧
        decode token = .ok decoded ∧ Passes key expected now decoded accepted := by
  rw [read_for_key, map_eq_ok_iff]
  constructor
  · intro read
    rcases read with ⟨accepted, claimed, object⟩
    rcases claims_eq_ok_iff.mp claimed with ⟨wellFormed, decoded, structured, passes⟩
    exact ⟨wellFormed, decoded, accepted, object, structured, passes⟩
  · intro parts
    rcases parts with ⟨wellFormed, decoded, accepted, object, structured, passes⟩
    exact ⟨accepted, claims_eq_ok_iff.mpr ⟨wellFormed, decoded, structured, passes⟩, object⟩

end Token

end BearerRole
