import BearerRole.Extractor
import BearerRole.Proofs.Token.Acceptance

/-!
Acceptance under a key, an issuer and an audience together is acceptance under each of them alone. Every check is made
or left out by itself, and none of them touches the claims, so a further check can only turn tokens away.
-/

namespace BearerRole.Token

set_option autoImplicit false

/-- What a reader is set up with: the key that verifies, if any, and what it asks of the claims. -/
structure Policy where
  key : Option RsaKey
  expected : Expectations

def Policy.reader (policy : Policy) : TokenReader := .forKey policy.key policy.expected

/-- One policy makes every check that another makes. What the other leaves out it may add. -/
structure Policy.Tightens (tight loose : Policy) : Prop where
  key : loose.key = none ∨ loose.key = tight.key
  issuer : loose.expected.issuer = .null ∨ loose.expected.issuer = tight.expected.issuer
  audience : loose.expected.audience = .null ∨ loose.expected.audience = tight.expected.audience

theorem wanted_audiences_null : wantedAudiences .null = .ok [] := rfl

theorem ask_audience_null (wanted : List Text) (claims : Fields) :
    askAudience .null wanted claims = .ok () := rfl

theorem Passes.loosen {tight loose : Policy} (tightens : tight.Tightens loose) {now : Instant} {decoded : Decoded}
    {accepted : Fields} (passes : Passes tight.key tight.expected now decoded accepted) :
    Passes loose.key loose.expected now decoded accepted where
  header := passes.header
  signature := by
    intro key configured
    rcases tightens.key with absent | same
    · rw [absent] at configured
      cases configured
    · rw [same] at configured
      exact passes.signature key configured
  payload := passes.payload
  claims := {
    notBefore := passes.claims.notBefore
    expiry := passes.claims.expiry
    issuer := by
      rcases tightens.issuer with absent | same
      · rw [absent]
        exact check_issuer_null accepted
      · rw [same]
        exact passes.claims.issuer
    audience := by
      rcases tightens.audience with absent | same
      · rw [absent]
        exact ⟨[], wanted_audiences_null, ask_audience_null [] accepted⟩
      · rw [same]
        exact passes.claims.audience }

theorem read_loosen {tight loose : Policy} (tightens : tight.Tightens loose) {now : Instant} {token : Text}
    {value : Value} (read : tight.reader.read token now = .ok value) :
    loose.reader.read token now = .ok value := by
  rw [Policy.reader, read_eq_ok_iff] at read ⊢
  obtain ⟨wellFormed, decoded, accepted, object, structured, passes⟩ := read
  exact ⟨wellFormed, decoded, accepted, object, structured, passes.loosen tightens⟩

/-- The three checks that a policy may add are made of the same decoded token. -/
theorem read_join {key : RsaKey} {issuer audience : Value} {now : Instant} {token : Text} {value : Value}
    (signed : (Policy.mk (some key) .none).reader.read token now = .ok value)
    (issued : (Policy.mk none ⟨issuer, .null⟩).reader.read token now = .ok value)
    (addressed : (Policy.mk none ⟨.null, audience⟩).reader.read token now = .ok value) :
    (Policy.mk (some key) ⟨issuer, audience⟩).reader.read token now = .ok value := by
  rw [Policy.reader, read_eq_ok_iff] at signed issued addressed ⊢
  obtain ⟨wellFormed, decoded, accepted, rfl, structured, bySignature⟩ := signed
  obtain ⟨_, first, claims, sameClaims, decodedFirst, byIssuer⟩ := issued
  obtain ⟨_, second, others, otherClaims, decodedSecond, byAudience⟩ := addressed
  -- Decoding asks for no policy, so all three readers have seen one and the same token and claims.
  rw [structured] at decodedFirst decodedSecond
  cases decodedFirst
  cases decodedSecond
  cases sameClaims
  cases otherClaims
  exact ⟨wellFormed, decoded, accepted, rfl, structured, {
    header := bySignature.header
    signature := bySignature.signature
    payload := bySignature.payload
    claims := ⟨bySignature.claims.notBefore, bySignature.claims.expiry, byIssuer.claims.issuer,
      byAudience.claims.audience⟩ }⟩

/-- A token is accepted under a key, an issuer and an audience exactly when it is accepted, with the same claims, under
each of the three alone. What a policy accepts every looser policy accepts with the same claims, and from them
extractors for the same claim derive the same role and leave the same records. -/
theorem acceptance_decomposes (key : RsaKey) (issuer audience : Value) (now : Instant) (token : Text)
    (claims : Value) :
    ((TokenReader.verifying key ⟨issuer, audience⟩).read token now = .ok claims ↔
      (TokenReader.verifying key .none).read token now = .ok claims ∧
        (TokenReader.trusting ⟨issuer, .null⟩).read token now = .ok claims ∧
          (TokenReader.trusting ⟨.null, audience⟩).read token now = .ok claims) ∧
      ∀ tight loose : Policy, tight.Tightens loose → tight.reader.read token now = .ok claims →
        loose.reader.read token now = .ok claims ∧
          ∀ path operatorValue authorization : Value, Bearer.token authorization = .ok (some token) →
            (TokenExtractor.mk loose.reader path operatorValue).derive authorization now =
              (TokenExtractor.mk tight.reader path operatorValue).derive authorization now := by
  constructor
  · constructor
    · intro accepted
      have byKey : Policy.Tightens ⟨some key, ⟨issuer, audience⟩⟩ ⟨some key, .none⟩ :=
        ⟨.inr rfl, .inl rfl, .inl rfl⟩
      have byIssuer : Policy.Tightens ⟨some key, ⟨issuer, audience⟩⟩ ⟨none, ⟨issuer, .null⟩⟩ :=
        ⟨.inl rfl, .inr rfl, .inl rfl⟩
      have byAudience : Policy.Tightens ⟨some key, ⟨issuer, audience⟩⟩ ⟨none, ⟨.null, audience⟩⟩ :=
        ⟨.inl rfl, .inl rfl, .inr rfl⟩
      exact ⟨read_loosen byKey accepted, read_loosen byIssuer accepted, read_loosen byAudience accepted⟩
    · intro facts
      rcases facts with ⟨signed, issued, addressed⟩
      exact read_join signed issued addressed
  · intro tight loose tightens accepted
    have loosened := read_loosen tightens accepted
    refine ⟨loosened, ?_⟩
    intro path operatorValue authorization sent
    unfold TokenExtractor.derive
    rw [sent]
    simp only [accepted, loosened]
    rfl

def gatewayKey : RsaKey :=
  ⟨Bytes.toNat
      (Bytes.ofNat 32 0xa4cbb70f508d3df7dfd2642c9b67afd8aa4e23b34c79c817f7ae6b358b8eb433 ++
        Bytes.ofNat 32 0x0b7fafb2806c29eb589a85b04e597a1581908eeb94662224288ae8ff2da73309), 65537⟩

def gatewayHeader : Fields := [(text "alg", .ofText "RS256"), (text "typ", .ofText "JWT")]

def gatewayClaims : Fields :=
  [(text "iss", .ofText "https://issuer.test"), (text "aud", .list [.ofText "gateway", .ofText "api"]),
    (text "nbf", .int 1700000000), (text "exp", .int 1800000000),
    (text "realm_access", .object [(text "roles", .list [.ofText "auditor", .ofText "Operator"])])]

def gatewaySignature : Bytes :=
  Bytes.ofNat 32 0x2dbaf0b84174f72fc602e5f62f766cab71aade19c79ce730113f59d061feca03 ++
    Bytes.ofNat 32 0xbe7569672e2be9223d7de55e985eecaef9b90c2a3977675ff895e9f1954ba6f7

def gatewayToken : Text :=
  segment gatewayHeader ++ [dot] ++ segment gatewayClaims ++ [dot] ++ Base64.encode .url gatewaySignature

theorem gateway_token_decomposes :
    ∃ claims, (TokenReader.verifying gatewayKey .none).read gatewayToken 1750000000 = .ok claims ∧
      (TokenReader.trusting ⟨.ofText "https://issuer.test", .null⟩).read gatewayToken 1750000000 = .ok claims ∧
        (TokenReader.trusting ⟨.null, .ofText "api"⟩).read gatewayToken 1750000000 = .ok claims ∧
          ((TokenExtractor.mk (.trusting .none) (.ofText "realm_access.roles") (.ofText "operator")).derive
            (.text (Bearer.wrap gatewayToken)) 1750000000).value.toOption = some .operator := by
  let policy : Policy := ⟨some gatewayKey, ⟨.ofText "https://issuer.test", .ofText "api"⟩⟩
  have reads : (policy.reader.read gatewayToken 1750000000).toOption.isSome = true := by decide +kernel
  have elevates : ((TokenExtractor.mk policy.reader (.ofText "realm_access.roles") (.ofText "operator")).derive
      (.text (Bearer.wrap gatewayToken)) 1750000000).value.toOption = some .operator := by decide +kernel
  have sent : (Bearer.token (.text (Bearer.wrap gatewayToken))).toOption = some (some gatewayToken) := by
    decide +kernel
  obtain ⟨claims, found⟩ := Option.isSome_iff_exists.mp reads
  have accepted := to_option_eq_some_iff.mp found
  obtain ⟨parts, loosens⟩ := acceptance_decomposes gatewayKey (.ofText "https://issuer.test")
    (.ofText "api") 1750000000 gatewayToken claims
  obtain ⟨signed, issued, addressed⟩ := parts.mp accepted
  have tightens : policy.Tightens ⟨none, .none⟩ := ⟨.inl rfl, .inl rfl, .inl rfl⟩
  have derives := (loosens policy ⟨none, .none⟩ tightens accepted).2 (.ofText "realm_access.roles")
    (.ofText "operator") (.text (Bearer.wrap gatewayToken)) (to_option_eq_some_iff.mp sent)
  rw [← derives] at elevates
  exact ⟨claims, signed, issued, addressed, elevates⟩

end BearerRole.Token
