import BearerRole.Proofs.Construction
import BearerRole.Proofs.Derivation
import BearerRole.Proofs.Token.Authentic
import BearerRole.Proofs.Token.Decomposition

/-!
Which requests a verifying extractor elevates. Each stage from the header of the request to the role is told apart and said
in terms of what the request sends, so that what all of them demand can be read off without following the code.
-/

namespace BearerRole

set_option autoImplicit false

open Json (IsJson)
open Settings (RoleSettings)
open Token (dot object? checkHeader algorithmEntry Instant NamesAudience)

/-- A request sends a token of three segments: behind the scheme and one space, with blanks around it, and with the
first dot after the header and the last one before the signature. -/
structure Sends (request : Request) (header payload signature : Text) : Prop where
  value : ∃ scheme value, request.headers.get Bearer.headerName = .ok (.text (scheme ++ 32 :: value)) ∧
    32 ∉ scheme ∧ Text.lower scheme = text "bearer" ∧
      Text.trim value = header ++ dot :: payload ++ dot :: signature
  firstDot : dot ∉ header
  lastDot : dot ∉ signature

def Holds (segment : Text) (fields : Fields) : Prop :=
  ∃ json, Base64.decodeSegment segment = some json ∧ object? json = some fields

/-- The header says of itself only what can be met and names an algorithm, by which the signature of header and
payload as they were sent is valid under a key that can verify. -/
structure IsSigned (key : RsaKey) (header payload signature : Text) : Prop where
  able : Signature.canVerify key = true
  valid : ∃ fields algorithm message bytes, Holds header fields ∧ checkHeader fields = .ok () ∧
    fields.get? algorithmEntry = some (.text (Algorithm.name algorithm)) ∧
      Utf8.encode? (header ++ dot :: payload) = some message ∧
        Base64.decodeSegment signature = some bytes ∧ Signature.IsValid key algorithm message bytes

/-- The claims hold at an instant: from the second of `nbf` on and before that of `exp`, where they have one. -/
structure IsCurrent (now : Instant) (claims : Fields) : Prop where
  begun : ∀ v, claims.get? (text "nbf") = some v →
    ∃ second, Token.second? v = some second ∧ (second : Rat) ≤ now
  lasting : ∀ v, claims.get? (text "exp") = some v →
    ∃ second, Token.second? v = some second ∧ now < (second : Rat)

/-- The claims that give the operator role: a text that is the operator value without regard to case, or a list with
such a text among its members. -/
inductive Grants (operatorValue : Text) : Value → Prop
  | text (t : Text) (same : Text.fold t = Text.fold operatorValue) : Grants operatorValue (.text t)
  | list (items : List Value) (t : Text) (member : .text t ∈ items)
      (same : Text.fold t = Text.fold operatorValue) : Grants operatorValue (.list items)

structure IsElevated (key : RsaKey) (settings : RoleSettings) (request : Request) (now : Instant)
    (header payload signature : Text) (claims : Fields) : Prop where
  sent : Sends request header payload signature
  signed : IsSigned key header payload signature
  holds : Holds payload claims
  current : IsCurrent now claims
  issuer : ∀ issuer, settings.issuer = some issuer → claims.get? (text "iss") = some (.text issuer)
  audience : ∀ audience, settings.audience = some audience →
    ∃ v, claims.get? (text "aud") = some v ∧ NamesAudience audience v
  grants : ∃ claim, Claim.at? (.object claims) settings.claimPath = some claim ∧
    Grants settings.operatorValue claim

theorem grants_iff {operatorValue : Text} {v : Value} (json : IsJson v) :
    Claim.elevates operatorValue v = true ↔ Grants operatorValue v := by
  constructor
  · intro elevates
    cases json with
    | list items members =>
        obtain ⟨t, member, folded⟩ := Claim.elevates_list_iff.mp elevates
        obtain ⟨item, inside, counts⟩ := List.mem_filterMap.mp member
        rw [(members item inside).eq_text counts] at inside
        exact .list items t inside folded
    | text t => exact .text t (Claim.elevates_text_iff.mp elevates)
    | _ => cases elevates
  · intro grants
    cases grants with
    | text t folded => exact Claim.elevates_text_iff.mpr folded
    | list items t member folded =>
        exact Claim.elevates_list_iff.mpr ⟨t, List.mem_filterMap.mpr ⟨.text t, member, rfl⟩, folded⟩

theorem issuer_passes_iff {settings : RoleSettings} {claims : Fields} (json : ∀ entry ∈ claims, IsJson entry.2) :
    Token.checkIssuer settings.expectations.issuer claims = .ok () ↔
      ∀ issuer, settings.issuer = some issuer → claims.get? (text "iss") = some (.text issuer) := by
  cases configured : settings.issuer with
  | none => simp [RoleSettings.expectations, configured, Value.ofText?, Token.checkIssuer]
  | some issuer =>
      have expected : settings.expectations.issuer = .text issuer := by
        simp [RoleSettings.expectations, configured, Value.ofText?]
      simp only [expected, Token.check_issuer_text_eq_ok_iff json, Option.some.injEq, forall_eq']
      rfl

theorem audience_passes_iff {settings : RoleSettings} {claims : Fields} (json : ∀ entry ∈ claims, IsJson entry.2) :
    (∃ wanted, Token.wantedAudiences settings.expectations.audience = .ok wanted ∧
        Token.askAudience settings.expectations.audience wanted claims = .ok ()) ↔
      ∀ audience, settings.audience = some audience →
        ∃ v, claims.get? (text "aud") = some v ∧ NamesAudience audience v := by
  cases configured : settings.audience with
  | none =>
      have expected : settings.expectations.audience = .null := by
        simp [RoleSettings.expectations, configured, Value.ofText?]
      simp [expected, Token.wantedAudiences, Token.askAudience, Value.isNull, Value.asText?]
  | some audience =>
      have expected : settings.expectations.audience = .text audience := by
        simp [RoleSettings.expectations, configured, Value.ofText?]
      have wanted : Token.wantedAudiences (.text audience) = .ok [audience] := rfl
      simp only [expected, wanted, Except.ok.injEq, exists_eq_left', Option.some.injEq, forall_eq',
        Token.ask_audience_text, Token.check_audience_text_eq_ok_iff json]
      rfl

theorem claims_pass_iff {settings : RoleSettings} {now : Instant} {claims : Fields}
    (json : ∀ entry ∈ claims, IsJson entry.2) :
    Token.ClaimsPass settings.expectations now claims ↔
      IsCurrent now claims ∧
        (∀ issuer, settings.issuer = some issuer → claims.get? (text "iss") = some (.text issuer)) ∧
          ∀ audience, settings.audience = some audience →
            ∃ v, claims.get? (text "aud") = some v ∧ NamesAudience audience v := by
  constructor
  · intro passes
    exact ⟨⟨Token.check_not_before_eq_ok_iff.mp passes.notBefore, Token.check_expiry_eq_ok_iff.mp passes.expiry⟩,
      (issuer_passes_iff json).mp passes.issuer, (audience_passes_iff json).mp passes.audience⟩
  · intro parts
    rcases parts with ⟨⟨begun, lasting⟩, issuer, audience⟩
    exact ⟨Token.check_not_before_eq_ok_iff.mpr begun, Token.check_expiry_eq_ok_iff.mpr lasting,
      (issuer_passes_iff json).mpr issuer, (audience_passes_iff json).mpr audience⟩

theorem holds_json {segment : Text} {fields : Fields} (holds : Holds segment fields) :
    ∀ entry ∈ fields, IsJson entry.2 := by
  obtain ⟨json, _, object⟩ := holds
  exact Token.json_of_object object

theorem holds_ascii {segment : Text} {fields : Fields} (holds : Holds segment fields) :
    ∀ c ∈ segment, c < 128 := by
  obtain ⟨json, decoded, _⟩ := holds
  exact Base64.ascii_of_decode_segment decoded

theorem message_of_segments {header payload : Text} {fields : Fields} {json : Bytes}
    (holdsHeader : Holds header fields) (payloadDecoded : Base64.decodeSegment payload = some json) :
    Utf8.encode? (header ++ dot :: payload) = some ((header ++ dot :: payload).map UInt8.ofNat) := by
  apply Utf8.encode_of_ascii
  exact Token.ascii_of_parts (holds_ascii holdsHeader) (Base64.ascii_of_decode_segment payloadDecoded)

/-- A verifying reader takes a token for authentic exactly when it has three segments, is signed, and its payload can be
decoded. -/
theorem authenticate_iff_signed {key : RsaKey} {token : Text} {json : Bytes} :
    (∃ decoded, Token.authenticate (some key) token = .ok decoded ∧ decoded.payload = json) ↔
      ∃ header payload signature, token = header ++ dot :: payload ++ dot :: signature ∧ dot ∉ header ∧
        dot ∉ signature ∧ IsSigned key header payload signature ∧ Base64.decodeSegment payload = some json := by
  constructor
  · intro facts
    rcases facts with ⟨decoded, passed, rfl⟩
    obtain ⟨compact, parts, decodes⟩ := Token.decodes_of_authenticate passed
    obtain ⟨whole, lastDot, signed, firstDot⟩ := Token.compact_eq_some_iff.mp parts
    obtain ⟨_, checked, verified⟩ := Token.authenticate_eq_ok_iff.mp passed
    obtain ⟨algorithm, named, able, valid⟩ := Token.check_signature_eq_ok_iff.mp (verified key rfl)
    have holdsHeader : Holds compact.header decoded.header := decodes.header
    have message := message_of_segments holdsHeader decodes.payload
    rw [← signed, ← decodes.signed] at message
    refine ⟨compact.header, compact.payload, compact.signature, ?_, firstDot, lastDot,
      ⟨able, decoded.header, algorithm, decoded.signed, decoded.signature, holdsHeader, checked,
        (Token.algorithm_eq_some_iff (holds_json holdsHeader)).mp named, ?_, decodes.signature, valid⟩,
      decodes.payload⟩
    · rw [← signed]
      exact whole
    · rw [← signed]
      exact message
  · intro facts
    rcases facts with ⟨header, payload, signature, rfl, firstDot, lastDot, signed, payloadDecoded⟩
    obtain ⟨able, fields, algorithm, message, bytes, holdsHeader, checked, named, encoded, decoded, valid⟩ := signed
    have sent := message_of_segments holdsHeader payloadDecoded
    rw [encoded] at sent
    refine ⟨⟨fields, message, json, bytes⟩, Token.authenticate_eq_ok_iff.mpr ⟨?_, checked, ?_⟩, rfl⟩
    · rw [Token.decode_eq_ok_iff (Token.attached_of_check checked)]
      exact ⟨_, Token.compact_of_segments payload firstDot lastDot, holdsHeader, payloadDecoded, decoded,
        Option.some.inj sent⟩
    · intro other same
      cases same
      exact Token.check_signature_eq_ok_iff.mpr
        ⟨algorithm, (Token.algorithm_eq_some_iff (holds_json holdsHeader)).mpr named, able, valid⟩

theorem read_verified_iff {key : RsaKey} {settings : RoleSettings} {now : Instant} {token : Text} {value : Value} :
    (TokenReader.verifying key settings.expectations).read token now = .ok value ↔
      ∃ header payload signature claims, value = .object claims ∧
        token = header ++ dot :: payload ++ dot :: signature ∧ dot ∉ header ∧ dot ∉ signature ∧
          IsSigned key header payload signature ∧ Holds payload claims ∧
            Token.ClaimsPass settings.expectations now claims := by
  have reader : TokenReader.verifying key settings.expectations =
      .forKey (some key) settings.expectations := rfl
  rw [reader, Token.read_eq_ok_iff]
  constructor
  · intro facts
    rcases facts with ⟨_, decoded, claims, rfl, structured, passes⟩
    have passed := Token.authenticate_eq_ok_iff.mpr ⟨structured, passes.header, passes.signature⟩
    obtain ⟨header, payload, signature, whole, firstDot, lastDot, signed, payloadDecoded⟩ :=
      authenticate_iff_signed.mp ⟨decoded, passed, rfl⟩
    exact ⟨header, payload, signature, claims, rfl, whole, firstDot, lastDot, signed,
      ⟨decoded.payload, payloadDecoded, passes.payload⟩, passes.claims⟩
  · intro facts
    rcases facts with ⟨header, payload, signature, claims, rfl, whole, firstDot, lastDot, signed, holds, pass⟩
    obtain ⟨json, payloadDecoded, object⟩ := holds
    obtain ⟨decoded, passed, rfl⟩ := authenticate_iff_signed.mpr
      ⟨header, payload, signature, whole, firstDot, lastDot, signed, payloadDecoded⟩
    obtain ⟨structured, checked, verified⟩ := Token.authenticate_eq_ok_iff.mp passed
    exact ⟨Token.well_formed_of_authenticate passed, decoded, claims, rfl, structured, checked, verified, object, pass⟩

/-- With a key path in the settings whose file holds a key, the extractor is built and elevates exactly the requests that
bring a token with all that is demanded. -/
theorem elevated_iff {files : Files} {settings : RoleSettings} {path : Text} {key : RsaKey}
    (configured : settings.publicKeyPath = some path) (loaded : (Key.load files path).value = .ok key) :
    ∃ extractor, (TokenExtractor.build files settings).value = .ok extractor ∧
      ∀ request now, (extractor.call request now).value = .operator ↔
        ∃ header payload signature claims,
          IsElevated key settings request now header payload signature claims := by
  refine ⟨.ofSettings settings (some key), TokenExtractor.build_verifying configured loaded, ?_⟩
  · intro request now
    rw [TokenExtractor.call_eq_operator_iff]
    constructor
    · intro facts
      rcases facts with ⟨authorization, asked, derived⟩
      obtain ⟨token, value, carries, read, role⟩ := TokenExtractor.derive_eq_operator_iff.mp derived
      obtain ⟨scheme, rest, rfl, space, bearer, trimmed, _⟩ := Bearer.token_eq_some_iff.mp carries
      obtain ⟨header, payload, signature, claims, rfl, whole, firstDot, lastDot, signed, holds, pass⟩ :=
        read_verified_iff.mp read
      rw [TokenExtractor.ofSettings, TokenExtractor.role_of_text, Except.ok.injEq] at role
      obtain ⟨claim, found, elevates⟩ := Claim.role_eq_operator_iff.mp role
      have json := holds_json holds
      have kind : IsJson claim := (IsJson.object claims json).follow found
      obtain ⟨current, issuer, audience⟩ := (claims_pass_iff json).mp pass
      rw [whole] at trimmed
      exact ⟨header, payload, signature, claims, {
        sent := ⟨⟨scheme, rest, asked, space, bearer, trimmed⟩, firstDot, lastDot⟩
        signed := signed
        holds := holds
        current := current
        issuer := issuer
        audience := audience
        grants := ⟨claim, found, (grants_iff kind).mp elevates⟩ }⟩
    · intro facts
      rcases facts with ⟨header, payload, signature, claims, elevated⟩
      obtain ⟨⟨scheme, rest, asked, space, bearer, trimmed⟩, firstDot, lastDot⟩ := elevated.sent
      obtain ⟨claim, found, grants⟩ := elevated.grants
      have json := holds_json elevated.holds
      have kind : IsJson claim := (IsJson.object claims json).follow found
      have pass := (claims_pass_iff json).mpr ⟨elevated.current, elevated.issuer, elevated.audience⟩
      have carries : Bearer.token (.text (scheme ++ 32 :: rest)) =
          .ok (some (header ++ dot :: payload ++ dot :: signature)) :=
        Bearer.token_eq_some_iff.mpr ⟨scheme, rest, rfl, space, bearer, trimmed, by simp⟩
      have read := read_verified_iff.mpr
        ⟨header, payload, signature, claims, rfl, rfl, firstDot, lastDot, elevated.signed, elevated.holds, pass⟩
      refine ⟨_, asked, TokenExtractor.derive_eq_operator_iff.mpr ⟨_, _, carries, read, ?_⟩⟩
      rw [TokenExtractor.ofSettings, TokenExtractor.role_of_text, Except.ok.injEq, Claim.role_eq_operator_iff]
      exact ⟨claim, found, (grants_iff kind).mpr grants⟩

def gatewayFiles : Files :=
  Files.empty.put (Files.here ++ [Files.bytesOf "key.pem"])
    (.file ((Pem.ofRsaKey Token.gatewayKey).map UInt8.ofNat))

def gatewaySettings : RoleSettings where
  claimPath := text "realm_access.roles"
  operatorValue := text "OPERATOR"
  publicKeyPath := some (text "key.pem")
  issuer := some (text "https://issuer.test")
  audience := some (text "api")

def gatewayRequest : Request :=
  .bare (.received [(text "authorization", text "BEARER " ++ Token.gatewayToken ++ [32, 9])]) (text "/sources")

/-- The scheme and the operator value count without regard to case, and blanks around the token count for nothing. -/
theorem gateway_request_elevated :
    (Key.load gatewayFiles (text "key.pem")).value = .ok Token.gatewayKey ∧
      ∃ header payload signature claims,
        IsElevated Token.gatewayKey gatewaySettings gatewayRequest 1750000000 header payload signature claims := by
  have loads : (Key.load gatewayFiles (text "key.pem")).value.toOption = some Token.gatewayKey := by
    decide +kernel
  have elevates : ((TokenExtractor.ofSettings gatewaySettings (some Token.gatewayKey)).call gatewayRequest
      1750000000).value = .operator := by decide +kernel
  have configured : gatewaySettings.publicKeyPath = some (text "key.pem") := rfl
  have loaded := to_option_eq_some_iff.mp loads
  obtain ⟨extractor, built, decides⟩ := elevated_iff configured loaded
  rw [TokenExtractor.build_verifying configured loaded] at built
  cases built
  exact ⟨loaded, (decides gatewayRequest 1750000000).mp elevates⟩

end BearerRole
