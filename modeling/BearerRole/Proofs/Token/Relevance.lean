import BearerRole.Proofs.Claim.Alike
import BearerRole.Proofs.Token.Form
import BearerRole.Proofs.Token.Unsigned

/-!
Which claims of a token matter. The checks ask for four of them and the role for one more, that which the path of the extractor
begins with. Tokens that agree on these derive the same role and leave the same log, or fail with the same fault, whatever else
they claim.
-/

namespace BearerRole.Token

set_option autoImplicit false

open Value (Same)

variable {claims others : Fields} {now : Instant}

theorem second_same {v w : Value} (same : Same v w) : second? v = second? w := by
  cases same <;> rfl

theorem texts_same {items others : List Value} (members : List.Forall₂ Same items others) :
    items.mapM Value.asText? = others.mapM Value.asText? := by
  induction members with
  | nil => rfl
  | cons first _ ih => rw [List.mapM_cons, List.mapM_cons, first.as_text_eq, ih]

theorem named_audiences_same {v w : Value} (same : Same v w) : namedAudiences? v = namedAudiences? w := by
  cases same with
  | same => rfl
  | list members => exact texts_same members
  | tuple => rfl
  | object => rfl

/-- A step that looks at one claim, and sees in values that are the same the same. -/
theorem consult_same {β : Type} {key : Text} {missing : β} {found : Value → β}
    (respects : ∀ {v w}, Same v w → found v = found w)
    (agree : Option.Rel Same (claims.get? key) (others.get? key)) :
    (match claims.get? key with
      | none => missing
      | some v => found v) =
      match others.get? key with
      | none => missing
      | some v => found v := by
  generalize claims.get? key = one at agree ⊢
  generalize others.get? key = other at agree ⊢
  cases agree with
  | none => rfl
  | some same => exact respects same

theorem check_not_before_same
    (agree : Option.Rel Same (claims.get? (text "nbf")) (others.get? (text "nbf"))) :
    checkNotBefore now claims = checkNotBefore now others :=
  consult_same (fun same => by simp only [second_same same]) agree

theorem check_expiry_same
    (agree : Option.Rel Same (claims.get? (text "exp")) (others.get? (text "exp"))) :
    checkExpiry now claims = checkExpiry now others :=
  consult_same (fun same => by simp only [second_same same]) agree

theorem check_issuer_same (expected : Value)
    (agree : Option.Rel Same (claims.get? (text "iss")) (others.get? (text "iss"))) :
    checkIssuer expected claims = checkIssuer expected others := by
  unfold checkIssuer
  split
  · rfl
  · exact consult_same (fun same => by simp only [same.as_text_eq]) agree

theorem ask_audience_same (expected : Value) (wanted : List Text)
    (agree : Option.Rel Same (claims.get? (text "aud")) (others.get? (text "aud"))) :
    askAudience expected wanted claims = askAudience expected wanted others := by
  unfold askAudience checkAudience
  split
  · rfl
  split
  · exact consult_same (fun same => by simp only [same.is_falsy_eq]) agree
  · exact consult_same (fun same => by simp only [same.is_falsy_eq, named_audiences_same same]) agree

/-- The claims that are asked for under a path: those of the checks, and the one that the path begins with. -/
def consulted (path : Text) : List Text :=
  [text "exp", text "nbf", text "iss", text "aud"] ++ (Text.split Claim.dot path).take 1

/-- Claims agree under a path on the presence and the value of all that is asked for. -/
def AgreeFor (path : Text) (claims others : Fields) : Prop :=
  ∀ key ∈ consulted path, Option.Rel Same (claims.get? key) (others.get? key)

variable {path : Text}

theorem AgreeFor.configured_checks (agree : AgreeFor path claims others) (expected : Expectations) (wanted : List Text)
    (now : Instant) : configuredChecks expected wanted now claims = configuredChecks expected wanted now others := by
  have ends : checkExpiry now claims = checkExpiry now others :=
    check_expiry_same (agree (text "exp") (by simp [consulted]))
  have begins : checkNotBefore now claims = checkNotBefore now others :=
    check_not_before_same (agree (text "nbf") (by simp [consulted]))
  have issuer := check_issuer_same expected.issuer (agree (text "iss") (by simp [consulted]))
  have audience := ask_audience_same expected.audience wanted (agree (text "aud") (by simp [consulted]))
  rw [configuredChecks, configuredChecks, ends, begins, issuer, audience]

theorem AgreeFor.claim_at (agree : AgreeFor path claims others) :
    Option.Rel Same (Claim.at? (.object claims) path) (Claim.at? (.object others) path) := by
  unfold Claim.at?
  cases keys : Text.split Claim.dot path with
  | nil => exact absurd keys (Text.split_ne_nil Claim.dot path)
  | cons first rest =>
      have addressed := agree first (by simp [consulted, keys])
      simp only [Claim.follow]
      generalize claims.get? first = one at addressed ⊢
      generalize others.get? first = other at addressed ⊢
      cases addressed with
      | none => exact .none
      | some same => exact Claim.follow_alike (fun _ _ => trivial) same

/-- Two readings that no extractor for a path can tell apart: both fail with one fault, or the claims have the same under the
path, if anything. -/
inductive ReadAlike (path : Text) : Except Fault Value → Except Fault Value → Prop
  | failed (fault : Fault) : ReadAlike path (.error fault) (.error fault)
  | accepted {claims others : Value} (alike : Option.Rel Same (Claim.at? claims path) (Claim.at? others path)) :
      ReadAlike path (.ok claims) (.ok others)

theorem role_under_same (operatorValue : Value) {claim other : Option Value} (alike : Option.Rel Same claim other) :
    TokenExtractor.roleUnder operatorValue claim = TokenExtractor.roleUnder operatorValue other := by
  cases alike with
  | none => rfl
  | some same =>
      unfold TokenExtractor.roleUnder
      cases operatorValue.asText? with
      | none => rfl
      | some t => exact congrArg Except.ok (Claim.role_alike t (.some same))

theorem settle_alike {reader : TokenReader} {operatorValue : Value} {one other : Except Fault Value}
    (alike : ReadAlike path one other) :
    (TokenExtractor.mk reader (.text path) operatorValue).settle one =
      (TokenExtractor.mk reader (.text path) operatorValue).settle other := by
  cases alike with
  | failed fault => rfl
  | accepted alike => exact congrArg Logged.pure (role_under_same operatorValue alike)

variable {key : Option RsaKey} {header first second signature : Text}

theorem payload_of_authenticate {decoded : Decoded} (firstDot : dot ∉ header) (lastDot : dot ∉ signature)
    (holds : Holds first claims)
    (passed : authenticate key (header ++ dot :: first ++ dot :: signature) = .ok decoded) :
    object? decoded.payload = some claims := by
  obtain ⟨compact, parts, decodes⟩ := decodes_of_authenticate passed
  rw [compact_of_segments first firstDot lastDot, Option.some.injEq] at parts
  obtain ⟨json, read, object⟩ := holds
  have same := decodes.payload
  rw [← parts, read, Option.some.injEq] at same
  rw [← same, object]

theorem read_alike_of_authentic {one other : Text} {decoded decodedOther : Decoded}
    (passed : authenticate key one = .ok decoded) (holds : object? decoded.payload = some claims)
    (passedOther : authenticate key other = .ok decodedOther)
    (holdsOther : object? decodedOther.payload = some others) (agree : AgreeFor path claims others)
    (expected : Expectations) (now : Instant) :
    ReadAlike path ((TokenReader.forKey key expected).read one now)
      ((TokenReader.forKey key expected).read other now) := by
  rw [read_for_key, read_for_key, claims_of_authentic passed holds, claims_of_authentic passedOther holdsOther]
  cases wantedAudiences expected.audience with
  | error fault => exact .failed fault
  | ok wanted =>
      simp only [ok_bind, agree.configured_checks expected wanted now]
      cases reject (configuredChecks expected wanted now others) with
      | error fault => exact .failed fault
      | ok passed => exact .accepted agree.claim_at

theorem ne_nil_of_holds {segment : Text} {fields : Fields} (holds : Holds segment fields) : segment ≠ [] := by
  rintro rfl
  obtain ⟨json, read, object⟩ := holds
  cases read
  cases object

/-- Without a key the header alone settles whether a token that comes apart is authentic. -/
theorem authenticate_trusting_alike {one other : Text} (alike : DecodedAlike (decode one) (decode other)) :
    (∃ r, authenticate none one = .error r ∧ authenticate none other = .error r) ∨
      ∃ decoded decodedOther, authenticate none one = .ok decoded ∧ authenticate none other = .ok decodedOther := by
  unfold authenticate
  generalize decode one = x at alike
  generalize decode other = y at alike
  cases alike with
  | failed r => exact .inl ⟨r, rfl, rfl⟩
  | @decoded decoded decodedOther header =>
      simp only [ok_bind, header]
      cases checkHeader decodedOther.header with
      | error r => exact .inl ⟨r, rfl, rfl⟩
      | ok passed => exact .inr ⟨decoded, decodedOther, rfl, rfl⟩

theorem read_alike_of_trusting (firstDot : dot ∉ header) (lastDot : dot ∉ signature) (holds : Holds first claims)
    (holdsOther : Holds second others) (agree : AgreeFor path claims others) (expected : Expectations)
    (now : Instant) :
    ReadAlike path ((TokenReader.trusting expected).read (header ++ dot :: first ++ dot :: signature) now)
      ((TokenReader.trusting expected).read (header ++ dot :: second ++ dot :: signature) now) := by
  show ReadAlike path ((TokenReader.forKey none expected).read _ now) ((TokenReader.forKey none expected).read _ now)
  obtain ⟨firstBytes, firstRead, _⟩ := id holds
  obtain ⟨secondBytes, secondRead, _⟩ := id holdsOther
  have firstForm := well_formed_around header signature firstRead
  have secondForm := well_formed_around header signature secondRead
  cases form : Text.isWellFormed header && Text.isWellFormed signature with
  | false =>
      rw [read_ill_formed none expected now (firstForm.trans form),
        read_ill_formed none expected now (secondForm.trans form)]
      exact .failed .unencodable
  | true =>
      have alike := decode_alike firstDot lastDot firstRead secondRead fun _ _ _ =>
        iff_of_false (ne_nil_of_holds holds) (ne_nil_of_holds holdsOther)
      rcases authenticate_trusting_alike alike with ⟨r, failed, failedOther⟩ | ⟨_, _, passed, passedOther⟩
      · rw [read_for_key, read_for_key, claims_of_failed_authenticate (firstForm.trans form) failed,
          claims_of_failed_authenticate (secondForm.trans form) failedOther]
        exact .failed r.fault
      · exact read_alike_of_authentic passed (payload_of_authenticate firstDot lastDot holds passed) passedOther
          (payload_of_authenticate firstDot lastDot holdsOther passedOther) agree expected now

theorem dot_not_mem_of_signed {key : RsaKey} (signed : IsSigned key header first signature) : dot ∉ signature := by
  obtain ⟨_, _, _, _, _, _, _, _, read, _⟩ := signed.valid
  exact dot_not_mem_of_segment (Base64.segment_of_decode_segment read)

theorem authentic_of_signed {key : RsaKey} (firstDot : dot ∉ header) (holds : Holds first claims)
    (signed : IsSigned key header first signature) :
    ∃ decoded, authenticate (some key) (header ++ dot :: first ++ dot :: signature) = .ok decoded ∧
      object? decoded.payload = some claims := by
  obtain ⟨json, read, _⟩ := id holds
  have lastDot := dot_not_mem_of_signed signed
  obtain ⟨decoded, passed, _⟩ := authenticate_iff_signed.mpr ⟨_, _, _, rfl, firstDot, lastDot, signed, read⟩
  exact ⟨decoded, passed, payload_of_authenticate firstDot lastDot holds passed⟩

theorem signed_of_authentic {key : RsaKey} {decoded : Decoded} (firstDot : dot ∉ header) (lastDot : dot ∉ signature)
    (passed : authenticate (some key) (header ++ dot :: first ++ dot :: signature) = .ok decoded) :
    IsSigned key header first signature := by
  by_contra unsigned
  exact not_authentic_of_unsigned firstDot lastDot unsigned decoded passed

theorem derive_alike {reader : TokenReader} {operatorValue authorization other : Value} {one two : Text} {now : Instant}
    (carries : Bearer.token authorization = .ok (some one)) (carriesOther : Bearer.token other = .ok (some two))
    (alike : ReadAlike path (reader.read one now) (reader.read two now)) :
    (TokenExtractor.mk reader (.text path) operatorValue).derive authorization now =
      (TokenExtractor.mk reader (.text path) operatorValue).derive other now := by
  unfold TokenExtractor.derive
  rw [carries, carriesOther]
  exact settle_alike alike

/-- Of two tokens with the same header, whose payloads agree on all that is asked for under a path, an extractor makes the same:
one role and one log, or one fault. Without a key this holds when their signature segments are the same, and with one when both
are signed by it. -/
theorem only_consulted_claims_matter {path : Text} (operatorValue : Value) (expected : Expectations) (now : Instant)
    {header first second : Text} {claims others : Fields} (firstDot : dot ∉ header) (holds : Holds first claims)
    (holdsOther : Holds second others) (agree : AgreeFor path claims others) :
    (∀ signature, dot ∉ signature → ∀ authorization other : Value,
      Bearer.token authorization = .ok (some (header ++ dot :: first ++ dot :: signature)) →
        Bearer.token other = .ok (some (header ++ dot :: second ++ dot :: signature)) →
          (TokenExtractor.mk (.trusting expected) (.text path) operatorValue).derive authorization now =
            (TokenExtractor.mk (.trusting expected) (.text path) operatorValue).derive other now) ∧
      ∀ key signature signatureOther,
        IsSigned key header first signature → IsSigned key header second signatureOther →
          ∀ authorization other : Value,
            Bearer.token authorization = .ok (some (header ++ dot :: first ++ dot :: signature)) →
              Bearer.token other = .ok (some (header ++ dot :: second ++ dot :: signatureOther)) →
                (TokenExtractor.mk (.verifying key expected) (.text path) operatorValue).derive authorization now =
                  (TokenExtractor.mk (.verifying key expected) (.text path) operatorValue).derive other now := by
  constructor
  · intro signature lastDot authorization other carries carriesOther
    exact derive_alike carries carriesOther
      (read_alike_of_trusting firstDot lastDot holds holdsOther agree expected now)
  · intro key signature signatureOther signed signedOther authorization other carries carriesOther
    obtain ⟨decoded, passed, payload⟩ := authentic_of_signed firstDot holds signed
    obtain ⟨decodedOther, passedOther, payloadOther⟩ := authentic_of_signed firstDot holdsOther signedOther
    have alike := read_alike_of_authentic passed payload passedOther payloadOther agree expected now
    exact derive_alike carries carriesOther alike

def issuerKey : RsaKey :=
  ⟨Bytes.toNat
      (Bytes.ofNat 32 0xb9c1338ca2b78e35f423e3acabf72bfaa8f18bcdfd2dad6aa8f00c8ca95766b2 ++
        Bytes.ofNat 32 0x0ed4dd59367255538c5365e559cc3c855cbb662ef5ac2742b84b2bb1d3d62dad), 65537⟩

def bareClaims : Fields := [(text "role", .ofText "operator")]

/-- The bare claims among others that are of no kind in which they are registered. -/
def ladenClaims : Fields :=
  [(text "iat", .null), (text "sub", .list [.int 7]), (text "jti", .object []), (text "role", .ofText "operator")]

def bareSignature : Bytes :=
  Bytes.ofNat 32 0x55d2487c7516e26b5dce616e9586b60ec60f127c44b86d9177cb74e729359c93 ++
    Bytes.ofNat 32 0xdba8dfa956bf9734de13d71ea1cc8336d460fae92cbfadd7b91295fa796faf97

def ladenSignature : Bytes :=
  Bytes.ofNat 32 0x40ebfb7d18603f37e792fd20cb0dcc7d904d2451f6359475ce4ecbb3ea470a50 ++
    Bytes.ofNat 32 0xa4c0671eab9202659d67e780c2b535c272eb741dae0a5b1409fee966a914b07e

theorem plain_bare_claims : Json.IsPlain 4300 limits.depth (.object bareClaims) := by
  refine .object 979 bareClaims (by decide) (by decide) ?_
  intro entry member
  rw [List.mem_singleton.mp member]
  exact plain_literal 979 "operator" (by decide)

theorem plain_laden_claims : Json.IsPlain 4300 limits.depth (.object ladenClaims) := by
  have subject : Json.IsPlain 4300 979 (.list [.int 7]) := by
    refine .list 978 _ ?_
    intro item member
    rw [List.mem_singleton.mp member]
    exact .int 978 7 (by decide +kernel)
  refine .object 979 ladenClaims (by decide) (by decide) ?_
  intro entry member
  simp only [ladenClaims, List.mem_cons, List.not_mem_nil, or_false] at member
  rcases member with rfl | rfl | rfl | rfl
  · exact .null 979
  · exact subject
  · exact .object 978 [] (by decide) (by decide) (fun _ inside => absurd inside List.not_mem_nil)
  · exact plain_literal 979 "operator" (by decide)

theorem bare_laden_agree : AgreeFor (text "role") bareClaims ladenClaims := by
  intro key asked
  have cut : Text.split Claim.dot (text "role") = [text "role"] := by decide
  simp only [consulted, cut, List.cons_append, List.nil_append, List.take_succ_cons, List.take_zero, List.mem_cons,
    List.not_mem_nil, or_false] at asked
  rcases asked with rfl | rfl | rfl | rfl | rfl
  · exact .none
  · exact .none
  · exact .none
  · exact .none
  · exact .some (.same _)

/-- Whatever stands in the unasked claims, the role of the bare claims is derived, from tokens that are not verified as from
tokens that are. -/
theorem laden_token_elevates_alike :
    let sent (claims : Fields) (signature : Bytes) :=
      segment gatewayHeader ++ dot :: segment claims ++ dot :: Base64.encode .url signature
    let derived (reader : TokenReader) (token : Text) :=
      (TokenExtractor.mk reader (.text (text "role")) (.ofText "operator")).derive (.text (Bearer.wrap token)) 0
    derived (.trusting .none) (sent bareClaims []) = derived (.trusting .none) (sent ladenClaims []) ∧
      derived (.verifying issuerKey .none) (sent bareClaims bareSignature) =
        derived (.verifying issuerKey .none) (sent ladenClaims ladenSignature) ∧
          (derived (.trusting .none) (sent bareClaims [])).value.toOption = some .operator ∧
            (derived (.verifying issuerKey .none) (sent bareClaims bareSignature)).value.toOption = some .operator := by
  intro sent derived
  have firstDot := dot_not_mem_segment gatewayHeader
  have lastDot : dot ∉ Base64.encode .url [] := by decide
  have bareDot : dot ∉ Base64.encode .url bareSignature := by decide +kernel
  have ladenDot : dot ∉ Base64.encode .url ladenSignature := by decide +kernel
  have carries (claims : Fields) (signature : Bytes)
      (found : (Bearer.token (.text (Bearer.wrap (sent claims signature)))).toOption =
        some (some (sent claims signature))) :
      Bearer.token (.text (Bearer.wrap (sent claims signature))) = .ok (some (sent claims signature)) :=
    to_option_eq_some_iff.mp found
  have signed (claims : Fields) (signature : Bytes) (noDot : dot ∉ Base64.encode .url signature)
      (passes : (authenticate (some issuerKey) (sent claims signature)).toOption.isSome = true) :
      IsSigned issuerKey (segment gatewayHeader) (segment claims) (Base64.encode .url signature) := by
    obtain ⟨decoded, found⟩ := Option.isSome_iff_exists.mp passes
    exact signed_of_authentic firstDot noDot (to_option_eq_some_iff.mp found)
  obtain ⟨unverified, verified⟩ := only_consulted_claims_matter (.ofText "operator") .none 0 firstDot
    (read_segment plain_bare_claims) (read_segment plain_laden_claims) bare_laden_agree
  have unverifiedAlike := unverified _ lastDot _ _ (carries bareClaims [] (by decide +kernel))
    (carries ladenClaims [] (by decide +kernel))
  have verifiedAlike := verified issuerKey _ _
    (signed bareClaims bareSignature bareDot (by decide +kernel))
    (signed ladenClaims ladenSignature ladenDot (by decide +kernel)) _ _
    (carries bareClaims bareSignature (by decide +kernel)) (carries ladenClaims ladenSignature (by decide +kernel))
  exact ⟨unverifiedAlike, verifiedAlike, by decide +kernel, by decide +kernel⟩

end BearerRole.Token
