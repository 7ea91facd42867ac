import BearerRole.Proofs.FailClosed
import BearerRole.Proofs.Token.Decomposition
import BearerRole.Proofs.Token.Failure
import BearerRole.Proofs.Token.Minting

/-!
What the log says of a token that derives a role. A token that is accepted leaves nothing there, and one that is rejected leaves
the reason of its rejection and the mode of its reader, so tokens rejected for one reason cannot be told apart in the log.
-/

namespace BearerRole.TokenExtractor

set_option autoImplicit false

open Token (RejectedFor Expectations)

def coarseReasons : List Text :=
  [text "token_expired", text "token_not_yet_valid", text "invalid_issuer", text "invalid_audience", text "missing_claim",
    text "invalid_algorithm", text "invalid_signature", text "malformed_token", text "invalid_token"]

theorem reason_coarse (r : Rejection) : r.reason ∈ coarseReasons := by
  cases r with
  | missingClaim claim => cases claim <;> decide
  | _ => decide

theorem reason_of_rejection {key : Option RsaKey} {expected : Expectations} {token : Text} {now : Token.Instant}
    {reason message context : Value}
    (read : (TokenReader.forKey key expected).read token now =
      .error (.gate ⟨.tokenRejected reason, message, context⟩)) :
    ∃ r : Rejection, reason = .text r.reason := by
  generalize same : Fault.gate ⟨.tokenRejected reason, message, context⟩ = fault at read
  cases Token.unreadable_of_read read with
  | unencodable => cases same
  | unaskable => cases same
  | rejected r =>
      cases same
      exact ⟨r, rfl⟩

variable (extractor : TokenExtractor) (authorization : Value) (now : Token.Instant)

/-- A header value carries a token that the reader accepts. -/
def Accepts : Prop :=
  ∃ token claims, Bearer.token authorization = .ok (some token) ∧ extractor.reader.read token now = .ok claims

/-- A header value carries a token that the reader rejects for a reason. -/
def Rejects (reason : Text) : Prop :=
  ∃ token, Bearer.token authorization = .ok (some token) ∧ RejectedFor reason (extractor.reader.read token now)

variable {extractor authorization now}

theorem derive_of_rejects {reason : Text} (rejects : extractor.Rejects authorization now reason) :
    extractor.derive authorization now =
      .withRecord (.ok .viewer) (rejectedRecord (.text reason) extractor.reader.isVerified) := by
  obtain ⟨token, carries, message, context, read⟩ := rejects
  simp only [derive, carries, read, settle]

/-- Where a reader that was set up with a key or without one derives a role, nothing is logged if there was no token or it was
accepted, and if it was rejected one record at the lowest level, with one of nine reasons and the mode of the reader. Any two
derivations that end in a rejection for the same reason in the same mode leave the same log and give the same role. -/
theorem rejections_logged_by_reason_alone :
    (∀ (key : Option RsaKey) (expected : Expectations) (path operatorValue authorization : Value)
        (now : Token.Instant) (role : Role),
      let extractor : TokenExtractor := ⟨.forKey key expected, path, operatorValue⟩
      let derived := extractor.derive authorization now
      derived.value = .ok role →
        (Bearer.token authorization = .ok none ∧ derived.records = []) ∨
          (extractor.Accepts authorization now ∧ derived.records = []) ∨
            ∃ reason ∈ coarseReasons, extractor.Rejects authorization now reason ∧
              derived.records = [⟨text "rolegate.extractor", .debug, text "role_extraction_token_rejected",
                [(text "reason", .text reason), (text "verified", .bool key.isSome)], none⟩]) ∧
      ∀ (one other : TokenExtractor) (oneAuthorization otherAuthorization : Value) (oneNow otherNow : Token.Instant)
        (reason : Text), one.reader.isVerified = other.reader.isVerified →
        one.Rejects oneAuthorization oneNow reason → other.Rejects otherAuthorization otherNow reason →
          one.derive oneAuthorization oneNow = other.derive otherAuthorization otherNow := by
  constructor
  · intro key expected path operatorValue authorization now role extractor derived returned
    have derives : extractor.Derives authorization now derived := extractor.derive_derives authorization now
    generalize derived = ended at derives returned
    have mode : extractor.reader.isVerified = key.isSome := by cases key <;> rfl
    cases derives with
    | bare none => exact .inl ⟨none, rfl⟩
    | accepted carries read => exact .inr (.inl ⟨⟨_, _, carries, read⟩, rfl⟩)
    | rejected carries read =>
        obtain ⟨r, rfl⟩ := reason_of_rejection read
        refine .inr (.inr ⟨r.reason, reason_coarse r, ⟨_, carries, _, _, read⟩, ?_⟩)
        rw [mode]
        rfl
    | unasked => cases returned
    | unread => cases returned
    | unmapped => cases returned
  · intro one other oneAuthorization otherAuthorization oneNow otherNow reason mode oneRejects otherRejects
    rw [derive_of_rejects oneRejects, derive_of_rejects otherRejects, mode]

/-- Two unsigned tokens, of which one claims the operator's role, are logged alike by a reader with a key. -/
theorem unsigned_tokens_logged_alike :
    let extractor : TokenExtractor := ⟨.verifying Token.gatewayKey .none, .ofText "role", .ofText "operator"⟩
    let bold := Value.text (Bearer.wrap (Token.mint [(text "role", .ofText "operator")]))
    let plain := Value.text (Bearer.wrap (Token.mint [(text "sub", .ofText "alice")]))
    (extractor.derive bold 0).value = .ok .viewer ∧
      extractor.Rejects bold 0 (text "invalid_algorithm") ∧
        extractor.Rejects plain 1750000000 (text "invalid_algorithm") ∧
          (∃ reason ∈ coarseReasons, (extractor.derive bold 0).records =
            [⟨text "rolegate.extractor", .debug, text "role_extraction_token_rejected",
              [(text "reason", .text reason), (text "verified", .bool true)], none⟩]) ∧
            extractor.derive bold 0 = extractor.derive plain 1750000000 := by
  intro extractor bold plain
  have boldRejects : extractor.Rejects bold 0 (text "invalid_algorithm") :=
    ⟨_, Token.bearer_of_mint _, by decide +kernel⟩
  have plainRejects : extractor.Rejects plain 1750000000 (text "invalid_algorithm") :=
    ⟨_, Token.bearer_of_mint _, by decide +kernel⟩
  have returned : (extractor.derive bold 0).value = .ok .viewer := by rw [derive_of_rejects boldRejects]; rfl
  obtain ⟨logged, alike⟩ := rejections_logged_by_reason_alone
  refine ⟨returned, boldRejects, plainRejects, ?_, alike extractor extractor bold plain 0 1750000000 _ rfl boldRejects
    plainRejects⟩
  obtain ⟨token, carries, message, context, rejected⟩ := boldRejects
  rcases logged (some Token.gatewayKey) .none (.ofText "role") (.ofText "operator") bold 0 .viewer returned with
    ⟨bare, _⟩ | ⟨⟨other, claims, carriesOther, accepted⟩, _⟩ | ⟨reason, coarse, _, records⟩
  · cases carries.symm.trans bare
  · cases carries.symm.trans carriesOther
    cases rejected.symm.trans accepted
  · exact ⟨reason, coarse, records⟩

end BearerRole.TokenExtractor
