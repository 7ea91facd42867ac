import BearerRole.Extractor
import BearerRole.Proofs.Claim.Mapping
import BearerRole.Proofs.Partial
import BearerRole.Proofs.Text.Cutting

/-!
When a request is elevated, stage by stage. Every stage that finds nothing, rejects or fails ends at the viewer, so an
operator comes only out of a header with a token, a reader that accepts it, and claims that give the role.
-/

namespace BearerRole

set_option autoImplicit false

namespace Bearer

theorem token_of_text (t : Text) : token (.text t) = .ok (token? t) := by
  cases t with
  | nil => rfl
  | cons c rest => rfl

theorem token_text_eq_some_iff {header token : Text} :
    token? header = some token ↔
      ∃ name value, header = name ++ 32 :: value ∧ 32 ∉ name ∧ Text.lower name = scheme ∧
        Text.trim value = token ∧ token ≠ [] := by
  unfold token?
  constructor
  · intro found
    split at found
    · cases found
    · next name value cut =>
        obtain ⟨whole, first⟩ := (Text.cut_eq_some_iff 32 header name value).mp cut
        split at found
        · next bearer =>
            by_cases empty : Text.trim value = []
            · simp [empty] at found
            · have same : Text.trim value = token := by simpa [empty] using found
              rw [same] at empty
              exact ⟨name, value, whole, first, bearer, same, empty⟩
        · cases found
  · intro facts
    rcases facts with ⟨name, value, whole, first, bearer, rfl, nonempty⟩
    have cut := (Text.cut_eq_some_iff 32 header name value).mpr ⟨whole, first⟩
    rw [cut]
    simp [bearer, nonempty]

theorem text_of_token {header : Value} {token : Text} (carries : Bearer.token header = .ok (some token)) :
    ∃ t, header = .text t ∧ token? t = some token := by
  have spaceless : ∀ r : Role, token? r.name = none := by
    intro r
    cases r <;> decide
  unfold Bearer.token at carries
  split at carries
  · cases carries
  · split at carries
    · cases carries
    · split at carries
      · next t counts =>
          have found := Except.ok.inj carries
          unfold Value.asText? at counts
          split at counts
          · cases counts
            exact ⟨t, rfl, found⟩
          · cases counts
            rw [spaceless] at found
            cases found
          · cases counts
      · cases carries

theorem token_eq_some_iff {header : Value} {token : Text} :
    Bearer.token header = .ok (some token) ↔
      ∃ name value, header = .text (name ++ 32 :: value) ∧ 32 ∉ name ∧ Text.lower name = scheme ∧
        Text.trim value = token ∧ token ≠ [] := by
  constructor
  · intro carries
    obtain ⟨t, rfl, found⟩ := text_of_token carries
    obtain ⟨name, value, rfl, rest⟩ := token_text_eq_some_iff.mp found
    exact ⟨name, value, rfl, rest⟩
  · intro facts
    rcases facts with ⟨name, value, rfl, rest⟩
    rw [token_of_text, token_text_eq_some_iff.mpr ⟨name, value, rfl, rest⟩]

end Bearer

namespace TokenExtractor

theorem role_of_text (reader : TokenReader) (path operatorValue : Text) (claims : Value) :
    roleOf ⟨reader, .text path, .text operatorValue⟩ claims =
      .ok (Claim.role operatorValue (Claim.at? claims path)) := by
  unfold roleOf
  cases found : Claim.at? claims path with
  | none =>
      have none : claimAt (.text path) claims = .ok none := congrArg Except.ok found
      rw [none]
      rfl
  | some claim =>
      have some : claimAt (.text path) claims = .ok (some claim) := congrArg Except.ok found
      rw [some]
      rfl

theorem settle_eq_operator_iff {extractor : TokenExtractor} {parsed : Except Fault Value} :
    (extractor.settle parsed).value = .ok .operator ↔
      ∃ claims, parsed = .ok claims ∧ extractor.roleOf claims = .ok .operator := by
  unfold settle
  constructor
  · intro elevated
    split at elevated
    · next claims => exact ⟨claims, rfl, elevated⟩
    · cases elevated
    · cases elevated
  · intro facts
    rcases facts with ⟨claims, rfl, elevated⟩
    exact elevated

theorem derive_eq_operator_iff {extractor : TokenExtractor} {authorization : Value} {now : Token.Instant} :
    (extractor.derive authorization now).value = .ok .operator ↔
      ∃ token claims, Bearer.token authorization = .ok (some token) ∧
        extractor.reader.read token now = .ok claims ∧ extractor.roleOf claims = .ok .operator := by
  unfold derive
  constructor
  · intro elevated
    split at elevated
    · cases elevated
    · cases elevated
    · next token carries =>
        obtain ⟨claims, read, role⟩ := settle_eq_operator_iff.mp elevated
        exact ⟨token, claims, carries, read, role⟩
  · intro facts
    rcases facts with ⟨token, claims, carries, read, role⟩
    rw [carries]
    exact settle_eq_operator_iff.mpr ⟨claims, read, role⟩

/-- A request is elevated exactly when its headers can be asked and what they answer derives an operator. -/
theorem call_eq_operator_iff {extractor : TokenExtractor} {request : Request} {now : Token.Instant} :
    (extractor.call request now).value = .operator ↔
      ∃ authorization, request.headers.get Bearer.headerName = .ok authorization ∧
        (extractor.derive authorization now).value = .ok .operator := by
  unfold call
  cases asked : request.headers.get Bearer.headerName with
  | error fault => simp [Logged.pure]
  | ok authorization =>
      cases outcome : (extractor.derive authorization now).value with
      | error fault => simp [outcome]
      | ok role => simp [outcome]

end TokenExtractor

end BearerRole
