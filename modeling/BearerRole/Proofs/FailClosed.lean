import BearerRole.Extractor

/-!
What a header value comes to. Every stage on the way to a role may find nothing, reject or fail. A token extractor gives
its callers what the stages come to, with their records, and turns a failure of any of them into the least role and one
record of the failure.
-/

namespace BearerRole.TokenExtractor

set_option autoImplicit false

def IsRejection (fault : Fault) : Prop :=
  ∃ reason message context, fault = .gate ⟨.tokenRejected reason, message, context⟩

/-- The ends of a derivation: no token, a token whose claims give a role, a rejected token, and the failures of the header, of
the reader, and of the look-up of the role. Only a rejection leaves a record. -/
inductive Derives (extractor : TokenExtractor) (authorization : Value) (now : Token.Instant) :
    Logged (Except Fault Role) → Prop
  | bare (none : Bearer.token authorization = .ok none) : extractor.Derives authorization now ⟨.ok .viewer, []⟩
  | accepted {token : Text} {claims : Value} {role : Role} (carries : Bearer.token authorization = .ok (some token))
      (read : extractor.reader.read token now = .ok claims) (given : extractor.roleOf claims = .ok role) :
      extractor.Derives authorization now ⟨.ok role, []⟩
  | rejected {token : Text} {reason message context : Value}
      (carries : Bearer.token authorization = .ok (some token))
      (read : extractor.reader.read token now = .error (.gate ⟨.tokenRejected reason, message, context⟩)) :
      extractor.Derives authorization now ⟨.ok .viewer, [rejectedRecord reason extractor.reader.isVerified]⟩
  | unasked {fault : Fault} (failed : Bearer.token authorization = .error fault) :
      extractor.Derives authorization now ⟨.error fault, []⟩
  | unread {token : Text} {fault : Fault} (carries : Bearer.token authorization = .ok (some token))
      (failed : extractor.reader.read token now = .error fault) (unexpected : ¬IsRejection fault) :
      extractor.Derives authorization now ⟨.error fault, []⟩
  | unmapped {token : Text} {claims : Value} {fault : Fault}
      (carries : Bearer.token authorization = .ok (some token))
      (read : extractor.reader.read token now = .ok claims) (failed : extractor.roleOf claims = .error fault) :
      extractor.Derives authorization now ⟨.error fault, []⟩

variable (extractor : TokenExtractor)

theorem settle_derives {authorization : Value} {now : Token.Instant} {token : Text}
    (carries : Bearer.token authorization = .ok (some token)) :
    extractor.Derives authorization now (extractor.settle (extractor.reader.read token now)) := by
  unfold settle
  split
  · next claims read =>
      cases given : extractor.roleOf claims with
      | ok role => exact .accepted carries read given
      | error fault => exact .unmapped carries read given
  · next reason message context read => exact .rejected carries read
  · next fault unexpected failed =>
      refine .unread carries failed ?_
      rintro ⟨reason, message, context, rejection⟩
      exact unexpected reason message context rejection

theorem derive_derives (authorization : Value) (now : Token.Instant) :
    extractor.Derives authorization now (extractor.derive authorization now) := by
  unfold derive
  split
  · next fault failed => exact .unasked failed
  · next none => exact .bare none
  · next token carries => exact extractor.settle_derives carries

variable {extractor}

theorem Derives.records_of_error {authorization : Value} {now : Token.Instant} {derived : Logged (Except Fault Role)}
    (derives : extractor.Derives authorization now derived) {fault : Fault} (failed : derived.value = .error fault) :
    derived.records = [] := by
  cases derives with
  | bare => rfl
  | accepted => rfl
  | rejected => cases failed
  | unasked => rfl
  | unread => rfl
  | unmapped => rfl

variable (extractor) (request : Request) (now : Token.Instant)

/-- What stops a request that nothing catches: the headers cannot be asked, or their answer derives no role. -/
def FailsWith (fault : Fault) : Prop :=
  request.headers.get Bearer.headerName = .error fault ∨
    ∃ authorization, request.headers.get Bearer.headerName = .ok authorization ∧
      (extractor.derive authorization now).value = .error fault

theorem call_of_derived {authorization : Value} {role : Role}
    (asked : request.headers.get Bearer.headerName = .ok authorization)
    (derived : (extractor.derive authorization now).value = .ok role) :
    extractor.call request now = ⟨role, (extractor.derive authorization now).records⟩ := by
  simp only [call, asked, derived]

theorem call_of_failure {fault : Fault} (fails : extractor.FailsWith request now fault) :
    extractor.call request now = ⟨.viewer, [.caught logger [] fault]⟩ := by
  rcases fails with failed | ⟨authorization, asked, failed⟩
  · simp only [call, failed]
    rfl
  · have unrecorded := (extractor.derive_derives authorization now).records_of_error failed
    simp only [call, asked, failed, unrecorded, List.nil_append]

/-- A token extractor answers every request with a role, whatever its reader, path and operator value, and whatever the
headers are. It is the derived role with the records of its derivation where the look-up of the header and the derivation
come to an end; otherwise it is that of a viewer, and the only record is a warning with the fault. -/
theorem answers_every_request :
    (∃ authorization role, request.headers.get Bearer.headerName = .ok authorization ∧
        (extractor.derive authorization now).value = .ok role ∧
        (Extractor.token extractor).run request now =
          ⟨.ok (.role role), (extractor.derive authorization now).records⟩) ∨
      ∃ fault, extractor.FailsWith request now fault ∧
        (Extractor.token extractor).run request now =
          ⟨.ok (.role .viewer),
            [⟨text "rolegate.extractor", .warning, text "role_extraction_unexpected_error", [], some fault⟩]⟩ := by
  have failing : ∀ fault, extractor.FailsWith request now fault →
      (Extractor.token extractor).run request now = ⟨.ok (.role .viewer), [.caught logger [] fault]⟩ := by
    intro fault fails
    simp only [Extractor.run, call_of_failure extractor request now fails]
    rfl
  cases asked : request.headers.get Bearer.headerName with
  | error fault => exact .inr ⟨fault, .inl asked, failing fault (.inl asked)⟩
  | ok authorization =>
      cases derived : (extractor.derive authorization now).value with
      | error fault =>
          have fails : extractor.FailsWith request now fault := .inr ⟨authorization, asked, derived⟩
          exact .inr ⟨fault, fails, failing fault fails⟩
      | ok role =>
          refine .inl ⟨authorization, role, rfl, derived, ?_⟩
          simp only [Extractor.run, call_of_derived extractor request now asked derived]
          rfl

/-- A claim that no operator value can be compared with makes a viewer, and leaves the one record. -/
example :
    let claims : Value := .object [(text "role", .ofText "operator")]
    let extractor : TokenExtractor := ⟨.custom true fun _ _ => .ok claims, .text standardPath, .int 1⟩
    let called := extractor.call (.bare (.received [(text "authorization", text "Bearer t")]) []) 0
    called.value = .viewer ∧ called.records.map LogRecord.level = [.warning] := by
  decide +kernel

end BearerRole.TokenExtractor
