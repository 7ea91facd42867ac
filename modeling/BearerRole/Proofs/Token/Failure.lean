import BearerRole.Proofs.Token.Acceptance
import BearerRole.Proofs.Token.Checks

/-!
How reading a token fails. Every check gives a rejection for one of the coarse reasons; besides those there are a token that has
no UTF-8 form and an audience of a kind that no token can name.
-/

namespace BearerRole.Token

set_option autoImplicit false

/-- The reason for which a reader rejected a token, where it did. -/
def rejectionReason? : Except Fault Value → Option Text
  | .error (.gate ⟨.tokenRejected (.text reason), _, _⟩) => some reason
  | _ => none

/-- A rejection for a reason, whatever message and context go with it. -/
def RejectedFor (reason : Text) (parsed : Except Fault Value) : Prop :=
  ∃ message context, parsed = .error (.gate ⟨.tokenRejected (.text reason), message, context⟩)

theorem rejected_for_iff {reason : Text} {parsed : Except Fault Value} :
    RejectedFor reason parsed ↔ rejectionReason? parsed = some reason := by
  constructor
  · intro rejected
    obtain ⟨message, context, rfl⟩ := rejected
    rfl
  · intro found
    unfold rejectionReason? at found
    split at found
    · next message context =>
        cases found
        exact ⟨message, context, rfl⟩
    · cases found

instance (reason : Text) (parsed : Except Fault Value) : Decidable (RejectedFor reason parsed) :=
  decidable_of_iff _ rejected_for_iff.symm

theorem rejected_for_fault_iff {reason : Text} {r : Rejection} :
    RejectedFor reason (.error r.fault) ↔ r.reason = reason := by
  rw [rejected_for_iff]
  exact ⟨Option.some.inj, congrArg some⟩

theorem reject_eq_error_iff {α : Type} {x : Except Rejection α} {fault : Fault} :
    reject x = .error fault ↔ ∃ r, x = .error r ∧ fault = r.fault := by
  cases x with
  | ok a => simp [reject]
  | error r => simp [reject, eq_comm]

theorem require_eq_error {α : Type} {r other : Rejection} {part : Option α} (failed : require r part = .error other) :
    other = r := by
  cases part with
  | none => exact (Except.error.inj failed).symm
  | some a => cases failed

theorem malformed_of_payload {header : Fields} {t : Text} {r : Rejection} (failed : payloadOf header t = .error r) :
    r = .malformed := by
  unfold payloadOf at failed
  split at failed
  · split at failed
    · cases failed
    · exact (Except.error.inj failed).symm
  · exact require_eq_error failed

theorem malformed_of_decode {token : Text} {r : Rejection} (failed : decode token = .error r) : r = .malformed := by
  rw [decode_eq] at failed
  rcases bind_eq_error_iff.mp failed with failed | ⟨compact, _, failed⟩
  · exact require_eq_error failed
  rcases bind_eq_error_iff.mp failed with failed | ⟨json, _, failed⟩
  · exact require_eq_error failed
  rcases bind_eq_error_iff.mp failed with failed | ⟨header, _, failed⟩
  · exact require_eq_error failed
  rcases bind_eq_error_iff.mp failed with failed | ⟨payload, _, failed⟩
  · exact malformed_of_payload failed
  rcases bind_eq_error_iff.mp failed with failed | ⟨signature, _, failed⟩
  · exact require_eq_error failed
  · cases failed

variable {key : Option RsaKey} {expected : Expectations} {now : Instant} {token : Text} {fault : Fault}

theorem fault_of_wanted_audiences {audience : Value} (failed : wantedAudiences audience = .error fault) :
    fault = .unsuitable := by
  unfold wantedAudiences at failed
  split at failed
  · cases failed
  · split at failed
    · cases failed
    · cases failed
    · cases failed
    · cases failed
    · cases failed
    · exact (Except.error.inj failed).symm

/-- The faults with which a token cannot be read. Only the first two are no rejections. -/
inductive Unreadable (expected : Expectations) (token : Text) : Fault → Prop
  | unencodable (illFormed : Text.isWellFormed token = false) : Unreadable expected token .unencodable
  | unaskable (failed : wantedAudiences expected.audience = .error .unsuitable) : Unreadable expected token .unsuitable
  | rejected (r : Rejection) : Unreadable expected token r.fault

theorem unreadable_of_reject {α : Type} {x : Except Rejection α} (failed : reject x = .error fault) :
    Unreadable expected token fault := by
  obtain ⟨r, _, rfl⟩ := reject_eq_error_iff.mp failed
  exact .rejected r

theorem unreadable_of_claims (failed : claims key expected now token = .error fault) :
    Unreadable expected token fault := by
  rw [claims_eq] at failed
  split at failed
  · rcases bind_eq_error_iff.mp failed with failed | ⟨decoded, _, failed⟩
    · exact unreadable_of_reject failed
    rcases bind_eq_error_iff.mp failed with failed | ⟨fields, _, failed⟩
    · exact unreadable_of_reject failed
    rcases bind_eq_error_iff.mp failed with failed | ⟨wanted, _, failed⟩
    · cases fault_of_wanted_audiences failed
      exact .unaskable failed
    rcases bind_eq_error_iff.mp failed with failed | ⟨_, _, failed⟩
    · exact unreadable_of_reject failed
    · cases failed
  · next illFormed =>
      cases failed
      exact .unencodable (Bool.eq_false_iff.mpr illFormed)

theorem unreadable_of_read (failed : (TokenReader.forKey key expected).read token now = .error fault) :
    Unreadable expected token fault := by
  rw [read_for_key, map_eq_error_iff] at failed
  exact unreadable_of_claims failed

theorem read_ill_formed (key : Option RsaKey) (expected : Expectations) (now : Instant)
    (illFormed : Text.isWellFormed token = false) :
    (TokenReader.forKey key expected).read token now = .error .unencodable := by
  rw [read_for_key, claims_eq, if_neg (by simp [illFormed])]
  rfl

theorem askable_of_text (audience : Option Text) :
    ∃ wanted, wantedAudiences (.ofText? audience) = .ok wanted := by
  cases audience with
  | none => exact ⟨[], rfl⟩
  | some audience => exact ⟨[audience], rfl⟩

/-- The ends that readers promise their callers: an object of claims out of JSON, or a rejection. -/
inductive EndsAsDeclared : Except Fault Value → Prop
  | accepted (claims : Fields) (json : ∀ entry ∈ claims, Json.IsJson entry.2) : EndsAsDeclared (.ok (.object claims))
  | rejected (r : Rejection) : EndsAsDeclared (.error r.fault)

theorem unencodable_not_declared : ¬EndsAsDeclared (.error .unencodable) := by
  intro declared
  generalize same : (Except.error Fault.unencodable : Except Fault Value) = parsed at declared
  cases declared with
  | accepted claims => cases same
  | rejected r => cases same

theorem declared_of_well_formed (key : Option RsaKey) (issuer audience : Option Text) (now : Instant)
    (wellFormed : Text.isWellFormed token = true) :
    EndsAsDeclared ((TokenReader.forKey key ⟨.ofText? issuer, .ofText? audience⟩).read token now) := by
  cases ended : (TokenReader.forKey key ⟨.ofText? issuer, .ofText? audience⟩).read token now with
  | ok value =>
      obtain ⟨_, _, accepted, rfl, _, passes⟩ := read_eq_ok_iff.mp ended
      exact .accepted accepted (json_of_object passes.payload)
  | error fault =>
      cases unreadable_of_read ended with
      | unencodable illFormed => simp [wellFormed] at illFormed
      | unaskable failed =>
          obtain ⟨wanted, asked⟩ := askable_of_text audience
          rw [asked] at failed
          cases failed
      | rejected r => exact .rejected r

/-- Whatever is configured, reading a token ends as declared exactly when no surrogate stands alone in the token, whatever else
is in it. A token with one has no UTF-8 form, and this failure is passed on as it is. -/
theorem read_ends_as_declared_iff (key : Option RsaKey) (issuer audience : Option Text) (now : Instant)
    (token : Text) :
    let parsed := (TokenReader.forKey key ⟨.ofText? issuer, .ofText? audience⟩).read token now
    (EndsAsDeclared parsed ↔ Text.isWellFormed token = true) ∧
      (parsed = .error .unencodable ↔ Text.isWellFormed token = false) := by
  intro parsed
  cases form : Text.isWellFormed token with
  | true =>
      have declared : EndsAsDeclared parsed := declared_of_well_formed key issuer audience now form
      refine ⟨iff_of_true declared rfl, iff_of_false ?_ (by decide)⟩
      intro failed
      rw [failed] at declared
      exact unencodable_not_declared declared
  | false =>
      have failed : parsed = .error .unencodable := read_ill_formed key _ now form
      refine ⟨iff_of_false ?_ (by decide), iff_of_true failed rfl⟩
      rw [failed]
      exact unencodable_not_declared

/-- One lone surrogate, under no configuration at all, ends in a fault that is neither. -/
theorem lone_surrogate_not_declared :
    (TokenReader.trusting .none).read [0xD800] 0 = .error .unencodable ∧
      ¬EndsAsDeclared ((TokenReader.trusting .none).read [0xD800] 0) := by
  have failed : (TokenReader.trusting .none).read [0xD800] 0 = .error .unencodable := rfl
  refine ⟨failed, ?_⟩
  rw [failed]
  exact unencodable_not_declared

end BearerRole.Token
