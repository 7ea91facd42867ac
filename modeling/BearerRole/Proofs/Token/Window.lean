import BearerRole.Proofs.Derivation
import BearerRole.Proofs.Token.Authentic
import BearerRole.Proofs.Token.Decomposition
import BearerRole.Proofs.Token.Failure
import Mathlib.Algebra.Order.Field.Basic
import Mathlib.Algebra.Order.Ring.Rat
import Mathlib.Order.UpperLower.Basic

/-!
The window of time of a token. The instant of the reading counts in two checks only, so a token that is ever accepted is first
too early, then accepted with the same claims all along, and then expired; each of the three times may be empty. A role that is
derived of a token is an operator's for one such window.
-/

namespace BearerRole.Token

set_option autoImplicit false

/-- The sets of instants that a window can be: with an end to either side or to none. It contains the instant in which it begins
and not the one in which it ends. -/
inductive IsWindow : Set Instant → Prop
  | always : IsWindow Set.univ
  | since (start : Instant) : IsWindow (Set.Ici start)
  | till (stop : Instant) : IsWindow (Set.Iio stop)
  | between (start stop : Instant) : IsWindow (Set.Ico start stop)

theorem IsWindow.empty : IsWindow ∅ := by
  rw [← Set.Ico_self (0 : Instant)]
  exact .between 0 0

variable {window : Set Instant}

theorem IsWindow.begin_mem (isWindow : IsWindow window) {start : Instant} (begins : IsGLB window start) :
    start ∈ window := by
  cases isWindow with
  | always => exact Set.mem_univ start
  | since first =>
      rw [begins.unique isGLB_Ici]
      exact Set.self_mem_Ici
  | till stop => exact absurd ⟨start, begins.1⟩ (not_bddBelow_Iio stop)
  | between first stop =>
      by_cases ordered : first < stop
      · rw [begins.unique (isGLB_Ico ordered)]
        exact Set.left_mem_Ico.mpr ordered
      · rw [Set.Ico_eq_empty ordered, isGLB_empty_iff] at begins
        exact absurd begins (not_isTop start)

theorem IsWindow.end_not_mem (isWindow : IsWindow window) {stop : Instant} (ends : IsLUB window stop) :
    stop ∉ window := by
  cases isWindow with
  | always => exact absurd ⟨stop, ends.1⟩ not_bddAbove_univ
  | since start => exact absurd ⟨stop, ends.1⟩ (not_bddAbove_Ici start)
  | till last =>
      rw [ends.unique isLUB_Iio]
      exact Set.self_notMem_Iio
  | between start last =>
      by_cases ordered : start < last
      · rw [ends.unique (isLUB_Ico ordered)]
        exact Set.right_notMem_Ico
      · rw [Set.Ico_eq_empty ordered]
        exact Set.notMem_empty stop

def begin? (claims : Fields) : Option Int := (claims.get? notBeforeClaim).bind second?

def end? (claims : Fields) : Option Int := (claims.get? expiryClaim).bind second?

def IsEarly (claims : Fields) (now : Instant) : Prop := ∃ second, begin? claims = some second ∧ now < (second : Rat)

def IsLate (claims : Fields) (now : Instant) : Prop := ∃ second, end? claims = some second ∧ (second : Rat) ≤ now

theorem IsEarly.earlier {claims : Fields} {earlier now : Instant} (early : IsEarly claims now)
    (order : earlier ≤ now) : IsEarly claims earlier := by
  obtain ⟨second, begins, before⟩ := early
  exact ⟨second, begins, order.trans_lt before⟩

theorem IsLate.later {claims : Fields} {now later : Instant} (late : IsLate claims now) (order : now ≤ later) :
    IsLate claims later := by
  obtain ⟨second, ends, after⟩ := late
  exact ⟨second, ends, after.trans order⟩

theorem window_of_claims (claims : Fields) : IsWindow {now | ¬IsEarly claims now ∧ ¬IsLate claims now} := by
  unfold IsEarly IsLate
  cases begin? claims with
  | none =>
      cases end? claims with
      | none => simpa using IsWindow.always
      | some stop => simpa [Set.Iio] using IsWindow.till stop
  | some start =>
      cases end? claims with
      | none => simpa [Set.Ici] using IsWindow.since start
      | some stop => simpa [Set.Ico] using IsWindow.between start stop

/-- What a token with some claims comes to over time. -/
inductive Phase (claims : Fields) (now : Instant) : Except Fault Value → Prop
  | early (early : IsEarly claims now) : Phase claims now (.error Rejection.notYetValid.fault)
  | late (begun : ¬IsEarly claims now) (late : IsLate claims now) : Phase claims now (.error Rejection.expired.fault)
  | valid (begun : ¬IsEarly claims now) (lasting : ¬IsLate claims now) : Phase claims now (.ok (.object claims))

theorem check_not_before_over_time {claims : Fields} {once : Instant} (passed : checkNotBefore once claims = .ok ())
    (now : Instant) :
    IsEarly claims now ∧ checkNotBefore now claims = .error .notYetValid ∨
      ¬IsEarly claims now ∧ checkNotBefore now claims = .ok () := by
  rw [check_not_before_eq_ok_iff] at passed
  unfold IsEarly begin? checkNotBefore
  cases found : claims.get? notBeforeClaim with
  | none => exact .inr ⟨by simp, rfl⟩
  | some v =>
      obtain ⟨second, means, _⟩ := passed v found
      by_cases before : now < (second : Rat)
      · exact .inl ⟨by simp [means, before], by simp [means, before]⟩
      · exact .inr ⟨by simp [means, before], by simp [means, before]⟩

theorem check_expiry_over_time {claims : Fields} {once : Instant} (passed : checkExpiry once claims = .ok ())
    (now : Instant) :
    IsLate claims now ∧ checkExpiry now claims = .error .expired ∨
      ¬IsLate claims now ∧ checkExpiry now claims = .ok () := by
  rw [check_expiry_eq_ok_iff] at passed
  unfold IsLate end? checkExpiry
  cases found : claims.get? expiryClaim with
  | none => exact .inr ⟨by simp, rfl⟩
  | some v =>
      obtain ⟨second, means, _⟩ := passed v found
      by_cases after : (second : Rat) ≤ now
      · exact .inl ⟨by simp [means, after], by simp [means, after]⟩
      · exact .inr ⟨by simp [means, after], by simp [means, after]⟩

variable {key : Option RsaKey} {expected : Expectations} {token : Text}

/-- A token that is accepted once has its three times for good. -/
theorem phase_of_accepted {once : Instant} {value : Value}
    (accepted : (TokenReader.forKey key expected).read token once = .ok value) :
    ∃ claims, value = .object claims ∧
      ∀ now, Phase claims now ((TokenReader.forKey key expected).read token now) := by
  obtain ⟨_, decoded, claims, object, structured, passes⟩ := read_eq_ok_iff.mp accepted
  obtain ⟨wanted, asked, audience⟩ := passes.claims.audience
  have passed := authenticate_eq_ok_iff.mpr ⟨structured, passes.header, passes.signature⟩
  refine ⟨claims, object, ?_⟩
  intro now
  rw [read_for_key, claims_of_authenticate passed passes.payload asked, configuredChecks]
  rcases check_not_before_over_time passes.claims.notBefore now with ⟨early, refused⟩ | ⟨begun, begins⟩
  · rw [refused]
    exact .early early
  · rw [begins, ok_bind]
    rcases check_expiry_over_time passes.claims.expiry now with ⟨late, refused⟩ | ⟨lasting, lasts⟩
    · rw [refused]
      exact .late begun late
    · rw [lasts, ok_bind, passes.claims.issuer, ok_bind, audience]
      exact .valid begun lasting

theorem Phase.ok_iff {claims : Fields} {now : Instant} {parsed : Except Fault Value} {value : Value}
    (phase : Phase claims now parsed) :
    parsed = .ok value ↔ value = .object claims ∧ ¬IsEarly claims now ∧ ¬IsLate claims now := by
  cases phase with
  | early early => simp [early]
  | late _ late => simp [late]
  | valid begun lasting => simp [begun, lasting, eq_comm]

theorem Phase.late_of_expired {claims : Fields} {now : Instant} {parsed : Except Fault Value}
    (phase : Phase claims now parsed) (rejected : RejectedFor (text "token_expired") parsed) : IsLate claims now := by
  cases phase with
  | early => exact absurd (rejected_for_fault_iff.mp rejected) (by decide)
  | late _ late => exact late
  | valid => cases rejected_for_iff.mp rejected

theorem Phase.early_of_rejected {claims : Fields} {now : Instant} {parsed : Except Fault Value}
    (phase : Phase claims now parsed) (rejected : RejectedFor (text "token_not_yet_valid") parsed) :
    IsEarly claims now := by
  cases phase with
  | early early => exact early
  | late => exact absurd (rejected_for_fault_iff.mp rejected) (by decide)
  | valid => cases rejected_for_iff.mp rejected

/-- A reading succeeds over one window of time and gives the same claims all along. Where it has expired once it never succeeds
again, and where it was not yet valid it has never succeeded before. -/
structure LastsOneWindow (parsed : Instant → Except Fault Value) : Prop where
  window : IsWindow {now | ∃ claims, parsed now = .ok claims}
  begin_mem : ∀ {start}, IsGLB {now | ∃ claims, parsed now = .ok claims} start → ∃ claims, parsed start = .ok claims
  end_not_mem : ∀ {stop}, IsLUB {now | ∃ claims, parsed now = .ok claims} stop → ¬∃ claims, parsed stop = .ok claims
  steady : ∀ {first now last claims others}, first ≤ now → now ≤ last → parsed first = .ok claims →
    parsed last = .ok others → parsed now = .ok claims ∧ others = claims
  expired : ∀ {now later}, RejectedFor (text "token_expired") (parsed now) → now ≤ later →
    ¬∃ claims, parsed later = .ok claims
  early : ∀ {now earlier}, RejectedFor (text "token_not_yet_valid") (parsed now) → earlier ≤ now →
    ¬∃ claims, parsed earlier = .ok claims

/-- The instants in which a token is accepted, with the claims that it is accepted with. -/
theorem accepted_instants (key : Option RsaKey) (expected : Expectations) (token : Text) :
    IsWindow {now | ∃ claims, (TokenReader.forKey key expected).read token now = .ok claims} := by
  by_cases ever : ∃ now claims, (TokenReader.forKey key expected).read token now = .ok claims
  · obtain ⟨_, _, accepted⟩ := ever
    obtain ⟨claims, _, phases⟩ := phase_of_accepted accepted
    have instants : {now | ∃ claims, (TokenReader.forKey key expected).read token now = .ok claims} =
        {now | ¬IsEarly claims now ∧ ¬IsLate claims now} := by
      ext now
      simp only [Set.mem_ofPred_eq, (phases now).ok_iff, exists_eq_left]
    rw [instants]
    exact window_of_claims claims
  · have never : {now | ∃ claims, (TokenReader.forKey key expected).read token now = .ok claims} = ∅ := by
      rw [Set.eq_empty_iff_forall_notMem]
      exact fun now accepted => ever ⟨now, accepted⟩
    rw [never]
    exact .empty

theorem lasts_one_window (key : Option RsaKey) (expected : Expectations) (token : Text) :
    LastsOneWindow ((TokenReader.forKey key expected).read token) where
  window := accepted_instants key expected token
  begin_mem := fun begins => (accepted_instants key expected token).begin_mem begins
  end_not_mem := fun ends => (accepted_instants key expected token).end_not_mem ends
  steady := by
    intro first now last claims others afterFirst beforeLast accepted acceptedLast
    obtain ⟨fields, object, phases⟩ := phase_of_accepted accepted
    obtain ⟨_, begun, _⟩ := (phases first).ok_iff.mp accepted
    obtain ⟨same, _, lasting⟩ := (phases last).ok_iff.mp acceptedLast
    refine ⟨(phases now).ok_iff.mpr ⟨object, ?_, ?_⟩, same.trans object.symm⟩
    · exact fun early => begun (early.earlier afterFirst)
    · exact fun late => lasting (late.later beforeLast)
  expired := by
    intro now later rejected order accepted
    obtain ⟨claims, accepted⟩ := accepted
    obtain ⟨fields, _, phases⟩ := phase_of_accepted accepted
    obtain ⟨_, _, lasting⟩ := (phases later).ok_iff.mp accepted
    exact lasting (((phases now).late_of_expired rejected).later order)
  early := by
    intro now earlier rejected order accepted
    obtain ⟨claims, accepted⟩ := accepted
    obtain ⟨fields, _, phases⟩ := phase_of_accepted accepted
    obtain ⟨_, begun, _⟩ := (phases earlier).ok_iff.mp accepted
    exact begun (((phases now).early_of_rejected rejected).earlier order)

theorem call_of_carried {extractor : TokenExtractor} {request : Request} {authorization : Value}
    (asked : request.headers.get Bearer.headerName = .ok authorization)
    (carries : Bearer.token authorization = .ok (some token)) (now : Instant) :
    (extractor.call request now).value = .operator ↔
      ∃ claims, extractor.reader.read token now = .ok claims ∧ extractor.roleOf claims = .ok .operator := by
  rw [TokenExtractor.call_eq_operator_iff]
  simp only [asked, Except.ok.injEq, exists_eq_left', TokenExtractor.derive_eq_operator_iff, carries,
    Option.some.injEq, exists_and_left]

/-- Only the claims of an accepted token elevate, and they are the same whenever it is accepted; so a request is an operator's
for as long as its token is accepted, or never. -/
theorem operator_instants (key : Option RsaKey) (expected : Expectations) (path operatorValue : Value)
    (request : Request) :
    IsWindow {now | ((TokenExtractor.mk (.forKey key expected) path operatorValue).call request now).value =
      .operator} := by
  let extractor : TokenExtractor := ⟨.forKey key expected, path, operatorValue⟩
  by_cases ever : ∃ now, (extractor.call request now).value = .operator
  · obtain ⟨once, elevated⟩ := ever
    obtain ⟨authorization, asked, derived⟩ := TokenExtractor.call_eq_operator_iff.mp elevated
    obtain ⟨token, claims, carries, accepted, role⟩ := TokenExtractor.derive_eq_operator_iff.mp derived
    have instants : {now | (extractor.call request now).value = .operator} =
        {now | ∃ claims, (TokenReader.forKey key expected).read token now = .ok claims} := by
      ext now
      rw [Set.mem_ofPred_eq, Set.mem_ofPred_eq, call_of_carried asked carries]
      constructor
      · rintro ⟨others, read, _⟩
        exact ⟨others, read⟩
      · rintro ⟨others, read⟩
        obtain ⟨fields, object, phases⟩ := phase_of_accepted accepted
        obtain ⟨same, _⟩ := (phases now).ok_iff.mp read
        exact ⟨others, read, by rw [same, ← object, role]⟩
    show IsWindow {now | (extractor.call request now).value = .operator}
    rw [instants]
    exact accepted_instants key expected token
  · have never : {now | (extractor.call request now).value = .operator} = ∅ := by
      rw [Set.eq_empty_iff_forall_notMem]
      exact fun now elevated => ever ⟨now, elevated⟩
    show IsWindow {now | (extractor.call request now).value = .operator}
    rw [never]
    exact .empty

/-- With a key or without, whatever is expected of the claims, each token is accepted over one window of time, and each request
is an operator's over one window and a viewer's outside of it. -/
theorem valid_for_one_window (key : Option RsaKey) (expected : Expectations) :
    (∀ token, LastsOneWindow ((TokenReader.forKey key expected).read token)) ∧
      ∀ (path operatorValue : Value) (request : Request),
        let role now := ((TokenExtractor.mk (.forKey key expected) path operatorValue).call request now).value
        ∃ window, IsWindow window ∧ (∀ now ∈ window, role now = .operator) ∧ ∀ now ∉ window, role now = .viewer := by
  refine ⟨lasts_one_window key expected, ?_⟩
  intro path operatorValue request role
  refine ⟨_, operator_instants key expected path operatorValue request, fun now elevated => elevated, ?_⟩
  intro now outside
  cases given : role now with
  | viewer => rfl
  | operator => exact absurd given outside

/-- A token that begins in one second and ends in another is accepted at all times between, and at none before or after. -/
theorem gateway_token_window :
    let parsed := (TokenReader.verifying gatewayKey .none).read gatewayToken
    RejectedFor (text "token_not_yet_valid") (parsed (1700000000 - 1 / 2)) ∧
      RejectedFor (text "token_expired") (parsed 1800000000) ∧
        (∀ earlier ≤ (1700000000 - 1 / 2 : Instant), ¬∃ claims, parsed earlier = .ok claims) ∧
          (∀ later ≥ (1800000000 : Instant), ¬∃ claims, parsed later = .ok claims) ∧
            ∀ now : Instant, 1700000000 ≤ now → now ≤ 1800000000 - 1 / 2 → ∃ claims, parsed now = .ok claims := by
  intro parsed
  have tooEarly : RejectedFor (text "token_not_yet_valid") (parsed (1700000000 - 1 / 2)) := by decide +kernel
  have tooLate : RejectedFor (text "token_expired") (parsed 1800000000) := by decide +kernel
  have begins : (parsed 1700000000).toOption.isSome = true := by decide +kernel
  have lasts : (parsed (1800000000 - 1 / 2)).toOption.isSome = true := by decide +kernel
  obtain ⟨claims, foundFirst⟩ := Option.isSome_iff_exists.mp begins
  obtain ⟨others, foundLast⟩ := Option.isSome_iff_exists.mp lasts
  have accepted := to_option_eq_some_iff.mp foundFirst
  have acceptedLast := to_option_eq_some_iff.mp foundLast
  obtain ⟨lastsOneWindow, _⟩ := valid_for_one_window (some gatewayKey) .none
  have window : LastsOneWindow parsed := lastsOneWindow gatewayToken
  refine ⟨tooEarly, tooLate, fun _ order => window.early tooEarly order, fun _ order => window.expired tooLate order, ?_⟩
  intro now afterFirst beforeLast
  obtain ⟨between, _⟩ := window.steady afterFirst beforeLast accepted acceptedLast
  exact ⟨claims, between⟩

end BearerRole.Token
