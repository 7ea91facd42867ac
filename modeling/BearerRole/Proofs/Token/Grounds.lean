import BearerRole.Proofs.Token.Authentic
import BearerRole.Proofs.Token.Decomposition
import BearerRole.Proofs.Token.Failure
import BearerRole.Proofs.Token.Minting

/-!
For which reason the claims of an authentic token are rejected. There are six grounds against claims, which may hold together; the
reason that is given is that of the first in a fixed order, and the same under a key and without one.
-/

namespace BearerRole.Token

set_option autoImplicit false

open Json (IsJson)

/-- A ground against claims, with the reason that is given for it. -/
structure Ground where
  applies : Prop
  reason : Text

/-- The reason of the first ground that applies, or nothing where none does. -/
inductive FirstReason : List Ground → Option Text → Prop
  | here {ground : Ground} {later : List Ground} (applies : ground.applies) :
      FirstReason (ground :: later) (some ground.reason)
  | later {ground : Ground} {later : List Ground} {reason : Option Text} (clear : ¬ground.applies)
      (rest : FirstReason later reason) : FirstReason (ground :: later) reason
  | clear : FirstReason [] none

def reasonOf? : Except Rejection Unit → Option Text
  | .ok _ => none
  | .error r => some r.reason

/-- Further grounds count for nothing where one of those before them applies. -/
theorem FirstReason.append_found {grounds : List Ground} {reason : Text} (first : FirstReason grounds (some reason))
    (more : List Ground) : FirstReason (grounds ++ more) (some reason) := by
  generalize same : some reason = found at first ⊢
  induction first with
  | here applies => exact .here applies
  | later clear _ ih => exact .later clear (ih same)
  | clear => cases same

theorem FirstReason.append_clear {grounds more : List Ground} {reason : Option Text} (first : FirstReason grounds none)
    (rest : FirstReason more reason) : FirstReason (grounds ++ more) reason := by
  generalize same : none = found at first
  induction first with
  | here => cases same
  | later clear _ ih => exact .later clear (ih same)
  | clear => exact rest

theorem FirstReason.unique {grounds : List Ground} {one other : Option Text} (first : FirstReason grounds one)
    (second : FirstReason grounds other) : one = other := by
  induction first with
  | here applies =>
      cases second with
      | here => rfl
      | later clear => exact absurd applies clear
  | later clear _ ih =>
      cases second with
      | here applies => exact absurd applies clear
      | later _ rest => exact ih rest
  | clear =>
      cases second
      rfl

/-- Two checks in a row find the grounds of the first before those of the second. -/
theorem FirstReason.bind {grounds more : List Ground} {check next : Except Rejection Unit}
    (first : FirstReason grounds (reasonOf? check)) (second : FirstReason more (reasonOf? next)) :
    FirstReason (grounds ++ more) (reasonOf? (check >>= fun _ => next)) := by
  cases check with
  | ok _ => exact first.append_clear second
  | error r => exact first.append_found more

def tooEarly (now : Instant) (claims : Fields) : Ground :=
  ⟨∃ second : Int, claims.get? (text "nbf") = some (.int second) ∧ now < second, text "token_not_yet_valid"⟩

def tooLate (now : Instant) (claims : Fields) : Ground :=
  ⟨∃ second : Int, claims.get? (text "exp") = some (.int second) ∧ (second : Rat) ≤ now, text "token_expired"⟩

def withoutIssuer (issuer : Option Text) (claims : Fields) : Ground :=
  ⟨issuer ≠ none ∧ claims.get? (text "iss") = none, text "missing_claim"⟩

def ofOtherIssuer (issuer : Option Text) (claims : Fields) : Ground :=
  ⟨∃ expected, issuer = some expected ∧ claims.get? (text "iss") ≠ some (.text expected), text "invalid_issuer"⟩

inductive IsVoid : Value → Prop
  | null : IsVoid .null
  | no : IsVoid (.bool false)
  | zero : IsVoid (.int 0)
  | zeroFloat (x : Binary64) (zero : x.isZero = true) : IsVoid (.float x)
  | text : IsVoid (.text [])
  | list : IsVoid (.list [])
  | object : IsVoid (.object [])

def withoutAudience (audience : Option Text) (claims : Fields) : Ground :=
  ⟨audience ≠ none ∧ ∀ v, claims.get? (text "aud") = some v → IsVoid v, text "missing_claim"⟩

def forOtherAudience (audience : Option Text) (claims : Fields) : Ground :=
  ⟨∃ expected, audience = some expected ∧
      ¬∃ v, claims.get? (text "aud") = some v ∧ NamesAudience expected v, text "invalid_audience"⟩

def grounds (issuer audience : Option Text) (now : Instant) (claims : Fields) : List Ground :=
  [tooEarly now claims, tooLate now claims, withoutIssuer issuer claims, ofOtherIssuer issuer claims,
    withoutAudience audience claims, forOtherAudience audience claims]

variable {claims : Fields} {now : Instant}

def IsWholeSecond (claims : Fields) (key : Text) : Prop :=
  ∀ v, claims.get? key = some v → ∃ second : Int, v = .int second

/-- A check of a claim's second, with the seconds that it turns away. -/
theorem second_finds {key : Text} {turnsAway : Int → Prop} [DecidablePred turnsAway] (r : Rejection)
    (whole : IsWholeSecond claims key) :
    FirstReason [⟨∃ second : Int, claims.get? key = some (.int second) ∧ turnsAway second, r.reason⟩]
      (reasonOf? (match claims.get? key with
        | none => .ok ()
        | some v =>
            match second? v with
            | none => .error .malformed
            | some s => if turnsAway s then .error r else .ok ())) := by
  cases found : claims.get? key with
  | none =>
      refine .later ?_ .clear
      rintro ⟨second, present, _⟩
      cases present
  | some v =>
      obtain ⟨second, rfl⟩ := whole v found
      by_cases away : turnsAway second
      · simp only [second?, if_pos away]
        exact .here ⟨second, rfl, away⟩
      · simp only [second?, if_neg away]
        refine .later ?_ .clear
        rintro ⟨other, present, otherAway⟩
        cases present
        exact away otherAway

theorem not_before_finds (begins : IsWholeSecond claims (text "nbf")) :
    FirstReason [tooEarly now claims] (reasonOf? (checkNotBefore now claims)) :=
  second_finds .notYetValid begins

theorem expiry_finds (ends : IsWholeSecond claims (text "exp")) :
    FirstReason [tooLate now claims] (reasonOf? (checkExpiry now claims)) :=
  second_finds .expired ends

theorem check_issuer_absent {expected : Text} (absent : claims.get? (text "iss") = none) :
    checkIssuer (.text expected) claims = .error (.missingClaim .issuer) := by
  have found : claims.get? RequiredClaim.issuer.key = none := absent
  simp only [checkIssuer, found]

theorem check_issuer_present (expected : Text) {v : Value} (present : claims.get? (text "iss") = some v) :
    checkIssuer (.text expected) claims = .ok () ∨ checkIssuer (.text expected) claims = .error .invalidIssuer := by
  have found : claims.get? RequiredClaim.issuer.key = some v := present
  simp only [checkIssuer, found]
  split
  · split
    · exact .inl rfl
    · exact .inr rfl
  · exact .inr rfl

theorem issuer_finds (issuer : Option Text) (json : ∀ entry ∈ claims, IsJson entry.2) :
    FirstReason [withoutIssuer issuer claims, ofOtherIssuer issuer claims]
      (reasonOf? (checkIssuer (.ofText? issuer) claims)) := by
  cases issuer with
  | none =>
      refine .later ?_ (.later ?_ .clear)
      · rintro ⟨configured, _⟩
        exact configured rfl
      · rintro ⟨expected, configured, _⟩
        cases configured
  | some expected =>
      show FirstReason _ (reasonOf? (checkIssuer (.text expected) claims))
      cases found : claims.get? (text "iss") with
      | none =>
          rw [check_issuer_absent found]
          exact .here ⟨by simp, found⟩
      | some v =>
          refine .later ?_ ?_
          · rintro ⟨_, absent⟩
            cases found.symm.trans absent
          · by_cases same : claims.get? (text "iss") = some (.text expected)
            · rw [(check_issuer_text_eq_ok_iff json).mpr same]
              refine .later ?_ .clear
              rintro ⟨other, configured, differs⟩
              cases configured
              exact differs same
            · have fails := mt (check_issuer_text_eq_ok_iff json).mp same
              rw [(check_issuer_present expected found).resolve_left fails]
              exact .here ⟨expected, rfl, same⟩

theorem falsy_iff_void {v : Value} (json : IsJson v) : v.isFalsy = true ↔ IsVoid v := by
  constructor
  · intro falsy
    cases json with
    | null => exact .null
    | bool b =>
        cases b with
        | false => exact .no
        | true => cases falsy
    | int n =>
        rw [show n = 0 from beq_iff_eq.mp falsy]
        exact .zero
    | float x => exact .zeroFloat x falsy
    | text t =>
        rw [show t = [] from List.isEmpty_iff.mp falsy]
        exact .text
    | list items =>
        rw [show items = [] from List.isEmpty_iff.mp falsy]
        exact .list
    | object fields =>
        rw [show fields = [] from List.isEmpty_iff.mp falsy]
        exact .object
  · intro void
    cases void with
    | zeroFloat x zero => exact zero
    | _ => rfl

theorem check_audience_void {expected : Text} (json : ∀ entry ∈ claims, IsJson entry.2)
    (void : ∀ v, claims.get? (text "aud") = some v → IsVoid v) :
    checkAudience (.text expected) [expected] claims = .error (.missingClaim .audience) := by
  unfold checkAudience
  cases found : claims.get? RequiredClaim.audience.key with
  | none => rfl
  | some v =>
      have falsy := (falsy_iff_void (Json.json_of_get json found)).mpr (void v found)
      simp only [if_pos falsy]

theorem check_audience_present (expected : Text) {v : Value} (json : ∀ entry ∈ claims, IsJson entry.2)
    (present : claims.get? (text "aud") = some v) (solid : ¬IsVoid v) :
    checkAudience (.text expected) [expected] claims = .ok () ∨
      checkAudience (.text expected) [expected] claims = .error .invalidAudience := by
  have found : claims.get? RequiredClaim.audience.key = some v := present
  have truthy := mt (falsy_iff_void (Json.json_of_get json present)).mp solid
  simp only [checkAudience, found, if_neg truthy]
  split
  · split
    · exact .inl rfl
    · exact .inr rfl
  · exact .inr rfl

theorem audience_finds (audience : Option Text) (json : ∀ entry ∈ claims, IsJson entry.2) :
    ∃ wanted, wantedAudiences (.ofText? audience) = .ok wanted ∧
      FirstReason [withoutAudience audience claims, forOtherAudience audience claims]
        (reasonOf? (askAudience (.ofText? audience) wanted claims)) := by
  cases audience with
  | none =>
      refine ⟨[], rfl, .later ?_ (.later ?_ .clear)⟩
      · rintro ⟨configured, _⟩
        exact configured rfl
      · rintro ⟨expected, configured, _⟩
        cases configured
  | some expected =>
      refine ⟨[expected], rfl, ?_⟩
      show FirstReason _ (reasonOf? (checkAudience (.text expected) [expected] claims))
      by_cases void : ∀ v, claims.get? (text "aud") = some v → IsVoid v
      · rw [check_audience_void json void]
        exact .here ⟨by simp, void⟩
      · refine .later (fun missing => void missing.2) ?_
        by_cases names : ∃ v, claims.get? (text "aud") = some v ∧ NamesAudience expected v
        · rw [(check_audience_text_eq_ok_iff json).mpr names]
          refine .later ?_ .clear
          rintro ⟨other, configured, unnamed⟩
          cases configured
          exact unnamed names
        · have fails := mt (check_audience_text_eq_ok_iff json).mp names
          push Not at void
          obtain ⟨v, present, solid⟩ := void
          rw [(check_audience_present expected json present solid).resolve_left fails]
          exact .here ⟨expected, rfl, names⟩

/-- What a reader answers by the first reason against the claims: without one the claims just as they are. -/
def IsAnswer (claims : Fields) : Option Text → Except Fault Value → Prop
  | none, parsed => parsed = .ok (.object claims)
  | some reason, parsed => RejectedFor reason parsed

/-- An authentic token whose claims have whole seconds, if any, for their window is answered by the first ground against
its claims, in the one order, with a key and without: with the claims just as they are where there is none. -/
theorem answered_by_first_ground {key : Option RsaKey} {token : Text} {decoded : Decoded}
    (passed : authenticate key token = .ok decoded) (holds : object? decoded.payload = some claims)
    (begins : IsWholeSecond claims (text "nbf")) (ends : IsWholeSecond claims (text "exp"))
    (issuer audience : Option Text) (now : Instant) :
    ∃ reason, FirstReason (grounds issuer audience now claims) reason ∧
      IsAnswer claims reason
        ((TokenReader.forKey key ⟨.ofText? issuer, .ofText? audience⟩).read token now) := by
  have json := json_of_object holds
  obtain ⟨wanted, asked, ofAudience⟩ := audience_finds audience json
  refine ⟨reasonOf? (configuredChecks ⟨.ofText? issuer, .ofText? audience⟩ wanted now claims), ?_, ?_⟩
  · have ofNames := (issuer_finds issuer json).bind ofAudience
    exact (not_before_finds begins).bind ((expiry_finds ends).bind ofNames)
  · rw [read_for_key, claims_of_authenticate passed holds asked]
    cases configuredChecks ⟨.ofText? issuer, .ofText? audience⟩ wanted now claims with
    | ok _ => rfl
    | error r => exact rejected_for_fault_iff.mpr rfl

theorem plain_gateway_claims : Json.IsPlain 4300 limits.depth (.object gatewayClaims) := by
  have roles := plain_literals 977 ["auditor", "Operator"] (by decide)
  have access : Json.IsPlain 4300 979 (.object [(text "roles", .list [.ofText "auditor", .ofText "Operator"])]) := by
    refine .object 978 _ (by decide) (by decide) ?_
    intro entry member
    rw [List.mem_singleton.mp member]
    exact roles
  refine .object 979 gatewayClaims (by decide) (by decide) ?_
  intro entry member
  simp only [gatewayClaims, List.mem_cons, List.not_mem_nil, or_false] at member
  rcases member with rfl | rfl | rfl | rfl | rfl
  · exact plain_literal 979 "https://issuer.test" (by decide)
  · exact plain_literals 978 ["gateway", "api"] (by decide)
  · exact .int 979 1700000000 (by decide +kernel)
  · exact .int 979 1800000000 (by decide +kernel)
  · exact access

theorem gateway_token_authentic :
    ∃ decoded, authenticate (some gatewayKey) gatewayToken = .ok decoded ∧
      object? decoded.payload = some gatewayClaims := by
  have passes : (authenticate (some gatewayKey) gatewayToken).toOption.isSome = true := by decide +kernel
  obtain ⟨decoded, found⟩ := Option.isSome_iff_exists.mp passes
  have passed := to_option_eq_some_iff.mp found
  have lastDot : dot ∉ Base64.encode .url gatewaySignature := by decide +kernel
  have segments : gatewayToken = segment gatewayHeader ++ dot :: segment gatewayClaims ++
      dot :: Base64.encode .url gatewaySignature := by
    simp only [gatewayToken, List.append_assoc, List.singleton_append]
  obtain ⟨compact, parts, decodes⟩ := decodes_of_authenticate passed
  rw [segments, compact_of_segments _ (dot_not_mem_segment gatewayHeader) lastDot] at parts
  cases parts
  obtain ⟨json, read, holds⟩ := read_segment plain_gateway_claims
  cases read.symm.trans decodes.payload
  exact ⟨decoded, passed, holds⟩

/-- In the second in which the token ends it is expired, and this counts before its issuer and its audience. -/
theorem gateway_token_expired_first :
    IsWholeSecond gatewayClaims (text "nbf") ∧ IsWholeSecond gatewayClaims (text "exp") ∧
      (ofOtherIssuer (some (text "https://other.test")) gatewayClaims).applies ∧
        RejectedFor (text "token_expired") ((TokenReader.verifying gatewayKey
          ⟨.ofText "https://other.test", .ofText "web"⟩).read gatewayToken 1800000000) := by
  have begins : IsWholeSecond gatewayClaims (text "nbf") := by
    intro v found
    cases found
    exact ⟨1700000000, rfl⟩
  have ends : IsWholeSecond gatewayClaims (text "exp") := by
    intro v found
    cases found
    exact ⟨1800000000, rfl⟩
  have other : (ofOtherIssuer (some (text "https://other.test")) gatewayClaims).applies := by
    refine ⟨_, rfl, ?_⟩
    intro same
    have found : gatewayClaims.get? (text "iss") = some (.text (text "https://issuer.test")) := rfl
    have names := Value.text.inj (Option.some.inj (found.symm.trans same))
    exact absurd names (by decide)
  obtain ⟨decoded, passed, holds⟩ := gateway_token_authentic
  obtain ⟨reason, firstReason, answer⟩ := answered_by_first_ground passed holds begins ends
    (some (text "https://other.test")) (some (text "web")) 1800000000
  have expected : FirstReason (grounds (some (text "https://other.test")) (some (text "web")) 1800000000 gatewayClaims)
      (some (text "token_expired")) := by
    refine .later ?_ (.here ⟨1800000000, rfl, by decide⟩)
    rintro ⟨second, begun, early⟩
    cases begun
    exact absurd early (by decide)
  rw [firstReason.unique expected] at answer
  exact ⟨begins, ends, other, answer⟩

end BearerRole.Token
