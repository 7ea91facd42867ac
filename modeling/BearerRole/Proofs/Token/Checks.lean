import BearerRole.Proofs.Json.Kinds
import BearerRole.Proofs.Key.Signature
import BearerRole.Proofs.Partial
import BearerRole.Token.Claims
import BearerRole.Token.Compact
import BearerRole.Token.Header

/-!
What each check of a token lets pass. Header and claims come out of JSON, so what counts as text there is text.
-/

namespace BearerRole.Token

set_option autoImplicit false

open Json (IsJson)

variable {claims : Fields} {now : Instant}

theorem json_of_object {json : Bytes} {fields : Fields} (found : object? json = some fields) :
    ∀ entry ∈ fields, IsJson entry.2 := by
  unfold object? at found
  split at found
  · next read =>
      cases found
      cases Json.json_of_read_bytes read with
      | object _ values => exact values
  · cases found

theorem check_not_before_eq_ok_iff :
    checkNotBefore now claims = .ok () ↔
      ∀ v, claims.get? notBeforeClaim = some v → ∃ second, second? v = some second ∧ (second : Rat) ≤ now := by
  unfold checkNotBefore
  cases claims.get? notBeforeClaim with
  | none => simp
  | some v =>
      cases means : second? v with
      | none => simp [means]
      | some second =>
          by_cases early : now < (second : Rat)
          · simp [means, early]
          · simp [means, early, not_lt.mp early]

theorem check_expiry_eq_ok_iff :
    checkExpiry now claims = .ok () ↔
      ∀ v, claims.get? expiryClaim = some v → ∃ second, second? v = some second ∧ now < (second : Rat) := by
  unfold checkExpiry
  cases claims.get? expiryClaim with
  | none => simp
  | some v =>
      cases means : second? v with
      | none => simp [means]
      | some second =>
          by_cases late : (second : Rat) ≤ now
          · simp [means, late]
          · simp [means, late, not_le.mp late]

theorem check_issuer_text_eq_ok_iff {issuer : Text} (json : ∀ entry ∈ claims, IsJson entry.2) :
    checkIssuer (.text issuer) claims = .ok () ↔
      claims.get? RequiredClaim.issuer.key = some (.text issuer) := by
  have allowed : allowedIssuers (.text issuer) = [issuer] := rfl
  unfold checkIssuer
  cases found : claims.get? RequiredClaim.issuer.key with
  | none => simp
  | some v =>
      cases counts : v.asText? with
      | none =>
          have other : v ≠ .text issuer := by
            rintro rfl
            cases counts
          simp [counts, other]
      | some given =>
          have counted : (Value.text given).asText? = some given := rfl
          rw [(Json.json_of_get json found).eq_text counts]
          by_cases same : given = issuer
          · rw [same] at counted ⊢
            simp [counted, allowed]
          · simp [counted, allowed, same]

/-- The claims that name an audience: the audience itself, unless it is empty, or a list of texts with it among them. -/
inductive NamesAudience (audience : Text) : Value → Prop
  | text (nonempty : audience ≠ []) : NamesAudience audience (.text audience)
  | list (named : List Text) (member : audience ∈ named) : NamesAudience audience (.list (named.map .text))

theorem texts_of_json {items : List Value} {named : List Text} (json : ∀ item ∈ items, IsJson item) :
    items.mapM Value.asText? = some named ↔ items = named.map .text := by
  rw [map_m_eq_some_iff]
  constructor
  · intro all
    induction all with
    | nil => rfl
    | cons first _ ih =>
        have head := (json _ (List.mem_cons_self ..)).eq_text first
        rw [head, ih fun item member => json item (List.mem_cons_of_mem _ member), List.map_cons]
  · rintro rfl
    rw [List.forall₂_map_left_iff, List.forall₂_same]
    intro t _
    rfl

theorem names_audience_iff {audience : Text} {v : Value} (json : IsJson v) :
    NamesAudience audience v ↔
      v.isFalsy = false ∧ ∃ named, namedAudiences? v = some named ∧ audience ∈ named := by
  constructor
  · intro names
    cases names with
    | text nonempty => exact ⟨by simpa [Value.isFalsy] using nonempty, [audience], rfl, by simp⟩
    | list named member =>
        have items : ∀ item ∈ named.map Value.text, IsJson item := by
          intro item inside
          obtain ⟨t, _, rfl⟩ := List.mem_map.mp inside
          exact .text t
        refine ⟨?_, named, (texts_of_json items).mpr rfl, member⟩
        cases named with
        | nil => cases member
        | cons first rest => rfl
  · intro facts
    rcases facts with ⟨solid, named, found, member⟩
    cases json with
    | text t =>
        cases found
        rw [List.mem_singleton] at member
        rw [member]
        refine .text ?_
        rintro rfl
        cases solid
    | list items members =>
        rw [(texts_of_json members).mp found]
        exact .list named member
    | _ => cases found

theorem check_audience_text_eq_ok_iff {audience : Text} (json : ∀ entry ∈ claims, IsJson entry.2) :
    checkAudience (.text audience) [audience] claims = .ok () ↔
      ∃ v, claims.get? RequiredClaim.audience.key = some v ∧ NamesAudience audience v := by
  unfold checkAudience
  cases found : claims.get? RequiredClaim.audience.key with
  | none => simp
  | some v =>
      have kind := Json.json_of_get json found
      simp only [Option.some.injEq, exists_eq_left', names_audience_iff kind]
      cases solid : v.isFalsy with
      | true => simp
      | false =>
          cases names : namedAudiences? v with
          | none => simp
          | some named =>
              by_cases member : audience ∈ named
              · simp [member]
              · simp [member]

theorem of_name_eq_some_iff {name : Text} {algorithm : Algorithm} :
    Algorithm.ofName? name = some algorithm ↔ name = algorithm.name := by
  have distinct : ∀ other : Algorithm, Algorithm.ofName? other.name = some other := by
    intro other
    cases other <;> decide
  constructor
  · intro found
    have named := List.find?_some found
    exact (beq_iff_eq.mp named).symm
  · rintro rfl
    exact distinct algorithm

theorem algorithm_eq_some_iff {header : Fields} {algorithm : Algorithm}
    (json : ∀ entry ∈ header, IsJson entry.2) :
    algorithm? header = some algorithm ↔ header.get? algorithmEntry = some (.text algorithm.name) := by
  unfold algorithm?
  simp only [Option.bind_eq_bind, Option.bind_eq_some_iff, of_name_eq_some_iff]
  constructor
  · intro facts
    rcases facts with ⟨v, found, name, counts, rfl⟩
    rw [found, (Json.json_of_get json found).eq_text counts]
  · intro found
    exact ⟨_, found, algorithm.name, rfl, rfl⟩

theorem check_signature_eq_ok_iff {key : RsaKey} {header : Fields} {signed signature : Bytes} :
    checkSignature key header signed signature = .ok () ↔
      ∃ algorithm, algorithm? header = some algorithm ∧ Signature.canVerify key = true ∧
        Signature.IsValid key algorithm signed signature := by
  unfold checkSignature
  cases algorithm? header with
  | none => simp
  | some algorithm =>
      simp only [Option.some.injEq, exists_eq_left', ← Signature.verifies_iff]
      by_cases valid : Signature.verifies key algorithm signed signature = true
      · simp [valid]
      · simp [valid]

theorem attached_of_check {header : Fields} (checked : checkHeader header = .ok ()) :
    isDetached header = false := by
  unfold checkHeader at checked
  split at checked
  · cases checked
  · split at checked
    · split at checked
      · cases checked
      · cases checked
    · next attached => simpa using attached

end BearerRole.Token
