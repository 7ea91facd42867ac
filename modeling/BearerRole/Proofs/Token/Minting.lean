import BearerRole.Proofs.Codec.Base64
import BearerRole.Proofs.Derivation
import BearerRole.Proofs.Json.Encoded
import BearerRole.Proofs.Text.Cutting
import BearerRole.Proofs.Token.Acceptance

/-!
Reading a minted token gives back its claims. Base64url has neither dots nor blanks, so the segments of a minted
token are found where they were put and trimming takes nothing from them; what is inside is settled by the round trips
of base64 and of JSON.
-/

namespace BearerRole.Token

set_option autoImplicit false

open Json (IsPlain)

theorem mem_segment {fields : Fields} {c : CodePoint} (member : c ∈ segment fields) :
    c ≠ dot ∧ c < 128 ∧ Text.isBlank c = false := by
  obtain ⟨value, bound, same⟩ := Base64.mem_encode member
  rw [same]
  clear member same
  revert value
  decide

theorem dot_not_mem_segment (fields : Fields) : dot ∉ segment fields :=
  fun member => (mem_segment member).1 rfl

theorem mem_mint {claims : Fields} {c : CodePoint} (member : c ∈ mint claims) :
    c < 128 ∧ Text.isBlank c = false := by
  have ofDot : dot < 128 ∧ Text.isBlank dot = false := by decide
  unfold mint at member
  simp only [List.mem_append, List.mem_singleton] at member
  rcases member with ((header | rfl) | payload) | rfl
  · exact (mem_segment header).2
  · exact ofDot
  · exact (mem_segment payload).2
  · exact ofDot

theorem mint_well_formed (claims : Fields) : Text.isWellFormed (mint claims) = true :=
  Utf8.ascii_well_formed fun _ member => (mem_mint member).1

theorem trim_mint (claims : Fields) : Text.trim (mint claims) = mint claims :=
  Text.trim_eq_self fun _ member => (mem_mint member).2

theorem compact_mint (claims : Fields) :
    Compact.ofText? (mint claims) =
      some ⟨segment unsignedHeader ++ [dot] ++ segment claims, segment unsignedHeader, segment claims, []⟩ := by
  rw [compact_eq_some_iff]
  refine ⟨rfl, List.not_mem_nil, ?_, dot_not_mem_segment unsignedHeader⟩
  simp only [List.append_assoc, List.singleton_append]

example : mint [] = text "eyJhbGciOiJub25lIiwidHlwIjoiSldUIn0.e30." := by
  decide

theorem read_segment {fields : Fields} (plain : IsPlain 4300 limits.depth (.object fields)) :
    ∃ json, Base64.decodeSegment (segment fields) = some json ∧ object? json = some fields := by
  have read : Json.readBytes limits ((Json.write .segment (.object fields)).map UInt8.ofNat) =
      some (.object fields) := Json.read_bytes_write rfl (by decide) plain
  refine ⟨_, Base64.decode_segment_encode _, ?_⟩
  unfold object?
  rw [read]

theorem plain_literal (depth : Nat) (literal : String)
    (scalars : ∀ c ∈ text literal, Text.IsScalar c) : IsPlain 4300 depth (.ofText literal) :=
  .text depth (text literal) scalars

theorem plain_literals (depth : Nat) (literals : List String)
    (scalars : ∀ literal ∈ literals, ∀ c ∈ text literal, Text.IsScalar c) :
    IsPlain 4300 (depth + 1) (.list (literals.map .ofText)) := by
  refine .list depth _ ?_
  intro item member
  obtain ⟨literal, present, rfl⟩ := List.mem_map.mp member
  exact plain_literal depth literal (scalars literal present)

theorem plain_unsigned_header : IsPlain 4300 limits.depth (.object unsignedHeader) := by
  refine .object 979 unsignedHeader (by decide) (by decide) ?_
  intro entry member
  simp only [unsignedHeader, List.mem_cons, List.not_mem_nil, or_false] at member
  rcases member with rfl | rfl
  · exact plain_literal 979 "none" (by decide)
  · exact plain_literal 979 "JWT" (by decide)

theorem decode_mint {claims : Fields} (plain : IsPlain 4300 limits.depth (.object claims)) :
    ∃ decoded, decode (mint claims) = .ok decoded ∧ decoded.header = unsignedHeader ∧
      object? decoded.payload = some claims := by
  obtain ⟨headerJson, headerRead, header⟩ := read_segment plain_unsigned_header
  obtain ⟨payloadJson, payloadRead, payload⟩ := read_segment plain
  have attached : isDetached unsignedHeader = false := by decide
  have unsigned : Base64.decodeSegment [] = some [] := by decide
  refine ⟨⟨unsignedHeader, (segment unsignedHeader ++ [dot] ++ segment claims).map UInt8.ofNat,
    payloadJson, []⟩, ?_, rfl, payload⟩
  rw [decode_eq_ok_iff attached]
  exact ⟨_, compact_mint claims, ⟨headerJson, headerRead, header⟩, payloadRead, unsigned, rfl⟩

theorem claims_of_mint {claims : Fields} (plain : IsPlain 4300 limits.depth (.object claims))
    (noStart : claims.get? notBeforeClaim = none) (noEnd : claims.get? expiryClaim = none) (now : Instant) :
    (TokenReader.trusting .none).read (mint claims) now = .ok (.object claims) := by
  obtain ⟨decoded, structured, header, payload⟩ := decode_mint plain
  have accepted : Token.claims none .none now (mint claims) = .ok claims := by
    rw [claims_eq_ok_iff]
    refine ⟨mint_well_formed claims, decoded, structured, {
      header := by
        rw [header]
        decide
      signature := by
        intro key configured
        cases configured
      payload := payload
      claims := {
        notBefore := by rw [checkNotBefore, noStart]
        expiry := by rw [checkExpiry, noEnd]
        issuer := rfl
        audience := ⟨[], rfl, rfl⟩ } }⟩
  exact congrArg (Except.map Value.object) accepted

theorem bearer_of_mint (claims : Fields) :
    Bearer.token (.text (Bearer.wrap (mint claims))) = .ok (some (mint claims)) := by
  rw [Bearer.token_eq_some_iff]
  refine ⟨text "Bearer", mint claims, rfl, by decide, by decide, trim_mint claims, ?_⟩
  unfold mint
  simp

/-- Claims that JSON can carry, within the limits on depth and digits and without a window of time, come back from the
token that was minted of them just as they went in, and a bearer of that token has the role they give. -/
theorem mint_round_trip {claims : Fields} (plain : IsPlain 4300 limits.depth (.object claims))
    (noStart : claims.get? notBeforeClaim = none) (noEnd : claims.get? expiryClaim = none) (now : Instant)
    (path operatorValue : Text) :
    (TokenReader.trusting .none).read (mint claims) now = .ok (.object claims) ∧
      (TokenExtractor.mk (.trusting .none) (.text path) (.text operatorValue)).derive
          (.text (Bearer.wrap (mint claims))) now =
        .pure (.ok (Claim.role operatorValue (Claim.at? (.object claims) path))) := by
  have read := claims_of_mint plain noStart noEnd now
  refine ⟨read, ?_⟩
  unfold TokenExtractor.derive
  rw [bearer_of_mint claims]
  simp only [read]
  exact congrArg Logged.pure (TokenExtractor.role_of_text _ path operatorValue (.object claims))

def mixedClaims : Fields :=
  [(text "sub", .text [0x1F511, 0x7F, 34]), (text "level", .int (-7)),
    (text "access", .object [(text "roles", .list [.null, .bool true, .ofText "OPERATOR"])])]

theorem plain_mixed_claims : IsPlain 4300 limits.depth (.object mixedClaims) := by
  have roles : IsPlain 4300 978 (.list [.null, .bool true, .ofText "OPERATOR"]) := by
    refine .list 977 _ ?_
    intro item member
    simp only [List.mem_cons, List.not_mem_nil, or_false] at member
    rcases member with rfl | rfl | rfl
    · exact .null 977
    · exact .bool 977 true
    · exact plain_literal 977 "OPERATOR" (by decide)
  have access : IsPlain 4300 979 (.object [(text "roles", .list [.null, .bool true, .ofText "OPERATOR"])]) := by
    refine .object 978 _ (by decide) (by decide) ?_
    intro entry member
    rw [List.mem_singleton.mp member]
    exact roles
  refine .object 979 mixedClaims (by decide) (by decide) ?_
  intro entry member
  simp only [mixedClaims, List.mem_cons, List.not_mem_nil, or_false] at member
  rcases member with rfl | rfl | rfl
  · exact .text 979 _ (by decide)
  · exact .int 979 (-7) (by decide +kernel)
  · exact access

theorem mint_round_trip_of_mixed :
    (TokenReader.trusting .none).read (mint mixedClaims) 0 = .ok (.object mixedClaims) ∧
      (TokenExtractor.mk (.trusting .none) (.ofText "access.roles") (.ofText "operator")).derive
        (.text (Bearer.wrap (mint mixedClaims))) 0 = .pure (.ok .operator) := by
  have elevates : Claim.role (text "operator") (Claim.at? (.object mixedClaims) (text "access.roles")) =
      .operator := by decide +kernel
  obtain ⟨read, derived⟩ := mint_round_trip plain_mixed_claims (by rfl) (by rfl) 0 (text "access.roles")
    (text "operator")
  rw [elevates] at derived
  exact ⟨read, derived⟩

end BearerRole.Token
