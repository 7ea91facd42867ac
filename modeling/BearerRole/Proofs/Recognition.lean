import BearerRole.Proofs.Claim.Mapping
import BearerRole.Proofs.Derivation

/-!
Which texts are taken for the words that decide. The operator value of a claim, the role in a header and the scheme before a token
are compared without regard to case, by two different mappings of all of Unicode. Neither mapping leads from outside ASCII to a
letter of these words, so the texts taken for a word are its mixtures of small and capital letters and no others.
-/

namespace BearerRole

set_option autoImplicit false

theorem fold_eq_operator_iff {t : Text} :
    Text.fold t = text "operator" ↔ Text.IsCaseVariant (text "operator") t :=
  Text.fold_plain.apply_eq_iff (by decide)

theorem lower_eq_operator_iff {t : Text} :
    Text.lower t = text "operator" ↔ Text.IsCaseVariant (text "operator") t :=
  Text.lower_plain.apply_eq_iff (by decide)

theorem lower_eq_bearer_iff {t : Text} : Text.lower t = text "bearer" ↔ Text.IsCaseVariant (text "bearer") t :=
  Text.lower_plain.apply_eq_iff (by decide)

theorem claim_role_eq_operator_iff {t : Text} :
    Claim.role standardOperator (some (.text t)) = .operator ↔ Text.IsCaseVariant (text "operator") t := by
  have folded : Text.fold standardOperator = text "operator" := by decide +kernel
  rw [Claim.role_some_eq_operator_iff, Claim.elevates_text_iff, folded, fold_eq_operator_iff]

theorem role_named_eq_operator_iff {t : Text} :
    roleNamed t = .operator ↔ Text.IsCaseVariant (text "operator") (Text.trim t) := by
  rw [← lower_eq_operator_iff]
  have named : Role.operator.name = text "operator" := rfl
  simp [roleNamed, named]

theorem header_role_of_text {request : Request} {t : Text} (given : request.headers.get roleHeaderName = .ok (.text t)) :
    headerRole request = .ok (roleNamed t) := by
  rw [headerRole, given]
  cases t with
  | nil => rfl
  | cons c t => rfl

theorem token_after_scheme_iff {scheme value : Text} (spaceless : 32 ∉ scheme) (visible : Text.isBlankText value = false) :
    (∃ token, Bearer.token (.text (scheme ++ 32 :: value)) = .ok (some token)) ↔
      Text.IsCaseVariant (text "bearer") scheme := by
  rw [← lower_eq_bearer_iff]
  constructor
  · rintro ⟨token, carries⟩
    obtain ⟨name, rest, whole, first, bearer, _⟩ := Bearer.token_eq_some_iff.mp carries
    have cut := (Text.cut_eq_some_iff 32 _ scheme value).mpr ⟨rfl, spaceless⟩
    have again := (Text.cut_eq_some_iff 32 _ name rest).mpr ⟨Value.text.inj whole, first⟩
    rw [cut] at again
    cases again
    exact bearer
  · intro bearer
    have remains : Text.trim value ≠ [] := by
      rw [ne_eq, Text.trim_eq_nil_iff, visible]
      exact Bool.false_ne_true
    exact ⟨Text.trim value, Bearer.token_eq_some_iff.mpr ⟨scheme, value, rfl, spaceless, bearer, rfl, remains⟩⟩

/-- A claim is taken for the operator value, and a header for the operator role, exactly when the text of the claim, or that of the
header without the blanks around it, is the word `operator` in any mixture of ASCII cases; and a token is taken from behind a
name and a space exactly when the name is the word `bearer` in any such mixture. So claim and header agree on every text without
blanks around it. -/
theorem words_known_by_ascii_letters (t : Text) :
    (Claim.role standardOperator (some (.text t)) = .operator ↔ Text.IsCaseVariant (text "operator") t) ∧
      (∀ request : Request, request.headers.get roleHeaderName = .ok (.text t) →
        (headerRole request = .ok .operator ↔ Text.IsCaseVariant (text "operator") (Text.trim t)) ∧
          (Text.trim t = t → headerRole request = .ok (Claim.role standardOperator (some (.text t))))) ∧
      (32 ∉ t → ∀ value, Text.isBlankText value = false →
        ((∃ token, Bearer.token (.text (t ++ 32 :: value)) = .ok (some token)) ↔
          Text.IsCaseVariant (text "bearer") t)) := by
  refine ⟨claim_role_eq_operator_iff, ?_, ?_⟩
  · intro request given
    rw [header_role_of_text given]
    constructor
    · rw [Except.ok.injEq, role_named_eq_operator_iff]
    · intro bare
      apply congrArg
      apply Claim.role_eq_of_operator_iff
      rw [role_named_eq_operator_iff, claim_role_eq_operator_iff, bare]
  · intro spaceless value visible
    exact token_after_scheme_iff spaceless visible

/-- Capitals and small letters mixed are known as both words. -/
theorem mixed_letters_known :
    let request : Request := .bare (.plain (.object [(text "X-User-Role", .ofText "OPERAtor")])) []
    request.headers.get roleHeaderName = .ok (.text (text "OPERAtor")) ∧
      Text.trim (text "OPERAtor") = text "OPERAtor" ∧
      headerRole request = .ok .operator ∧
      headerRole request = .ok (Claim.role standardOperator (some (.ofText "OPERAtor"))) ∧
      32 ∉ text "bEARER" ∧ Text.isBlankText (text " \u00e9") = false ∧
      ∃ token, Bearer.token (.text (text "bEARER" ++ 32 :: text " \u00e9")) = .ok (some token) := by
  intro request
  have given : request.headers.get roleHeaderName = .ok (.text (text "OPERAtor")) := rfl
  have bare : Text.trim (text "OPERAtor") = text "OPERAtor" := by decide +kernel
  have spaceless : 32 ∉ text "bEARER" := by decide
  have visible : Text.isBlankText (text " \u00e9") = false := by decide +kernel
  obtain ⟨_, headers, _⟩ := words_known_by_ascii_letters (text "OPERAtor")
  obtain ⟨named, agree⟩ := headers request given
  obtain ⟨_, _, schemes⟩ := words_known_by_ascii_letters (text "bEARER")
  exact ⟨given, bare, named.mpr (by decide +kernel), agree bare, spaceless, visible,
    (schemes spaceless _ visible).mpr (by decide)⟩

end BearerRole
