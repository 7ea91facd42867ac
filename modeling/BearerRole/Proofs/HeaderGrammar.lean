import BearerRole.Proofs.Derivation
import BearerRole.Proofs.Text.Trimming

/-!
The grammar of a header with a token: a scheme without a space in it, one space, and the token with blanks around it. Reading takes
exactly these headers and gives the token of each, so a token that is wrapped up again reads as itself.
-/

namespace BearerRole.Bearer

set_option autoImplicit false

/-- Only the first space ends the scheme; those of the token itself stay. -/
inductive Carries : Text → Text → Prop
  | header (name before token after : Text) (spaceless : 32 ∉ name) (known : Text.lower name = scheme)
      (start : Text.isBlankText before = true) (finish : Text.isBlankText after = true) (nonempty : token ≠ [])
      (bare : Text.IsBare token) : Carries (name ++ 32 :: (before ++ token ++ after)) token

theorem token_eq_some_iff_carries {header token : Text} :
    Bearer.token (.text header) = .ok (some token) ↔ Carries header token := by
  rw [token_of_text, Except.ok.injEq, token_text_eq_some_iff]
  constructor
  · rintro ⟨name, value, rfl, spaceless, known, trimmed, nonempty⟩
    obtain ⟨bare, before, after, start, finish, rfl⟩ := Text.trim_eq_iff.mp trimmed
    exact .header name before token after spaceless known start finish nonempty bare
  · rintro ⟨name, before, _, after, spaceless, known, start, finish, nonempty, bare⟩
    have trimmed := Text.trim_eq_iff.mpr ⟨bare, before, after, start, finish, rfl⟩
    exact ⟨name, before ++ token ++ after, rfl, spaceless, known, trimmed, nonempty⟩

theorem token_eq_none {header : Text} (carriesNone : ∀ token, ¬Carries header token) :
    Bearer.token (.text header) = .ok none := by
  rw [token_of_text]
  cases found : token? header with
  | none => rfl
  | some token =>
      have carries := token_eq_some_iff_carries.mp ((token_of_text header).trans (congrArg Except.ok found))
      exact absurd carries (carriesNone token)

theorem carries_wrap {token : Text} (nonempty : token ≠ []) (bare : Text.IsBare token) : Carries (wrap token) token := by
  have known : Text.lower (text "Bearer") = scheme := by decide +kernel
  have whole := Carries.header (text "Bearer") [] token [] (by decide) known rfl rfl nonempty bare
  rw [List.nil_append, List.append_nil] at whole
  exact whole

theorem Carries.token_bare {header token : Text} (carries : Carries header token) : token ≠ [] ∧ Text.IsBare token := by
  cases carries with
  | header name before token after spaceless known start finish nonempty bare => exact ⟨nonempty, bare⟩

theorem Carries.space_mem {header token : Text} (carries : Carries header token) : 32 ∈ header := by
  cases carries with
  | header name before token after => exact List.mem_append_right name List.mem_cons_self

theorem token_of_cut {name : Text} (spaceless : 32 ∉ name) (value : Text) :
    Bearer.token (.text (name ++ 32 :: value)) =
      .ok (if Text.lower name = scheme then
        if (Text.trim value).isEmpty then none else some (Text.trim value) else none) := by
  rw [token_of_text, token?, (Text.cut_eq_some_iff 32 _ name value).mpr ⟨rfl, spaceless⟩]

/-- A header carries what the grammar says and nothing else, without failing. A token in its own trimmed form comes back from its
wrapped form, as what was read does, and blanks around the value make no difference. -/
theorem read_by_grammar (header : Text) :
    (∀ token, Bearer.token (.text header) = .ok (some token) ↔ Carries header token) ∧
      ((∀ token, ¬Carries header token) → Bearer.token (.text header) = .ok none) ∧
      (∀ token, token ≠ [] → Text.IsBare token → Bearer.token (.text (wrap token)) = .ok (some token)) ∧
      (∀ token, Bearer.token (.text header) = .ok (some token) → Bearer.token (.text (wrap token)) = .ok (some token)) ∧
      ∀ name value before after, header = name ++ 32 :: value → 32 ∉ name → Text.isBlankText before = true →
        Text.isBlankText after = true →
          Bearer.token (.text (name ++ 32 :: (before ++ value ++ after))) = Bearer.token (.text header) := by
  refine ⟨fun token => token_eq_some_iff_carries, token_eq_none, ?_, ?_, ?_⟩
  · intro token nonempty bare
    exact token_eq_some_iff_carries.mpr (carries_wrap nonempty bare)
  · intro token found
    obtain ⟨nonempty, bare⟩ := (token_eq_some_iff_carries.mp found).token_bare
    exact token_eq_some_iff_carries.mpr (carries_wrap nonempty bare)
  · rintro name value before after rfl spaceless start finish
    rw [token_of_cut spaceless, token_of_cut spaceless, Text.trim_padded start finish]

/-- A scheme in mixed case, wide blanks around the token, and one inside it that stays. -/
theorem spaced_token_read :
    let header := text "bEARER \u3000a b\u2028"
    let token := text "a b"
    Text.isBlankText [0x3000] = true ∧ Text.isBlankText (text "\t\n") = true ∧ 32 ∉ text "bEARER" ∧
      Bearer.token (.text header) = .ok (some token) ∧ Bearer.token (.text (wrap token)) = .ok (some token) ∧
      Bearer.token (.text (text "bEARER" ++ 32 :: ([0x3000] ++ text "\u3000a b\u2028" ++ text "\t\n"))) =
        Bearer.token (.text header) ∧
      Bearer.token (.text (text "Bearer\ta")) = .ok none := by
  intro header token
  have wide : Text.isBlankText [0x3000] = true := rfl
  have narrow : Text.isBlankText (text "\t\n") = true := by decide +kernel
  have spaceless : 32 ∉ text "bEARER" := by decide
  have bare : Text.IsBare token := ⟨by decide, by decide⟩
  obtain ⟨exactly, _, wrapped, _, padded⟩ := read_by_grammar header
  obtain ⟨_, other, _⟩ := read_by_grammar (text "Bearer\ta")
  have carries : Carries header token :=
    .header (text "bEARER") [0x3000] token [0x2028] spaceless (by decide +kernel) wide rfl (by decide) bare
  have carriesNone : ∀ t, ¬Carries (text "Bearer\ta") t := by
    intro t carries
    exact absurd carries.space_mem (by decide)
  exact ⟨wide, narrow, spaceless, (exactly token).mpr carries, wrapped token (by decide) bare,
    padded (text "bEARER") (text "\u3000a b\u2028") _ _ rfl spaceless wide narrow, other carriesNone⟩

end BearerRole.Bearer
