import BearerRole.Proofs.Gate.Middleware

/-!
Where the role of a request comes from. A role that was noted for the request counts as it is; otherwise one extractor is asked,
the one that was given outright before the one that is held. Whatever that extractor does comes to a role, to that of an operator
only if it answers with this role itself; and when it fails no other takes its place.
-/

namespace BearerRole.Gate

set_option autoImplicit false

/-- The role that the run of an extractor comes to, if one is run. An answer that is no role makes a viewer, and so does a fault,
which is recorded and goes no further. -/
inductive Settles (path : Text) : Option (Logged (Except Fault Value)) → Logged Role → Prop
  | unasked : Settles path none ⟨.viewer, [notConfiguredRecord path]⟩
  | role (r : Role) (records : List LogRecord) : Settles path (some ⟨.ok (.role r), records⟩) ⟨r, records⟩
  | other {answer : Value} (noRole : ∀ r, answer ≠ .role r) (records : List LogRecord) :
      Settles path (some ⟨.ok answer, records⟩) ⟨.viewer, records⟩
  | failed (fault : Fault) (records : List LogRecord) :
      Settles path (some ⟨.error fault, records⟩) ⟨.viewer, records ++ [failedRecord path fault]⟩

theorem settle_answer_settles (path : Text) (run : Logged (Except Fault Value)) :
    Settles path (some run) (run >>= settleAnswer path) := by
  obtain ⟨answer, records⟩ := run
  cases answer with
  | error fault => exact .failed fault records
  | ok answer =>
      have unrecorded : (Logged.mk (Except.ok answer) records >>= settleAnswer path : Logged Role) =
          ⟨roleOfAnswer answer, records⟩ := congrArg (Logged.mk _) (List.append_nil records)
      rw [unrecorded]
      cases answer with
      | role r => exact .role r records
      | _ => exact .other (fun r same => by cases same) records

theorem Settles.viewer_of_no_role {path : Text} {run : Logged (Except Fault Value)} {role : Logged Role}
    (settles : Settles path (some run) role) (noRole : ∀ r, run.value ≠ .ok (.role r)) : role.value = .viewer := by
  cases settles with
  | role r => exact absurd rfl (noRole r)
  | other => rfl
  | failed => rfl

variable (noted : Option Value) (given : Option Handed) (held : Option Extractor) (request : Request) (now : Token.Instant)

theorem chosen_role_settles :
    Settles request.path (((explicitOf given).or held).map fun asked => asked.run request now)
      (chosenRole given held request now) := by
  rw [chosen_role_or]
  cases (explicitOf given).or held with
  | none => exact .unasked
  | some asked => exact settle_answer_settles request.path (asked.run request now)

section

variable {m : Type → Type} [Effects m] {noted}

theorem effective_role_of_unnoted (unnoted : ∀ r, noted ≠ some (.role r)) :
    (effectiveRole noted held request now : m Role) = chosenRole none held request now := by
  unfold effectiveRole
  split
  · next r => exact absurd rfl (unnoted r)
  · rfl

end

theorem effective_role_eq_operator_iff :
    (effectiveRole noted held request now : Logged Role).value = .operator ↔
      noted = some (.role .operator) ∨ (∀ r, noted ≠ some (.role r)) ∧ Approves held request now := by
  by_cases role : ∃ r, noted = some (.role r)
  · obtain ⟨r, rfl⟩ := role
    have same : (effectiveRole (some (.role r)) held request now : Logged Role).value = r := rfl
    simp [same]
  · have unnoted : ∀ r, noted ≠ some (.role r) := fun r same => role ⟨r, same⟩
    rw [effective_role_of_unnoted held request now unnoted, chosen_role_eq_operator_iff]
    constructor
    · intro approves
      exact .inr ⟨unnoted, approves⟩
    · rintro (same | ⟨_, approves⟩)
      · exact absurd same (unnoted .operator)
      · exact approves

theorem traced_source {m : Type → Type} [Effects m] [LawfulMonad m] :
    (chosenRole given held request now : Traced m Role).run [] =
      (fun role => (role, ((explicitOf given).or held).toList)) <$> (chosenRole given held request now : m Role) := by
  rw [chosen_role_or, traced_chosen_role, ← chosen_role_or]
  rfl

/-- One source decides. The role is that of an operator exactly when the extractor that was given outright and counts as true, or else
the held one, answers with this role; where a role may be noted before, exactly when this role is noted, or no role is and the held extractor
answers with it. Every run of an extractor ends in a role, one that fails included. Of two extractors only the one given outright
is run, whatever effects a run has, so if it fails or answers with no role the caller is a viewer whatever the held one would
say. -/
theorem one_source_decides {m : Type → Type} [Effects m] [LawfulMonad m] :
    ((chosenRole given held request now : Logged Role).value = .operator ↔
        Approves ((explicitOf given).or held) request now) ∧
      ((effectiveRole noted held request now : Logged Role).value = .operator ↔
        noted = some (.role .operator) ∨ (∀ r, noted ≠ some (.role r)) ∧ Approves held request now) ∧
      Settles request.path (((explicitOf given).or held).map fun asked => asked.run request now)
        (chosenRole given held request now) ∧
      (∀ r, noted = some (.role r) → (effectiveRole noted held request now : m Role) = pure r) ∧
      ((∀ r, noted ≠ some (.role r)) →
        (effectiveRole noted held request now : m Role) = chosenRole none held request now) ∧
      (chosenRole given held request now : Traced m Role).run [] =
        (fun role => (role, ((explicitOf given).or held).toList)) <$> (chosenRole given held request now : m Role) ∧
      ∀ asked, given = some ⟨asked, true⟩ → (∀ r, (asked.run request now).value ≠ .ok (.role r)) →
        (chosenRole given held request now : Logged Role).value = .viewer := by
  refine ⟨chosen_role_eq_operator_iff, effective_role_eq_operator_iff noted held request now,
    chosen_role_settles given held request now, ?_, effective_role_of_unnoted held request now,
    traced_source given held request now, ?_⟩
  · rintro r rfl
    rfl
  · rintro asked rfl noRole
    exact (chosen_role_settles (some ⟨asked, true⟩) held request now).viewer_of_no_role noRole

/-- A given extractor that fails is not replaced by one that approves; the text `operator` is no noted role, and so the held
extractor is asked; and a noted viewer stays one. -/
theorem failing_source_not_replaced :
    let failing : Extractor := .hook fun _ => .error (.foreign (text "RuntimeError"))
    let approving : Extractor := .hook fun _ => .ok (.role .operator)
    let request : Request := .bare .absent (text "/")
    (chosenRole (some ⟨failing, true⟩) (some approving) request 0 : Logged Role).value = .viewer ∧
      ((chosenRole (some ⟨failing, true⟩) (some approving) request 0 : Traced Logged Role).run []).value.2.length = 1 ∧
      (effectiveRole (some (.ofText "operator")) (some approving) request 0 : Logged Role) =
        chosenRole none (some approving) request 0 ∧
      (effectiveRole (some (.ofText "operator")) (some approving) request 0 : Logged Role).value = .operator ∧
      (effectiveRole (some (.role .viewer)) (some approving) request 0 : Logged Role) = pure .viewer := by
  intro failing approving request
  have noRole : ∀ r, (failing.run request 0).value ≠ .ok (.role r) := by
    intro r same
    have failed : (failing.run request 0).value = .error (.foreign (text "RuntimeError")) := rfl
    rw [failed] at same
    cases same
  have unnoted : ∀ r, some (Value.ofText "operator") ≠ some (.role r) := by
    intro r same
    cases same
  obtain ⟨_, byText, _, _, passedOver, asks, unreplaced⟩ := one_source_decides (m := Logged) (some (.ofText "operator"))
    (some ⟨failing, true⟩) (some approving) request 0
  obtain ⟨_, _, _, byRole, _⟩ := one_source_decides (m := Logged) (some (.role .viewer)) (some ⟨failing, true⟩) (some approving) request 0
  refine ⟨unreplaced failing rfl noRole, ?_, passedOver unnoted, byText.mpr (.inr ⟨unnoted, approving, rfl, rfl⟩),
    byRole .viewer rfl⟩
  rw [asks]
  rfl

end BearerRole.Gate
