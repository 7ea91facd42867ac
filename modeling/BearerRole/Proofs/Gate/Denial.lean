import BearerRole.Gate.Requirement
import BearerRole.Proofs.Gate.Answer
import BearerRole.Proofs.Json.Encoded

/-!
What a caller learns from a denial. A request is denied when a check among the dependencies of its endpoint fails on its
role. The response then says nothing but the path that was asked for: two denials of one path are the same, whatever
made the callers viewers.
-/

namespace BearerRole.Gate

set_option autoImplicit false

@[simp]
theorem grants_value_role (user required : Role) :
    grantsValue (.role user) (.role required) = grants user required := by
  cases required <;> rfl

theorem require_of_grants {user required : Role} (granted : grants user required = true) :
    require (.role required) (.role user) = .ok () := by
  rw [require, grants_value_role, if_pos granted]

theorem admission_error {role required : Role} {dependencies : List Dependency}
    (checked : .check required ∈ dependencies) (denied : grants role required = false) :
    ∃ stopper, admission role dependencies = .error stopper := by
  induction dependencies with
  | nil => contradiction
  | cons first rest ih =>
      cases first with
      | role =>
          rcases List.mem_cons.mp checked with same | later
          · cases same
          · exact ih later
      | check other =>
          by_cases granted : grants role other = true
          · rcases List.mem_cons.mp checked with same | later
            · cases same
              rw [denied] at granted
              contradiction
            · rw [admission, if_pos granted]
              exact ih later
          · exact ⟨other, by rw [admission, if_neg granted]⟩

/-- A check among the dependencies of the endpoint that is asked for refuses the role that the app gives the request. -/
def App.Denies (app : App) (request : HttpRequest) : Prop :=
  ∃ route required, Target.of request.method request.path = .endpoint route ∧
    .check required ∈ route.dependencies ∧
    require (.role required) (.role (app.roleFor request : Logged Role).value) =
      .error (.gate (GateError.accessDenied required))

theorem denied_response {app : App} {request : HttpRequest} (handles : app.handlesDenials = true)
    (denies : app.Denies request) :
    (app.handle request : Logged Response).value = Response.denied (shownPath request.path) := by
  obtain ⟨route, required, target, checked, refused⟩ := denies
  have denied : grants (app.roleFor request : Logged Role).value required = false := by
    by_contra granted
    rw [require_of_grants (Bool.of_not_eq_false granted)] at refused
    cases refused
  obtain ⟨stopper, stopped⟩ := admission_error checked denied
  rw [App.handle_endpoint app request target, value_bind, stopped]
  simp only [App.respond, App.deny, handles, if_true, value_bind, value_pure]

theorem mem_shown_mark {c d : CodePoint} (member : d ∈ shownMark c) : d < 128 ∨ d = c := by
  unfold shownMark at member
  split_ifs at member with question hash backslash dropped
  · exact Or.inl ((by decide : ∀ d ∈ text "%3F", d < 128) d member)
  · exact Or.inl ((by decide : ∀ d ∈ text "%23", d < 128) d member)
  · exact Or.inl ((by decide : ∀ d ∈ text "%5C", d < 128) d member)
  · contradiction
  · exact Or.inr (List.mem_singleton.mp member)

theorem shown_path_well_formed {path : Text} (decoded : Text.isWellFormed path = true) :
    Text.isWellFormed (shownPath path) = true := by
  have rooted : Text.isWellFormed (if path.head? = some 47 then path else 47 :: path) = true := by
    split
    · exact decoded
    · rw [Text.isWellFormed, List.all_cons]
      exact decoded
  exact Utf8.well_formed_flat_map rooted fun _ _ member => mem_shown_mark member

theorem json_of_written {status : Nat} {contentType : String} {fields : Fields} {body : Text}
    (written : Json.write .body (.object fields) = body) (sendable : Text.isWellFormed body = true) :
    Response.json status contentType fields = ⟨status, text contentType, body, none⟩ := by
  subst written
  exact if_pos sendable

def problem (path : Text) : Text :=
  text "\x7b\"type\":\"/errors/forbidden\",\"title\":\"Forbidden\",\"status\":403," ++
    text "\"detail\":\"insufficient permissions\",\"error_code\":\"AUTHORIZATION_DENIED\"," ++
    text "\"instance\":" ++ Json.quote false path ++ text "\x7d"

theorem written_problem (path : Text) :
    Json.write .body (.object
      [(text "type", .ofText "/errors/forbidden"), (text "title", .ofText "Forbidden"),
        (text "status", .int 403), (text "detail", .ofText "insufficient permissions"),
        (text "error_code", .text GateErrorKind.accessDenied.code), (text "instance", .text path)]) =
      problem path := by
  have status : Text.ofInt 403 = text "403" := by decide +kernel
  rw [problem]
  simp only [Json.write, Json.writeFields, Value.ofText, status, Json.join_cons_cons, Json.join_singleton,
    List.append_assoc]
  set_option maxRecDepth 4000 in
  rfl

theorem problem_well_formed {path : Text} (whole : Text.isWellFormed path = true) :
    Text.isWellFormed (problem path) = true := by
  have quoted := Json.well_formed_quote false whole
  simp only [problem, Utf8.well_formed_append, quoted, Bool.and_true]
  decide +kernel

theorem denied_of_decoded {path : Text} (decoded : Text.isWellFormed path = true) :
    Response.denied (shownPath path) = ⟨403, text "application/problem+json", problem (shownPath path), none⟩ := by
  have whole := problem_well_formed (shown_path_well_formed decoded)
  exact json_of_written (written_problem _) whole

/-- Two apps that handle denials answer alike when they deny requests for one path, whatever their extractors and
settings, and whatever else the requests hold: with status 403 and a body that depends on the path alone. A path as it is
received has been decoded from UTF-8 and so is well formed. -/
theorem denials_indistinguishable {app other : App} {request second : HttpRequest}
    (handles : app.handlesDenials = true) (otherHandles : other.handlesDenials = true)
    (samePath : request.path = second.path) (denied : app.Denies request) (otherDenied : other.Denies second) :
    (app.handle request : Logged Response).value = (other.handle second : Logged Response).value ∧
      (Text.isWellFormed request.path = true → (app.handle request : Logged Response).value =
        ⟨403, text "application/problem+json", problem (shownPath request.path), none⟩) := by
  have first := denied_response handles denied
  have again := denied_response otherHandles otherDenied
  constructor
  · rw [first, again, samePath]
  · intro decoded
    rw [first, denied_of_decoded decoded]

/-- An app whose reader rejects the token at one instant, and another whose hook fails at another instant without having
seen a token, deny a change of one item alike. -/
theorem rejected_token_and_failed_hook_denied_alike :
    let trusting : TokenExtractor := ⟨.trusting .none, .text standardPath, .text standardOperator⟩
    let installed : App := ⟨some (.token trusting), [⟨some ⟨.token trusting, true⟩⟩], true, false⟩
    let hooked : App := ⟨some (.hook fun _ => .error (.foreign (text "RuntimeError"))), [], true, false⟩
    let path := text "/items/caf\u00e9?"
    let bearer : HttpRequest :=
      ⟨text "PUT", path, [], [(text "authorization", text "Bearer garbage")], 1700000000⟩
    let bare : HttpRequest := ⟨text "PUT", path, [], [], 0⟩
    installed.Denies bearer ∧ hooked.Denies bare ∧
      (installed.handle bearer : Logged Response).value = (hooked.handle bare : Logged Response).value ∧
      (installed.handle bearer : Logged Response).value =
        ⟨403, text "application/problem+json", problem (text "/items/caf\u00e9%3F"), none⟩ := by
  intro trusting installed hooked path bearer bare
  have rejected : (installed.roleFor bearer : Logged Role).value = .viewer := by decide +kernel
  have failed : (hooked.roleFor bare : Logged Role).value = .viewer := by decide +kernel
  have target : Target.of (text "PUT") path = .endpoint (.item (text "caf\u00e9?")) := by decide +kernel
  have installedDenies : installed.Denies bearer := by
    refine ⟨_, .operator, target, by decide, ?_⟩
    rw [rejected]
    rfl
  have hookedDenies : hooked.Denies bare := by
    refine ⟨_, .operator, target, by decide, ?_⟩
    rw [failed]
    rfl
  have shown : shownPath path = text "/items/caf\u00e9%3F" := by decide +kernel
  have samePath : bearer.path = bare.path := rfl
  obtain ⟨alike, answer⟩ := denials_indistinguishable rfl rfl samePath installedDenies hookedDenies
  rw [← shown]
  exact ⟨installedDenies, hookedDenies, alike, answer (by decide +kernel)⟩

end BearerRole.Gate
