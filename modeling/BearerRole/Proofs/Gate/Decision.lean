import BearerRole.Proofs.Gate.Denial
import BearerRole.Proofs.Gate.Route

/-!
The decision about a request. One extractor decides: the one given to the step that notes the role last, or else the one
that the app holds. Its answer to this request is the role that endpoints show and that their checks enforce, and
neither earlier nor later requests change what the request gets.
-/

namespace BearerRole.Gate

set_option autoImplicit false

def App.decider (app : App) : Option Extractor :=
  (app.middlewares.getLast?.bind (explicitOf ·.given)).or app.held

theorem decider_install {host : Host} {given : Option Handed} {settings : Option Settings.RoleSettings}
    {app : App} {handed : Handed} (bare : app.middlewares = [])
    (installed : (installedExtractor host given settings).value = .ok handed) :
    (install host given settings app).2.decider = some handed.extractor := by
  obtain ⟨extractor, isTrue⟩ := handed
  simp only [install, installed, App.wire]
  split
  · simp only [App.decider, bare]
    rfl
  · rw [bare]
    cases isTrue <;> rfl

/-- Starting gives an app a new extractor to hold, which decides unless a step before routing has its own. -/
theorem decider_start_up {host : Host} {app : App} {extractor : TokenExtractor}
    (built : (host.newExtractor none).value = .ok extractor) :
    (startUp host app).2.decider =
      (app.middlewares.getLast?.bind (explicitOf ·.given)).or (some (.token extractor)) := by
  simp only [startUp, built]
  rfl

namespace App

/-- The request as it is when the extractor that decides is asked. -/
def seen (app : App) (request : HttpRequest) : Request :=
  if app.middlewares.isEmpty then request.routed else request.toRequest

/-- The extractor that decides answers the request with the operator role itself, and does not fail. -/
def Elevates (app : App) (request : HttpRequest) : Prop := Approves app.decider (app.seen request) request.now

theorem role_for_eq_operator_iff (app : App) (request : HttpRequest) :
    (app.roleFor request : Logged Role).value = .operator ↔ app.Elevates request := by
  rcases List.eq_nil_or_concat app.middlewares with none | ⟨earlier, last, steps⟩
  · rw [role_for_unnoted request none, chosen_role_eq_operator_iff, Elevates, decider, seen, none]
    rfl
  · rw [List.concat_eq_append] at steps
    have before : app.seen request = request.toRequest := by simp [seen, steps]
    rw [role_for_last request steps, value_bind, chosen_role_eq_operator_iff, Elevates, decider, before, steps,
      List.getLast?_concat]
    rfl

end App

def sourcesBody (role : Role) : Text := text "\x7b\"role\":\"" ++ role.name ++ text "\"\x7d"

def itemBody (name : Text) (role : Role) : Text :=
  text "\x7b\"name\":" ++ Json.quote false name ++ text ",\"role\":\"" ++ role.name ++ text "\"\x7d"

theorem written_sources (role : Role) :
    Json.write .body (.object [(text "role", .text role.name)]) = sourcesBody role := by
  cases role <;> decide +kernel

theorem sources_answer (role : Role) :
    Response.ofRoute .sources (some role) = ⟨200, text "application/json", sourcesBody role, none⟩ := by
  apply json_of_written (written_sources role)
  cases role <;> decide +kernel

theorem refresh_answer (role : Option Role) : (Response.ofRoute .refresh role).status = 200 := by
  show (Response.ok [(text "status", .ofText "refreshing")]).status = 200
  decide +kernel

theorem viewer_answer (role : Option Role) : (Response.ofRoute .viewer role).status = 200 := by
  show (Response.ok [(text "status", .ofText "ok")]).status = 200
  decide +kernel

theorem written_item (name : Text) (role : Role) :
    Json.write .body (.object [(text "name", .text name), (text "role", .text role.name)]) = itemBody name role := by
  rw [itemBody]
  simp only [Json.write, Json.writeFields, Json.join_cons_cons, Json.join_singleton, List.append_assoc]
  cases role <;> rfl

theorem item_answer {name : Text} (role : Role) (whole : Text.isWellFormed name = true) :
    Response.ofRoute (.item name) (some role) = ⟨200, text "application/json", itemBody name role, none⟩ := by
  have quoted := Json.well_formed_quote false whole
  apply json_of_written (written_item name role)
  simp only [itemBody, Utf8.well_formed_append, quoted, Bool.and_true]
  cases role <;> decide +kernel

theorem name_well_formed {method path name : Text} (decoded : Text.isWellFormed path = true)
    (reaches : Reaches method path (.item name)) : Text.isWellFormed name = true := by
  rw [reaches.2.1, Utf8.well_formed_append, Bool.and_eq_true] at decoded
  exact decoded.2

/-- The endpoint lets operators pass, and denies all others. -/
def IsGated (role : Role) (response : Response) : Prop :=
  (response.status = 200 ↔ role = .operator) ∧ (response.status = 403 ↔ role ≠ .operator)

structure Enforces (role : Role) (request : HttpRequest) (response : Response) : Prop where
  sources : Reaches request.method request.path .sources →
    response = ⟨200, text "application/json", sourcesBody role, none⟩
  viewer : Reaches request.method request.path .viewer → response.status = 200
  refresh : Reaches request.method request.path .refresh → IsGated role response
  item : ∀ name, Reaches request.method request.path (.item name) →
    IsGated role response ∧
      (response.status = 200 → response = ⟨200, text "application/json", itemBody name .operator, none⟩)

theorem gated_of_operator {response : Response} (passed : response.status = 200) : IsGated .operator response := by
  simp [IsGated, passed]

theorem gated_of_viewer {response : Response} (denied : response.status = 403) : IsGated .viewer response := by
  simp [IsGated, denied]

namespace App

variable {app : App} {request : HttpRequest} {route : Route}

theorem handle_admitted {role : Role} {shared : Option Role}
    (reaches : Reaches request.method request.path route)
    (role_for : (app.roleFor request : Logged Role).value = role)
    (admitted : admission role route.dependencies = .ok shared) :
    (app.handle request : Logged Response).value = Response.ofRoute route shared := by
  rw [handle_endpoint app request (target_eq_endpoint_iff.mpr reaches), value_bind, role_for, admitted]
  rfl

theorem handle_refused {role required : Role} (handles : app.handlesDenials = true)
    (decoded : Text.isWellFormed request.path = true)
    (reaches : Reaches request.method request.path route)
    (role_for : (app.roleFor request : Logged Role).value = role)
    (refused : admission role route.dependencies = .error required) :
    (app.handle request : Logged Response).value.status = 403 := by
  rw [handle_endpoint app request (target_eq_endpoint_iff.mpr reaches), value_bind, role_for, refused]
  simp only [respond, deny, handles, if_true, value_bind, value_pure, denied_of_decoded decoded]

theorem handle_enforces (handles : app.handlesDenials = true) (decoded : Text.isWellFormed request.path = true) :
    Enforces (app.roleFor request : Logged Role).value request (app.handle request : Logged Response).value := by
  generalize role_for : (app.roleFor request : Logged Role).value = role
  constructor
  · intro reaches
    rw [handle_admitted reaches role_for rfl, sources_answer]
  · intro reaches
    rw [handle_admitted reaches role_for rfl, viewer_answer]
  · intro reaches
    cases role with
    | viewer => exact gated_of_viewer (handle_refused handles decoded reaches role_for rfl)
    | operator =>
        rw [handle_admitted reaches role_for rfl]
        exact gated_of_operator (refresh_answer _)
  · intro name reaches
    have whole := name_well_formed decoded reaches
    cases role with
    | viewer =>
        have denied := handle_refused handles decoded reaches role_for rfl
        refine ⟨gated_of_viewer denied, ?_⟩
        intro passed
        rw [denied] at passed
        contradiction
    | operator =>
        rw [handle_admitted reaches role_for rfl, item_answer .operator whole]
        exact ⟨gated_of_operator rfl, fun _ => rfl⟩

/-- Requests before and after one are answered as if it were not there, whatever effects an extractor has. -/
theorem serve_around {m : Type → Type} [Effects m] [LawfulMonad m] (app : App) (request : HttpRequest)
    (before after : List HttpRequest) :
    (app.serve (before ++ request :: after) : m _) = (do
      let earlier ← app.serve before
      let response ← app.handle request
      let later ← app.serve after
      pure (earlier ++ response :: later)) := by
  simp only [serve, List.mapM_append, List.mapM_cons, bind_assoc, pure_bind]

end App

/-- What an app that handles denials does about a request anywhere in a sequence: the role is that of an operator exactly
when the extractor that decides says so of this request, the endpoint that shows a role shows this one, those with a check
enforce it, and what comes before and after changes nothing. A path as it is received has been decoded from UTF-8. -/
theorem decision_exact {app : App} (handles : app.handlesDenials = true) {request : HttpRequest}
    (decoded : Text.isWellFormed request.path = true) {role : Role}
    (decides : role = .operator ↔ app.Elevates request) (before after : List HttpRequest) :
    Enforces role request (app.handle request : Logged Response).value ∧
      (app.serve (before ++ request :: after) : Logged _).value =
        (app.serve before : Logged _).value ++
          (app.handle request : Logged Response).value :: (app.serve after : Logged _).value := by
  have elevated := app.role_for_eq_operator_iff request
  have role_for : (app.roleFor request : Logged Role).value = role := by
    cases role with
    | operator => exact elevated.mpr (decides.mp rfl)
    | viewer =>
        cases given : (app.roleFor request : Logged Role).value with
        | viewer => rfl
        | operator => exact (decides.mpr (elevated.mp given)).symm
  constructor
  · rw [← role_for]
    exact App.handle_enforces handles decoded
  · rw [App.serve_around]
    rfl

/-- A gate with an extractor of its own passes the one request that names the operator, between two that do not, though the
app holds an extractor that fails. -/
theorem header_role_enforced :
    let app : App :=
      ⟨some (.hook fun _ => .error (.foreign (text "RuntimeError"))), [⟨some ⟨.header, true⟩⟩], true, false⟩
    let bare : HttpRequest := ⟨text "PUT", text "/items/caf\u00e9", [], [], 0⟩
    let named : HttpRequest :=
      ⟨text "PUT", text "/items/caf\u00e9", [], [(text "x-user-role", text " Operator ")], 0⟩
    app.Elevates named ∧ ¬app.Elevates bare ∧
      (app.handle named : Logged Response).value =
        ⟨200, text "application/json", itemBody (text "caf\u00e9") .operator, none⟩ ∧
      (app.serve [bare, named, bare] : Logged _).value.map Response.status = [403, 200, 403] := by
  intro app bare named
  have passes : app.Elevates named := (app.role_for_eq_operator_iff named).mp (by decide +kernel)
  have fails : ¬app.Elevates bare := by
    rw [← app.role_for_eq_operator_iff bare]
    decide +kernel
  have reaches : Reaches (text "PUT") (text "/items/caf\u00e9") (.item (text "caf\u00e9")) :=
    ⟨rfl, by decide +kernel, by decide +kernel, by decide +kernel⟩
  have decoded : Text.isWellFormed (text "/items/caf\u00e9") = true := by decide +kernel
  obtain ⟨changes, sequence⟩ := @decision_exact app rfl named decoded .operator (by simp [passes]) [bare] [bare]
  obtain ⟨refuses, _⟩ := @decision_exact app rfl bare decoded .viewer (by simp [fails]) [] []
  have passed := (changes.item _ reaches).1.1.mpr rfl
  have denied := (refuses.item _ reaches).1.2.mpr (by decide)
  have alone : (app.serve [bare] : Logged _).value = [(app.handle bare : Logged Response).value] := by
    simp [App.serve]
  refine ⟨passes, fails, (changes.item _ reaches).2 passed, ?_⟩
  rw [← List.singleton_append, sequence, alone]
  simp only [List.map_cons, List.map_nil, passed, denied, List.singleton_append]

end BearerRole.Gate
