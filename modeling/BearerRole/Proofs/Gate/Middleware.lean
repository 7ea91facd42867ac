import BearerRole.Proofs.Gate.Answer

/-!
Noting the role before routing. An app that notes each request's role with the extractor it holds asks this one before it is
known which endpoint is meant; one that leaves the role to its endpoints asks it after that. The two are the same program for an
extractor that does not go by what routing adds, whatever effects it has, and each runs the extractor once for a request.
-/

namespace BearerRole.Gate

set_option autoImplicit false

/-- Effects that also keep which extractors were run, in their order. -/
abbrev Traced (m : Type → Type) : Type → Type := StateT (List Extractor) m

section

variable {m : Type → Type} [Effects m]

instance : Effects (Traced m) where
  run extractor request now := do
    modify (· ++ [extractor])
    StateT.lift (Effects.run extractor request now)
  record entry := StateT.lift (Effects.record entry)

namespace App

def noting (app : App) : App := { app with middlewares := [⟨none⟩] }

def asking (app : App) : App := { app with middlewares := [] }

variable [LawfulMonad m] (app : App) (request : HttpRequest)

theorem role_for_noting :
    (app.noting.roleFor request : m Role) = chosenRole none app.held request.toRequest request.now := by
  have single : app.noting.middlewares = [] ++ [⟨none⟩] := rfl
  rw [role_for_last request single]
  exact pure_bind _ _

theorem role_for_asking :
    (app.asking.roleFor request : m Role) = chosenRole none app.held request.routed request.now :=
  role_for_unnoted request rfl

end App

/-- The run of the extractor does not depend on what routing adds to the request. -/
def IsBlind (m : Type → Type) [Effects m] (extractor : Extractor) (request : HttpRequest) : Prop :=
  (Effects.run extractor request.toRequest request.now : m _) = Effects.run extractor request.routed request.now

theorem chosen_role_of_blind {held : Option Extractor} {request : HttpRequest}
    (blind : ∀ extractor, held = some extractor → IsBlind m extractor request) :
    (chosenRole none held request.toRequest request.now : m Role) =
      chosenRole none held request.routed request.now := by
  cases held with
  | none => rfl
  | some extractor =>
      have sameRun : (Effects.run extractor request.toRequest request.now : m _) = _ := blind extractor rfl
      simp only [chosen_role_of_held, runExtractor, sameRun]
      rfl

/-- The extractors of this library go by the headers alone. -/
theorem token_is_blind (extractor : TokenExtractor) (request : HttpRequest) :
    IsBlind Logged (.token extractor) request := rfl

theorem header_is_blind (request : HttpRequest) : IsBlind Logged .header request := rfl

@[simp]
theorem traced_record (entry : LogRecord) :
    (Effects.record entry : Traced m Unit) = StateT.lift (Effects.record entry) := rfl

variable [LawfulMonad m]

@[simp]
theorem traced_run (extractor : Extractor) (request : Request) (now : Token.Instant) (asked : List Extractor) :
    (Effects.run extractor request now : Traced m (Except Fault Value)).run asked =
      (fun answer => (answer, asked ++ [extractor])) <$> (Effects.run extractor request now : m _) := by
  simp [Effects.run]

theorem traced_settle (path : Text) (answer : Except Fault Value) :
    (settleAnswer path answer : Traced m Role) = StateT.lift (settleAnswer path answer) := by
  apply StateT.ext
  intro asked
  cases answer <;> simp [settleAnswer]

/-- Choosing a role runs the extractor that is held, if there is one, and runs it once. -/
theorem traced_chosen_role (held : Option Extractor) (request : Request) (now : Token.Instant)
    (asked : List Extractor) :
    (chosenRole none held request now : Traced m Role).run asked =
      (fun role => (role, asked ++ held.toList)) <$> (chosenRole none held request now : m Role) := by
  cases held with
  | none => simp
  | some extractor => simp [runExtractor, traced_settle]

namespace App

variable (app : App) (request : HttpRequest)

theorem traced_respond (route : Route) (met : Except Role (Option Role)) :
    (app.respond request route met : Traced m Response) = StateT.lift (app.respond request route met) := by
  apply StateT.ext
  intro asked
  cases met with
  | ok role => simp [respond]
  | error required =>
      simp only [respond, deny]
      split <;> simp

/-- An app that chooses the role of a request once runs the extractor it holds once, and does nothing that depends on
the trace. -/
theorem traced_handle {request : HttpRequest} {route : Route} {seen : Request}
    (target : Target.of request.method request.path = .endpoint route)
    (plain : (app.roleFor request : m Role) = chosenRole none app.held seen request.now)
    (traced : (app.roleFor request : Traced m Role) = chosenRole none app.held seen request.now)
    (asked : List Extractor) :
    (app.handle request : Traced m Response).run asked =
      (fun response => (response, asked ++ app.held.toList)) <$> (app.handle request : m Response) := by
  rw [handle_endpoint app request target, handle_endpoint app request target, plain, traced, StateT.run_bind,
    traced_chosen_role, bind_map_left, map_bind]
  apply bind_congr
  intro role
  rw [traced_respond, StateT.run_lift, map_eq_pure_bind]

/-- On every endpoint the app that notes the role and the app that asks for it are one program, unless they hold an extractor
that goes by what routing adds to the request: with any effects of the extractor they give the same response and leave the same
records. Each runs the extractor it holds, if any, exactly once, also one that goes by the routing; those of this library
do not. -/
theorem middleware_agrees {request : HttpRequest} {route : Route}
    (target : Target.of request.method request.path = .endpoint route) :
    ((∀ extractor, app.held = some extractor → IsBlind m extractor request) →
        (app.noting.handle request : m Response) = app.asking.handle request) ∧
      (app.noting.handle request : Traced m Response).run [] =
        (fun response => (response, app.held.toList)) <$> (app.noting.handle request : m Response) ∧
      (app.asking.handle request : Traced m Response).run [] =
        (fun response => (response, app.held.toList)) <$> (app.asking.handle request : m Response) ∧
      (∀ token, IsBlind Logged (.token token) request) ∧ IsBlind Logged .header request := by
  refine ⟨?_, ?_, ?_, fun token => token_is_blind token request, header_is_blind request⟩
  · intro blind
    rw [handle_endpoint app.noting request target, handle_endpoint app.asking request target, role_for_noting,
      role_for_asking, chosen_role_of_blind blind]
    rfl
  · exact traced_handle app.noting target (role_for_noting app request) (role_for_noting app request) []
  · exact traced_handle app.asking target (role_for_asking app request) (role_for_asking app request) []

/-- A hook that fails is run once either way when an item is changed, and leaves the same two records. -/
theorem failing_hook_agrees :
    let app : App := ⟨some (.hook fun _ => .error (.foreign (text "RuntimeError"))), [], true, false⟩
    let request : HttpRequest := ⟨text "PUT", text "/items/a", [], [], 0⟩
    Target.of request.method request.path = .endpoint (.item (text "a")) ∧
      (app.noting.handle request : Logged Response) = app.asking.handle request ∧
      ((app.noting.handle request : Traced Logged Response).run []).value.2 = app.held.toList ∧
      ((app.asking.handle request : Traced Logged Response).run []).value.2 = app.held.toList ∧
      (app.asking.handle request : Logged Response).records.length = 2 := by
  intro app request
  have target : Target.of request.method request.path = .endpoint (.item (text "a")) := by decide +kernel
  have blind : ∀ extractor, app.held = some extractor → IsBlind Logged extractor request := by
    intro extractor held
    cases held
    rfl
  obtain ⟨agree, noting, asking, _⟩ := middleware_agrees (m := Logged) app target
  refine ⟨target, agree blind, ?_, ?_, by decide +kernel⟩
  · rw [noting]
    rfl
  · rw [asking]
    rfl

/-- A hook of the host that takes every caller for an operator who asks for an endpoint with a name in its path. -/
def namedEndpointHook : Extractor :=
  .hook fun request => .ok (.role (if request.routing.any (!·.parameters.isEmpty) then .operator else .viewer))

/-- A hook that goes by the name in the path knows of none before routing: the app that notes the role denies a change of an
item that the other one makes. -/
theorem named_endpoint_told_apart :
    let app : App := ⟨some namedEndpointHook, [], true, false⟩
    let request : HttpRequest := ⟨text "PUT", text "/items/a", [], [], 0⟩
    Target.of request.method request.path = .endpoint (.item (text "a")) ∧
      (app.noting.handle request : Logged Response).value.status = 403 ∧
      (app.asking.handle request : Logged Response).value.status = 200 ∧
      (app.noting.handle request : Logged Response) ≠ app.asking.handle request := by
  intro app request
  have denied : (app.noting.handle request : Logged Response).value.status = 403 := by decide +kernel
  have passed : (app.asking.handle request : Logged Response).value.status = 200 := by decide +kernel
  refine ⟨by decide +kernel, denied, passed, ?_⟩
  intro same
  rw [same, passed] at denied
  contradiction

end App

end

end BearerRole.Gate
