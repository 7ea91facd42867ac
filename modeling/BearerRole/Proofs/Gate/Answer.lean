import BearerRole.Gate.App

/-!
What answering a request for an endpoint comes to. Its role is asked for once, wherever that happens, and nothing after
that asks again: the endpoint's dependencies and its response follow from the role alone.
-/

namespace BearerRole.Gate

set_option autoImplicit false

instance : LawfulMonad Logged :=
  LawfulMonad.mk' Logged
    (fun x => congrArg (Logged.mk x.value) (List.append_nil x.records))
    (fun _ _ => rfl)
    (fun _ _ _ => congrArg (Logged.mk _) (List.append_assoc ..))

@[simp]
theorem value_pure {α : Type} (a : α) : (pure a : Logged α).value = a := rfl

@[simp]
theorem value_bind {α β : Type} (x : Logged α) (f : α → Logged β) : (x >>= f).value = (f x.value).value := rfl

@[simp]
theorem value_map {α β : Type} (f : α → β) (x : Logged α) : (f <$> x).value = f x.value := rfl

section

variable {m : Type → Type} [Effects m] (request : Request) (now : Token.Instant)

@[simp]
theorem chosen_role_of_none :
    (chosenRole none none request now : m Role) = (do
      Effects.record (notConfiguredRecord request.path)
      pure .viewer) := rfl

@[simp]
theorem chosen_role_of_held (extractor : Extractor) :
    (chosenRole none (some extractor) request now : m Role) = runExtractor extractor request now := rfl

end

theorem chosen_role_or {m : Type → Type} [Effects m] (given : Option Handed) (held : Option Extractor) (request : Request)
    (now : Token.Instant) :
    (chosenRole given held request now : m Role) = chosenRole none ((explicitOf given).or held) request now := by
  simp only [chosenRole]
  cases explicitOf given <;> cases held <;> rfl

theorem settle_answer_eq_operator_iff {path : Text} {answer : Except Fault Value} :
    (settleAnswer path answer : Logged Role).value = .operator ↔ answer = .ok (.role .operator) := by
  cases answer with
  | error fault => simp [settleAnswer]
  | ok answer => cases answer <;> simp [settleAnswer, roleOfAnswer]

/-- The extractor, if there is one, answers the request with the operator role itself, and does not fail. -/
def Approves (source : Option Extractor) (request : Request) (now : Token.Instant) : Prop :=
  ∃ asked, source = some asked ∧ (asked.run request now).value = .ok (.role .operator)

theorem chosen_role_eq_operator_iff {given : Option Handed} {held : Option Extractor} {request : Request}
    {now : Token.Instant} :
    (chosenRole given held request now : Logged Role).value = .operator ↔
      Approves ((explicitOf given).or held) request now := by
  rw [chosen_role_or]
  cases (explicitOf given).or held with
  | none => simp [Approves]
  | some extractor => simp [runExtractor, settle_answer_eq_operator_iff, Approves, Effects.run]

def admission (role : Role) : List Dependency → Except Role (Option Role)
  | [] => .ok (some role)
  | .role :: rest => admission role rest
  | .check required :: rest => if grants role required then admission role rest else .error required

namespace App

variable {m : Type → Type} [Effects m]

/-- The role that an app gives a request, whether it is noted before routing or asked for by an endpoint. -/
def roleFor (app : App) (request : HttpRequest) : m Role := do
  app.endpointRole (← app.noted request) request

section

variable [LawfulMonad m] (app : App) (noted : Option Role) (request : HttpRequest)

theorem role_for_unnoted {app : App} (none : app.middlewares = []) :
    (app.roleFor request : m Role) = chosenRole .none app.held request.routed request.now := by
  simp only [roleFor, App.noted, none, List.foldlM_nil, pure_bind]
  rfl

/-- Each step before routing writes over what the one before it noted, so the last one counts. -/
theorem role_for_last {app : App} {earlier : List Middleware} {last : Middleware}
    (steps : app.middlewares = earlier ++ [last]) :
    (app.roleFor request : m Role) = { app with middlewares := earlier }.noted request >>= fun _ =>
      chosenRole last.given app.held request.toRequest request.now := by
  simp only [roleFor, App.noted, steps, List.foldlM_append, List.foldlM_cons, List.foldlM_nil, bind_assoc, pure_bind]
  apply bind_congr
  intro _
  exact bind_pure _

theorem meet_shared (role : Role) (dependencies : List Dependency) :
    (app.meet noted request dependencies (some role) : m _) = pure (admission role dependencies) := by
  induction dependencies with
  | nil => rfl
  | cons first rest ih =>
      cases first with
      | role =>
          simp only [meet, sharedRole, pure_bind, ih]
          rfl
      | check required =>
          simp only [meet, sharedRole, pure_bind, ih, admission]
          split <;> rfl

/-- Of the dependencies of an endpoint the first asks for the role, and only that one. -/
theorem meet_unshared {dependencies : List Dependency} (some_first : dependencies ≠ []) :
    (app.meet noted request dependencies none : m _) =
      (fun role => admission role dependencies) <$> app.endpointRole noted request := by
  cases dependencies with
  | nil => contradiction
  | cons first rest =>
      rw [map_eq_pure_bind]
      cases first with
      | role =>
          simp only [meet, sharedRole, meet_shared]
          rfl
      | check required =>
          simp only [meet, sharedRole, meet_shared, admission]
          apply bind_congr
          intro role
          split <;> rfl

theorem handle_endpoint {route : Route}
    (target : Target.of request.method request.path = .endpoint route) :
    (app.handle request : m Response) =
      app.roleFor request >>= fun role => app.respond request route (admission role route.dependencies) := by
  have depends : route.dependencies ≠ [] := by
    cases route <;> simp [Route.dependencies]
  simp only [handle, roleFor, target, meet_unshared (m := m) app _ request depends, bind_assoc,
    bind_map_left]

end

end App

end BearerRole.Gate
