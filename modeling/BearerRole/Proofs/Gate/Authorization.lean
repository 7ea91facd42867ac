import BearerRole.Proofs.Gate.Decision

/-!
Which headers count. A token extractor asks a request for one header, and of several with that name for the first. An
app that asks token extractors alone answers requests alike that agree on this header, whatever else they carry.
-/

namespace BearerRole

set_option autoImplicit false

def firstAuthorization (headers : List (Text × Text)) : Option Text :=
  (headers.find? fun entry => Text.lower entry.1 == text "authorization").map Prod.snd

theorem get_authorization (headers : List (Text × Text)) :
    (Headers.received headers).get Bearer.headerName = .ok (Value.ofText? (firstAuthorization headers)) := by
  have lowered : Text.lower Bearer.headerName = text "authorization" := by decide +kernel
  simp only [Headers.get, firstAuthorization, lowered]
  cases headers.find? fun entry => Text.lower entry.1 == text "authorization" <;> rfl

theorem TokenExtractor.call_of_same_header (extractor : TokenExtractor) {request second : Request}
    (same : request.headers.get Bearer.headerName = second.headers.get Bearer.headerName) (now : Token.Instant) :
    extractor.call request now = extractor.call second now := by
  unfold call
  rw [same]

namespace Gate

/-- Requests that differ at most in headers other than the first one that carries a token. -/
structure HttpRequest.Alike (request second : HttpRequest) : Prop where
  method : request.method = second.method
  path : request.path = second.path
  now : request.now = second.now
  authorization : firstAuthorization request.headers = firstAuthorization second.headers

namespace App

/-- The extractors that an app asks: each step before routing asks its own, or else the one that the app holds, and without
such a step the endpoints ask that one. -/
def asked (app : App) : List Extractor :=
  match app.middlewares with
  | [] => app.held.toList
  | steps => steps.filterMap fun step => (explicitOf step.given).or app.held

theorem asked_of_single {app : App} (single : app.middlewares.length ≤ 1) : app.asked = app.decider.toList := by
  unfold asked decider
  match app.middlewares, single with
  | [], _ => rfl
  | [step], _ =>
      show List.filterMap _ [step] = ((explicitOf step.given).or app.held).toList
      cases asks : (explicitOf step.given).or app.held <;> simp [asks]

theorem mem_asked_of_step {app : App} {step : Middleware} {extractor : Extractor} (member : step ∈ app.middlewares)
    (asks : (explicitOf step.given).or app.held = some extractor) : extractor ∈ app.asked := by
  unfold asked
  split
  · next none =>
      rw [none] at member
      contradiction
  · exact List.mem_filterMap.mpr ⟨step, member, asks⟩

end App

section

variable {request second : HttpRequest}

theorem chosen_role_alike {given : Option Handed} {held : Option Extractor} {seen other : Request} {now : Token.Instant}
    (tokens : ∀ extractor, (explicitOf given).or held = some extractor → ∃ token, extractor = .token token)
    (samePath : seen.path = other.path)
    (sameHeader : seen.headers.get Bearer.headerName = other.headers.get Bearer.headerName) :
    (chosenRole given held seen now : Logged Role) = chosenRole given held other now := by
  rw [chosen_role_or, chosen_role_or given]
  cases asks : (explicitOf given).or held with
  | none => simp only [chosen_role_of_none, samePath]
  | some extractor =>
      obtain ⟨token, rfl⟩ := tokens extractor asks
      simp only [chosen_role_of_held, runExtractor, Effects.run, Extractor.run, samePath,
        token.call_of_same_header sameHeader]

theorem HttpRequest.Alike.same_header (alike : request.Alike second) :
    (Headers.received request.headers).get Bearer.headerName =
      (Headers.received second.headers).get Bearer.headerName := by
  rw [get_authorization, get_authorization, alike.authorization]

theorem fold_alike {steps : List Middleware} {choose chooseSecond : Middleware → Logged Role}
    (same : ∀ step ∈ steps, choose step = chooseSecond step) (start : Option Role) :
    (steps.foldlM (fun _ step => do return some (← choose step)) start : Logged (Option Role)) =
      steps.foldlM (fun _ step => do return some (← chooseSecond step)) start := by
  induction steps generalizing start with
  | nil => rfl
  | cons step steps ih =>
      rw [List.foldlM_cons, List.foldlM_cons, same step List.mem_cons_self]
      apply bind_congr
      intro noted
      exact ih (fun later member => same later (List.mem_cons_of_mem _ member)) noted

namespace App

variable {app : App} (tokens : ∀ extractor ∈ app.asked, ∃ token, extractor = .token token)

include tokens

theorem step_alike (alike : request.Alike second) :
    ∀ step ∈ app.middlewares, (chosenRole step.given app.held request.toRequest request.now : Logged Role) =
      chosenRole step.given app.held second.toRequest second.now := by
  intro step member
  rw [alike.now]
  apply chosen_role_alike _ (congrArg shownPath alike.path) alike.same_header
  intro extractor asks
  exact tokens extractor (mem_asked_of_step member asks)

theorem noted_alike (alike : request.Alike second) :
    (app.noted request : Logged (Option Role)) = app.noted second :=
  fold_alike (step_alike tokens alike) none

theorem role_for_alike (alike : request.Alike second) :
    (app.roleFor request : Logged Role) = app.roleFor second := by
  rcases List.eq_nil_or_concat app.middlewares with none | ⟨earlier, last, steps⟩
  · have asked : app.asked = app.held.toList := by simp only [asked, none]
    rw [role_for_unnoted request none, role_for_unnoted second none, alike.now]
    apply chosen_role_alike _ (congrArg shownPath alike.path) alike.same_header
    intro extractor held
    apply tokens extractor
    rw [asked]
    exact Option.mem_toList.mpr held
  · rw [List.concat_eq_append] at steps
    have chosen := step_alike tokens alike
    rw [steps] at chosen
    have front := fold_alike (fun step member => chosen step (List.mem_append_left _ member)) none
    have final := chosen last (by simp)
    rw [role_for_last request steps, role_for_last second steps, final]
    exact congrArg (· >>= fun _ => chosenRole last.given app.held second.toRequest second.now) front

end App

end

/-- Two requests for one path at one instant that agree on the first header that may carry a token get one result from an
app that asks token extractors alone: the same response, and the same records. No other header counts, of this name or
any. -/
theorem only_first_authorization_counts {app : App}
    (tokens : ∀ extractor ∈ app.asked, ∃ token, extractor = .token token) {request second : HttpRequest}
    (alike : request.Alike second) : (app.handle request : Logged Response) = app.handle second := by
  have sameTarget : Target.of second.method second.path = Target.of request.method request.path := by
    rw [alike.method, alike.path]
  cases target : Target.of request.method request.path with
  | endpoint route =>
      have sameResponse : ∀ met, (app.respond request route met : Logged Response) = app.respond second route met := by
        intro met
        cases met with
        | ok role => rfl
        | error required => simp only [App.respond, App.deny, deniedRecord, alike.method, alike.path]
      rw [App.handle_endpoint app request target, App.handle_endpoint app second (sameTarget.trans target),
        App.role_for_alike tokens alike]
      simp only [sameResponse]
  | wrongMethod => simp only [App.handle, target, sameTarget, App.noted_alike tokens alike]
  | redirect => simp only [App.handle, target, sameTarget, App.noted_alike tokens alike]
  | nowhere => simp only [App.handle, target, sameTarget, App.noted_alike tokens alike]

/-- A header that names the operator, and a second token after one that is no token, change nothing about a denial, though
the extractor that the app holds would have gone by that header. -/
theorem named_role_ignored :
    let token : TokenExtractor := ⟨.trusting .none, .text standardPath, .text standardOperator⟩
    let app : App := ⟨some .header, [⟨some ⟨.token token, true⟩⟩], true, false⟩
    let refresh (headers : List (Text × Text)) : HttpRequest :=
      ⟨text "POST", text "/sources/refresh", [], headers, 0⟩
    let crowded := refresh [(text "x-user-role", text "operator"), (text "AUTHORIZATION", text "Bearer garbage"),
      (text "authorization", text "Bearer e30.e30.")]
    let single := refresh [(text "Authorization", text "Bearer garbage")]
    (∀ extractor ∈ app.asked, ∃ token, extractor = .token token) ∧ crowded.Alike single ∧
      (app.handle crowded : Logged Response) = app.handle single ∧
      (app.handle single : Logged Response).value.status = 403 := by
  intro token app refresh crowded single
  have tokens : ∀ extractor ∈ app.asked, ∃ token, extractor = .token token := by
    intro extractor member
    rw [App.asked_of_single (by decide)] at member
    exact ⟨token, List.mem_singleton.mp member⟩
  have sameHeader : firstAuthorization crowded.headers = firstAuthorization single.headers := by decide +kernel
  have alike : crowded.Alike single := ⟨rfl, rfl, rfl, sameHeader⟩
  exact ⟨tokens, alike, only_first_authorization_counts tokens alike, by decide +kernel⟩

end Gate

end BearerRole
