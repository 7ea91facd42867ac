import BearerRole.Construction
import BearerRole.Gate.Context
import BearerRole.Gate.Requirement
import BearerRole.Gate.Response

/-!
The service behind the gate. An app may note the role of every request before routing, once or several times over, or
let its endpoints ask for it; and it may turn denials into responses. It is set up once and then answers requests,
each by itself.
-/

namespace BearerRole.Gate

open Settings

set_option autoImplicit false

/-- The step before routing that notes each request's role, with what was handed to it outright. -/
structure Middleware where
  given : Option Handed

/-- The steps before routing stand in the order in which a request meets them. An app that has started takes no more of
them. -/
structure App where
  held : Option Extractor
  middlewares : List Middleware
  handlesDenials : Bool
  started : Bool

/-- A request as it is received: the path has been decoded, and a host among the headers is well formed. -/
structure HttpRequest where
  method : Text
  path : Text
  query : Text
  headers : List (Text × Text)
  now : Token.Instant
  deriving Repr, Inhabited

def shownMark (c : CodePoint) : Text :=
  if c = 63 then text "%3F"
  else if c = 35 then text "%23"
  else if c = 92 then text "%5C"
  else if c = 9 ∨ c = 10 ∨ c = 13 then []
  else [c]

/-- The path as it is shown, which begins with a slash whatever was asked for. -/
def shownPath (path : Text) : Text :=
  (if path.head? = some 47 then path else 47 :: path).flatMap shownMark

def HttpRequest.toRequest (request : HttpRequest) : Request :=
  ⟨.received request.headers, shownPath request.path, request.method, request.query, none⟩

/-- The request as an endpoint gets it. -/
def HttpRequest.routed (request : HttpRequest) : Request :=
  { request.toRequest with routing := (Target.of request.method request.path).routing? }

def deniedRecord (request : HttpRequest) (required : Role) : LogRecord :=
  .make "rolegate.error_handlers" .info "role_gate_denied"
    [(text "path", .text (shownPath request.path)), (text "method", .text request.method),
      (text "required_role", .text required.name)]

namespace App

section

variable {m : Type → Type} [Effects m]

/-- The role that was noted before routing, if the app does so. Each step writes over what was noted before it. -/
def noted (app : App) (request : HttpRequest) : m (Option Role) :=
  app.middlewares.foldlM (fun _ middleware => do
    return some (← chosenRole middleware.given app.held request.toRequest request.now)) none

/-- The role that the endpoints see: the noted one, or else that of the app's extractor, which is then asked after
routing. -/
def endpointRole (app : App) (noted : Option Role) (request : HttpRequest) : m Role :=
  effectiveRole (noted.map .role) app.held request.routed request.now

/-- The role that a dependency gets. The first one asks for it, and those after it share what the first was told. -/
def sharedRole (app : App) (noted : Option Role) (request : HttpRequest) (shared : Option Role) : m Role :=
  match shared with
  | some role => pure role
  | none => app.endpointRole noted request

/-- Meets dependencies in their order. A check that the role does not pass ends this, with the role that it requires. -/
def meet (app : App) (noted : Option Role) (request : HttpRequest) :
    List Dependency → Option Role → m (Except Role (Option Role))
  | [], shared => pure (.ok shared)
  | .role :: rest, shared => do
      let role ← app.sharedRole noted request shared
      app.meet noted request rest (some role)
  | .check required :: rest, shared => do
      let role ← app.sharedRole noted request shared
      if grants role required then app.meet noted request rest (some role)
      else pure (.error required)

def deny (app : App) (request : HttpRequest) (required : Role) : m Response :=
  if app.handlesDenials then do
    Effects.record (deniedRecord request required)
    pure (Response.denied (shownPath request.path))
  else pure (Response.serverError (.gate (GateError.accessDenied required)))

def respond (app : App) (request : HttpRequest) (route : Route) (met : Except Role (Option Role)) : m Response :=
  match met with
  | .ok role => pure (Response.ofRoute route role)
  | .error required => app.deny request required

def handle (app : App) (request : HttpRequest) : m Response := do
  let noted ← app.noted request
  match Target.of request.method request.path with
  | .endpoint route => do
      let met ← app.meet noted request route.dependencies none
      app.respond request route met
  | .wrongMethod => pure Response.wrongMethod
  | .redirect => pure Response.redirect
  | .nowhere => pure Response.notFound

def serve (app : App) (requests : List HttpRequest) : m (List Response) := requests.mapM app.handle

end

end App

def installedExtractor (host : Host) (given : Option Handed) (settings : Option RoleSettings) :
    Logged (Except Fault Handed) :=
  match given with
  | some handed => .pure (.ok handed)
  | none => (host.newExtractor settings).map (·.map fun extractor => ⟨.token extractor, true⟩)

/-- An app holds an extractor before the step that notes its role is added, which an app that has started refuses. -/
def App.wire (app : App) (handed : Handed) : Except Fault Unit × App :=
  let app := { app with held := some handed.extractor }
  if app.started then (.error (.foreign (text "RuntimeError")), app)
  else
    (.ok (), { app with
      middlewares := ⟨some handed⟩ :: app.middlewares
      handlesDenials := true })

def install (host : Host) (given : Option Handed) (settings : Option RoleSettings) (app : App) :
    Logged (Except Fault Unit) × App :=
  let built := installedExtractor host given settings
  match built.value with
  | .ok handed =>
      let (outcome, app) := app.wire handed
      (⟨outcome, built.records⟩, app)
  | .error fault => (⟨.error fault, built.records⟩, app)

def lifespanLogger : String := "rolegate.lifespan"

def readyRecord (extractor : TokenExtractor) : LogRecord :=
  .make lifespanLogger .info "role_extractor_lifespan: extractor ready"
    [(text "verified", .bool extractor.reader.isVerified)]

def shutdownRecord : LogRecord :=
  .make lifespanLogger .info "role_extractor_lifespan: shutdown complete" []

/-- Starts an app with an extractor of the host's own settings, which replaces the one it held. If none can be built
the app does not start and stays as it was. -/
def startUp (host : Host) (app : App) : Logged (Except Fault Unit) × App :=
  let built := host.newExtractor none
  match built.value with
  | .ok extractor =>
      (⟨.ok (), built.records ++ [readyRecord extractor]⟩, { app with held := some (.token extractor) })
  | .error fault => (⟨.error fault, built.records⟩, app)

end BearerRole.Gate
