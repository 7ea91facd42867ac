import BearerRole.Construction
import BearerRole.Settings.LogSettings

/-!
Sessions: what a host does with settings, key files and extractors over time. Settings read without given values
are kept in a cache until it is cleared; an extractor, once built, stays as it is until the next is built.
-/

namespace BearerRole

open Settings

set_option autoImplicit false

/-- A kept object. Its identity tells it from every other object that is ever kept, also from one of the same value. -/
structure Cached (α : Type) where
  value : α
  identity : Nat
  deriving Repr, DecidableEq

/-- What a cache gives: the object that it keeps, or else a new one of what is read. A failure to read is not kept. -/
def Cached.ofCache {α : Type} (kept : Option (Cached α)) (fresh : Nat) (read : Except Fault α) :
    Except Fault (Cached α) :=
  match kept with
  | some cached => .ok cached
  | none => read.map fun value => ⟨value, fresh⟩

structure Session where
  files : Files
  environment : Environment
  roleCache : Option (Cached RoleSettings)
  logCache : Option (Cached LogSettings)
  /-- The identity of the next new object. No object has this one or a greater one. -/
  fresh : Nat
  /-- The objects that were shown, by their identities, in the order in which each was first shown. -/
  shown : List Nat
  lastSettings : Option RoleSettings
  extractor : Option TokenExtractor

inductive StubAnswer
  | claims (value : Value)
  | reject (reason : Value)
  | fail (fault : Fault)

def StubAnswer.result : StubAnswer → Except Fault Value
  | claims value => .ok value
  | reject reason => .error (.gate (GateError.tokenRejected reason .null))
  | fail fault => .error fault

def StubAnswer.reader (answer : StubAnswer) (verified : Bool) : TokenReader :=
  .custom verified fun _ _ => answer.result

inductive Step
  | setVariable (name value : Value)
  | unsetVariable (name : Value)
  | writeFile (path : Text) (entry : NewEntry)
  | removeFile (path : Text)
  | clearCaches
  | showSettings
  | makeSettings (given : Fields)
  | assignSettings (field : Text)
  | buildFromLast
  | buildFromCache
  | buildStub (answer : StubAnswer) (verified : Bool) (claimPath operatorValue : Value)
  | assignExtractor (field : Text)
  | call (headers : Headers) (now : Token.Instant)
  | loadKey (path : Text)
  | showLogSettings
  | makeLogSettings (given : Fields)

inductive StepResult
  | nothing
  | settings (settings : RoleSettings) (number : Option Nat)
  | logSettings (settings : LogSettings) (number : Option Nat)
  | extractor (extractor : TokenExtractor)
  | role (role : Role)
  | key (key : RsaKey)

abbrev Outcome := Logged (Except Fault StepResult)

namespace Session

def start (files : Files) (environment : Environment) : Session :=
  ⟨files, environment, none, none, 0, [], none, none⟩

def ask {α : Type} (s : Session) (kept : Option (Cached α)) (read : Except Fault α)
    (keep : Session → Cached α → Session) : Except Fault (Cached α × Session) := do
  let cached ← Cached.ofCache kept s.fresh read
  .ok (cached, keep { s with fresh := s.fresh + 1 } cached)

def cachedSettings (s : Session) : Except Fault (Cached RoleSettings × Session) :=
  s.ask s.roleCache (RoleSettings.load s.files s.environment [])
    fun s cached => { s with roleCache := some cached }

def cachedLogSettings (s : Session) : Except Fault (Cached LogSettings × Session) :=
  s.ask s.logCache (LogSettings.load s.files s.environment [])
    fun s cached => { s with logCache := some cached }

/-- An object takes its place among those that were shown, unless it has one. -/
def enlist (s : Session) (identity : Nat) : Session :=
  { s with shown := if s.shown.contains identity then s.shown else s.shown ++ [identity] }

/-- The number of an object that was shown: how many others were shown before it first was. -/
def number (s : Session) (identity : Nat) : Nat := s.shown.idxOf identity

/-- Fields of settings never change after construction. A name that begins with an underscore is no field and may
be set, apart from those of the object's own machinery. -/
def assignment (field : Text) : Except Fault Unit :=
  if field = text "__class__" ∨ field = text "__dict__" then .error .unsuitable
  else if field.head? = some 95 then .ok ()
  else .error (.invalidSettings [⟨text "frozen_instance", [field], text "Instance is frozen"⟩])

def extractorFields : List Text := [text "parser", text "claim_path", text "operator_value"]

def failed (s : Session) (fault : Fault) : Session × Outcome := (s, .pure (.error fault))

def done (s : Session) (result : StepResult) : Session × Outcome := (s, .pure (.ok result))

def keep (s : Session) (built : Logged (Except Fault TokenExtractor)) : Session × Outcome :=
  match built.value with
  | .ok extractor => ({ s with extractor := some extractor }, ⟨.ok (.extractor extractor), built.records⟩)
  | .error fault => (s, ⟨.error fault, built.records⟩)

def showSettings (s : Session) : Session × Outcome :=
  match s.cachedSettings with
  | .error fault => s.failed fault
  | .ok (cached, s) =>
      let s := s.enlist cached.identity
      done { s with lastSettings := some cached.value }
        (.settings cached.value (some (s.number cached.identity)))

def showLogSettings (s : Session) : Session × Outcome :=
  match s.cachedLogSettings with
  | .error fault => s.failed fault
  | .ok (cached, s) =>
      let s := s.enlist cached.identity
      s.done (.logSettings cached.value (some (s.number cached.identity)))

def step (s : Session) : Step → Session × Outcome
  | .setVariable name value =>
      match s.environment.set name value with
      | .ok environment => done { s with environment } .nothing
      | .error fault => s.failed fault
  | .unsetVariable name =>
      match s.environment.unset name with
      | .ok environment => done { s with environment } .nothing
      | .error fault => s.failed fault
  | .writeFile path entry =>
      match s.files.add path entry with
      | .ok files => done { s with files } .nothing
      | .error fault => s.failed fault
  | .removeFile path =>
      match s.files.remove path with
      | .ok files => done { s with files } .nothing
      | .error fault => s.failed fault
  | .clearCaches => done { s with roleCache := none, logCache := none } .nothing
  | .showSettings => s.showSettings
  | .makeSettings given =>
      match RoleSettings.load s.files s.environment given with
      | .ok settings => done { s with lastSettings := some settings } (.settings settings none)
      | .error fault => s.failed fault
  | .assignSettings field =>
      match s.lastSettings, assignment field with
      | none, _ => s.failed .noSettings
      | some settings, .ok () => s.done (.settings settings none)
      | some _, .error fault => s.failed fault
  | .buildFromLast =>
      match s.lastSettings with
      | none => s.failed .noSettings
      | some settings => s.keep (TokenExtractor.build s.files settings)
  | .buildFromCache =>
      match s.cachedSettings with
      | .error fault => s.failed fault
      | .ok (cached, s) => s.keep (TokenExtractor.build s.files cached.value)
  | .buildStub answer verified claimPath operatorValue =>
      s.keep (.pure (.ok ⟨answer.reader verified, claimPath, operatorValue⟩))
  | .assignExtractor field =>
      match s.extractor with
      | none => s.failed .noExtractor
      | some _ => s.failed (if extractorFields.contains field then .frozen else .unsuitable)
  | .call headers now =>
      match s.extractor with
      | none => s.failed .noExtractor
      | some extractor => (s, (extractor.call (.bare headers []) now).map fun role => .ok (.role role))
  | .loadKey path => (s, (Key.load s.files path).map fun loaded => loaded.map .key)
  | .showLogSettings => s.showLogSettings
  | .makeLogSettings given =>
      match LogSettings.load s.files s.environment given with
      | .ok settings => s.done (.logSettings settings none)
      | .error fault => s.failed fault

def run (s : Session) : List Step → List Outcome
  | [] => []
  | first :: rest =>
      let (s, outcome) := s.step first
      outcome :: run s rest

end Session

end BearerRole
