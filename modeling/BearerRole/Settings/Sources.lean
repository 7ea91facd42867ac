import BearerRole.Files
import BearerRole.Settings.EnvFile

/-!
Where the values of settings come from: values given outright, then the environment, then a file of variables.
The first source that has a field decides it, a blank value counting as one.
-/

namespace BearerRole.Settings

set_option autoImplicit false

structure Sources where
  given : Fields
  environment : Environment
  envFile : EnvFile.Values

namespace Sources

/-- A given value under a name in lower case. Names that differ in case agree, and the first of several counts. -/
def given? (sources : Sources) (lowerName : Text) : Option Value :=
  (sources.given.find? fun entry => Text.lower entry.1 == lowerName).map Prod.snd

def variableValue? (sources : Sources) (lowerName : Text) : Option Text :=
  match sources.environment.find? lowerName with
  | some t => some t
  | none => EnvFile.find? sources.envFile lowerName

end Sources

def envFileField : Text := text "_env_file"

/-- The paths that a value names: null none, text one, and a collection its members or keys. -/
def envFilePaths : Value → Except Fault (List Value)
  | .null => .ok []
  | .text t => .ok [.text t]
  | .role r => .ok [.role r]
  | .list items => .ok items
  | .tuple items => .ok items
  | .object fields => .ok (fields.map fun entry => .text entry.1)
  | .bytes b => .ok (b.map fun byte => .int byte.toNat)
  | _ => .error .unsuitable

/-- The home directory of a user: of the one who runs the program if there is no name. That one may have set another. -/
def homeOf (homes : Homes) (environment : Environment) (user : Text) : Except Fault (Option Text) :=
  if user.isEmpty then .ok ((environment.get? (text "HOME")).or homes.own)
  else (Files.pathBytes user).map fun _ => homes.named.lookup user

/-- A path whose first name begins with a tilde lies in the home directory of a user, and there must be one. -/
def homePath (homes : Homes) (environment : Environment) (path : Text) : Except Fault Text :=
  if path.head? = some 47 then .ok path
  else
    match (Text.split 47 path).filter fun name => name != [] && name != [46] with
    | (126 :: user) :: rest => do
        match ← homeOf homes environment user with
        | some home =>
            let below := (home.reverse.dropWhile (· == 47)).reverse ++ rest.flatMap (47 :: ·)
            if home.head? = some 126 then .error (.foreign (text "RuntimeError"))
            else .ok (if below.isEmpty then [47] else below)
        | none => .error (.foreign (text "RuntimeError"))
    | _ => .ok path

def envFileValues (files : Files) (environment : Environment) (path : Value) : Except Fault EnvFile.Values := do
  match path.asText? with
  | none => .error .unsuitable
  | some path =>
      match ← files.contentIfFile (← homePath files.homes environment path) with
      | some content => EnvFile.ofContent environment content
      | none => .ok []

/-- The sources of settings. The variables of a later file count before those of an earlier one. -/
def Sources.load (files : Files) (environment : Environment) (given : Fields) (standardFiles : List Text) :
    Except Fault Sources := do
  let paths ← match given.get? envFileField with
    | none => .ok (standardFiles.map .text)
    | some v => envFilePaths v
  let values ← paths.mapM (envFileValues files environment)
  .ok ⟨given, environment, values.flatten⟩

inductive Violation
  | notText
  | notUnicode
  | rejected (message : Text)
  | notAChoice (choices : Text)
  deriving Repr, DecidableEq

def Violation.rule : Violation → Text
  | notText => text "string_type"
  | notUnicode => text "string_unicode"
  | rejected _ => text "value_error"
  | notAChoice _ => text "literal_error"

def Violation.message : Violation → Text
  | notText => text "Input should be a valid string"
  | notUnicode => text "Input should be a valid string, unable to parse raw data as a unicode string"
  | rejected message => text "Value error, " ++ message
  | notAChoice choices => text "Input should be " ++ choices

def Violation.at (v : Violation) (location : Text) : FieldError := ⟨v.rule, [location], v.message⟩

def textOf (v : Value) : Except Violation Text :=
  match v with
  | .bytes b =>
      match Utf8.decode? b with
      | some t => .ok t
      | none => .error .notUnicode
  | v =>
      match v.asText? with
      | some t => .ok t
      | none => .error .notText

def optionalTextOf (v : Value) : Except Violation (Option Text) :=
  match v with
  | .null => .ok none
  | v => (textOf v).map some

def isBlankValue (v : Value) : Bool :=
  match v.asText? with
  | some t => Text.isBlankText t
  | none => false

def errorsOf {α : Type} (location : Text) : Except Violation α → List FieldError
  | .ok _ => []
  | .error v => [v.at location]

end BearerRole.Settings
