import BearerRole.Codec.Utf8
import BearerRole.Settings.Environment
import BearerRole.Text.Blank

/-!
Files of variables. Each line binds a name to a value, bare or in quotes, after an optional `export`; comments
begin with a number sign. A value may refer to variables by `${NAME}` or `${NAME:-default}`. A line that does not
follow the form is passed over.
-/

namespace BearerRole.Settings.EnvFile

set_option autoImplicit false

/-- A name that stands without an equals sign has no value. -/
structure Binding where
  name : Text
  value : Option Text
  deriving Repr, DecidableEq

def unifyNewlines : Text → Text
  | [] => []
  | 13 :: 10 :: rest => 10 :: unifyNewlines rest
  | 13 :: rest => 10 :: unifyNewlines rest
  | c :: rest => c :: unifyNewlines rest

def isInlineBlank (c : CodePoint) : Bool := Text.isBlank c && c != 10

def skipInline (t : Text) : Text := t.dropWhile isInlineBlank

def skipLine (t : Text) : Text := (t.dropWhile (· != 10)).drop 1

def exportWord : Text := text "export"

def skipExport (t : Text) : Text :=
  if exportWord.isPrefixOf t then
    let rest := t.drop exportWord.length
    if (rest.takeWhile isInlineBlank).isEmpty then t else skipInline rest
  else t

def isBareName (c : CodePoint) : Bool := c != 61 && c != 35 && !Text.isBlank c

/-- The name of a binding and what follows it. A comment has none. A name in quotes is not empty, and neither
is a bare one; where it would be, the place of the failure is given. -/
def name (t : Text) : Except Text (Option Text × Text) :=
  match t with
  | 35 :: _ => .ok (none, t)
  | 39 :: rest =>
      let quoted := rest.takeWhile (· != 39)
      match rest.dropWhile (· != 39) with
      | 39 :: after => if quoted.isEmpty then .error t else .ok (some quoted, after)
      | _ => .error t
  | t =>
      let bare := t.takeWhile isBareName
      if bare.isEmpty then .error t else .ok (some bare, t.dropWhile isBareName)

/-- The text up to the closing quote, and what follows. A backslash takes what follows it along, so that a quote after
it does not close. -/
def quoted? (quote : CodePoint) : Text → Option (Text × Text)
  | [] => none
  | [c] => if c = quote then some ([], []) else none
  | c :: d :: rest =>
      if c = quote then some ([], d :: rest)
      else if c = 92 then (quoted? quote rest).map fun parts => (c :: d :: parts.1, parts.2)
      else (quoted? quote (d :: rest)).map fun parts => (c :: parts.1, parts.2)

/-- The code point of an escape inside quotes; single quotes know only those of quote and backslash. -/
def escape? (quote c : CodePoint) : Option CodePoint :=
  if c = 92 ∨ c = 39 then some c
  else if quote = 39 then none
  else if c = 34 then some 34
  else if c = 97 then some 7
  else if c = 98 then some 8
  else if c = 102 then some 12
  else if c = 110 then some 10
  else if c = 114 then some 13
  else if c = 116 then some 9
  else if c = 118 then some 11
  else none

def unescape (quote : CodePoint) : Text → Text
  | [] => []
  | [c] => [c]
  | c :: d :: rest =>
      if c = 92 then
        match escape? quote d with
        | some point => point :: unescape quote rest
        | none => c :: unescape quote (d :: rest)
      else c :: unescape quote (d :: rest)

/-- A bare value without the comment that a blank and a number sign begin. -/
def dropComment : Text → Text
  | [] => []
  | c :: rest =>
      if Text.isBlank c && (rest.dropWhile Text.isBlank).head? == some 35 then []
      else c :: dropComment rest

/-- The value after an equals sign and what follows it, or the place of the failure. A comment may follow the equals sign
after a blank. -/
def value (t : Text) : Except Text (Text × Text) :=
  match skipInline t with
  | [] => .ok ([], [])
  | c :: rest =>
      if c = 39 ∨ c = 34 then
        match quoted? c rest with
        | some (inside, after) => .ok (unescape c inside, after)
        | none => .error (c :: rest)
      else .ok (Text.trim (dropComment (t.takeWhile (· != 10))), t.dropWhile (· != 10))

def lineEnd (t : Text) : Except Text Text :=
  let afterComment := match skipInline t with
    | 35 :: rest => rest.dropWhile (· != 10)
    | _ => t
  match skipInline afterComment with
  | [] => .ok []
  | 10 :: rest => .ok rest
  | _ => .error afterComment

def binding (t : Text) : Except Text (Option Binding × Text) := do
  let (name, rest) ← name (skipExport t)
  let (value, rest) ← match skipInline rest with
    | 61 :: after => (value after).map fun parts => (some parts.1, parts.2)
    | rest => .ok (none, rest)
  let rest ← lineEnd rest
  .ok (name.map fun name => ⟨name, value⟩, rest)

/-- All bindings. Each takes at least one code point, so the length of the text is fuel enough. -/
def bindings : Nat → Text → List Binding
  | 0, _ => []
  | fuel + 1, t =>
      match t.dropWhile Text.isBlank with
      | [] => []
      | t =>
          match binding t with
          | .ok (some binding, rest) => binding :: bindings fuel rest
          | .ok (none, rest) => bindings fuel rest
          | .error rest => bindings fuel (skipLine rest)

/-- A reference after its opening brace: the name, the default, and what follows. -/
def reference? (t : Text) : Option (Text × Text × Text) :=
  let isName (c : CodePoint) : Bool := c != 125 && c != 58
  let name := t.takeWhile isName
  match t.dropWhile isName with
  | 125 :: rest => some (name, [], rest)
  | 58 :: 45 :: rest =>
      match rest.dropWhile (· != 125) with
      | 125 :: after => some (name, rest.takeWhile (· != 125), after)
      | _ => none
  | _ => none

/-- Puts values for references; what is looked up is not expanded again. The length of the text is fuel enough. -/
def expand (find? : Text → Option Text) : Nat → Text → Text
  | 0, t => t
  | _, [] => []
  | fuel + 1, 36 :: 123 :: rest =>
      match reference? rest with
      | some (name, default, after) => (find? name).getD default ++ expand find? fuel after
      | none => 36 :: expand find? fuel (123 :: rest)
  | fuel + 1, c :: rest => c :: expand find? fuel rest

abbrev Values := List (Text × Option Text)

def Values.put : Values → Text → Option Text → Values
  | [], name, value => [(name, value)]
  | (n, v) :: rest, name, value =>
      if n = name then (n, value) :: rest else (n, v) :: Values.put rest name value

/-- What a reference sees: the values of the file so far, a name without a value counting as empty, and then
the environment. -/
def seen (environment : Environment) (values : Values) (name : Text) : Option Text :=
  match values.lookup name with
  | some value => some (value.getD [])
  | none => environment.get? name

/-- Expands bindings in order; of several with one name the last counts, at the place of the first. -/
def resolve (environment : Environment) (all : List Binding) : Values :=
  all.foldl (fun values binding =>
    values.put binding.name (binding.value.map fun t => expand (seen environment values) t.length t)) []

def withoutMark : Text → Text
  | 0xFEFF :: rest => rest
  | t => t

def read (environment : Environment) (t : Text) : Values :=
  let t := unifyNewlines (withoutMark t)
  resolve environment (bindings (t.length + 1) t)

/-- The value under a name given in lower case; the last of the names that agree with it counts, and gives
nothing if it has no value. -/
def find? (values : Values) (lowerName : Text) : Option Text := do
  let (_, value) ← values.reverse.find? fun entry => Text.lower entry.1 == lowerName
  value

def ofContent (environment : Environment) (content : Bytes) : Except Fault Values :=
  match Utf8.decode? content with
  | some t => .ok (read environment t)
  | none => .error .undecodable

end BearerRole.Settings.EnvFile
