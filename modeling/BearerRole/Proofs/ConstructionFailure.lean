import BearerRole.Proofs.Codec.FileName
import BearerRole.Proofs.Construction
import BearerRole.Proofs.Settings.Sources

/-!
How the construction of an extractor fails. Its errors are those of the settings and of the key, which are declared. Besides, the
faults of two operations on files are passed on as they are: of reading the files of variables, and of writing the path of the
key in the form that the operating system takes.
-/

namespace BearerRole

set_option autoImplicit false

open Settings (RoleSettings Sources envFileField standardContent)

def Host.construct (host : Host) (given : Fields) : Logged (Except Fault TokenExtractor) :=
  match RoleSettings.load host.files host.environment given with
  | .error fault => .pure (.error fault)
  | .ok settings => host.newExtractor (some settings)

/-- The declared ends of construction. -/
inductive ConstructsAsDeclared : Except Fault TokenExtractor → Prop
  | built (extractor : TokenExtractor) : ConstructsAsDeclared (.ok extractor)
  | invalid (errors : List FieldError) : ConstructsAsDeclared (.error (.invalidSettings errors))
  | unloaded (path : Text) (reason : Key.LoadFailure) : ConstructsAsDeclared (.error (Key.failure path reason))

/-- The faults that are passed on, each with what it comes of. -/
inductive Escapes (host : Host) (given : Fields) : Fault → Prop
  /-- The standard file of variables is not UTF-8. -/
  | content {content : Bytes} (unnamed : given.get? envFileField = none)
      (there : standardContent host.files = .ok (some content)) (undecodable : Utf8.decode? content = none) :
      Escapes host given .undecodable
  /-- The standard file of variables may not be read, or not be looked for. -/
  | locked (unnamed : given.get? envFileField = none) (locked : standardContent host.files = .error .denied) :
      Escapes host given .denied
  /-- Of the files that are named in place of the standard one, one cannot be read. -/
  | named {v : Value} {fault : Fault} (named : given.get? envFileField = some v)
      (failed : Sources.load host.files host.environment given [RoleSettings.envFileName] = .error fault) :
      Escapes host given fault
  /-- The path of the key has a surrogate that stands for no byte. -/
  | formless {settings : RoleSettings} {path : Text}
      (loaded : RoleSettings.load host.files host.environment given = .ok settings)
      (configured : settings.publicKeyPath = some path) (formless : ∃ c ∈ path, FileName.IsFormless c) :
      Escapes host given .unencodable
  /-- The path of the key has a form, with a NUL in it. -/
  | nul {settings : RoleSettings} {path : Text} {bytes : Bytes}
      (loaded : RoleSettings.load host.files host.environment given = .ok settings)
      (configured : settings.publicKeyPath = some path) (written : FileName.encode? path = some bytes)
      (nul : 0 ∈ bytes) : Escapes host given .badPath

theorem Files.read_eq_error_iff {files : Files} {path : Text} {fault : Fault} :
    files.read path = .error fault ↔ pathBytes path = .error fault := by
  unfold Files.read
  cases pathBytes path with
  | error refused => simp [error_bind]
  | ok bytes =>
      refine iff_of_false ?_ (by simp)
      intro failed
      rw [ok_bind] at failed
      split at failed <;> cases failed

/-- What loading a key comes to: the path may be refused; else there is a key or a declared failure. -/
inductive Key.Loads (path : Text) : Except Fault RsaKey → Prop
  | refused {fault : Fault} (refused : Files.pathBytes path = .error fault) : Loads path (.error fault)
  | failed {bytes : Bytes} (formed : Files.pathBytes path = .ok bytes) (reason : LoadFailure) :
      Loads path (.error (failure path reason))
  | loaded {bytes : Bytes} (formed : Files.pathBytes path = .ok bytes) (key : RsaKey) : Loads path (.ok key)

theorem Key.load_of_refused (files : Files) {path : Text} {fault : Fault} (refused : Files.pathBytes path = .error fault) :
    (Key.load files path).value = .error fault := by
  unfold Key.load
  rw [Files.read_eq_error_iff.mpr refused]
  rfl

theorem Key.load_loads (files : Files) (path : Text) : Key.Loads path (Key.load files path).value := by
  unfold Key.load
  cases read : files.read path with
  | error fault => exact .refused (Files.read_eq_error_iff.mp read)
  | ok found =>
      obtain ⟨bytes, formed⟩ : ∃ bytes, Files.pathBytes path = .ok bytes := by
        cases written : Files.pathBytes path with
        | ok bytes => exact ⟨bytes, rfl⟩
        | error fault => cases read.symm.trans (Files.read_eq_error_iff.mpr written)
      cases found with
      | error reason => exact .failed formed (.unreadable reason)
      | ok content =>
          dsimp only
          cases Key.ofFile content with
          | error reason => exact .failed formed reason
          | ok key => exact .loaded formed key

variable {host : Host} {given : Fields} {fault : Fault}

theorem escapes_of_sources
    (failed : Sources.load host.files host.environment given [RoleSettings.envFileName] = .error fault) :
    Escapes host given fault := by
  cases named : given.get? envFileField with
  | some v => exact .named named failed
  | none =>
      rcases (Settings.load_standard_eq_error_iff named).mp failed with ⟨rfl, locked⟩ | ⟨rfl, content, there, undecodable⟩
      · exact .locked named locked
      · exact .content named there undecodable

theorem escapes_of_path {settings : RoleSettings} {path : Text}
    (loaded : RoleSettings.load host.files host.environment given = .ok settings)
    (configured : settings.publicKeyPath = some path) (refused : Files.pathBytes path = .error fault) :
    Escapes host given fault := by
  rcases FileName.path_bytes_eq_error_iff.mp refused with ⟨rfl, formless⟩ | ⟨rfl, bytes, written, nul⟩
  · exact .formless loaded configured formless
  · exact .nul loaded configured written nul

theorem Escapes.cases_of (escapes : Escapes host given fault) :
    Sources.load host.files host.environment given [RoleSettings.envFileName] = .error fault ∨
      ∃ settings path, RoleSettings.load host.files host.environment given = .ok settings ∧
        settings.publicKeyPath = some path ∧ Files.pathBytes path = .error fault := by
  cases escapes with
  | content unnamed there undecodable =>
      exact .inl ((Settings.load_standard_eq_error_iff unnamed).mpr (.inr ⟨rfl, _, there, undecodable⟩))
  | locked unnamed locked => exact .inl ((Settings.load_standard_eq_error_iff unnamed).mpr (.inl ⟨rfl, locked⟩))
  | named _ failed => exact .inl failed
  | formless loaded configured formless =>
      exact .inr ⟨_, _, loaded, configured, FileName.path_bytes_eq_error_iff.mpr (.inl ⟨rfl, formless⟩)⟩
  | nul loaded configured written nul =>
      exact .inr ⟨_, _, loaded, configured, FileName.path_bytes_eq_error_iff.mpr (.inr ⟨rfl, _, written, nul⟩)⟩

theorem construct_of_failure (failed : RoleSettings.load host.files host.environment given = .error fault) :
    (host.construct given).value = .error fault := by
  unfold Host.construct
  rw [failed]
  rfl

theorem construct_of_settings {settings : RoleSettings}
    (loaded : RoleSettings.load host.files host.environment given = .ok settings) :
    host.construct given = TokenExtractor.build host.files settings := by
  unfold Host.construct
  rw [loaded]
  rfl

theorem construct_of_escape (escapes : Escapes host given fault) : (host.construct given).value = .error fault := by
  rcases escapes.cases_of with failed | ⟨settings, path, loaded, configured, refused⟩
  · exact construct_of_failure (Settings.load_eq_error_iff.mpr (.inl failed))
  · rw [construct_of_settings loaded]
    exact TokenExtractor.build_failed configured (Key.load_of_refused host.files refused)

theorem not_declared_of_escape (escapes : Escapes host given fault) : ¬ConstructsAsDeclared (.error fault) := by
  intro declared
  cases escapes with
  | content => cases declared
  | locked => cases declared
  | named _ failed =>
      cases Settings.source_fault_of_load failed <;> cases declared
  | formless => cases declared
  | nul => cases declared

theorem declared_or_escapes (host : Host) (given : Fields) :
    ConstructsAsDeclared (host.construct given).value ∨ ∃ fault, Escapes host given fault := by
  cases loaded : RoleSettings.load host.files host.environment given with
  | error fault =>
      rw [construct_of_failure loaded]
      rcases Settings.load_eq_error_iff.mp loaded with failed | ⟨_, errors, _, _, rfl⟩
      · exact .inr ⟨fault, escapes_of_sources failed⟩
      · exact .inl (.invalid errors)
  | ok settings =>
      rw [construct_of_settings loaded]
      cases configured : settings.publicKeyPath with
      | none =>
          rw [TokenExtractor.build_trusting host.files configured]
          exact .inl (.built _)
      | some path =>
          generalize ended : (Key.load host.files path).value = result
          have loads := Key.load_loads host.files path
          rw [ended] at loads
          cases loads with
          | refused refused => exact .inr ⟨_, escapes_of_path loaded configured refused⟩
          | failed _ reason =>
              rw [TokenExtractor.build_failed configured ended]
              exact .inl (.unloaded path reason)
          | loaded _ key =>
              rw [TokenExtractor.build_verifying configured ended]
              exact .inl (.built _)

/-- Construction ends as declared exactly when no fault escapes it, and what escapes is what it fails with. In a path of code
points the byte that no path may hold comes of a NUL and of nothing else. -/
theorem constructs_as_declared_iff (host : Host) (given : Fields) :
    let ended := (host.construct given).value
    (ConstructsAsDeclared ended ↔ ∀ fault, ¬Escapes host given fault) ∧
      (∀ fault, Escapes host given fault → ended = .error fault) ∧
        ∀ (path : Text) (bytes : Bytes), (∀ c ∈ path, c < 0x110000) → FileName.encode? path = some bytes →
          (0 ∈ bytes ↔ 0 ∈ path) := by
  intro ended
  refine ⟨?_, fun fault => construct_of_escape, fun path bytes => FileName.zero_mem_encode⟩
  constructor
  · intro declared fault escapes
    have failed : ended = .error fault := construct_of_escape escapes
    rw [failed] at declared
    exact not_declared_of_escape escapes declared
  · intro none
    rcases declared_or_escapes host given with declared | ⟨fault, escapes⟩
    · exact declared
    · exact absurd escapes (none fault)

/-- Neither a path with a NUL nor one with a lone surrogate is found unreadable, and a file of variables with a byte that is not
UTF-8 makes no error of settings. -/
theorem undeclared_ends :
    let host : Host := ⟨.empty, [], none⟩
    let keyed (path : Text) : Fields := [(RoleSettings.publicKeyPathField, .text path)]
    let marred : Host := ⟨Files.empty.put (Files.here ++ [Files.bytesOf ".env"]) (.file [0xFF]), [], none⟩
    (host.construct (keyed (text "key" ++ 0 :: text ".pem"))).value = .error .badPath ∧
      (host.construct (keyed [0xD800])).value = .error .unencodable ∧
        (marred.construct []).value = .error .undecodable ∧
          ∀ fault ∈ [Fault.badPath, .unencodable, .undecodable], ¬ConstructsAsDeclared (.error fault) := by
  refine ⟨rfl, rfl, rfl, ?_⟩
  intro fault member declared
  simp only [List.mem_cons, List.not_mem_nil, or_false] at member
  rcases member with rfl | rfl | rfl <;> cases declared

end BearerRole
