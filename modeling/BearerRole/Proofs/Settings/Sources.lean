import BearerRole.Proofs.Partial
import BearerRole.Settings.RoleSettings
import Mathlib.Data.List.Nodup

/-!
How the sources of settings are read. Given values and the environment are taken as they are, so it is files of variables that
reading can fail on: on what names them, on their paths, and on their content. A name that stands once in a source, whatever its case, is
found by its entry.
-/

namespace BearerRole.Settings

set_option autoImplicit false

variable {files : Files} {environment : Environment} {given : Fields} {fault : Fault}

inductive IsSourceFault : Fault → Prop
  /-- What names the files is no path and no collection of paths. -/
  | unsuitable : IsSourceFault .unsuitable
  /-- A path lies in the home directory of a user that is not known. -/
  | homeless : IsSourceFault (.foreign (text "RuntimeError"))
  /-- A path lies in the home directory of a user whose name cannot be asked for. -/
  | formless : IsSourceFault .unencodable
  | nul : IsSourceFault .badPath
  | tooLong : IsSourceFault .system
  | denied : IsSourceFault .denied
  | undecodable : IsSourceFault .undecodable

theorem source_fault_of_paths {v : Value} (failed : envFilePaths v = .error fault) : IsSourceFault fault := by
  unfold envFilePaths at failed
  split at failed <;> cases failed
  exact .unsuitable

theorem source_fault_of_user {homes : Homes} {user : Text} (failed : homeOf homes environment user = .error fault) :
    IsSourceFault fault := by
  unfold homeOf at failed
  split at failed
  · cases failed
  · rw [map_eq_error_iff, Files.pathBytes] at failed
    split at failed
    · cases failed
      exact .formless
    · split at failed <;> cases failed
      exact .nul

theorem source_fault_of_home {homes : Homes} {path : Text} (failed : homePath homes environment path = .error fault) :
    IsSourceFault fault := by
  unfold homePath at failed
  split at failed
  · cases failed
  split at failed
  · rcases bind_eq_error_iff.mp failed with failed | ⟨home, _, failed⟩
    · exact source_fault_of_user failed
    · cases home with
      | none =>
          cases failed
          exact .homeless
      | some home =>
          dsimp only at failed
          split at failed <;> cases failed
          exact .homeless
  · cases failed

theorem source_fault_of_place {path : Text} (failed : files.contentIfFile path = .error fault) : IsSourceFault fault := by
  unfold Files.contentIfFile at failed
  split at failed
  · cases failed
  · split at failed <;> cases failed
    · exact .denied
    · exact .tooLong
    · exact .denied

theorem source_fault_of_content {content : Bytes} (failed : EnvFile.ofContent environment content = .error fault) :
    IsSourceFault fault := by
  unfold EnvFile.ofContent at failed
  split at failed <;> cases failed
  exact .undecodable

theorem source_fault_of_file {v : Value} (failed : envFileValues files environment v = .error fault) :
    IsSourceFault fault := by
  unfold envFileValues at failed
  split at failed
  · cases failed
    exact .unsuitable
  · rcases bind_eq_error_iff.mp failed with failed | ⟨_, _, failed⟩
    · exact source_fault_of_home failed
    · rcases bind_eq_error_iff.mp failed with failed | ⟨content, _, failed⟩
      · exact source_fault_of_place failed
      · cases content with
        | none => cases failed
        | some content => exact source_fault_of_content failed

def namedFiles (given : Fields) (standardFiles : List Text) : Except Fault (List Value) :=
  match given.get? envFileField with
  | none => .ok (standardFiles.map .text)
  | some v => envFilePaths v

theorem load_eq (files : Files) (environment : Environment) (given : Fields) (standardFiles : List Text) :
    Sources.load files environment given standardFiles = (do
      let paths ← namedFiles given standardFiles
      let values ← paths.mapM (envFileValues files environment)
      .ok ⟨given, environment, values.flatten⟩) := by
  unfold Sources.load namedFiles
  cases given.get? envFileField with
  | none => rfl
  | some v => rfl

theorem source_fault_of_load {standardFiles : List Text}
    (failed : Sources.load files environment given standardFiles = .error fault) : IsSourceFault fault := by
  rw [load_eq] at failed
  rcases bind_eq_error_iff.mp failed with failed | ⟨paths, _, failed⟩
  · unfold namedFiles at failed
    split at failed
    · cases failed
    · exact source_fault_of_paths failed
  · rcases bind_eq_error_iff.mp failed with failed | ⟨values, _, failed⟩
    · obtain ⟨path, _, failed⟩ := mem_of_map_m_eq_error failed
      exact source_fault_of_file failed
    · cases failed

/-- The content of the file of variables in the current directory, if there is one. A locked file is there, but its content is not
told, and in a locked directory nothing is. -/
def standardContent (files : Files) : Except Fault (Option Bytes) :=
  if files.isLocked Files.here then .error .denied
  else
    match files.node? (Files.here ++ [Files.bytesOf ".env"]) with
    | some (.file content) => .ok (some content)
    | some .lockedFile => .error .denied
    | _ => .ok none

theorem content_of_standard (files : Files) :
    files.contentIfFile RoleSettings.envFileName = standardContent files := by
  have written : Files.pathBytes RoleSettings.envFileName = .ok (Files.bytesOf ".env") := rfl
  have short : ¬Files.normalLength (Files.bytesOf ".env") > Files.pathLimit := by decide
  have names : (Files.normalNames (Files.bytesOf ".env")).reverse = [Files.bytesOf ".env"] := by decide
  have start : files.enter (Files.startOf (Files.bytesOf ".env")) [] = .ok Files.here := rfl
  have notDots : Files.bytesOf ".env" ≠ Files.dots := by decide
  have fits : ¬(Files.bytesOf ".env").length > Files.nameLimit := by decide
  unfold Files.contentIfFile Files.find standardContent
  simp only [written, if_neg short, names, List.reverse_nil, start, ok_bind, if_neg notDots, if_neg fits]
  cases files.isLocked Files.here with
  | true => rfl
  | false =>
      simp only [Bool.false_eq_true, if_false]
      cases files.node? (Files.here ++ [Files.bytesOf ".env"]) with
      | none => rfl
      | some node => cases node <;> rfl

theorem denied_of_standard (failed : standardContent files = .error fault) : fault = .denied := by
  unfold standardContent at failed
  split at failed
  · exact (Except.error.inj failed).symm
  · split at failed <;> cases failed
    rfl

theorem load_standard (unnamed : given.get? envFileField = none) :
    Sources.load files environment given [RoleSettings.envFileName] =
      match standardContent files with
      | .error fault => .error fault
      | .ok none => .ok ⟨given, environment, []⟩
      | .ok (some content) =>
          (EnvFile.ofContent environment content).map fun values => ⟨given, environment, values⟩ := by
  have named : namedFiles given [RoleSettings.envFileName] = .ok [.text RoleSettings.envFileName] := by
    rw [namedFiles, unnamed]
    rfl
  have home : homePath files.homes environment RoleSettings.envFileName = .ok RoleSettings.envFileName := rfl
  rw [load_eq, named]
  simp only [envFileValues, List.mapM_cons, List.mapM_nil, Value.asText?, home, ok_bind, content_of_standard]
  cases standardContent files with
  | error fault => rfl
  | ok found =>
      cases found with
      | none => rfl
      | some content =>
          dsimp only [ok_bind]
          cases EnvFile.ofContent environment content with
          | error fault => rfl
          | ok values =>
              show Except.ok (Sources.mk given environment [values].flatten) = _
              rw [List.flatten_singleton]
              rfl

theorem load_standard_eq_error_iff (unnamed : given.get? envFileField = none) :
    Sources.load files environment given [RoleSettings.envFileName] = .error fault ↔
      fault = .denied ∧ standardContent files = .error .denied ∨
        fault = .undecodable ∧ ∃ content, standardContent files = .ok (some content) ∧ Utf8.decode? content = none := by
  rw [load_standard unnamed]
  cases standard : standardContent files with
  | error earlier =>
      cases denied_of_standard standard
      simp [eq_comm]
  | ok found =>
      cases found with
      | none => simp
      | some content =>
          simp only [EnvFile.ofContent, Except.ok.injEq, Option.some.injEq, exists_eq_left']
          cases Utf8.decode? content with
          | none => simp [Except.map, eq_comm]
          | some t => simp [Except.map]

/-- The standard file of variables, where it is there, can be read as UTF-8. -/
def HasReadableStandard (files : Files) : Prop :=
  ∃ found, standardContent files = .ok found ∧ ∀ content, found = some content → (Utf8.decode? content).isSome

theorem load_eq_error_iff :
    RoleSettings.load files environment given = .error fault ↔
      Sources.load files environment given [RoleSettings.envFileName] = .error fault ∨
        ∃ sources errors, Sources.load files environment given [RoleSettings.envFileName] = .ok sources ∧
          RoleSettings.ofSources sources = .error errors ∧ fault = .invalidSettings errors := by
  unfold RoleSettings.load
  cases Sources.load files environment given [RoleSettings.envFileName] with
  | error earlier => simp [error_bind]
  | ok sources =>
      rw [ok_bind]
      cases settled : RoleSettings.ofSources sources with
      | ok settings => simp [settled]
      | error errors => simp [settled, eq_comm]

section

variable {α : Type} {lowerName : Text} {entries : List (Text × α)}

def NamedOnce (lowerName : Text) (entries : List (Text × α)) : Prop :=
  ∀ entry ∈ entries, ∀ other ∈ entries, Text.lower entry.1 = lowerName → Text.lower other.1 = lowerName → entry = other

theorem NamedOnce.reverse (once : NamedOnce lowerName entries) : NamedOnce lowerName entries.reverse := by
  intro entry member other otherMember
  exact once entry (List.mem_reverse.mp member) other (List.mem_reverse.mp otherMember)

theorem named_once_of_distinct (distinct : (entries.map fun entry => Text.lower entry.1).Nodup) : NamedOnce lowerName entries := by
  intro entry member other otherMember named otherNamed
  exact List.inj_on_of_nodup_map distinct member otherMember (named.trans otherNamed.symm)

theorem find_eq_some_iff (once : NamedOnce lowerName entries) {entry : Text × α} :
    entries.find? (fun other => Text.lower other.1 == lowerName) = some entry ↔ entry ∈ entries ∧ Text.lower entry.1 = lowerName := by
  constructor
  · intro found
    have named := List.find?_some found
    exact ⟨List.mem_of_find?_eq_some found, beq_iff_eq.mp named⟩
  · rintro ⟨member, named⟩
    cases found : entries.find? fun other => Text.lower other.1 == lowerName with
    | none => exact absurd (beq_iff_eq.mpr named) (List.find?_eq_none.mp found entry member)
    | some other =>
        have otherNamed := List.find?_some found
        rw [once entry member other (List.mem_of_find?_eq_some found) named (beq_iff_eq.mp otherNamed)]

end

end BearerRole.Settings
