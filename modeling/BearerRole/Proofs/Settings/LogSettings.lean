import BearerRole.Proofs.Settings.NormalForm
import BearerRole.Settings.LogSettings

/-!
Settings of the log output are canonical. A level goes by its first name once it is accepted, so that its number is always found,
and settings are made again of their own fields in any environment. A text is accepted for a level by its trimmed form in
capitals alone.
-/

namespace BearerRole.Settings

set_option autoImplicit false

namespace LogLevel

def secondNames : List (Text × Text) := [(text "WARN", text "WARNING"), (text "FATAL", text "CRITICAL")]

def firstName (t : Text) : Text := (secondNames.lookup t).getD t

/-- A name that is registered, and not the one below all levels. -/
def IsLevelName (t : Text) : Prop := t ∈ registered.map Prod.fst ∧ t ≠ text "NOTSET"

theorem first_name_cases (t : Text) :
    (t = text "WARN" ∧ firstName t = text "WARNING") ∨ (t = text "FATAL" ∧ firstName t = text "CRITICAL") ∨
      (t ≠ text "WARN" ∧ t ≠ text "FATAL" ∧ firstName t = t) := by
  by_cases warn : t = text "WARN"
  · subst warn
    exact .inl ⟨rfl, rfl⟩
  · by_cases fatal : t = text "FATAL"
    · subst fatal
      exact .inr (.inl ⟨rfl, rfl⟩)
    · have none : secondNames.lookup t = none := by
        rw [List.lookup_eq_none_iff]
        simp [secondNames, warn, fatal]
      refine .inr (.inr ⟨warn, fatal, ?_⟩)
      rw [firstName, none]
      rfl

theorem find_name_eq_some_iff {t : Text} {level : LogLevel} : all.find? (·.name == t) = some level ↔ level.name = t := by
  constructor
  · intro found
    have named := List.find?_some found
    exact beq_iff_eq.mp named
  · rintro rfl
    cases level <;> rfl

theorem of_name_eq_some_iff {t : Text} {level : LogLevel} : ofName? t = some level ↔ level.name = firstName t := by
  rcases first_name_cases t with ⟨rfl, first⟩ | ⟨rfl, first⟩ | ⟨notWarn, notFatal, first⟩
  · rw [first]
    cases level <;> decide
  · rw [first]
    cases level <;> decide
  · rw [ofName?, if_neg notWarn, if_neg notFatal, find_name_eq_some_iff, first]

/-- The test that the table of registered names makes of a first name is passed by seven names. -/
theorem level_name_iff {t : Text} :
    IsLevelName (firstName t) ↔ t ∈ [text "CRITICAL", text "ERROR", text "WARNING", text "INFO", text "DEBUG", text "WARN", text "FATAL"] := by
  rcases first_name_cases t with ⟨rfl, first⟩ | ⟨rfl, first⟩ | ⟨notWarn, notFatal, first⟩
  · rw [first, IsLevelName]
    decide
  · rw [first, IsLevelName]
    decide
  · rw [first]
    constructor
    · rintro ⟨member, notLowest⟩
      simp only [registered, List.map_cons, List.map_nil, List.mem_cons, List.not_mem_nil, or_false] at member
      rcases member with rfl | rfl | rfl | rfl | rfl | rfl | rfl | rfl
      · decide
      · exact absurd rfl notFatal
      · decide
      · exact absurd rfl notWarn
      · decide
      · decide
      · decide
      · exact absurd rfl notLowest
    · intro member
      simp only [List.mem_cons, List.not_mem_nil, notWarn, notFatal, or_false] at member
      rcases member with rfl | rfl | rfl | rfl | rfl <;> exact ⟨by decide, by decide⟩

theorem exists_level_iff {t : Text} : (∃ level, ofName? t = some level) ↔ IsLevelName (firstName t) := by
  simp only [of_name_eq_some_iff]
  constructor
  · rintro ⟨level, named⟩
    rw [← named]
    cases level <;> exact ⟨by decide, by decide⟩
  · intro passes
    have member := level_name_iff.mp passes
    simp only [List.mem_cons, List.not_mem_nil, or_false] at member
    rcases member with rfl | rfl | rfl | rfl | rfl | rfl | rfl
    · exact ⟨critical, rfl⟩
    · exact ⟨error, rfl⟩
    · exact ⟨warning, rfl⟩
    · exact ⟨info, rfl⟩
    · exact ⟨debug, rfl⟩
    · exact ⟨warning, rfl⟩
    · exact ⟨critical, rfl⟩

theorem eq_of_name {level other : LogLevel} (same : level.name = other.name) : level = other := by
  have found : all.find? (·.name == other.name) = some level := find_name_eq_some_iff.mpr same
  rw [find_name_eq_some_iff.mpr rfl] at found
  exact (Option.some.inj found).symm

end LogLevel

namespace LogSettings

variable {files : Files} {environment : Environment} {given : Fields} {sources : Sources} {field : Field} {location t : Text} {v : Value}

theorem level_of_text (is : v.asText? = some t) {level : LogLevel} :
    levelOf v = .ok level ↔ LogLevel.ofName? (Text.upper (Text.trim t)) = some level := by
  have trims : trimmed v = .text (Text.trim t) := by rw [trimmed, is]
  rw [levelOf, trims, text_of_text rfl, ok_bind]
  cases LogLevel.ofName? (Text.upper (Text.trim t)) <;> simp

theorem level_of_name (level : LogLevel) : levelOf (.text level.name) = .ok level := by
  rw [level_of_text rfl]
  cases level <;> decide +kernel

theorem format_of_name (format : LogFormat) : formatOf (.text format.name) = .ok format := by
  have named : LogFormat.ofName? (Text.lower (Text.trim format.name)) = some format := by cases format <;> decide +kernel
  rw [formatOf, Value.asText?, Option.bind_some, named]

def Field.names (field : Field) : List Text := [field.name, field.alternate]

theorem Field.location_of_find (found : field.find? sources = some (location, v)) : location ∈ field.names := by
  unfold find? at found
  split at found
  · cases found
    split
    · exact List.mem_cons_self
    · exact List.mem_cons_of_mem _ List.mem_cons_self
  · obtain ⟨_, _, same⟩ := Option.map_eq_some_iff.mp found
    cases same
    exact List.mem_cons_of_mem _ List.mem_cons_self

section

variable {α : Type} {default : α} {check : Value → Except Violation α}

theorem Field.location_of_check : (field.check sources default check).1 ∈ field.names := by
  unfold Field.check
  split
  · exact List.mem_cons_of_mem _ List.mem_cons_self
  · next found => exact location_of_find found

theorem Field.check_of_find (found : field.find? sources = some (location, v)) :
    field.check sources default check = (location, check v) := by
  rw [Field.check, found]

end

theorem Field.find_of_given (distinct : (sources.given.map fun entry => Text.lower entry.1).Nodup) {entry : Text × Value}
    (member : entry ∈ sources.given) (named : Text.lower entry.1 = field.name) :
    ∃ location, field.find? sources = some (location, entry.2) := by
  have found : sources.given? field.name = some entry.2 := by
    rw [Sources.given?, ← named, RoleSettings.find_of_mem distinct member]
    rfl
  rw [Field.find?, found]
  exact ⟨_, rfl⟩

theorem mem_errors_of_iff {α : Type} {checked : Except Violation α} {e : FieldError} :
    e ∈ errorsOf location checked ↔ ∃ violation, checked = .error violation ∧ e = violation.at location := by
  cases checked <;> simp [errorsOf]

/-- Settings are refused for this field, and perhaps for others too. -/
def RefusedFor (field : Field) (made : Except Fault LogSettings) : Prop :=
  ∃ errors, made = .error (.invalidSettings errors) ∧ ∃ e ∈ errors, ∃ name ∈ field.names, e.location = [name]

theorem load_of_sources (loaded : Sources.load files environment given [] = .ok sources) :
    load files environment given = (ofSources sources).mapError .invalidSettings := by
  rw [load, loaded, ok_bind]
  cases ofSources sources <;> rfl

theorem level_names_apart : ∀ name ∈ levelField.names, name ∉ formatField.names ∧ name ∉ environmentField.names := by decide

theorem refused_for_level_iff (loaded : Sources.load files environment given [] = .ok sources) :
    RefusedFor levelField (load files environment given) ↔
      ∃ violation, (levelField.check sources .info levelOf).2 = .error violation := by
  have levelAt : (levelField.check sources .info levelOf).1 ∈ levelField.names := Field.location_of_check
  have formatAt : (formatField.check sources .auto formatOf).1 ∈ formatField.names := Field.location_of_check
  have environmentAt : (environmentField.check sources (text "development") textOf).1 ∈ environmentField.names :=
    Field.location_of_check
  rw [load_of_sources loaded, ofSources]
  constructor
  · rintro ⟨errors, failed, e, member, name, named, location⟩
    split at failed
    · cases failed
    · cases failed
      rw [List.mem_append, List.mem_append, mem_errors_of_iff, mem_errors_of_iff, mem_errors_of_iff] at member
      obtain ⟨notFormat, notEnvironment⟩ := level_names_apart name named
      rcases member with (⟨violation, refused, _⟩ | ⟨violation, _, rfl⟩) | ⟨violation, _, rfl⟩
      · exact ⟨violation, refused⟩
      · cases location
        exact absurd formatAt notFormat
      · cases location
        exact absurd environmentAt notEnvironment
  · rintro ⟨violation, refused⟩
    split
    · next passed _ _ =>
        rw [refused] at passed
        cases passed
    · refine ⟨_, rfl, violation.at (levelField.check sources .info levelOf).1, ?_, _, levelAt, rfl⟩
      exact List.mem_append_left _ (List.mem_append_left _ (mem_errors_of_iff.mpr ⟨violation, refused, rfl⟩))

theorem level_of_load {s : LogSettings} (loaded : Sources.load files environment given [] = .ok sources)
    (made : load files environment given = .ok s) : (levelField.check sources .info levelOf).2 = .ok s.level := by
  rw [load_of_sources loaded, ofSources] at made
  split at made
  · next level _ _ passed _ _ =>
      cases made
      exact passed
  · cases made

def IsWritten (s : LogSettings) (fields : Fields) : Prop :=
  ∃ level ∈ levelField.names, ∃ format ∈ formatField.names, ∃ environment ∈ environmentField.names,
    fields = [(level, .text s.level.name), (format, .text s.format.name), (environment, .text s.environment)]

theorem lower_names : ∀ field ∈ [levelField, formatField, environmentField], ∀ name ∈ field.names, Text.lower name = field.name := by
  decide +kernel

theorem load_without_files (unnamed : given.get? envFileField = none) :
    Sources.load files environment given [] = .ok ⟨given, environment, []⟩ := by
  rw [load_eq, namedFiles, unnamed]
  rfl

theorem load_of_written {s : LogSettings} {fields : Fields} (written : s.IsWritten fields) (files : Files)
    (environment : Environment) : load files environment fields = .ok s := by
  obtain ⟨level, levelNamed, format, formatNamed, setting, settingNamed, rfl⟩ := written
  let sources : Sources :=
    ⟨[(level, .text s.level.name), (format, .text s.format.name), (setting, .text s.environment)], environment, []⟩
  have lowerLevel : Text.lower level = levelField.name := lower_names levelField (by simp) level levelNamed
  have lowerFormat : Text.lower format = formatField.name := lower_names formatField (by simp) format formatNamed
  have lowerSetting : Text.lower setting = environmentField.name := lower_names environmentField (by simp) setting settingNamed
  have lower : sources.given.map (fun entry => Text.lower entry.1) = [levelField.name, formatField.name, environmentField.name] := by
    simp only [sources, List.map_cons, List.map_nil, lowerLevel, lowerFormat, lowerSetting]
  have distinct : (sources.given.map fun entry => Text.lower entry.1).Nodup := by
    rw [lower]
    decide
  have unnamed : sources.given.get? envFileField = none := by
    rw [Fields.get?, List.lookup_eq_none_iff]
    intro entry member
    rw [bne_iff_ne]
    intro same
    have among : Text.lower entry.1 ∈ sources.given.map fun entry => Text.lower entry.1 := List.mem_map_of_mem member
    rw [lower, ← same] at among
    revert among
    decide +kernel
  have levelGiven : (level, .text s.level.name) ∈ sources.given := List.mem_cons_self
  have formatGiven : (format, .text s.format.name) ∈ sources.given := List.mem_cons_of_mem _ List.mem_cons_self
  have settingGiven : (setting, .text s.environment) ∈ sources.given :=
    List.mem_cons_of_mem _ (List.mem_cons_of_mem _ List.mem_cons_self)
  obtain ⟨_, foundLevel⟩ := Field.find_of_given distinct levelGiven lowerLevel
  obtain ⟨_, foundFormat⟩ := Field.find_of_given distinct formatGiven lowerFormat
  obtain ⟨_, foundSetting⟩ := Field.find_of_given distinct settingGiven lowerSetting
  have loaded : Sources.load files environment sources.given [] = .ok sources := load_without_files unnamed
  rw [load_of_sources loaded, ofSources, Field.check_of_find foundLevel, Field.check_of_find foundFormat,
    Field.check_of_find foundSetting, level_of_name, format_of_name, text_of_text rfl]
  rfl

structure IsCanonical (s : LogSettings) : Prop where
  level : s.level.name ∈ [text "CRITICAL", text "ERROR", text "WARNING", text "INFO", text "DEBUG"]
  number : ∃ n, s.levelNumber? = some n ∧ 0 < n
  format : s.format.name ∈ [text "auto", text "json", text "console"]

theorem is_canonical (s : LogSettings) : s.IsCanonical where
  level := by cases s.level <;> decide
  number := by
    rw [levelNumber?]
    cases s.level
    · exact ⟨_, rfl, by decide⟩
    · exact ⟨_, rfl, by decide⟩
    · exact ⟨_, rfl, by decide⟩
    · exact ⟨_, rfl, by decide⟩
    · exact ⟨_, rfl, by decide⟩
  format := by cases s.format <;> decide

def HasLevelText (files : Files) (environment : Environment) (given : Fields) (t : Text) : Prop :=
  ∃ sources location v, Sources.load files environment given [] = .ok sources ∧
    levelField.find? sources = some (location, v) ∧ v.asText? = some t

theorem level_text_accepted_iff (has : HasLevelText files environment given t) :
    ¬RefusedFor levelField (load files environment given) ↔
      Text.upper (Text.trim t) ∈
        [text "CRITICAL", text "ERROR", text "WARNING", text "INFO", text "DEBUG", text "WARN", text "FATAL"] := by
  obtain ⟨sources, location, v, loaded, found, is⟩ := has
  rw [refused_for_level_iff loaded, Field.check_of_find found, ← LogLevel.level_name_iff, ← LogLevel.exists_level_iff]
  simp only [← level_of_text is]
  cases levelOf v <;> simp

theorem level_named_of_text {s : LogSettings} (has : HasLevelText files environment given t)
    (made : load files environment given = .ok s) : s.level.name = LogLevel.firstName (Text.upper (Text.trim t)) := by
  obtain ⟨sources, location, v, loaded, found, is⟩ := has
  have passed := level_of_load loaded made
  rw [Field.check_of_find found] at passed
  exact LogLevel.of_name_eq_some_iff.mp ((level_of_text is).mp passed)

/-- Settings of the log output have a level by its first name, whose number is found and positive, and a format that is one of three;
and they are made again of their fields under either name, in any environment. A text for the level is accepted exactly when
it is one of the five names of levels or the two second names, once it is trimmed and in capitals. It gives the level that has the first
name for it, so that texts that are then the same give the same level. -/
theorem log_settings_canonical :
    (∀ files environment given s, load files environment given = .ok s → s.IsCanonical ∧
        ∀ fields, s.IsWritten fields → ∀ files' environment', load files' environment' fields = .ok s) ∧
      (∀ files environment given t, HasLevelText files environment given t →
        (¬RefusedFor levelField (load files environment given) ↔
          Text.upper (Text.trim t) ∈
            [text "CRITICAL", text "ERROR", text "WARNING", text "INFO", text "DEBUG", text "WARN", text "FATAL"]) ∧
        ∀ s, load files environment given = .ok s → s.level.name = LogLevel.firstName (Text.upper (Text.trim t))) ∧
      ∀ files environment given t files' environment' given' t', HasLevelText files environment given t →
        HasLevelText files' environment' given' t' → Text.upper (Text.trim t) = Text.upper (Text.trim t') →
          ∀ s s', load files environment given = .ok s → load files' environment' given' = .ok s' → s.level = s'.level := by
  refine ⟨?_, ?_, ?_⟩
  · intro files environment given s _
    exact ⟨is_canonical s, fun fields written files' environment' => load_of_written written files' environment'⟩
  · intro files environment given t has
    exact ⟨level_text_accepted_iff has, fun s made => level_named_of_text has made⟩
  · intro files environment given t files' environment' given' t' has has' same s s' made made'
    apply LogLevel.eq_of_name
    rw [level_named_of_text has made, level_named_of_text has' made', same]

/-- The capital of a dotless `i` is an `I`; that of a long `s` is an `S`, but the name below all levels is none to set. -/
theorem dotless_level_made_again :
    let environment : Environment := [(text "log_level", text "DEBUG"), (text "Environment", text "Production")]
    let dotless : Fields := [(text "log_level", .ofText " \u0131nfo"), (text "LOG_FORMAT", .ofText " JSON ")]
    let capitals : Fields := [(text "LOG_LEVEL", .ofText "INFO\t")]
    let lowest : Fields := [(text "log_level", .ofText "not\u017Fet")]
    let s : LogSettings := ⟨.info, .json, text "Production"⟩
    load Files.empty environment dotless = .ok s ∧ s.IsCanonical ∧
      load Files.empty environment [(text "LOG_LEVEL", .ofText "INFO"), (text "log_format", .ofText "json"),
        (text "ENVIRONMENT", .ofText "Production")] = .ok s ∧
      HasLevelText Files.empty environment dotless (text " \u0131nfo") ∧ HasLevelText Files.empty [] capitals (text "INFO\t") ∧
      HasLevelText Files.empty [] lowest (text "not\u017Fet") ∧
      ¬RefusedFor levelField (load Files.empty environment dotless) ∧ RefusedFor levelField (load Files.empty [] lowest) ∧
      ∀ s', load Files.empty [] capitals = .ok s' → s.level = s'.level := by
  intro environment dotless capitals lowest s
  obtain ⟨again, accepted, alike⟩ := log_settings_canonical
  have loaded : load Files.empty environment dotless = .ok s := rfl
  have dotlessText : HasLevelText Files.empty environment dotless (text " \u0131nfo") :=
    ⟨⟨dotless, environment, []⟩, text "log_level", .ofText " \u0131nfo", rfl, rfl, rfl⟩
  have capitalsText : HasLevelText Files.empty [] capitals (text "INFO\t") :=
    ⟨⟨capitals, [], []⟩, text "LOG_LEVEL", .ofText "INFO\t", rfl, rfl, rfl⟩
  have lowestText : HasLevelText Files.empty [] lowest (text "not\u017Fet") :=
    ⟨⟨lowest, [], []⟩, text "log_level", .ofText "not\u017Fet", rfl, rfl, rfl⟩
  obtain ⟨canonical, made⟩ := again Files.empty environment dotless s loaded
  have written : s.IsWritten [(text "LOG_LEVEL", .ofText "INFO"), (text "log_format", .ofText "json"),
      (text "ENVIRONMENT", .ofText "Production")] :=
    ⟨text "LOG_LEVEL", by decide, text "log_format", by decide, text "ENVIRONMENT", by decide, rfl⟩
  refine ⟨loaded, canonical, made _ written Files.empty environment, dotlessText, capitalsText, lowestText, ?_, ?_, ?_⟩
  · exact (accepted _ _ _ _ dotlessText).1.mpr (by decide +kernel)
  · by_contra notRefused
    exact absurd ((accepted _ _ _ _ lowestText).1.mp notRefused) (by decide +kernel)
  · intro s' loaded'
    exact alike _ _ _ _ _ _ _ _ dotlessText capitalsText (by decide +kernel) s s' loaded loaded'

end LogSettings

end BearerRole.Settings
