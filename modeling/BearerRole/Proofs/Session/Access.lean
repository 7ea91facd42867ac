import BearerRole.Proofs.Session.Run

/-!
What a step can do. A shelf is one cache of a session with the steps that ask it, and every such step is described by
what the shelf gives: an object, which the step then uses and leaves kept, or the failure to read one. A step that neither
asks nor clears leaves the caches alone.
-/

namespace BearerRole.Session

set_option autoImplicit false

open Settings (RoleSettings LogSettings)

/-- A cache of a session: what it keeps, what is read when it keeps nothing, the steps that ask it, and of these the
one that shows what it is given. -/
structure Shelf (α : Type) where
  kept : Session → Option (Cached α)
  read : Session → Except Fault α
  asks : Step → Bool
  display : Step
  shown : α → Option Nat → StepResult

def Shelf.given {α : Type} (shelf : Shelf α) (s : Session) : Except Fault (Cached α) :=
  Cached.ofCache (shelf.kept s) s.fresh (shelf.read s)

/-- Settings of the role extractor are asked for by showing them and by building without settings of one's own. -/
def roleShelf : Shelf RoleSettings where
  kept s := s.roleCache
  read s := RoleSettings.load s.files s.environment []
  asks
    | .showSettings | .buildFromCache => true
    | _ => false
  display := .showSettings
  shown := .settings

def logShelf : Shelf LogSettings where
  kept s := s.logCache
  read s := LogSettings.load s.files s.environment []
  asks
    | .showLogSettings => true
    | _ => false
  display := .showLogSettings
  shown := .logSettings

def keepRole (s : Session) (object : Cached RoleSettings) : Session :=
  { s with roleCache := some object, fresh := s.fresh + 1 }

def keepLog (s : Session) (object : Cached LogSettings) : Session :=
  { s with logCache := some object, fresh := s.fresh + 1 }

section

variable {s : Session} {fault : Fault}

theorem show_settings_of_given {object : Cached RoleSettings} (given : roleShelf.given s = .ok object) :
    s.step .showSettings =
      done { (s.keepRole object).enlist object.identity with lastSettings := some object.value }
        (.settings object.value (some (((s.keepRole object).enlist object.identity).number object.identity))) := by
  have access : s.cachedSettings = .ok (object, s.keepRole object) := ask_eq_ok_iff.mpr ⟨given, rfl⟩
  show s.showSettings = _
  unfold showSettings
  rw [access]

theorem build_from_cache_of_given {object : Cached RoleSettings} (given : roleShelf.given s = .ok object) :
    s.step .buildFromCache = (s.keepRole object).keep (TokenExtractor.build s.files object.value) := by
  have access : s.cachedSettings = .ok (object, s.keepRole object) := ask_eq_ok_iff.mpr ⟨given, rfl⟩
  unfold step
  rw [access]
  rfl

theorem show_log_settings_of_given {object : Cached LogSettings} (given : logShelf.given s = .ok object) :
    s.step .showLogSettings =
      ((s.keepLog object).enlist object.identity).done
        (.logSettings object.value (some (((s.keepLog object).enlist object.identity).number object.identity))) := by
  have access : s.cachedLogSettings = .ok (object, s.keepLog object) := ask_eq_ok_iff.mpr ⟨given, rfl⟩
  show s.showLogSettings = _
  unfold showLogSettings
  rw [access]

theorem role_step_refused {step : Step} (asks : roleShelf.asks step = true)
    (refused : roleShelf.given s = .error fault) : s.step step = s.failed fault := by
  have access : s.cachedSettings = .error fault := ask_of_error refused
  cases step with
  | showSettings =>
      show s.showSettings = _
      unfold showSettings
      rw [access]
  | buildFromCache =>
      unfold Session.step
      rw [access]
  | _ => cases asks

theorem log_step_refused {step : Step} (asks : logShelf.asks step = true)
    (refused : logShelf.given s = .error fault) : s.step step = s.failed fault := by
  have access : s.cachedLogSettings = .error fault := ask_of_error refused
  cases step with
  | showLogSettings =>
      show s.showLogSettings = _
      unfold showLogSettings
      rw [access]
  | _ => cases asks

end

def host (s : Session) : Host := ⟨s.files, s.environment, s.roleCache.map Cached.value⟩

theorem host_settings (s : Session) : s.host.settingsInEffect none = (roleShelf.given s).map Cached.value := by
  simp only [Host.settingsInEffect, host, Shelf.given, roleShelf]
  cases s.roleCache with
  | some cached => rfl
  | none =>
      cases RoleSettings.load s.files s.environment [] with
      | ok settings => rfl
      | error fault => rfl

theorem keep_outcome (s : Session) (built : Logged (Except Fault TokenExtractor)) :
    (s.keep built).2 = built.map fun result => result.map .extractor := by
  unfold keep Logged.map
  cases built.value with
  | ok extractor => rfl
  | error fault => rfl

theorem build_from_cache (s : Session) :
    (s.step .buildFromCache).2 = (s.host.newExtractor none).map fun result => result.map .extractor := by
  unfold Host.newExtractor
  rw [host_settings]
  cases given : roleShelf.given s with
  | error fault =>
      rw [role_step_refused rfl given]
      rfl
  | ok object =>
      rw [build_from_cache_of_given given, keep_outcome]
      rfl

def built? (outcome : Outcome) : Option TokenExtractor :=
  match outcome.value with
  | .ok (.extractor extractor) => some extractor
  | _ => none

/-- Files, variables and the last settings may be others afterwards; more objects may have been shown, and the extractor is
another if one is reported. -/
structure LeavesCaches (s : Session) (result : Session × Outcome) : Prop where
  roleCache : result.1.roleCache = s.roleCache
  logCache : result.1.logCache = s.logCache
  fresh : result.1.fresh = s.fresh
  shown : s.shown <+: result.1.shown
  extractor : result.1.extractor = (built? result.2).or s.extractor

theorem failed_leaves (s : Session) (fault : Fault) : s.LeavesCaches (s.failed fault) :=
  ⟨rfl, rfl, rfl, List.prefix_rfl, rfl⟩

theorem keep_leaves (s : Session) (built : Logged (Except Fault TokenExtractor)) : s.LeavesCaches (s.keep built) := by
  unfold keep
  cases built.value with
  | ok extractor => exact ⟨rfl, rfl, rfl, List.prefix_rfl, rfl⟩
  | error fault => exact ⟨rfl, rfl, rfl, List.prefix_rfl, rfl⟩

theorem shown_enlist (s : Session) (identity : Nat) : s.shown <+: (s.enlist identity).shown := by
  show s.shown <+: if s.shown.contains identity then s.shown else s.shown ++ [identity]
  split
  · exact List.prefix_rfl
  · exact List.prefix_append _ _

theorem role_step_given {s : Session} {step : Step} {object : Cached RoleSettings}
    (asks : roleShelf.asks step = true) (given : roleShelf.given s = .ok object) :
    (s.keepRole object).LeavesCaches (s.step step) := by
  cases step with
  | showSettings =>
      rw [show_settings_of_given given]
      exact ⟨rfl, rfl, rfl, (s.keepRole object).shown_enlist _, rfl⟩
  | buildFromCache =>
      rw [build_from_cache_of_given given]
      exact (s.keepRole object).keep_leaves _
  | _ => cases asks

theorem log_step_given {s : Session} {step : Step} {object : Cached LogSettings}
    (asks : logShelf.asks step = true) (given : logShelf.given s = .ok object) :
    (s.keepLog object).LeavesCaches (s.step step) := by
  cases step with
  | showLogSettings =>
      rw [show_log_settings_of_given given]
      exact ⟨rfl, rfl, rfl, (s.keepLog object).shown_enlist _, rfl⟩
  | _ => cases asks

theorem other_step_leaves (s : Session) {step : Step} (role : roleShelf.asks step = false)
    (log : logShelf.asks step = false) (clears : step ≠ .clearCaches) : s.LeavesCaches (s.step step) := by
  cases step with
  | setVariable name value =>
      simp only [Session.step]
      cases s.environment.set name value with
      | ok environment => exact ⟨rfl, rfl, rfl, List.prefix_rfl, rfl⟩
      | error fault => exact s.failed_leaves fault
  | unsetVariable name =>
      simp only [Session.step]
      cases s.environment.unset name with
      | ok environment => exact ⟨rfl, rfl, rfl, List.prefix_rfl, rfl⟩
      | error fault => exact s.failed_leaves fault
  | writeFile path entry =>
      simp only [Session.step]
      cases s.files.add path entry with
      | ok files => exact ⟨rfl, rfl, rfl, List.prefix_rfl, rfl⟩
      | error fault => exact s.failed_leaves fault
  | removeFile path =>
      simp only [Session.step]
      cases s.files.remove path with
      | ok files => exact ⟨rfl, rfl, rfl, List.prefix_rfl, rfl⟩
      | error fault => exact s.failed_leaves fault
  | clearCaches => exact absurd rfl clears
  | showSettings => cases role
  | makeSettings given =>
      simp only [Session.step]
      cases RoleSettings.load s.files s.environment given with
      | ok settings => exact ⟨rfl, rfl, rfl, List.prefix_rfl, rfl⟩
      | error fault => exact s.failed_leaves fault
  | assignSettings field =>
      simp only [Session.step]
      cases s.lastSettings with
      | none => exact s.failed_leaves .noSettings
      | some settings =>
          cases assignment field with
          | ok _ => exact ⟨rfl, rfl, rfl, List.prefix_rfl, rfl⟩
          | error fault => exact s.failed_leaves fault
  | buildFromLast =>
      simp only [Session.step]
      cases s.lastSettings with
      | none => exact s.failed_leaves .noSettings
      | some settings => exact s.keep_leaves _
  | buildFromCache => cases role
  | buildStub answer verified claimPath operatorValue =>
      simp only [Session.step]
      exact s.keep_leaves _
  | assignExtractor field =>
      simp only [Session.step]
      cases s.extractor with
      | none => exact s.failed_leaves .noExtractor
      | some extractor => exact s.failed_leaves _
  | call headers now =>
      simp only [Session.step]
      cases s.extractor with
      | none => exact s.failed_leaves .noExtractor
      | some extractor => exact ⟨rfl, rfl, rfl, List.prefix_rfl, rfl⟩
  | loadKey path =>
      have unbuilt : built? (s.step (.loadKey path)).2 = none := by
        simp only [Session.step, built?, Logged.map]
        cases (Key.load s.files path).value with
        | ok key => rfl
        | error fault => rfl
      refine ⟨rfl, rfl, rfl, List.prefix_rfl, ?_⟩
      rw [unbuilt]
      rfl
  | showLogSettings => cases log
  | makeLogSettings given =>
      simp only [Session.step]
      cases LogSettings.load s.files s.environment given with
      | ok settings => exact ⟨rfl, rfl, rfl, List.prefix_rfl, rfl⟩
      | error fault => exact s.failed_leaves fault

/-- What a step other than a clearing does: it leaves the caches alone, or it keeps an object that it was given. -/
theorem step_leaves (s : Session) {step : Step} (clears : step ≠ .clearCaches) :
    s.LeavesCaches (s.step step) ∨
      (∃ object, roleShelf.asks step = true ∧ (s.keepRole object).LeavesCaches (s.step step)) ∨
      ∃ object, logShelf.asks step = true ∧ (s.keepLog object).LeavesCaches (s.step step) := by
  cases role : roleShelf.asks step with
  | true =>
      cases given : roleShelf.given s with
      | error fault =>
          rw [role_step_refused role given]
          exact Or.inl (s.failed_leaves fault)
      | ok object => exact Or.inr (Or.inl ⟨object, rfl, role_step_given role given⟩)
  | false =>
      cases log : logShelf.asks step with
      | true =>
          cases given : logShelf.given s with
          | error fault =>
              rw [log_step_refused log given]
              exact Or.inl (s.failed_leaves fault)
          | ok object => exact Or.inr (Or.inr ⟨object, rfl, log_step_given log given⟩)
      | false => exact Or.inl (s.other_step_leaves role log clears)

end BearerRole.Session
