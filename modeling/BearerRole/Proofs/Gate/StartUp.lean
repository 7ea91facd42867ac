import BearerRole.Gate.App
import BearerRole.Proofs.Construction
import BearerRole.Proofs.Partial

/-!
Setting up an app. The extractor is built before anything is wired, so a set-up that fails has changed nothing, and one
that succeeds has wired what its settings ask for: with a key path an extractor that verifies by that key.
-/

namespace BearerRole.Gate

set_option autoImplicit false

open Settings (RoleSettings)
open TokenExtractor (trustingRecord)

/-- What a new extractor may be under settings in effect. A key path makes it verify by the key of that file or not be
at all, with no word of trust in the log; without one it trusts, whatever the files. -/
structure IsFaithful (files : Files) (effective : Except Fault RoleSettings)
    (built : Logged (Except Fault TokenExtractor)) : Prop where
  unsettled : ∀ fault, effective = .error fault → built = .pure (.error fault)
  verifying : ∀ settings path, effective = .ok settings → settings.publicKeyPath = some path →
    (∀ record ∈ built.records, record.event ≠ trustingRecord.event) ∧
      ((∃ fault, (Key.load files path).value = .error fault ∧ built.value = .error fault) ∨
        ∃ key, (Key.load files path).value = .ok key ∧
          built.value = .ok ⟨.verifying key settings.expectations, .text settings.claimPath,
            .text settings.operatorValue⟩)
  trusting : ∀ settings, effective = .ok settings → settings.publicKeyPath = none →
    built.value = .ok ⟨.trusting settings.expectations, .text settings.claimPath,
      .text settings.operatorValue⟩ ∧
        built.records = [trustingRecord] ∧ ∀ other, TokenExtractor.build other settings = built

/-- What a set-up comes to: a failure to build is passed on and leaves the app as it was; what was built is wired, which
has an outcome of its own. The log of the set-up adds no word of trust to that of the building. -/
structure SetsUp (built : Logged (Except Fault TokenExtractor)) (app : App) (outcome : Except Fault Unit)
    (wired : TokenExtractor → App) (result : Logged (Except Fault Unit) × App) : Prop where
  failed : ∀ fault, built.value = .error fault → result.1.value = .error fault ∧ result.2 = app
  succeeded : ∀ extractor, built.value = .ok extractor →
    result.1.value = outcome ∧ result.2 = wired extractor
  records : ∃ more, result.1.records = built.records ++ more ∧
    ∀ record ∈ more, record.event ≠ trustingRecord.event

theorem build_faithful (files : Files) (settings : RoleSettings) :
    IsFaithful files (.ok settings) (TokenExtractor.build files settings) where
  unsettled := by
    intro fault failed
    cases failed
  verifying := by
    intro _ path same configured
    cases same
    refine ⟨fun record member => TokenExtractor.event_of_build configured member, ?_⟩
    cases loaded : (Key.load files path).value with
    | error fault => exact .inl ⟨fault, rfl, TokenExtractor.build_failed configured loaded⟩
    | ok key => exact .inr ⟨key, rfl, TokenExtractor.build_verifying configured loaded⟩
  trusting := by
    intro _ same unset
    cases same
    rw [TokenExtractor.build_trusting files unset]
    exact ⟨rfl, rfl, fun other => TokenExtractor.build_trusting other unset⟩

theorem new_extractor_faithful (host : Host) (given : Option RoleSettings) :
    IsFaithful host.files (host.settingsInEffect given) (host.newExtractor given) := by
  unfold Host.newExtractor
  cases host.settingsInEffect given with
  | ok settings => exact build_faithful host.files settings
  | error fault =>
      constructor
      · intro _ same
        cases same
        rfl
      · intro _ _ same
        cases same
      · intro _ same
        cases same

section

variable {host : Host} {settings : Option RoleSettings} {fault : Fault} {extractor : TokenExtractor}

theorem install_of_error (app : App) (failed : (host.newExtractor settings).value = .error fault) :
    install host none settings app =
      (⟨.error fault, (host.newExtractor settings).records⟩, app) := by
  simp only [install, installedExtractor, Logged.map, failed]
  rfl

theorem install_of_ok (app : App) (built : (host.newExtractor settings).value = .ok extractor) :
    install host none settings app =
      (⟨(app.wire ⟨.token extractor, true⟩).1, (host.newExtractor settings).records⟩,
        (app.wire ⟨.token extractor, true⟩).2) := by
  simp only [install, installedExtractor, Logged.map, built]
  rfl

theorem start_up_of_error (app : App) (failed : (host.newExtractor none).value = .error fault) :
    startUp host app =
      (⟨.error fault, (host.newExtractor none).records⟩, app) := by
  simp only [startUp, failed]

theorem start_up_of_ok (app : App) (built : (host.newExtractor none).value = .ok extractor) :
    startUp host app =
      (⟨.ok (), (host.newExtractor none).records ++ [readyRecord extractor]⟩,
        { app with held := some (.token extractor) }) := by
  simp only [startUp, built]

end

theorem install_sets_up (host : Host) (settings : Option RoleSettings) {app : App} {outcome : Except Fault Unit}
    {wired : TokenExtractor → App}
    (wires : ∀ extractor, app.wire ⟨.token extractor, true⟩ = (outcome, wired extractor)) :
    SetsUp (host.newExtractor settings) app outcome wired (install host none settings app) where
  failed := by
    intro fault failed
    rw [install_of_error app failed]
    exact ⟨rfl, rfl⟩
  succeeded := by
    intro extractor built
    rw [install_of_ok app built, wires]
    exact ⟨rfl, rfl⟩
  records := by
    refine ⟨[], ?_, by simp⟩
    cases outcome : (host.newExtractor settings).value with
    | error fault => rw [install_of_error app outcome, List.append_nil]
    | ok extractor => rw [install_of_ok app outcome, List.append_nil]

theorem start_up_sets_up (host : Host) (app : App) :
    SetsUp (host.newExtractor none) app (.ok ())
      (fun extractor => { app with held := some (.token extractor) }) (startUp host app) where
  failed := by
    intro fault failed
    rw [start_up_of_error app failed]
    exact ⟨rfl, rfl⟩
  succeeded := by
    intro extractor built
    rw [start_up_of_ok app built]
    exact ⟨rfl, rfl⟩
  records := by
    cases outcome : (host.newExtractor none).value with
    | error fault =>
        refine ⟨[], ?_, by simp⟩
        rw [start_up_of_error app outcome, List.append_nil]
    | ok extractor =>
        refine ⟨[readyRecord extractor], ?_, ?_⟩
        · rw [start_up_of_ok app outcome]
        · intro record member
          rw [List.mem_singleton.mp member]
          show text "role_extractor_lifespan: extractor ready" ≠ text "role_extractor_trusted_proxy_mode"
          decide

/-- Whatever the settings and the host, a new extractor verifies where a key path is set or is not built; and an app is
set up with it, or stays as it was when there is none, by installing a gate as by starting. An app that has started holds the
extractor that was built for it, but takes no step before routing, and the installation fails. -/
theorem set_up_never_downgrades (host : Host) (settings : Option RoleSettings) (app : App) :
    IsFaithful host.files (host.settingsInEffect settings) (host.newExtractor settings) ∧
      (app.started = false → SetsUp (host.newExtractor settings) app (.ok ())
        (fun extractor => ⟨some (.token extractor), ⟨some ⟨.token extractor, true⟩⟩ :: app.middlewares, true, false⟩)
        (install host none settings app)) ∧
      (app.started = true → SetsUp (host.newExtractor settings) app (.error (.foreign (text "RuntimeError")))
        (fun extractor => { app with held := some (.token extractor) })
        (install host none settings app)) ∧
      SetsUp (host.newExtractor none) app (.ok ())
        (fun extractor => { app with held := some (.token extractor) }) (startUp host app) := by
  refine ⟨new_extractor_faithful host settings, ?_, ?_, start_up_sets_up host app⟩
  · intro unstarted
    apply install_sets_up
    intro extractor
    simp [App.wire, unstarted]
  · intro started
    apply install_sets_up
    intro extractor
    simp [App.wire, started]

/-- A key path that leads nowhere stops an app that held the extractor of a header, and the app still holds it. -/
theorem start_up_with_missing_key :
    let host : Host := ⟨.empty, [(text "ROLE_EXTRACTOR_PUBLIC_KEY_PATH", text "missing.pem")], none⟩
    let app : App := ⟨some .header, [⟨none⟩], true, false⟩
    ∃ fault, (startUp host app).1.value = .error fault ∧ (startUp host app).2 = app ∧
      (install host none none app).2 = app := by
  intro host app
  have failed : (host.newExtractor none).value.toOption.isNone = true := by decide +kernel
  obtain ⟨_, installs, _, starts⟩ := set_up_never_downgrades host none app
  cases outcome : (host.newExtractor none).value with
  | ok extractor =>
      rw [outcome] at failed
      cases failed
  | error fault =>
      obtain ⟨raised, unchanged⟩ := starts.failed fault outcome
      exact ⟨fault, raised, unchanged, ((installs rfl).failed fault outcome).2⟩

end BearerRole.Gate
