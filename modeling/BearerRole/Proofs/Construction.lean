import BearerRole.Construction

/-!
What building a token extractor comes to. A key path in the settings leaves two ends, a verifying extractor with the key of
that file or the failure to load it; only settings without one make an extractor that trusts, and say so.
-/

namespace BearerRole.TokenExtractor

set_option autoImplicit false

open Settings (RoleSettings)

variable {files : Files} {settings : RoleSettings} {path : Text}

/-- Without a key path what is built, and what is logged of it, comes from the settings alone. -/
theorem build_trusting (files : Files) (unset : settings.publicKeyPath = none) :
    build files settings = ⟨.ok (ofSettings settings none), [trustingRecord]⟩ := by
  unfold build
  rw [unset]
  rfl

theorem build_verifying {key : RsaKey} (configured : settings.publicKeyPath = some path)
    (loaded : (Key.load files path).value = .ok key) :
    (build files settings).value = .ok (ofSettings settings (some key)) := by
  unfold build
  rw [configured]
  simp only [Logged.andThen, loaded]
  rfl

theorem build_failed {fault : Fault} (configured : settings.publicKeyPath = some path)
    (failed : (Key.load files path).value = .error fault) :
    (build files settings).value = .error fault := by
  unfold build
  rw [configured]
  simp only [Logged.andThen, failed]

theorem event_of_load {record : LogRecord} (member : record ∈ (Key.load files path).records) :
    record.event = text "role_extractor_key_loaded" := by
  unfold Key.load at member
  split at member
  · cases member
  · cases member
  · split at member
    · cases member
    · rw [List.mem_singleton.mp member]
      rfl

/-- With a key path no record says that signatures are not verified, whether the building succeeds or not. -/
theorem event_of_build (configured : settings.publicKeyPath = some path) {record : LogRecord}
    (member : record ∈ (build files settings).records) : record.event ≠ trustingRecord.event := by
  have loads : text "role_extractor_key_loaded" ≠ trustingRecord.event := by decide
  have verifies : (verifyingRecord settings path).event ≠ trustingRecord.event := by
    show text "role_extractor_verification_enabled" ≠ trustingRecord.event
    decide
  unfold build at member
  rw [configured] at member
  cases loaded : (Key.load files path).value with
  | error fault =>
      simp only [Logged.andThen, loaded] at member
      rw [event_of_load member]
      exact loads
  | ok key =>
      simp only [Logged.andThen, loaded, List.mem_append] at member
      rcases member with early | late
      · rw [event_of_load early]
        exact loads
      · rw [List.mem_singleton.mp late]
        exact verifies

end BearerRole.TokenExtractor
