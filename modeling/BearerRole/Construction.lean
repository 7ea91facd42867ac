import BearerRole.Key.Load
import BearerRole.Settings.RoleSettings

/-!
Building a token extractor from settings. With a key path the extractor verifies by the key of that file, or is not
built at all; without one it trusts its callers, and says so in the log.
-/

namespace BearerRole

open Settings

set_option autoImplicit false

namespace TokenExtractor

def verifyingRecord (settings : RoleSettings) (path : Text) : LogRecord :=
  .make logger .info "role_extractor_verification_enabled"
    [(text "key_path", .text path), (text "algorithms", .list (Algorithm.all.map fun a => .text a.name)),
      (text "issuer_checked", .bool settings.issuer.isSome),
      (text "audience_checked", .bool settings.audience.isSome)]

def trustingRecord : LogRecord :=
  .make logger .warning "role_extractor_trusted_proxy_mode"
    [(text "detail",
      .ofText "No public key configured; tokens are parsed without signature verification.")]

def ofSettings (settings : RoleSettings) (key : Option RsaKey) : TokenExtractor :=
  ⟨.forKey key settings.expectations, .text settings.claimPath, .text settings.operatorValue⟩

def build (files : Files) (settings : RoleSettings) : Logged (Except Fault TokenExtractor) :=
  match settings.publicKeyPath with
  | none => .withRecord (.ok (ofSettings settings none)) trustingRecord
  | some path =>
      (Key.load files path).andThen fun key =>
        .withRecord (.ok (ofSettings settings (some key))) (verifyingRecord settings path)

end TokenExtractor

/-- The process in which extractors are built. Settings that were once read without given values may be kept. -/
structure Host where
  files : Files
  environment : Environment
  kept : Option RoleSettings

namespace Host

def settingsInEffect (host : Host) (given : Option RoleSettings) : Except Fault RoleSettings :=
  match given, host.kept with
  | some settings, _ => .ok settings
  | none, some settings => .ok settings
  | none, none => RoleSettings.load host.files host.environment []

def newExtractor (host : Host) (given : Option RoleSettings) : Logged (Except Fault TokenExtractor) :=
  match host.settingsInEffect given with
  | .error fault => .pure (.error fault)
  | .ok settings => TokenExtractor.build host.files settings

end Host

end BearerRole
