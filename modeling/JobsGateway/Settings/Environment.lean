import JobsGateway.Settings.Folder
import JobsGateway.Settings.Reader
import JobsGateway.Text.Blank

/-!
# Settings from the environment

The environment may name a settings file, and it may name settings itself. What it says counts more
than what the file says, and what the file says more than the standard settings. URLs and numbers
are read without the blanks around them. Only what comes out in the end has to be usable: the
schemes of both URLs, and a timeout that is not zero.
-/

namespace JobsGateway

/-- The variables of the environment that matter. -/
inductive Variable where
  | settingsFile
  | listen
  | backendUrl
  | timeout
  | identityUrl
  | maxBody
  | logFilter
  deriving Repr, DecidableEq, Inhabited

namespace Variable

/-- All variables. -/
def all : List Variable :=
  [.settingsFile, .listen, .backendUrl, .timeout, .identityUrl, .maxBody, .logFilter]

/-- The name of a variable. -/
def name : Variable → Text
  | .settingsFile => "AIDEN_PROXY_CONFIG".toList
  | .listen => "LISTEN".toList
  | .backendUrl => "AIDEN_API_BASE_URL".toList
  | .timeout => "AIDEN_API_TIMEOUT_SECS".toList
  | .identityUrl => "AIDEN_IDENTITY_URL".toList
  | .maxBody => "AIDEN_MAX_BODY_BYTES".toList
  | .logFilter => "RUST_LOG".toList

end Variable

/-- What each variable is set to, if it is set. -/
abbrev Environment := Variable → Option Text

/-- The environment with the given octets. A value that is no text does not count. -/
def Environment.ofOctets (values : Text → Option Bytes) : Environment :=
  fun v => (values v.name).bind Utf8.decode?

/-- Why there are no settings. -/
inductive SettingsFault where
  | unreadable (path : Text) (fault : FileFault)
  | malformed (path : Text) (fault : SettingsFile.Fault)
  | invalidUrl (source : Variable) (value : Text) (fault : UrlError)
  | invalidNumber (source : Variable) (value : Text)
  | unsupportedScheme (source : Variable) (scheme : Text)
  deriving Repr, DecidableEq, Inhabited

namespace SettingsFault

/-- What is behind a fault, if there is more to say. -/
def cause? : SettingsFault → Option Text
  | .unreadable _ fault => some fault.text
  | .malformed _ fault => some fault.text
  | .invalidUrl _ _ fault => some fault.message.toList
  | .invalidNumber _ _ => none
  | .unsupportedScheme _ _ => none

/-- The sentence about a fault. -/
def message : SettingsFault → Text
  | .unreadable path fault =>
    "failed to read config file ".toList ++ path ++ ": ".toList ++ fault.text
  | .malformed path fault =>
    "failed to parse config file ".toList ++ path ++ ": ".toList ++ fault.text
  | .invalidUrl v value fault =>
    v.name ++ " is not a valid URL (".toList ++ Text.quoted value ++ "): ".toList ++
      fault.message.toList
  | .invalidNumber v value =>
    v.name ++ " must be a non-negative integer, got ".toList ++ Text.quoted value
  | .unsupportedScheme v scheme => v.name ++ " must use http or https, got ".toList ++ scheme

end SettingsFault

namespace Environment

/-- The URL that a variable is set to. -/
def url? (env : Environment) (v : Variable) : Except SettingsFault (Option Url) :=
  match env v with
  | none => .ok none
  | some raw =>
    match Url.parse (Text.trim raw) with
    | .ok url => .ok (some url)
    | .error fault => .error (.invalidUrl v raw fault)

/-- The number that a variable is set to. -/
def natural? (env : Environment) (v : Variable) : Except SettingsFault (Option Nat) :=
  match env v with
  | none => .ok none
  | some raw =>
    match Text.unsigned? (Text.trim raw) with
    | some n => .ok (some n)
    | none => .error (.invalidNumber v raw)

/-- The settings that the environment names. -/
def layer (env : Environment) : Except SettingsFault Layer := do
  let backendUrl ← env.url? .backendUrl
  let timeoutSeconds ← env.natural? .timeout
  let identityUrl ← env.url? .identityUrl
  let maxBody ← env.natural? .maxBody
  pure ⟨env .listen, backendUrl, timeoutSeconds, identityUrl, maxBody⟩

end Environment

namespace Settings

/-- The settings of a file over the standard ones. -/
def ofFile (files : Files) (path : Text) : Except SettingsFault Settings := do
  let text ← (files.readText path).mapError (.unreadable path)
  let layer ← (SettingsFile.read text).mapError (.malformed path)
  pure (layer.onto standard)

/-- The settings under those that the environment names. -/
def base (env : Environment) (files : Files) : Except SettingsFault Settings :=
  match env .settingsFile with
  | some path => ofFile files path
  | none => .ok standard

/-- Refuses settings that cannot be used. -/
def check (s : Settings) : Except SettingsFault Settings :=
  if !s.backendUrl.isWeb then .error (.unsupportedScheme .backendUrl s.backendUrl.scheme)
  else if !s.identityUrl.isWeb then .error (.unsupportedScheme .identityUrl s.identityUrl.scheme)
  else if s.timeoutSeconds = 0 then .error (.invalidNumber .timeout ['0'])
  else .ok s

/-- The settings in an environment. -/
def load (env : Environment) (files : Files) : Except SettingsFault Settings := do
  let base ← Settings.base env files
  let layer ← env.layer
  (layer.onto base).check

end Settings

end JobsGateway
