import JobsGateway.Text.Duration
import JobsGateway.Url.Printer

/-!
# Settings

What the gateway is told when it starts: where to listen, where the backend and the identity
endpoint are, how long the backend may take and how long a body may be. Files and the environment
each name some of the settings. Such a layer is laid over the settings below it.
-/

namespace JobsGateway

/-- The settings of a gateway. -/
structure Settings where
  listen : Text
  backendUrl : Url
  timeoutSeconds : Nat
  identityUrl : Url
  maxBody : Nat
  deriving Repr, DecidableEq

/-- Some of the settings. -/
structure Layer where
  listen : Option Text
  backendUrl : Option Url
  timeoutSeconds : Option Nat
  identityUrl : Option Url
  maxBody : Option Nat
  deriving Repr, DecidableEq

namespace Layer

/-- None of the settings. -/
def empty : Layer := ⟨none, none, none, none, none⟩

/-- The settings with those that a layer names in place of their own. -/
def onto (l : Layer) (s : Settings) : Settings where
  listen := l.listen.getD s.listen
  backendUrl := l.backendUrl.getD s.backendUrl
  timeoutSeconds := l.timeoutSeconds.getD s.timeoutSeconds
  identityUrl := l.identityUrl.getD s.identityUrl
  maxBody := l.maxBody.getD s.maxBody

@[simp] theorem onto_empty (s : Settings) : empty.onto s = s := rfl

end Layer

namespace Settings

/-- A URL at a port number of this machine. -/
def localUrl (portNumber : Nat) (path : List String) : Url where
  scheme := "http".toList
  authority := some ⟨[], [], some (.domain "localhost".toList), some portNumber⟩
  path := .segments (path.map String.toList)
  query := none
  fragment := none

/-- The settings where nothing is said. -/
def standard : Settings where
  listen := "127.0.0.1:8080".toList
  backendUrl := localUrl 8000 [""]
  timeoutSeconds := 30
  identityUrl := localUrl 3000 ["api", "v1", "auths", ""]
  maxBody := 16 * 1024 * 1024

/-- How long the backend may take. -/
def timeout (s : Settings) : Duration :=
  .ofSeconds s.timeoutSeconds

end Settings

end JobsGateway
