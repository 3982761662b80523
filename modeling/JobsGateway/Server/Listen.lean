import JobsGateway.Gateway.Journal
import JobsGateway.Server.Address
import JobsGateway.Settings.Environment

/-!
# Running the server

The server listens where the settings say until it is told to stop. It logs both ends of its run.
Without a place to listen at there is no run.
-/

namespace JobsGateway

/-- Why the server does not run: there is no listening at the place of the settings. -/
structure ServerFailure where
  listen : Text
  fault : ListenFault
  deriving Repr, DecidableEq, Inhabited

namespace ServerFailure

/-- The sentence about a failure. -/
def message (f : ServerFailure) : Text :=
  "Failed to bind ".toList ++ f.listen

/-- The failure and what is behind it. -/
def chain (f : ServerFailure) : List Text :=
  [f.message, f.fault.text]

end ServerFailure

namespace Server

/-- The event of a server that has begun to listen. -/
def listening (s : Settings) : Event where
  part := .listener
  level := .info
  message := "Listening"
  fields := [("listen", s.listen), ("upstream", s.backendUrl.text),
    ("identity", s.identityUrl.text)]

/-- The event of a server that has stopped. -/
def stopped : Event where
  part := .listener
  level := .info
  message := "Server stopped"
  fields := []

/-- A run of the server on a machine. `shutdown` is what happens when it is told to stop. -/
def run (s : Settings) (m : Machine) (shutdown : Journal) : Run (Except ServerFailure Unit) :=
  match m.listen s.listen with
  | .error fault => ⟨.error ⟨s.listen, fault⟩, []⟩
  | .ok () => ⟨.ok (), .event (listening s) :: (shutdown ++ [.event stopped])⟩

end Server

end JobsGateway
