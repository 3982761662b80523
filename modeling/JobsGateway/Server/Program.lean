import JobsGateway.Log.Filter
import JobsGateway.Server.Listen

/-!
# The program

Started in an environment, the program reads its settings and runs the server until it is
interrupted. What it logs goes to standard output. If it cannot start, it says why on standard
error.
-/

namespace JobsGateway

/-- What is left of a run of the program. -/
structure Outcome where
  exitCode : Nat
  output : List Text
  errors : Text
  deriving Repr, DecidableEq, Inhabited

namespace Program

/-- The event of an interruption. -/
def interrupted : Event where
  part := .program
  level := .info
  message := "Shutdown signal received"
  fields := []

/-- The report of a failure and its cause. -/
def report (message : Text) (cause : Option Text) : Text :=
  "Error: ".toList ++ message ++
    ((cause.map fun c => "\n\nCaused by:\n    ".toList ++ c).getD []) ++ ['\n']

/-- A program that could not start. -/
def failed (message : Text) (cause : Option Text) : Outcome :=
  ⟨1, [], report message cause⟩

/-- The lines of a log. -/
def log (env : Environment) (journal : Journal) : List Text :=
  let filter := LogFilter.ofVariable (env .logFilter)
  (journal.events.filter fun e => filter.passes e).map Event.line

/-- A run of the program that is interrupted as soon as it listens. -/
def run (env : Environment) (files : Files) (m : Machine) : Outcome :=
  match Settings.load env files with
  | .error fault => failed fault.message fault.cause?
  | .ok settings =>
    let server := Server.run settings m [.event interrupted]
    match server.result with
    | .error failure => failed failure.message (some failure.fault.text)
    | .ok () => ⟨0, log env server.journal, []⟩

end Program

end JobsGateway
