import JobsGateway.Server.Program

/-!
# The command

Hands the environment and the settings file to the program, and prints what it has to say.
-/

namespace JobsGateway.Program

/-- What the system says about a file that it does not give. -/
def faultOf : IO.Error → FileFault
  | .noFileOrDirectory _ _ _ => .missing
  | .inappropriateType (some _) _ _ => .notFolder
  | .inappropriateType none _ _ => .isFolder
  | e => .refused e.toString.toList

/-- The octets of a file. -/
def readOctets (path : Text) : IO (Except FileFault Bytes) := do
  if path.contains '\x00' then return .error .nulInPath
  try
    return .ok (← IO.FS.readBinFile (String.ofList path)).toList
  catch e => return .error (faultOf e)

/-- What the variables of the process are set to. -/
def readEnvironment : IO Environment := do
  let values ← Variable.all.mapM fun v => do
    return (v, (← IO.getEnv (String.ofList v.name)).map String.toList)
  return fun v => (values.lookup v).join

/-- Runs the program in the environment of the process. -/
def start : IO UInt32 := do
  let env ← readEnvironment
  let file ← readOctets ((env .settingsFile).getD [])
  let machine : Machine := ⟨[("localhost".toList, .ipv4 0x7F000001)], []⟩
  let outcome := run env (fun _ => file) machine
  for line in outcome.output do
    IO.println (String.ofList line)
  IO.eprint (String.ofList outcome.errors)
  return UInt32.ofNat outcome.exitCode

end JobsGateway.Program

def main : IO UInt32 :=
  JobsGateway.Program.start
