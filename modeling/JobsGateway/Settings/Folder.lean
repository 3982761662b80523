import JobsGateway.Text.Split

/-!
# Files and folders

A file is read as a whole and has to be text. Where its octets come from is a function from paths
to octets. `Folder.read` is that function for a folder of named files from whose inside paths are
followed: there is nothing known about other folders but that they are there.
-/

namespace JobsGateway

/-- Why a file cannot be read. `refused` is for whatever else the system says. -/
inductive FileFault where
  | missing
  | notFolder
  | isFolder
  | nameTooLong
  | nulInPath
  | notText
  | refused (reason : Text)
  deriving Repr, DecidableEq, Inhabited

/-- The sentence about a fault. -/
def FileFault.text : FileFault → Text
  | .missing => "No such file or directory (os error 2)".toList
  | .notFolder => "Not a directory (os error 20)".toList
  | .isFolder => "Is a directory (os error 21)".toList
  | .nameTooLong => "File name too long (os error 36)".toList
  | .nulInPath => "file name contained an unexpected NUL byte".toList
  | .notText => "stream did not contain valid UTF-8".toList
  | .refused reason => reason

/-- The octets at a path. -/
abbrev Files := Text → Except FileFault Bytes

/-- The text at a path. -/
def Files.readText (files : Files) (path : Text) : Except FileFault Text := do
  match Utf8.decode? (← files path) with
  | some text => pure text
  | none => throw .notText

/-- A folder of files. -/
structure Folder where
  files : List (Text × Bytes)
  deriving Repr, DecidableEq

namespace Folder

/-- Where a path has led so far: into the folder itself, another one, or a file. -/
inductive Place where
  | here
  | elsewhere
  | file (octets : Bytes)
  deriving Repr, DecidableEq

/-- The longest name in a folder, in octets. -/
def nameLimit : Nat := 255

/-- The longest path, in octets. -/
def pathLimit : Nat := 4095

/-- Follows one name of a path. The empty name stands for the place itself. -/
def step (f : Folder) (place : Place) (name : Text) : Except FileFault Place :=
  match place with
  | .file _ => .error .notFolder
  | _ =>
    if name = [] || name = ['.'] then .ok place
    else if name = ['.', '.'] then .ok .elsewhere
    else if nameLimit < (Utf8.encode name).length then .error .nameTooLong
    else match place, f.files.lookup name with
      | .here, some octets => .ok (.file octets)
      | _, _ => .error .missing

/-- Follows the names of a path. -/
def walk (f : Folder) (place : Place) : List Text → Except FileFault Place
  | [] => .ok place
  | name :: rest => (f.step place name).bind fun next => walk f next rest

/-- The octets at a path. -/
def read (f : Folder) : Files := fun path =>
  if path.contains '\x00' then .error .nulInPath
  else if path = [] then .error .missing
  else if pathLimit < (Utf8.encode path).length then .error .nameTooLong
  else do
    let start := if path.head? = some '/' then Place.elsewhere else .here
    match ← f.walk start (Text.split '/' path) with
    | .file octets => pure octets
    | _ => throw .isFolder

end Folder

end JobsGateway
