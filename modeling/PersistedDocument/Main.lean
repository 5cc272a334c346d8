import PersistedDocument.CommandLine.Program
import Std.Time.Format

/-!
# The executable

The program in the surroundings that the system gives: it reads what there is to read, runs the
program on it, and writes what comes of that. Its streams are in UTF-8. It has no way to reach a
service, so each request meets a fault.
-/

namespace PersistedDocument.Main

open CommandLine

/-! ### Surroundings -/

/-- The variables in a listing of the environment, each of which a null octet ends. -/
def listedVariables (listing : Octets) : List (String × String) :=
  (Text.splitOn 0 listing).filterMap fun line => do
    let (name, value) := Text.cutAt '=' (← Utf8.decode? line).toList
    return (String.ofList name, String.ofList (← value))

/-- The octets of a file; none if it cannot be read. -/
def octets? (file : String) : IO (Option Octets) := do
  try return some (← IO.FS.readBinFile file).toList
  catch _ => return none

/-- The number of a system error, which may be given with its sign turned. -/
def errorNumber (code : UInt32) : Nat := if code < 0x80000000 then code.toNat else (0 - code).toNat

/-- The error with a number. -/
def numberedError (number : Nat) (description : String) : OpenError :=
  ([.notFound, .notDirectory, .isDirectory, .nameTooLong].find? fun e : OpenError =>
    e.number = number).getD (.system number description)

/-- Why the system does not open a file. -/
def openError : IO.Error → OpenError
  | .noFileOrDirectory _ code description | .inappropriateType _ code description
  | .invalidArgument _ code description | .permissionDenied _ code description =>
    numberedError (errorNumber code) description
  | e => .system 5 (toString e)

/-- What opening a file gives. -/
def openFile (file : String) : IO (Except OpenError Octets) := do
  try return .ok (← IO.FS.readBinFile file).toList
  catch e => return .error (openError e)

/-- What opening the file of a task gives, and what standard input holds. Only what the task asks
for is read. -/
def documents (arguments : List String) : IO (Except OpenError Octets × Octets) := do
  match readArguments arguments with
  | .ok (.task ⟨some file, _⟩) => return (← openFile file, [])
  | .ok (.task ⟨none, _⟩) => return (.error .notFound, (← (← IO.getStdin).readBinToEnd).toList)
  | _ => return (.error .notFound, [])

/-- The characters of labels. -/
def labelCharacters : List Char := "ABCDEFGHIJKLMNOPQRSTUVWXYZ0123456789".toList

/-- A label of six characters by chance. -/
def label : IO String := do
  let chosen ← (List.range 6).mapM fun _ => do
    let place ← IO.rand 0 (labelCharacters.length - 1)
    return labelCharacters.getD place 'A'
  return String.ofList chosen

/-- What the program finds when it starts. -/
def surroundings (arguments : List String) : IO Surroundings := do
  let listing ← octets? "/proc/self/environ"
  let environment := listedVariables (listing.getD [])
  let environmentFile ← octets? ".env"
  let (file, input) ← documents arguments
  let now ← Std.Time.PlainDateTime.now
  let seconds := (← IO.monoNanosNow).toFloat / 1000000000.0
  return {
    environment := fun name => environment.lookup name
    environmentFile
    openFile := fun _ => file
    input
    exhausts := fun _ => false
    encodes := fun c => c.toChar?.isSome
    stamp := now.format "uuuu-MM-dd HH:mm:ss,SSS"
    world := {
      rid := ← label
      time := now.format "uuuu-MM-dd'T'HH:mm:ss.SSSSSS"
      clock := fun _ => seconds
      room := 1000
      reply := .fault .unsupportedProtocol "There is no way to reach a service" } }

/-! ### Endings -/

/-- What is said about problems. -/
def problemsText (problems : List Problem) : String :=
  ", ".intercalate (problems.map (·.complaint.message))

/-- What is said about an error that the program does not report itself. -/
def escapeText : Escape → String
  | .invalidProgramSettings problems => problemsText problems
  | .unreadableSettings => "The environment file is no text"
  | .undecodableDocument => "The document is no text"
  | .exhaustingDocument => "The document is nested too deeply"
  | .nullInFileName => "The name of the file holds a null character"
  | .refused r => r.name
  | .fault f => f.name
  | .oversizedInteger => "A whole number in the response has too many digits"
  | .nestedTooDeeply => "The response is nested too deeply"
  | .unattributableResponse => "The response belongs to no absolute address"
  | .flawedVersion _ => "The text that gives the version cannot be filled in"
  | .unprintable => "There is no encoding for what there is to show"

/-- A code point as standard error takes it: a surrogate as an escape. -/
def escaped : CodePoint → List Char
  | .scalar c => [c]
  | c => Json.unitEscape c.toNat

/-- A text as standard error takes it. Standard output is only given what needs no escape. -/
def writable (t : LooseText) : String := String.ofList (t.flatMap escaped)

/-- Writes what a run of the program leaves behind, and gives the status to end with. -/
def conclude (f : Finished) : IO UInt32 := do
  IO.print (writable f.output)
  IO.eprint (writable f.errorOutput)
  match f.ending with
  | .status code => return code.toUInt32
  | .escape e =>
    IO.eprintln (programName ++ ": " ++ escapeText e)
    return failed.toUInt32

end PersistedDocument.Main

/-- Runs the program. -/
def main (arguments : List String) : IO UInt32 := do
  let surroundings ← PersistedDocument.Main.surroundings arguments
  PersistedDocument.Main.conclude
    (PersistedDocument.CommandLine.runProgram surroundings arguments)
