import PersistedDocument.CommandLine.Directory
import PersistedDocument.CommandLine.Help
import PersistedDocument.Settings.Program
import PersistedDocument.Submission.Run
import PersistedDocument.Text.Lines

/-!
# The program

A run of the program from its arguments to its end. It ends with a status, or with an error that it
does not report itself. Standard output has the answer and nothing else; reports go to standard
error as far as the settings of the program let them through.
-/

namespace PersistedDocument.CommandLine

open PersistedDocument.Text

/-! ### Surroundings -/

/-- What the program finds when it starts. -/
structure Surroundings where
  /-- The environment. -/
  environment : Environment
  /-- The content of the environment file, if there is one. -/
  environmentFile : Option Octets
  /-- What opening a file gives. -/
  openFile : String → Except OpenError Octets
  /-- What standard input holds. -/
  input : Octets
  /-- Whether a document is nested so deeply that reading its syntax exhausts the stack. -/
  exhausts : String → Bool
  /-- The code points that standard output has an encoding for, besides those of ASCII. -/
  encodes : CodePoint → Bool
  /-- The time at which a report is shown. -/
  stamp : String
  /-- The clock and the service. -/
  world : World

/-- The sources of settings: the environment and the environment file; none if that is no text. -/
def Surroundings.sources? (s : Surroundings) : Option Settings.Sources :=
  Settings.Sources.ofFile? (fun _ => none) s.environment s.environmentFile

/-! ### Endings -/

/-- An error that ends the program without being reported. -/
inductive Escape where
  /-- The settings of the program are wrong. -/
  | invalidProgramSettings (problems : List Problem)
  /-- The environment file is no text. -/
  | unreadableSettings
  /-- The document is no text. -/
  | undecodableDocument
  /-- The document is nested too deeply for the stack. -/
  | exhaustingDocument
  /-- The name of the file holds a null character. -/
  | nullInFileName
  /-- The request cannot be made. -/
  | refused (r : Refusal)
  /-- A fault that is not about reaching the service. -/
  | fault (f : Fault)
  /-- A whole number in the response has too many digits. -/
  | oversizedInteger
  /-- Arrays and objects in the response are nested too deeply. -/
  | nestedTooDeeply
  /-- The response belongs to no absolute address. -/
  | unattributableResponse
  /-- The text that gives the version is a template that cannot be filled in. -/
  | flawedVersion (f : Template.Flaw)
  /-- Standard output has no encoding for what there is to show. -/
  | unprintable
deriving DecidableEq, Repr

/-- How the program ends. -/
inductive Ending where
  /-- With a status. -/
  | status (code : Nat)
  /-- With an error. -/
  | escape (e : Escape)
deriving DecidableEq, Repr

/-- What work on a document comes to. -/
structure Work where
  /-- The requests that were sent. -/
  requests : List Request
  /-- What was reported, oldest first. -/
  events : List Event
  /-- What goes to standard output. -/
  output : LooseText
  /-- How it ends. -/
  ending : Ending

/-- The status of a program that did what was asked. -/
def succeeded : Nat := 0

/-- The status of a program that reports an error. -/
def failed : Nat := 1

/-- The status of a program that was asked in a wrong way. -/
def misused : Nat := 2

/-! ### Reading the document -/

/-- Why there is no document to work on. -/
inductive Unreadable where
  /-- A reason that is reported. -/
  | reported (reason : String)
  /-- An error that is not. -/
  | escaped (e : Escape)

/-- The text of a document. Line ends become line feeds. -/
def documentText (octets : Octets) : Except Unreadable String :=
  match Utf8.decode? octets with
  | some s => .ok (String.ofList (unifyNewlines s.toList))
  | none => .error (.escaped .undecodableDocument)

/-- The text to work on: of a file, or of standard input. -/
def readDocument (s : Surroundings) : Option String → Except Unreadable String
  | none => documentText s.input
  | some file =>
    if file.toList.contains '\x00' then .error (.escaped .nullInFileName)
    else
      match s.openFile file with
      | .ok octets => documentText octets
      | .error e => .error (.reported (e.message file))

/-! ### Working on the document -/

/-- Work that ends with a reported error. -/
def Work.fail (requests : List Request) (before : List Event) (e : Event) : Work :=
  ⟨requests, before ++ [e], [], .status failed⟩

/-- Work that ends with an error that is not reported. -/
def Work.abandon (requests : List Request) (before : List Event) (e : Escape) : Work :=
  ⟨requests, before, [], .escape e⟩

/-- Whether standard output takes a text. -/
def Surroundings.takes (s : Surroundings) (t : LooseText) : Bool :=
  t.all fun c => c.toNat < 0x80 || s.encodes c

/-- Work that ends by printing a line, as far as standard output takes it. -/
def Work.print (s : Surroundings) (requests : List Request) (before : List Event)
    (line : LooseText) : Work :=
  if s.takes line then ⟨requests, before, line ++ .ofString "\n", .status succeeded⟩
  else .abandon requests before .unprintable

/-- The report of a failure. -/
def failureEvent (f : Failure) : Event := .failed f.name f.message

/-- The report of wrong settings, with the field of each problem. -/
def settingsEvent (problems : List Problem) : Event :=
  .settingsInvalid (problems.map fun p => ".".intercalate (p.location.map Location.text))

/-- What is shown of a document that is not submitted. -/
def previewText (t : Transformed) : String :=
  (Json.ofFields
    [("query", .text t.query),
      ("freeVariables", .array (t.freeVariables.members.map .text)),
      ("accessTokenConfigured", .boolean t.accessToken.isSome)]).prettyPrint

/-- Shows what would be submitted. -/
def preview (s : Surroundings) (text : String) : Work :=
  match transform s.environment text .fresh with
  | .error f c => .fail [] c.events (failureEvent f)
  | .ok t c => .print s [] c.events (.ofString (previewText t))

/-- The end of the work when a run ends without an id. -/
def Work.ofError (requests : List Request) (before : List Event) : RunError → Work
  | .failure f => .fail requests before (failureEvent f)
  | .invalidSettings ps => .fail requests before (settingsEvent ps)
  | .unreadableSettings => .abandon requests before .unreadableSettings
  | .refused r => .abandon requests before (.refused r)
  | .fault f => .abandon requests before (.fault f)
  | .oversizedInteger => .abandon requests before .oversizedInteger
  | .nestedTooDeeply => .abandon requests before .nestedTooDeeply
  | .unattributableResponse => .abandon requests before .unattributableResponse

/-- Submits a document. -/
def submission (s : Surroundings) (text : String) : Work :=
  let run := persist s.world s.environment (settingsFrom s.sources?) text
  match run.outcome with
  | .ok id => .print s run.requests run.events id
  | .error e => .ofError run.requests run.events e

/-- Works on a document. -/
def Task.work (s : Surroundings) (t : Task) : Work :=
  match readDocument s t.file with
  | .error (.reported reason) => .fail [] [] (.unreadable reason)
  | .error (.escaped e) => .abandon [] [] e
  | .ok text =>
    if s.exhausts text then .abandon [] [] .exhaustingDocument
    else if t.dryRun then preview s text
    else submission s text

/-! ### The whole program -/

/-- What a run of the program leaves behind. -/
structure Finished where
  /-- The requests that were sent. -/
  requests : List Request
  /-- What was written to standard output. -/
  output : LooseText
  /-- What was written to standard error. -/
  errorOutput : LooseText
  /-- How the program ended. -/
  ending : Ending

/-- The end of a program that comes to nothing. -/
def Finished.escaped (e : Escape) : Finished := ⟨[], [], [], .escape e⟩

/-- The end of a program that only shows a text, as far as standard output takes it. -/
def Finished.shown (s : Surroundings) (text : String) : Finished :=
  if s.takes (.ofString text) then ⟨[], .ofString text, [], .status succeeded⟩
  else .escaped .unprintable

/-- An event as a line of the log. -/
def logLine (stamp : String) (e : Event) : LooseText :=
  .ofString (stamp ++ " ") ++ e.line ++ .ofString "\n"

/-- The log of events, as far as a threshold lets them through. -/
def logText (stamp : String) (threshold : Threshold) (events : List Event) : LooseText :=
  (events.filter threshold.admits).flatMap (logLine stamp)

/-- The end of the work on a document. -/
def Work.finish (w : Work) (stamp : String) (threshold : Threshold) : Finished :=
  ⟨w.requests, w.output, logText stamp threshold w.events, w.ending⟩

/-- Runs the program with its settings. -/
def runWith (settings : ProgramSettings) (s : Surroundings) (arguments : List String) : Finished :=
  let columns := columns (s.environment "COLUMNS")
  match readArguments arguments with
  | .error m => ⟨[], [], .ofString (misuseText columns m), .status misused⟩
  | .ok .help => .shown s (helpText columns)
  | .ok .version =>
    match versionText columns settings.projectName settings.version with
    | .ok text => .shown s text
    | .error flaw => .escaped (.flawedVersion flaw)
  | .ok (.task t) => (t.work s).finish s.stamp settings.threshold

/-- Runs the program. Its own settings come before everything else. -/
def runProgram (s : Surroundings) (arguments : List String) : Finished :=
  match s.sources? with
  | none => .escaped .unreadableSettings
  | some sources =>
    match ProgramSettings.resolve sources with
    | .invalid ps => .escaped (.invalidProgramSettings ps)
    | .valid settings => runWith settings s arguments

end PersistedDocument.CommandLine
