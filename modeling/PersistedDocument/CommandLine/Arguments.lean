import PersistedDocument.Text.Digit
import PersistedDocument.Text.Quoted
import PersistedDocument.Text.Split

/-!
# Arguments

What the arguments of the program ask for. There are three switches and at most one operand, the
file to read. A switch may be shortened as long as only one fits. Switches act in order, so that a
request for help or for the version is granted before a later argument is found to be wrong; what
is left over is reported at the end.
-/

namespace PersistedDocument.CommandLine

open PersistedDocument.Text

/-! ### Switches -/

/-- A switch. -/
inductive Switch where
  /-- Asks for help. -/
  | help
  /-- Asks not to submit. -/
  | dryRun
  /-- Asks for the version. -/
  | version
deriving DecidableEq, Repr

namespace Switch

/-- All switches, in order. -/
def all : List Switch := [.help, .dryRun, .version]

/-- How a switch is written in full. -/
def long : Switch → String
  | .help => "--help"
  | .dryRun => "--dry-run"
  | .version => "--version"

/-- How a switch is written in short. -/
def short? : Switch → Option String
  | .help => some "-h"
  | _ => none

/-- All ways to write a switch. -/
def forms (s : Switch) : List String := s.short?.toList ++ [s.long]

/-- The switch that is written in exactly a given way. -/
def ofForm? (form : String) : Option Switch := all.find? (·.forms.contains form)

/-- The switches that a shortened form may stand for. -/
def startingWith (form : List Char) : List Switch :=
  all.filter fun s => form.isPrefixOf s.long.toList

end Switch

/-! ### Misuse -/

/-- What is wrong with arguments. -/
inductive Misuse where
  /-- A shortened form fits several switches. -/
  | ambiguous (argument : String) (candidates : List Switch)
  /-- A switch is given a value. -/
  | superfluousValue (s : Switch) (value : String)
  /-- Arguments are left over. -/
  | unrecognized (arguments : List String)
deriving DecidableEq, Repr

/-- What is said about a misuse. -/
def Misuse.message : Misuse → String
  | .ambiguous argument candidates =>
    "ambiguous option: " ++ argument ++ " could match "
      ++ ", ".intercalate (candidates.map Switch.long)
  | .superfluousValue s value =>
    "argument " ++ "/".intercalate s.forms ++ ": ignored explicit argument " ++ quote value
  | .unrecognized arguments => "unrecognized arguments: " ++ " ".intercalate arguments

/-! ### Kinds of arguments -/

/-- An argument by its kind. -/
inductive Argument where
  /-- Something to work on. -/
  | operand (text : String)
  /-- The mark after which everything is an operand. -/
  | separator
  /-- A switch, and the value that is attached to it. -/
  | switch (s : Switch) (value : Option String)
  /-- Switches in one letter each, after a first one that asks for help. -/
  | letters (more : List Char)
  /-- A switch that is not known. -/
  | unknown (text : String)
deriving DecidableEq, Repr

/-- Whether a text is a number below zero. -/
def isNegativeNumber (cs : List Char) : Bool :=
  let isDigit := fun c => (decimalValue? c).isSome
  let isDigits := fun ds : List Char => !ds.isEmpty && ds.all isDigit
  let line := if cs.getLast? = some '\n' then cs.dropLast else cs
  match line with
  | '-' :: number =>
    match cutAt '.' number with
    | (whole, none) => isDigits whole
    | (whole, some fraction) => whole.all isDigit && isDigits fraction
  | _ => false

/-- The kind of an argument that starts with a hyphen but is no known switch. -/
def classifyRest (argument : String) : Argument :=
  if isNegativeNumber argument.toList || argument.toList.contains ' ' then .operand argument
  else .unknown argument

/-- The kind of an argument that starts with two hyphens but is no switch in full. -/
def classifyLong (argument : String) (form : List Char) (value : Option (List Char)) :
    Except Misuse Argument :=
  match Switch.startingWith form with
  | [] => .ok (classifyRest argument)
  | [s] => .ok (.switch s (value.map String.ofList))
  | candidates => .error (.ambiguous argument candidates)

/-- The kind of an argument. -/
def classify (argument : String) : Except Misuse Argument :=
  match argument.toList, Switch.ofForm? argument with
  | _, some s => .ok (.switch s none)
  | '-' :: c :: cs, none =>
    let (form, value) := cutAt '=' ('-' :: c :: cs)
    match Switch.ofForm? (String.ofList form), value with
    | some .help, some v => .ok (if c = 'h' then .letters v else .switch .help (String.ofList v))
    | some s, some v => .ok (.switch s (String.ofList v))
    | _, _ =>
      if c = '-' then classifyLong argument form value
      else if c = 'h' then .ok (.letters cs)
      else .ok (classifyRest argument)
  | _, none => .ok (.operand argument)

/-- The kinds of arguments. -/
def classifyAll : List String → Except Misuse (List Argument)
  | [] => .ok []
  | argument :: rest =>
    if argument = "--" then .ok (.separator :: rest.map .operand)
    else do
      let kind ← classify argument
      let kinds ← classifyAll rest
      return kind :: kinds

/-! ### What arguments ask for -/

/-- What to do with a document. -/
structure Task where
  /-- The file that holds it, unless it comes from standard input. -/
  file : Option String
  /-- Whether it is only shown what would be submitted. -/
  dryRun : Bool
deriving DecidableEq, Repr

/-- What arguments ask for. -/
inductive Wish where
  /-- The help text. -/
  | help
  /-- The version. -/
  | version
  /-- Work on a document. -/
  | task (t : Task)
deriving DecidableEq, Repr

/-- What has been understood of arguments. -/
structure Understood where
  /-- Whether the place of the operand is taken. -/
  isPlaceTaken : Bool
  /-- The file, once given. -/
  file : Option String
  /-- Whether nothing is to be submitted. -/
  dryRun : Bool
  /-- What is left over, last first. -/
  leftOver : List String

/-- Nothing understood yet. -/
def Understood.nothing : Understood := ⟨false, none, false, []⟩

/-- What is asked for at the end of the arguments. -/
def Understood.conclude (u : Understood) : Except Misuse Wish :=
  if u.leftOver.isEmpty then .ok (.task ⟨u.file, u.dryRun⟩)
  else .error (.unrecognized u.leftOver.reverse)

/-- One more argument that is left over. -/
def Understood.leave (u : Understood) (argument : String) : Understood :=
  { u with leftOver := argument :: u.leftOver }

/-- The file is given. -/
def Understood.take (u : Understood) (file : Option String) : Understood :=
  { u with isPlaceTaken := true, file }

/-- What arguments of known kinds ask for. The operand takes a separator before or after it along;
any other operand or separator is left over. -/
def understand (u : Understood) : List Argument → Except Misuse Wish
  | [] => u.conclude
  | .switch s (some value) :: _ => .error (.superfluousValue s value)
  | .switch .help none :: _ => .ok .help
  | .switch .version none :: _ => .ok .version
  | .switch .dryRun none :: rest => understand { u with dryRun := true } rest
  | .letters more :: _ =>
    let others := more.dropWhile (· = 'h')
    if others.isEmpty && !more.isEmpty then .ok .help
    else .error (.superfluousValue .help (String.ofList others))
  | .unknown text :: rest => understand (u.leave text) rest
  | .separator :: .operand text :: rest =>
    if u.isPlaceTaken then understand ((u.leave "--").leave text) rest
    else understand (u.take text) rest
  | .separator :: rest =>
    understand (if u.isPlaceTaken then u.leave "--" else u.take none) rest
  | .operand text :: .separator :: rest =>
    understand (if u.isPlaceTaken then (u.leave text).leave "--" else u.take text) rest
  | .operand text :: rest =>
    understand (if u.isPlaceTaken then u.leave text else u.take text) rest

/-- What arguments ask for. -/
def readArguments (arguments : List String) : Except Misuse Wish := do
  understand .nothing (← classifyAll arguments)

end PersistedDocument.CommandLine
