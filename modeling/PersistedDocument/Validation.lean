import PersistedDocument.Decimal.Reading
import PersistedDocument.Json.Value
import PersistedDocument.Text.NameSet

/-!
# Checking given values

Values that come from outside are checked against what a field is meant to hold. A check that fails
says where the problem is and what it is, and checks of several fields report the problems of all of
them, in the order of the fields.
-/

namespace PersistedDocument

/-- A step on the way to a value. -/
inductive Location where
  /-- Into a field. -/
  | field (name : String)
  /-- Into an item of a list. -/
  | item (index : Nat)
deriving DecidableEq, Repr

/-- A step as it is shown. -/
def Location.text : Location → String
  | .field name => name
  | .item index => toString index

/-- What is wrong with a value. -/
inductive Complaint where
  /-- There is none where one is required. -/
  | missing
  /-- It is no string. -/
  | notString
  /-- It is no list from which a set could be made. -/
  | notSet
  /-- It is nothing that could be a number. -/
  | notNumber
  /-- It is a string, but spells no number. -/
  | unreadableNumber
  /-- It is no known level of the log. -/
  | unknownLogLevel (given : String)
deriving DecidableEq, Repr

namespace Complaint

/-- The code of a complaint. -/
def code : Complaint → String
  | .missing => "missing"
  | .notString => "string_type"
  | .notSet => "set_type"
  | .notNumber => "float_type"
  | .unreadableNumber => "float_parsing"
  | .unknownLogLevel _ => "value_error"

/-- What is said about a complaint. -/
def message : Complaint → String
  | .missing => "Field required"
  | .notString => "Input should be a valid string"
  | .notSet => "Input should be a valid set"
  | .notNumber => "Input should be a valid number"
  | .unreadableNumber => "Input should be a valid number, unable to parse string as a number"
  | .unknownLogLevel given => "Value error, Unknown log level " ++ given

end Complaint

/-- Something that is wrong, and where. -/
structure Problem where
  /-- The way to the value, from the outside in. -/
  location : List Location
  /-- What is wrong with it. -/
  complaint : Complaint
deriving DecidableEq, Repr

/-- A problem further inside. -/
def Problem.within (outer : Location) (p : Problem) : Problem :=
  { p with location := outer :: p.location }

/-- A checked value, or all that is wrong with it. -/
inductive Checked (α : Type) where
  | valid (value : α)
  | invalid (problems : List Problem)
deriving DecidableEq, Repr

namespace Checked

/-- A single problem with a value itself. -/
def complain {α : Type} (c : Complaint) : Checked α := .invalid [⟨[], c⟩]

/-- Says where a checked value stands. -/
def within {α : Type} (outer : Location) : Checked α → Checked α
  | .valid a => .valid a
  | .invalid ps => .invalid (ps.map (·.within outer))

/-- The problems of a check. -/
def problems {α : Type} : Checked α → List Problem
  | .valid _ => []
  | .invalid ps => ps

/-- Applies a function to a checked value. -/
def map {α β : Type} (f : α → β) : Checked α → Checked β
  | .valid a => .valid (f a)
  | .invalid ps => .invalid ps

/-- Applies a checked function to a checked argument. The problems of both count, those of the
function first. -/
def ap {α β : Type} : Checked (α → β) → Checked α → Checked β
  | .valid f, a => a.map f
  | .invalid ps, a => .invalid (ps ++ a.problems)

/-- The value of a check whose result has to pass a check of its own. -/
def join {α : Type} : Checked (Checked α) → Checked α
  | .valid inner => inner
  | .invalid ps => .invalid ps

instance : Applicative Checked where
  pure := .valid
  map := Checked.map
  seq f a := Checked.ap f (a ())

/-- Checks each item of a list and says for each problem at which item it is. -/
def items {α β : Type} (check : α → Checked β) : Nat → List α → Checked (List β)
  | _, [] => .valid []
  | index, a :: rest =>
    List.cons <$> (check a).within (.item index) <*> items check (index + 1) rest

/-- A string. -/
def string (v : Json) : Checked String :=
  match v.string? >>= LooseText.toString? with
  | some s => .valid s
  | none => complain .notString

/-- A number, as such, as a truth value that counts as one or zero, or as a string that spells it.
A whole number beyond the range of floating point is none. -/
def number : Json → Checked Float
  | .boolean b => .valid (if b then 1.0 else 0.0)
  | .real x => .valid x
  | .integer n =>
    let x := Decimal.signed (n < 0) (Decimal.nearest n.natAbs 0)
    if x.isInf then complain .notNumber else .valid x
  | .string s =>
    match s.toString? >>= Decimal.float? with
    | some x => .valid x
    | none => complain .unreadableNumber
  | _ => complain .notNumber

/-- A set of names, given as a list of strings. -/
def names : Json → Checked NameSet
  | .array vs => NameSet.ofList <$> items string 0 vs
  | _ => complain .notSet

/-- What a check makes of a value that may be null. -/
def nullable {α : Type} (check : Json → Checked α) (v : Json) : Checked (Option α) :=
  if v.isNull then .valid none else some <$> check v

/-- A field that must be given. -/
def required {α : Type} (name : String) (check : Json → Checked α) (raw : Option Json) :
    Checked α :=
  within (.field name) <| match raw with
    | some v => check v
    | none => complain .missing

/-- A field that has a default. -/
def withDefault {α : Type} (name : String) (default : α) (check : Json → Checked α)
    (raw : Option Json) : Checked α :=
  within (.field name) <| match raw with
    | some v => check v
    | none => .valid default

end Checked

end PersistedDocument
