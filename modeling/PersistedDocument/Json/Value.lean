import PersistedDocument.Text.CodePoint

/-!
# JSON values

Values as JSON texts give them. Strings may hold unpaired surrogates, whole numbers are unbounded,
and the members of an object keep their order, each name once.
-/

namespace PersistedDocument

/-- A JSON value. -/
inductive Json where
  /-- The value without content. -/
  | null
  /-- A truth value. -/
  | boolean (value : Bool)
  /-- A number written without fraction and exponent. -/
  | integer (value : Int)
  /-- Any other number. -/
  | real (value : Float)
  /-- A string. -/
  | string (value : LooseText)
  /-- A list of values. -/
  | array (items : List Json)
  /-- Named values, in order. -/
  | object (members : List (LooseText × Json))

namespace Json

/-- The string of an ordinary text. -/
def text (s : String) : Json := .string (.ofString s)

/-- An object with ordinary names. -/
def ofFields (fields : List (String × Json)) : Json :=
  .object (fields.map fun (n, v) => (.ofString n, v))

/-- Gives a name a value among members: in its place if it is there, else at the end. -/
def setMember (name : LooseText) (value : Json) :
    List (LooseText × Json) → List (LooseText × Json)
  | [] => [(name, value)]
  | (n, v) :: members =>
    if n = name then (n, value) :: members else (n, v) :: setMember name value members

/-- Members in which each name stands once: where it stood first, with the value it had last. -/
def dedupe (members : List (LooseText × Json)) : List (LooseText × Json) :=
  members.foldl (fun acc (n, v) => setMember n v acc) []

/-- The members of an object. -/
def members? : Json → Option (List (LooseText × Json))
  | .object members => some members
  | _ => none

/-- The text of a string. -/
def string? : Json → Option LooseText
  | .string s => some s
  | _ => none

/-- The value that a name has in an object. -/
def member? (name : String) (v : Json) : Option Json := do
  (← v.members?).lookup (.ofString name)

/-- Whether a value is the one without content. -/
def isNull : Json → Bool
  | .null => true
  | _ => false

/-- Whether a value has at most a given number of levels. Each item and each member is a level below
the value that holds it. -/
def isWithin : Nat → Json → Bool
  | 0, _ => false
  | depth + 1, .array items => items.all (isWithin depth)
  | depth + 1, .object members => members.all fun (_, v) => isWithin depth v
  | _ + 1, _ => true

end Json

end PersistedDocument
