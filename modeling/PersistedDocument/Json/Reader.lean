import PersistedDocument.Decimal.Reading
import PersistedDocument.Json.Encoding
import PersistedDocument.Json.Value
import PersistedDocument.Text.Hexadecimal

/-!
# Reading JSON

`read` accepts JSON texts, and besides them the words for infinity and for no number. A string may
name any code unit in an escape; escapes that stand side by side and form a surrogate pair are one
character. A whole number may have up to `Decimal.maximalDigits` digits. Arrays and objects may lie
in each other as far as there is room; how much there is depends on where the reader runs.
-/

namespace PersistedDocument.Json

/-- Why a text cannot be read. -/
inductive ReadError where
  /-- The text is no JSON text. -/
  | malformed
  /-- A whole number has too many digits. -/
  | oversizedInteger
  /-- There is no room for an array or an object inside the others. -/
  | nestedTooDeeply
deriving DecidableEq, Repr

namespace Reader

/-- The characters between the parts of a JSON text. -/
def isGap : CodePoint → Bool
  | .scalar c => c = ' ' || c = '\t' || c = '\n' || c = '\r'
  | .surrogate _ => false

/-- A text from its next part on. -/
def skipGap (t : LooseText) : LooseText := t.dropWhile isGap

/-! ### Strings -/

/-- A part of a written string. -/
inductive StringPart where
  /-- A code point, or an escape by letter. -/
  | point (c : CodePoint)
  /-- An escape by code unit. -/
  | unit (n : Nat)
deriving DecidableEq, Repr

/-- The code points of the parts of a string. -/
def joinParts : List StringPart → LooseText
  | [] => []
  | .point c :: parts => c :: joinParts parts
  | .unit n :: .unit m :: parts =>
    if CodePoint.isLeading n && CodePoint.isTrailing m then
      Utf16.single (CodePoint.pairValue n m) :: joinParts parts
    else Utf16.single n :: joinParts (.unit m :: parts)
  | .unit n :: parts => Utf16.single n :: joinParts parts

/-- The character that an escape by letter stands for. -/
def escapeLetter? : Char → Option Char
  | '"' => some '"'
  | '\\' => some '\\'
  | '/' => some '/'
  | 'b' => some '\x08'
  | 'f' => some '\x0c'
  | 'n' => some '\n'
  | 'r' => some '\r'
  | 't' => some '\t'
  | _ => none

/-- The code unit that four digits at the start of a text spell. -/
def codeUnit? : LooseText → Option Nat
  | .scalar a :: .scalar b :: .scalar c :: .scalar d :: _ => Hexadecimal.read? [a, b, c, d]
  | _ => none

/-- The part that an escape is, read after its backslash, and how many characters it takes. -/
def escapePart : LooseText → Except ReadError (StringPart × Nat)
  | .scalar 'u' :: rest =>
    match codeUnit? rest with
    | some n => .ok (.unit n, 5)
    | none => .error .malformed
  | .scalar c :: _ =>
    match escapeLetter? c with
    | some decoded => .ok (.point (.scalar decoded), 1)
    | none => .error .malformed
  | _ => .error .malformed

/-- The parts of a string, read after its opening quotation mark up to the closing one. -/
def stringParts : LooseText → Except ReadError (List StringPart × LooseText)
  | [] => .error .malformed
  | c :: rest =>
    if c = .scalar '"' then .ok ([], rest)
    else if c = .scalar '\\' then do
      let (part, size) ← escapePart rest
      let (parts, after) ← stringParts (rest.drop size)
      return (part :: parts, after)
    else if c.toNat < 0x20 then .error .malformed
    else do
      let (parts, after) ← stringParts rest
      return (.point c :: parts, after)
termination_by t => t.length
decreasing_by all_goals simp only [List.length_cons, List.length_drop]; omega

/-- A string, read after its opening quotation mark. -/
def string (t : LooseText) : Except ReadError (LooseText × LooseText) := do
  let (parts, after) ← stringParts t
  return (joinParts parts, after)

/-! ### Numbers -/

/-- The digits at the start of a text. -/
def digitRun : LooseText → List Char
  | .scalar c :: rest => if c.isDigit then c :: digitRun rest else []
  | _ => []

/-- A minus sign at the start of a text. -/
def minusSign : LooseText → Bool
  | .scalar '-' :: _ => true
  | _ => false

/-- The digits of the integer part of a number: a zero alone, or digits of which the first is not
one. -/
def wholeDigits : LooseText → List Char
  | .scalar '0' :: _ => ['0']
  | t => digitRun t

/-- The digits of a fraction, if a point and a digit come next. -/
def fractionDigits : LooseText → List Char
  | .scalar '.' :: rest => digitRun rest
  | _ => []

/-- The sign that an exponent starts with. -/
def exponentSign : LooseText → List Char
  | .scalar '+' :: _ => ['+']
  | .scalar '-' :: _ => ['-']
  | _ => []

/-- The sign and the digits of an exponent, if a letter for it and a digit come next. -/
def exponentParts : LooseText → Option (List Char × List Char)
  | .scalar c :: rest =>
    if c = 'e' ∨ c = 'E' then
      let sign := exponentSign rest
      let ds := digitRun (rest.drop sign.length)
      if ds.isEmpty then none else some (sign, ds)
    else none
  | _ => none

/-- A number. -/
def number (t : LooseText) : Except ReadError (Json × LooseText) :=
  let isNegative := minusSign t
  let t := if isNegative then t.drop 1 else t
  let whole := wholeDigits t
  if whole.isEmpty then .error .malformed
  else
    let t := t.drop whole.length
    let fraction := fractionDigits t
    let t := if fraction.isEmpty then t else t.drop (fraction.length + 1)
    match exponentParts t with
    | some (sign, ds) =>
      let magnitude : Int := Decimal.ofDigits ds
      let exponent := if sign = ['-'] then -magnitude else magnitude
      .ok (.real (Decimal.signed isNegative (Decimal.ofParts whole fraction exponent)),
        t.drop (1 + sign.length + ds.length))
    | none =>
      if fraction.isEmpty then
        if whole.length > Decimal.maximalDigits then .error .oversizedInteger
        else
          let n : Int := Decimal.ofDigits whole
          .ok (.integer (if isNegative then -n else n), t)
      else .ok (.real (Decimal.signed isNegative (Decimal.ofParts whole fraction 0)), t)

/-! ### Values -/

/-- The words that stand for a value. -/
def words : List (String × Json) :=
  [("null", .null), ("true", .boolean true), ("false", .boolean false),
    ("NaN", .real Decimal.notANumber), ("Infinity", .real Decimal.infinity),
    ("-Infinity", .real (-Decimal.infinity))]

/-- The word at the start of a text, and the text after it. -/
def word? (t : LooseText) : Option (Json × LooseText) :=
  words.findSome? fun (w, v) =>
    let spelled := LooseText.ofString w
    if spelled.isPrefixOf t then some (v, t.drop spelled.length) else none

/-- The room inside a bracket, which takes up a unit of it. -/
def enter : Nat → Except ReadError Nat
  | 0 => .error .nestedTooDeeply
  | room + 1 => .ok room

mutual

/-- A value, with room for so many arrays and objects in each other. Each level and each item uses
up at least a character, so that the length of the text bounds the recursion. -/
def value : Nat → Nat → LooseText → Except ReadError (Json × LooseText)
  | _, 0, _ => .error .malformed
  | room, bound + 1, t =>
    match t with
    | .scalar '"' :: rest => do
      let (s, rest) ← string rest
      return (.string s, rest)
    | .scalar '[' :: rest => do
      let room ← enter room
      match skipGap rest with
      | .scalar ']' :: rest => return (.array [], rest)
      | rest => do
        let (items, rest) ← items room bound rest
        return (.array items, rest)
    | .scalar '{' :: rest => do
      let room ← enter room
      match skipGap rest with
      | .scalar '}' :: rest => return (.object [], rest)
      | rest => do
        let (members, rest) ← members room bound rest
        return (.object (dedupe members), rest)
    | t =>
      match word? t with
      | some found => .ok found
      | none => number t

/-- The items of an array up to its end. -/
def items : Nat → Nat → LooseText → Except ReadError (List Json × LooseText)
  | _, 0, _ => .error .malformed
  | room, bound + 1, t => do
    let (v, rest) ← value room bound t
    match skipGap rest with
    | .scalar ',' :: rest => do
      let (vs, rest) ← items room bound (skipGap rest)
      return (v :: vs, rest)
    | .scalar ']' :: rest => return ([v], rest)
    | _ => throw .malformed

/-- The members of an object up to its end. -/
def members : Nat → Nat → LooseText → Except ReadError (List (LooseText × Json) × LooseText)
  | _, 0, _ => .error .malformed
  | room, bound + 1, t =>
    match t with
    | .scalar '"' :: rest => do
      let (n, rest) ← string rest
      match skipGap rest with
      | .scalar ':' :: rest => do
        let (v, rest) ← value room bound (skipGap rest)
        match skipGap rest with
        | .scalar ',' :: rest => do
          let (ms, rest) ← members room bound (skipGap rest)
          return ((n, v) :: ms, rest)
        | .scalar '}' :: rest => return ([(n, v)], rest)
        | _ => throw .malformed
      | _ => throw .malformed
    | _ => .error .malformed

end

end Reader

open Reader in
/-- The value of a whole text, with room for so many arrays and objects in each other. -/
def read (room : Nat) (t : LooseText) : Except ReadError Json := do
  let (v, rest) ← value room (2 * t.length + 2) (skipGap t)
  if (skipGap rest).isEmpty then return v else throw .malformed

/-- The value of a sequence of octets, in any of the encodings of JSON. -/
def readOctets (room : Nat) (octets : Octets) : Except ReadError Json :=
  match decodeOctets? octets with
  | some t => read room t
  | none => .error .malformed

end PersistedDocument.Json
