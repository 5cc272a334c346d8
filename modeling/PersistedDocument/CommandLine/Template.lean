import PersistedDocument.Decimal.Digits

/-!
# Templates

A template is a text with slots for values. A slot starts with a percent sign. It may name its
value in parentheses and may say how wide the value is shown; its last character says in which
form. Two percent signs stand for one. A slot without a name shows all values together, but only if
no other slot came before.

Reading a template goes from one character to the next, and each state of it is a part of a slot.
-/

namespace PersistedDocument.CommandLine.Template

/-! ### Values -/

/-- A value that a slot can show. -/
structure Value where
  /-- The value as it is. -/
  plain : List Char
  /-- The value in the form that shows where it ends. -/
  quoted : List Char
deriving DecidableEq, Repr

/-- The values that slots can show. -/
structure Values where
  /-- The values by their names. -/
  named : List (List Char × Value)
  /-- All of them together. -/
  together : Value
deriving DecidableEq, Repr

/-! ### Layout -/

/-- How a value is laid out. -/
structure Layout where
  /-- Whether the value is at the left end of its room. -/
  isLeft : Bool
  /-- The least number of characters. -/
  width : Nat
  /-- The greatest number of characters that are taken of the value. -/
  limit : Option Nat
deriving DecidableEq, Repr

/-- The value as it is. -/
def Layout.plain : Layout := ⟨false, 0, none⟩

/-- A text that is laid out. -/
def Layout.apply (l : Layout) (cs : List Char) : List Char :=
  let shown := l.limit.elim cs cs.take
  let gap := List.replicate (l.width - shown.length) ' '
  if l.isLeft then shown ++ gap else gap ++ shown

/-- The greatest width. -/
def greatestWidth : Nat := Nat.pow 2 63 - 1

/-- The greatest limit. -/
def greatestLimit : Nat := Nat.pow 2 31 - 1

/-! ### Filling in -/

/-- Why a template cannot be filled in. -/
inductive Flaw where
  /-- A slot does not end, is too wide, or asks for a form that does not exist. -/
  | malformed
  /-- A slot names a value that is not there. -/
  | unknownName
  /-- A slot has no value, or one that cannot take the form it asks for. -/
  | unsuitable
deriving DecidableEq, Repr

/-- Where in a template its reading is. -/
inductive Place where
  /-- In the text between slots. -/
  | between
  /-- After the sign that starts a slot. -/
  | opened
  /-- In a name, which is kept last character first, inside as many parentheses of its own. -/
  | name (depth : Nat) (read : List Char)
  /-- Among the marks for the layout. -/
  | marks
  /-- In the width. -/
  | width
  /-- After the point before the limit. -/
  | point
  /-- In the limit. -/
  | limit
  /-- After the letter for the size of a number. -/
  | size
deriving DecidableEq, Repr

/-- What has been filled in so far. -/
structure Filled where
  /-- The text, last character first. -/
  written : List Char
  /-- The value that the next slot shows, unless it has been shown. -/
  value : Option Value
  /-- The layout that the current slot asks for. -/
  layout : Layout
  /-- The place in the template. -/
  place : Place
deriving DecidableEq, Repr

/-- Moves to another place. -/
def Filled.moveTo (f : Filled) (place : Place) : Filled := { f with place }

/-- Adds text and leaves the slot. -/
def Filled.write (f : Filled) (cs : List Char) : Filled :=
  { f with written := cs.reverse ++ f.written, place := .between, layout := .plain }

/-- Shows the value in a form: `s` as it is, `r` and `a` quoted. No value is a number or a single
character. -/
def Filled.showValue (f : Filled) (form : Char) : Except Flaw Filled :=
  match f.value with
  | none => .error .unsuitable
  | some v =>
    let f := { f with value := none }
    if form = 's' then .ok (f.write (f.layout.apply v.plain))
    else if form = 'r' || form = 'a' then .ok (f.write (f.layout.apply v.quoted))
    else if "diouxXeEfFgGc".contains form then .error .unsuitable
    else .error .malformed

/-- Reads the letter for the size of a number, which means nothing, or the form. -/
def Filled.afterLimit (f : Filled) (c : Char) : Except Flaw Filled :=
  if c = 'h' || c = 'l' || c = 'L' then .ok (f.moveTo .size) else f.showValue c

/-- Reads what can follow the width. -/
def Filled.afterWidth (f : Filled) (c : Char) : Except Flaw Filled :=
  if c = '.' then .ok { f with layout := { f.layout with limit := some 0 }, place := .point }
  else f.afterLimit c

/-- Takes one more digit of the width. -/
def Filled.widen (f : Filled) (c : Char) : Except Flaw Filled :=
  let width := 10 * f.layout.width + Decimal.ofDigits [c]
  if width ≤ greatestWidth then .ok { f with layout := { f.layout with width }, place := .width }
  else .error .malformed

/-- Takes one more digit of the limit. -/
def Filled.restrict (f : Filled) (c : Char) : Except Flaw Filled :=
  let limit := 10 * f.layout.limit.getD 0 + Decimal.ofDigits [c]
  if limit ≤ greatestLimit then
    .ok { f with layout := { f.layout with limit := some limit }, place := .limit }
  else .error .malformed

/-- Takes the value with a name, which is given last character first. -/
def Filled.choose (f : Filled) (values : Values) (read : List Char) : Except Flaw Filled :=
  match values.named.lookup read.reverse with
  | some v => .ok { f with value := some v, place := .marks }
  | none => .error .unknownName

/-- Reads a character among the marks for the layout. No value is a number that could be a width. -/
def Filled.mark (f : Filled) (c : Char) : Except Flaw Filled :=
  if c = '-' then .ok { f with layout := { f.layout with isLeft := true }, place := .marks }
  else if "+ #0".contains c then .ok (f.moveTo .marks)
  else if c = '*' then .error .unsuitable
  else if c.isDigit then f.widen c
  else f.afterWidth c

/-- Reads a character. -/
def Filled.step (values : Values) (f : Filled) (c : Char) : Except Flaw Filled :=
  match f.place with
  | .between => .ok (if c = '%' then f.moveTo .opened else f.write [c])
  | .opened =>
    if c = '%' then .ok (f.write ['%'])
    else if c = '(' then .ok (f.moveTo (.name 0 []))
    else f.mark c
  | .name depth read =>
    match c, depth with
    | ')', 0 => f.choose values read
    | ')', depth + 1 => .ok (f.moveTo (.name depth (c :: read)))
    | '(', depth => .ok (f.moveTo (.name (depth + 1) (c :: read)))
    | _, depth => .ok (f.moveTo (.name depth (c :: read)))
  | .marks => f.mark c
  | .width => if c.isDigit then f.widen c else f.afterWidth c
  | .point =>
    if c = '*' then .error .unsuitable
    else if c.isDigit then f.restrict c
    else f.afterLimit c
  | .limit => if c.isDigit then f.restrict c else f.afterLimit c
  | .size => f.showValue c

/-- A template with its slots filled in. -/
def fill (values : Values) (template : List Char) : Except Flaw (List Char) := do
  let filled ← template.foldlM (Filled.step values) ⟨[], some values.together, .plain, .between⟩
  if filled.place = .between then return filled.written.reverse else throw .malformed

end PersistedDocument.CommandLine.Template
