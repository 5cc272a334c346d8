import PersistedDocument.GraphQL.SyntaxError

/-!
# Reading tokens

A parser reads from the tokens that are left and either gives a result and the tokens after it or
stops with an error. The stream is always one token ahead: moving onto the place where the text
cannot be cut into tokens is what reports the lexical error there.
-/

namespace PersistedDocument.GraphQL

/-- The tokens that are left, and the lexical error behind them, if they do not reach the end of the
text. -/
structure TokenStream where
  /-- The tokens, of which the first is looked at next. -/
  tokens : List Token
  /-- Why there are no more. -/
  ending : Option LexicalError
deriving DecidableEq, Repr

/-- A reader of tokens. -/
abbrev Parser := StateT TokenStream (Except SyntaxError)

namespace Parser

variable {α : Type}

/-- Reports the lexical error of a stream whose tokens are used up. -/
def reach (s : TokenStream) : Except SyntaxError TokenStream :=
  match s.tokens, s.ending with
  | [], some e => .error (.lexical e)
  | _, _ => .ok s

/-- The next token; `none` at the end of the text. -/
def peek : Parser (Option Token) := do
  return (← get).tokens.head?

/-- Moves past the next token. -/
def advance : Parser Unit := fun s =>
  (reach { s with tokens := s.tokens.tail }).map fun s => ((), s)

/-- The token after the next one; the stream stays where it is. -/
def lookahead : Parser (Option Token) := fun s =>
  (reach { s with tokens := s.tokens.tail }).map fun ahead => (ahead.tokens.head?, s)

/-- Moves past a punctuator if it comes next. -/
def accept (p : Punctuator) : Parser Bool := do
  if (← peek) = some (.punctuator p) then
    advance
    return true
  else return false

/-- Moves past a punctuator, which must come next. -/
def expect (p : Punctuator) : Parser Unit := do
  unless ← accept p do
    throw (.expected (.punctuator p) (← peek))

/-- Moves past a name with a given text if it comes next. -/
def acceptKeyword (k : String) : Parser Bool := do
  if (← peek) = some (.name k) then
    advance
    return true
  else return false

/-- Moves past a name with a given text, which must come next. -/
def expectKeyword (k : String) : Parser Unit := do
  unless ← acceptKeyword k do
    throw (.expected (.keyword k) (← peek))

/-- Any name, which must come next. -/
def name : Parser String := do
  match ← peek with
  | some (.name n) =>
    advance
    return n
  | found => throw (.expected .name found)

/-- The results of `step` up to its first `none`, at most as many as there are tokens in a list. -/
def collectWithin (step : Parser (Option α)) : List Token → Parser (List α)
  | [] => do
    match ← step with
    | none => return []
    | some _ => throw (.unexpected none)
  | _ :: bound => do
    match ← step with
    | none => return []
    | some a => return a :: (← collectWithin step bound)

/-- The results of `step` up to its first `none`. A step that gives a result uses up a token, so
that the tokens that are left bound the number of steps. -/
def collect (step : Parser (Option α)) : Parser (List α) := do
  collectWithin step (← get).tokens

/-- Items up to a closing punctuator, which is used up. -/
def itemsUntil (item : Parser α) (close : Punctuator) : Parser (List α) :=
  collect do
    if ← accept close then return none else return some (← item)

/-- Items between two punctuators, possibly none. -/
def anyBetween (opening : Punctuator) (item : Parser α) (close : Punctuator) : Parser (List α) := do
  expect opening
  itemsUntil item close

/-- Items between two punctuators, at least one. -/
def someBetween (opening : Punctuator) (item : Parser α) (close : Punctuator) :
    Parser (List α) := do
  expect opening
  let first ← item
  return first :: (← itemsUntil item close)

/-- Items between two punctuators, at least one, or nothing at all. -/
def optionallyBetween (opening : Punctuator) (item : Parser α) (close : Punctuator) :
    Parser (List α) := do
  if ← accept opening then
    let first ← item
    return first :: (← itemsUntil item close)
  else return []

/-- Items with a separator between them and possibly before the first one, at least one item. -/
def separatedBy (separator : Punctuator) (item : Parser α) : Parser (List α) := do
  let _ ← accept separator
  let first ← item
  let rest ← collect do
    if ← accept separator then return some (← item) else return none
  return first :: rest

end Parser

end PersistedDocument.GraphQL
