/-!
# Cutting and joining

A text, be it of characters or of octets, is cut at each occurrence of a separator, and pieces are
joined with a separator between them. Cutting loses nothing: joining the pieces with the separator
gives the text back.
-/

namespace PersistedDocument.Text

/-- The pieces of a text between the occurrences of a separator; a text without one is a single
piece. -/
def splitOn {α : Type} [DecidableEq α] (separator : α) : List α → List (List α)
  | [] => [[]]
  | c :: cs =>
    if c = separator then [] :: splitOn separator cs
    else
      match splitOn separator cs with
      | [] => [[c]]
      | piece :: pieces => (c :: piece) :: pieces

/-- Pieces with a separator between them. -/
def joinWith {α : Type} (separator : List α) : List (List α) → List α
  | [] => []
  | [piece] => piece
  | piece :: pieces => piece ++ separator ++ joinWith separator pieces

theorem splitOn_ne_nil {α : Type} [DecidableEq α] (separator : α) (cs : List α) :
    splitOn separator cs ≠ [] := by
  cases cs with
  | nil => simp [splitOn]
  | cons c cs => simp only [splitOn]; split <;> (try split) <;> simp

theorem joinWith_cons_cons {α : Type} (separator : List α) (c : α) (piece : List α)
    (pieces : List (List α)) :
    joinWith separator ((c :: piece) :: pieces) = c :: joinWith separator (piece :: pieces) := by
  cases pieces <;> simp [joinWith]

/-- Cutting a text loses nothing. -/
theorem joinWith_splitOn {α : Type} [DecidableEq α] (separator : α) (cs : List α) :
    joinWith [separator] (splitOn separator cs) = cs := by
  induction cs with
  | nil => rfl
  | cons c cs ih =>
    cases hs : splitOn separator cs with
    | nil => exact absurd hs (splitOn_ne_nil separator cs)
    | cons piece pieces =>
      rw [hs] at ih
      simp only [splitOn, hs]
      split
      · next h => simp [joinWith, ih, h]
      · rw [joinWith_cons_cons, ih]

/-- The text before the first occurrence of a character, and the text after it if there is one. -/
def cutAt (separator : Char) (cs : List Char) : List Char × Option (List Char) :=
  let before := cs.takeWhile (· ≠ separator)
  match cs.drop before.length with
  | [] => (before, none)
  | _ :: after => (before, some after)

/-- The text before the last occurrence of a character, if there is one, and the text after it. -/
def cutAtLast (separator : Char) (cs : List Char) : Option (List Char) × List Char :=
  match cutAt separator cs.reverse with
  | (after, none) => (none, after.reverse)
  | (after, some before) => (some before.reverse, after.reverse)

/-- Whether a text stands somewhere in another. -/
def occursIn (part : List Char) : List Char → Bool
  | [] => part.isEmpty
  | c :: cs => part.isPrefixOf (c :: cs) || occursIn part cs

end PersistedDocument.Text
