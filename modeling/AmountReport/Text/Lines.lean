/-!
# Lines

A line ends with a line feed, a carriage return, or the two together; what follows the last line
end is a line unless it is empty. `lines` reads a text so, from left to right. `pieceLines` takes
the lines of one piece, a text in which a line feed can only be the last character: it takes off one
line feed, then one carriage return, and cuts at the carriage returns that are left.
-/

namespace AmountReport.Text

/-- The lines of a text. -/
def lines : List Char → List (List Char)
  | [] => []
  | '\r' :: '\n' :: rest => [] :: lines rest
  | c :: rest =>
    if c = '\n' ∨ c = '\r' then [] :: lines rest
    else match lines rest with
      | [] => [[c]]
      | line :: more => (c :: line) :: more

/-- Takes off one final `c`. -/
def dropFinal (c : Char) (s : List Char) : List Char :=
  if s.getLast? = some c then s.dropLast else s

/-- What stands between the separators: one part more than there are separators. -/
def splitAt {α : Type} [DecidableEq α] (separator : α) (s : List α) : List (List α) :=
  s.foldr (fun c parts =>
    if c = separator then [] :: parts
    else match parts with
      | [] => [[c]]
      | part :: more => (c :: part) :: more) [[]]

/-- The lines of a piece. -/
def pieceLines (piece : List Char) : List (List Char) :=
  splitAt '\r' (dropFinal '\r' (dropFinal '\n' piece))

end AmountReport.Text
