/-! # Lines

Two ways to cut a text into lines are in use.

* `lines` reads the output of a program: a line ends with a newline, and a carriage return
  right before the newline belongs to the end of the line.  Line ends are left out.  What
  follows the last newline is a line of its own unless it is empty.
* `pieces` keeps every character: a piece ends with a newline, with a carriage return, or with
  both in this order. -/

namespace FieldPattern.Text

/-- A line without the carriage return at its end. -/
def dropReturn (line : List Char) : List Char :=
  if line.getLast? = some '\r' then line.dropLast else line

/-- The lines of a text, `start` being what has been read of the first one, backwards. -/
def linesFrom (start : List Char) : List Char → List (List Char)
  | [] => if start.isEmpty then [] else [start.reverse]
  | c :: rest =>
      if c = '\n' then dropReturn start.reverse :: linesFrom [] rest
      else linesFrom (c :: start) rest

/-- The lines of a text, without their ends. -/
def lines (s : List Char) : List (List Char) := linesFrom [] s

/-- The pieces of a text, `start` being what has been read of the first one, backwards. -/
def piecesFrom (start : List Char) : List Char → List (List Char)
  | [] => if start.isEmpty then [] else [start.reverse]
  | '\r' :: '\n' :: rest => ('\n' :: '\r' :: start).reverse :: piecesFrom [] rest
  | c :: rest =>
      if c = '\n' ∨ c = '\r' then (c :: start).reverse :: piecesFrom [] rest
      else piecesFrom (c :: start) rest

/-- The pieces of a text, with their ends. -/
def pieces (s : List Char) : List (List Char) := piecesFrom [] s

/-- The pieces of a text spell the text. -/
theorem flatten_piecesFrom (start s : List Char) :
    (piecesFrom start s).flatten = start.reverse ++ s := by
  fun_induction piecesFrom start s with
  | case1 start h => simp_all
  | case2 start h => simp
  | case3 start rest ih => simp [ih]
  | case4 start c rest h hc ih => simp [ih]
  | case5 start c rest h hc ih => simp [ih]

theorem flatten_pieces (s : List Char) : (pieces s).flatten = s := flatten_piecesFrom [] s

end FieldPattern.Text
