/-!
# Lines of a text

A line ends before a line feed, and a carriage return just before the line feed belongs to the
ending. A text that ends in a line feed has no further line after it, and a carriage return
anywhere else is an ordinary character.
-/

namespace ByteBench.Text

/-- A line that a line feed has ended, without a carriage return at its end. -/
def dropReturn (line : List Char) : List Char :=
  if line.getLast? = some '\r' then line.dropLast else line

/-- The lines of a text, of which `started` has been read, last character first, of the line at
hand. -/
def linesFrom (started : List Char) : List Char → List (List Char)
  | [] => if started.isEmpty then [] else [started.reverse]
  | '\n' :: cs => dropReturn started.reverse :: linesFrom [] cs
  | c :: cs => linesFrom (c :: started) cs

def lines (s : String) : List String := (linesFrom [] s.toList).map String.ofList

end ByteBench.Text
