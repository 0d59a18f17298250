/-!
# Blanks

The characters that separate the words of a source line: the space, tab, line feed, vertical tab,
form feed and carriage return of ASCII, and no others.
Main statements: `isBlank_iff_mem`, blanks are the six listed characters, and `isSpace_eq_isBlank`,
blanks are the white space of ASCII with the vertical tab.
-/

namespace ByteBench.Text

def blanks : List Char := [' ', '\t', '\n', '\x0B', '\x0C', '\r']

def isBlank (c : Char) : Bool := blanks.contains c

theorem isBlank_iff_mem {c : Char} : isBlank c = true ↔ c ∈ blanks := by
  simp [isBlank]

/-- The white space of ASCII, to which the vertical tab is not counted. -/
def isAsciiSpace (c : Char) : Bool :=
  c == ' ' || c == '\t' || c == '\n' || c == '\x0C' || c == '\r'

def isSpace (c : Char) : Bool := isAsciiSpace c || c == '\x0B'

theorem isSpace_eq_isBlank (c : Char) : isSpace c = isBlank c := by
  simp only [isSpace, isAsciiSpace, isBlank, blanks, List.contains_cons, List.contains_nil]
  grind

/-- A text without the blanks at its end. -/
def trimEnd (cs : List Char) : List Char := (cs.reverse.dropWhile isBlank).reverse

end ByteBench.Text
