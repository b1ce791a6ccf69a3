set_option autoImplicit false

namespace DriveHealth.Text

def dropReturn (line : List Char) : List Char :=
  if line.getLast? = some '\r' then line.dropLast else line

/-- The pieces between line feeds: one more than there are line feeds. -/
def pieces (cs : List Char) : List (List Char) := cs.splitOn '\n'

/-- The non-empty lines. A carriage return at the very end of the text is dropped too. -/
def filledLines (cs : List Char) : List (List Char) :=
  ((pieces cs).map dropReturn).filter (!·.isEmpty)

/-- All lines, empty ones included. What follows the last line feed is a line if it is not empty, and
keeps its carriage return, as no line feed follows. -/
def lines (cs : List Char) : List (List Char) :=
  let ps := pieces cs
  ps.dropLast.map dropReturn ++ (ps.getLast?.toList.filter (!·.isEmpty))

end DriveHealth.Text
