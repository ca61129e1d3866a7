/-!
# Ends of lines

Files end their lines in one of three ways: with a line feed, with a carriage return, or with both.
Whatever reads the text of a file sees line feeds only.
-/

set_option autoImplicit false

namespace MeshAttest.Text

/-- A text in which every line ends with a line feed. -/
def unifyLineEnds : List Char → List Char
  | '\r' :: '\n' :: rest => '\n' :: unifyLineEnds rest
  | '\r' :: rest => '\n' :: unifyLineEnds rest
  | c :: rest => c :: unifyLineEnds rest
  | [] => []

end MeshAttest.Text
