/-!
# Lines

A text falls into lines at its line breaks: line feed, carriage return, the two of them in
that order as one break, line tabulation, form feed, the information separators U+001C to
U+001E, next line U+0085, and the separators U+2028 and U+2029. A break at the end of the text
ends its last line and starts no other.
-/

namespace Stepflow.Text

def isLineBreak (c : Char) : Bool :=
  let n := c.toNat
  (0x0A ≤ n && n ≤ 0x0D) || (0x1C ≤ n && n ≤ 0x1E) || n == 0x85 || n == 0x2028 || n == 0x2029

/-- The lines of a text that starts within the line `line`, whose characters so far stand in
reverse. -/
def linesFrom (line : List Char) : List Char → List (List Char)
  | [] => if line.isEmpty then [] else [line.reverse]
  | '\r' :: '\n' :: s => line.reverse :: linesFrom [] s
  | c :: s => if isLineBreak c then line.reverse :: linesFrom [] s else linesFrom (c :: line) s

/-- The lines of a text, without the breaks. -/
def lines (s : String) : List String :=
  (linesFrom [] s.toList).map String.ofList

end Stepflow.Text
