import LessonCheck.Text.Blank

/-!
# Lines of a text

Two ways to divide a text at its newlines. `physicalLines` keeps every piece, so that the number of a line
is its position; `lines` is what a reader of a file sees: a newline ends a line, a carriage return before
it belongs to the ending, and nothing follows the last ending.
-/

namespace LessonCheck.Text

def physicalLines (t : Text) : List Text := t.splitOn '\n'

def joinLines (ls : List Text) : Text := ['\n'].intercalate ls

def dropReturn (l : Text) : Text := if l.getLast? = some '\r' then l.dropLast else l

/-- The ended lines without their endings, then the unended one if it is not empty. -/
def lines (t : Text) : List Text :=
  let ls := physicalLines t
  ls.dropLast.map dropReturn ++ ls.getLast?.toList.filter (· ≠ [])

theorem physicalLines_ne_nil (t : Text) : physicalLines t ≠ [] := List.splitOnP_ne_nil _ t

theorem joinLines_physicalLines (t : Text) : joinLines (physicalLines t) = t :=
  List.intercalate_splitOn '\n'

end LessonCheck.Text
