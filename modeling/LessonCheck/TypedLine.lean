import LessonCheck.Text.Cluster
import LessonCheck.Text.Utf8

/-!
# Typed lines

A line is typed cluster by cluster, and a backspace takes back the cluster before it. How much that is, is
kept in one byte for each cluster: of a cluster of 256 bytes or more a backspace takes back only what its size
leaves over. Where that would split a character, the line cannot be read.
-/

namespace LessonCheck

/-- The characters of a line so far, the last one first, and how many bytes each backspace would take back. -/
structure TypedLine where
  characters : Text
  sizes : List Nat

namespace TypedLine

def backspace : Char := '\x08'

/-- One more than the greatest size that is kept whole. -/
def sizeLimit : Nat := 256

/-- What is left when the first characters, of so many bytes together, are taken away. -/
def dropBytes? : Nat → Text → Option Text
  | 0, t => some t
  | _ + 1, [] => none
  | n + 1, c :: t => if c.utf8Size ≤ n + 1 then dropBytes? (n + 1 - c.utf8Size) t else none

def erase (l : TypedLine) : Option TypedLine :=
  match l.sizes with
  | [] => some l
  | n :: sizes => (dropBytes? n l.characters).map (⟨·, sizes⟩)

def add (l : TypedLine) (cluster : Text) : TypedLine :=
  ⟨cluster.reverse ++ l.characters, Text.byteSize cluster % sizeLimit :: l.sizes⟩

def step (l : TypedLine) (cluster : Text) : Option TypedLine :=
  if cluster = [backspace] then l.erase else some (l.add cluster)

def text (l : TypedLine) : Text := l.characters.reverse

def read? (typed : Text) : Option Text := ((Text.clusters typed).foldlM step ⟨[], []⟩).map text

end TypedLine
end LessonCheck
