import LessonCheck.Text.Line

/-!
# Code lines

A code line is what remains of a physical line without the blanks at its ends and without its comment, if
anything remains. A comment starts at the first hash sign outside double quotes; quotes are counted per
line. Layout and comments reach no later stage: everything after this one reads code lines only.
-/

namespace LessonCheck

structure CodeLine where
  number : Nat
  text : Text
  deriving DecidableEq, Repr

namespace CodeLine

/-- The text up to its comment; `quoted` says whether it starts inside quotes. -/
def dropComment (quoted : Bool) : Text → Text
  | [] => []
  | c :: r =>
    if c = '"' then c :: dropComment (!quoted) r
    else if c = '#' ∧ quoted = false then []
    else c :: dropComment quoted r

def clean (physical : Text) : Text := Text.trimEnd (dropComment false (Text.trim physical))

/-- The code line numbered `n`, if the physical line holds any code. -/
def ofPhysical? (n : Nat) (physical : Text) : Option CodeLine :=
  if clean physical = [] then none else some ⟨n, clean physical⟩

/-- The code lines of physical lines numbered from `n`. -/
def ofLines (n : Nat) : List Text → List CodeLine
  | [] => []
  | l :: ls => (ofPhysical? n l).toList ++ ofLines (n + 1) ls

def ofSource (source : Text) : List CodeLine := ofLines 1 source.physicalLines

end CodeLine
end LessonCheck
