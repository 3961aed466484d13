import LessonCheck.Text.Blank

/-!
# Strictness

The one choice a user has: whether conditions are checked for their names and types, or only for the shape
of their header.
-/

namespace LessonCheck

inductive Strictness
  | strict | relaxed
  deriving DecidableEq, Repr

namespace Strictness

def text : Strictness → Text
  | strict => "strict".toList
  | relaxed => "relaxed".toList

def checksConditions : Strictness → Bool
  | strict => true
  | relaxed => false

def ofWord? (w : Text) : Option Strictness :=
  if w = strict.text then some strict else if w = relaxed.text then some relaxed else none

/-- Reads the word without regard to blanks around it and to the case of ASCII letters; a word that is no
strictness is handed back in small letters. -/
def ofText (t : Text) : Except Text Strictness :=
  let w := (Text.trim t).map Char.toLower
  match ofWord? w with
  | some s => .ok s
  | none => .error w

def unknownMessage (w : Text) : Text :=
  "unknown strictness '".toList ++ w ++ "' (expected 'strict' or 'relaxed')".toList

@[simp] theorem ofWord?_text (s : Strictness) : ofWord? s.text = some s := by
  cases s <;> decide

end Strictness
end LessonCheck
