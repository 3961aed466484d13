import LessonCheck.Word

/-!
# Comparisons

A name, a relation and a value. The relations are tried with the longer spellings first, and a spelling is
taken only if a value is left after it.
-/

namespace LessonCheck

inductive Relation
  | equal | different | atMost | atLeast | less | greater
  deriving DecidableEq, Repr

namespace Relation

def text : Relation → Text
  | equal => "==".toList
  | different => "!=".toList
  | atMost => "<=".toList
  | atLeast => ">=".toList
  | less => "<".toList
  | greater => ">".toList

def all : List Relation := [equal, different, atMost, atLeast, less, greater]

/-- Whether the relation compares by order, which has no meaning for strings. -/
def isOrdering : Relation → Bool
  | equal | different => false
  | atMost | atLeast | less | greater => true

end Relation

structure Comparison where
  name : Text
  relation : Relation
  value : Text
  deriving DecidableEq, Repr

namespace Comparison

/-- The compared value: one line and not empty. Of blanks alone the last is the value, so it is no newline;
trimming then leaves nothing of it. -/
def value? (t : Text) : Option Text :=
  if t.getLast?.all (· == '\n') || (Text.trimStart t).contains '\n' then none else some (Text.trim t)

def ofText? (t : Text) : Option Comparison := do
  let (name, afterName) ← Word.identifier? t
  Relation.all.findSome? fun relation => do
    let rest ← Text.after? relation.text (Text.trimStart afterName)
    let value ← value? rest
    some ⟨name, relation, value⟩

end Comparison
end LessonCheck
