import LessonCheck.Word

/-!
# Types of variables

A variable holds an integer or a string. A declaration names the type by its keyword, and its initial
value must be a literal of the type.
-/

namespace LessonCheck

inductive ValueType
  | integer | string
  deriving DecidableEq, Repr

namespace ValueType

def keyword : ValueType → Keyword
  | integer => .integer
  | string => .string

def describe : ValueType → Text
  | integer => "integer".toList
  | string => "string".toList

def ofKeyword? (w : Text) : Option ValueType :=
  if w = Keyword.integer.text then some integer
  else if w = Keyword.string.text then some string
  else none

/-- The type keyword at the start of the text and what follows it. -/
def leading? (t : Text) : Option (ValueType × Text) :=
  match Text.after? Keyword.integer.text t with
  | some r => some (integer, r)
  | none => (Text.after? Keyword.string.text t).map fun r => (string, r)

def acceptsLiteral : ValueType → Text → Bool
  | integer, w => Word.isIntegerLiteral w
  | string, w => Word.isStringLiteral w

theorem leading?_append {t r : Text} {type : ValueType} (h : leading? t = some (type, r)) :
    t = type.keyword.text ++ r := by
  unfold leading? at h
  split at h
  · next r' h' =>
    simp only [Option.some.injEq, Prod.mk.injEq] at h
    obtain ⟨rfl, rfl⟩ := h
    exact Text.after?_eq_some_iff.1 h'
  · obtain ⟨r', h', heq⟩ := Option.map_eq_some_iff.1 h
    simp only [Prod.mk.injEq] at heq
    obtain ⟨rfl, rfl⟩ := heq
    exact Text.after?_eq_some_iff.1 h'

theorem length_leading? {t r : Text} {type : ValueType} (h : leading? t = some (type, r)) :
    r.length ≤ t.length := by
  rw [leading?_append h]
  simp

end ValueType
end LessonCheck
