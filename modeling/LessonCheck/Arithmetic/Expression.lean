import LessonCheck.Arithmetic.Lexer
import LessonCheck.Arithmetic.Grammar

/-!
# Arithmetic expressions

A text that splits into tokens none of which is a string. Strings never take part in arithmetic, so they
are refused before the grammar is asked.
-/

namespace LessonCheck.Arithmetic

structure Expression where
  lexemes : List Lexeme
  deriving DecidableEq, Repr

namespace Expression

def tokens (e : Expression) : List Token := e.lexemes.map Lexeme.token

def string? : Token → Option Text
  | .str body => some body
  | _ => none

def name? : Token → Option Text
  | .ident name => some name
  | _ => none

def ofText (t : Text) : Except Error Expression :=
  (Arithmetic.lexemes t).bind fun ls =>
    match ls.findSome? fun l => string? l.token with
    | some body => .error (.stringLiteral body)
    | none => .ok ⟨ls⟩

/-- The names of the expression, each once, in order of first appearance. -/
def names (e : Expression) : List Text := (e.tokens.filterMap name?).eraseDups

def check (e : Expression) : Except Error Unit := checkGrammar e.tokens

end Expression
end LessonCheck.Arithmetic
