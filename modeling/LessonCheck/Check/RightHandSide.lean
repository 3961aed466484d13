import LessonCheck.Arithmetic.Expression
import LessonCheck.Diagnostic
import LessonCheck.SymbolTable

/-!
# Right-hand sides

What may be assigned to a variable. An integer takes a literal, a variable, or arithmetic over both; a
string takes a literal or a variable. Unknown names in arithmetic are reported one by one; any other fault
is one mismatch, described by the shape of the right-hand side.
-/

namespace LessonCheck.Check

inductive Shape
  | integerLiteral | stringLiteral | integerVariable | stringVariable | undeclaredVariable
  | mixed | arithmetic | invalid
  deriving DecidableEq, Repr

namespace Shape

def text : Shape → Text
  | integerLiteral => "integer literal".toList
  | stringLiteral => "string literal".toList
  | integerVariable => "integer variable".toList
  | stringVariable => "string variable".toList
  | undeclaredVariable => Defect.undeclaredVariable
  | mixed => "mixed string and arithmetic expression".toList
  | arithmetic => "arithmetic expression".toList
  | invalid => "invalid expression".toList

def ofExpr (symbols : SymbolTable) (expr : Text) : Shape :=
  if Word.isIntegerLiteral expr then integerLiteral
  else if Word.isStringLiteral expr then stringLiteral
  else if expr ≠ [] ∧ expr.all Word.isNameChar then
    match symbols.get? expr with
    | some .integer => integerVariable
    | some .string => stringVariable
    | none => undeclaredVariable
  else if expr.contains '"' then mixed
  else if expr.any (['+', '-', '*', '/'].contains ·) then arithmetic
  else invalid

end Shape

inductive Verdict
  | valid
  | undeclared (names : List Text)
  | mismatch
  deriving DecidableEq, Repr

/-- Judges arithmetic by its names first and by its grammar last. -/
def expressionVerdict (symbols : SymbolTable) (e : Arithmetic.Expression) : Verdict :=
  match e.names.filter fun name => !symbols.contains name with
  | name :: names => .undeclared (name :: names)
  | [] =>
    if e.names.all fun name => symbols.isType name .integer then
      match e.check with
      | .ok _ => .valid
      | .error _ => .mismatch
    else .mismatch

def integerVerdict (symbols : SymbolTable) (expr : Text) : Verdict :=
  if Word.isIntegerLiteral expr then .valid
  else if Word.isIdentifier expr then
    if symbols.isType expr .integer then .valid else .mismatch
  else if expr.contains '"' then .mismatch
  else
    match Arithmetic.Expression.ofText expr with
    | .ok e => expressionVerdict symbols e
    | .error _ => .mismatch

def stringVerdict (symbols : SymbolTable) (expr : Text) : Verdict :=
  if Word.isStringLiteral expr || symbols.isType expr .string then .valid else .mismatch

def verdict (symbols : SymbolTable) (expr : Text) : ValueType → Verdict
  | .integer => integerVerdict symbols expr
  | .string => stringVerdict symbols expr

def assignmentDefects (symbols : SymbolTable) (target expr : Text) : List Defect :=
  match symbols.get? target with
  | none => [.undeclared target]
  | some type =>
    match verdict symbols (Text.trim expr) type with
    | .valid => []
    | .undeclared names => names.map .undeclared
    | .mismatch => [.typeMismatch (Shape.ofExpr symbols (Text.trim expr)).text type target]

end LessonCheck.Check
