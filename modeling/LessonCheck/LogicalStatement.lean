import LessonCheck.CodeLine
import LessonCheck.Header

/-!
# Logical statements

Code lines are joined, newline between newline, until the joined text closes a statement. A text that holds
the start of a loop header closes only with the bracket after the header, so that the semicolons inside the
header end nothing; any other text closes with a semicolon or an opening bracket, or when it is a closing
bracket alone. A statement bears the number of its first line.
-/

namespace LessonCheck

structure LogicalStatement where
  text : Text
  line : Nat
  deriving DecidableEq, Repr

namespace LogicalStatement

def isMultiline (s : LogicalStatement) : Bool := s.text.contains '\n'

/-- The lines joined so far, and whether a loop header has started among them. -/
structure Pending where
  text : Text
  line : Nat
  inLoopHeader : Bool
  deriving DecidableEq, Repr

namespace Pending

def ofLine (l : CodeLine) : Pending := ⟨l.text, l.number, Header.containsLoop l.text⟩

def push (p : Pending) (l : CodeLine) : Pending :=
  let text := p.text ++ '\n' :: l.text
  { p with text, inLoopHeader := p.inLoopHeader || Header.containsLoop text }

def closes (p : Pending) : Bool :=
  if p.inLoopHeader then (Header.beforeBracket? p.text).isSome
  else p.text.getLast? == some ';' || p.text.getLast? == some '[' || p.text == [']']

def statement (p : Pending) : LogicalStatement := ⟨p.text, p.line⟩

end Pending

/-- Extends the pending statement line by line; what is still open at the end is a statement too. -/
def group : Option Pending → List CodeLine → List LogicalStatement
  | pending, [] => pending.toList.map Pending.statement
  | pending, l :: ls =>
    let p := match pending with
      | none => Pending.ofLine l
      | some p => p.push l
    if p.closes then p.statement :: group none ls else group (some p) ls

def ofSource (source : Text) : List LogicalStatement := group none (CodeLine.ofSource source)

end LogicalStatement
end LessonCheck
