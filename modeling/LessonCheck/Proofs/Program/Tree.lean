import LessonCheck.Comparison
import LessonCheck.Form.Basic
import LessonCheck.LoopHeader
import LessonCheck.Proofs.Arithmetic.Derivation
import LessonCheck.Proofs.Arithmetic.Spelling
import LessonCheck.Proofs.Layout

/-!
# Program trees

The programs of the documented language as trees, and the lines in which a tree is written: one line for each
command, header and closing bracket. The leaves carry what makes them well-formed. A node of the tree holds
what follows it, so that a tree is also the list of its statements.
-/

namespace LessonCheck

namespace Program

open Text Arithmetic

/-- A name that a program may declare. -/
structure Name where
  text : Text
  isIdentifier : Word.isIdentifier text = true
  isFree : Word.isReserved text = false

structure Numeral where
  text : Text
  isLiteral : Word.isIntegerLiteral text = true

def isBodyChar (c : Char) : Bool := c != '"' && c != '\n' && c != ';'

/-- What stands between the quotes of a string literal. -/
structure Body where
  text : Text
  isPlain : text.all isBodyChar = true

def Body.quoted (b : Body) : Text := '"' :: (b.text ++ ['"'])

inductive Literal
  | number (n : Numeral)
  | string (b : Body)

namespace Literal

def text : Literal → Text
  | number n => n.text
  | string b => b.quoted

def type : Literal → ValueType
  | number _ => .integer
  | string _ => .string

end Literal

inductive Argument
  | quoted (b : Body)
  | named (x : Name)

def Argument.text : Argument → Text
  | quoted b => b.quoted
  | named x => x.text

/-- An arithmetic expression as it is written, with layout between its tokens. -/
structure Formula where
  pieces : List Piece
  depth : Nat
  wellSpelled : WellSpelled pieces
  startsBare : pieces.head?.all (·.1.isEmpty) = true
  derived : Derives .expr depth (pieces.map Prod.snd)
  shallow : depth ≤ maxDepth

def Formula.text (e : Formula) : Text := spell e.pieces

inductive RightHandSide
  | formula (e : Formula)
  | argument (a : Argument)

def RightHandSide.text : RightHandSide → Text
  | formula e => e.text
  | argument a => a.text

inductive Comparand
  | numeral (n : Numeral)
  | argument (a : Argument)

def Comparand.text : Comparand → Text
  | numeral n => n.text
  | argument a => a.text

structure Condition where
  subject : Name
  relation : Relation
  value : Comparand

def Condition.text (c : Condition) : Text :=
  c.subject.text ++ ' ' :: (c.relation.text ++ ' ' :: c.value.text)

/-- The part in parentheses of a loop that is accepted with this counter. -/
structure Counting where
  text : Text
  counter : Name
  accepted : LoopHeader.counter? text = some counter.text
  framed : Framed text
  whole : CodeLine.Whole text

inductive Command
  | declare (x : Name) (type : ValueType) (value : Option Literal)
  | assign (target : Name) (value : RightHandSide)
  | io (kind : IoKind) (a : Argument)

namespace Command

def initializer : Option Literal → Text
  | none => []
  | some l => ' ' :: '=' :: ' ' :: l.text

def text : Command → Text
  | declare x type value =>
    Keyword.declare.text ++ ' ' :: (x.text ++ ':' :: (type.keyword.text ++ (initializer value ++ [';'])))
  | assign target value => target.text ++ ' ' :: '=' :: ' ' :: (value.text ++ [';'])
  | io kind a => kind.keyword.text ++ '(' :: (a.text ++ [')', ';'])

end Command

inductive Line
  | command (c : Command)
  | condition (c : Condition)
  | loop (h : Counting)
  | close
  | otherwise

/-- A header: the keyword, the part in parentheses and the opening bracket. -/
def headerText (k : Keyword) (part : Text) : Text := k.text ++ ' ' :: '(' :: (part ++ [')', ' ', '['])

def Line.text : Line → Text
  | command c => c.text
  | condition c => headerText .when c.text
  | loop h => headerText .loop h.text
  | close => [']']
  | otherwise => ']' :: ' ' :: (Keyword.otherwise.text ++ [' ', '['])

end Program

open Program in
/-- A list of statements; the blocks of a statement are lists of statements. -/
inductive Program
  | done
  | command (c : Command) (rest : Program)
  | branch (c : Condition) (body rest : Program)
  | choice (c : Condition) (body alternative rest : Program)
  | loop (h : Counting) (body rest : Program)

namespace Program

/-- The lines of a program, without any layout. -/
def lines : Program → List Line
  | done => []
  | command c rest => .command c :: rest.lines
  | branch c body rest => .condition c :: (body.lines ++ .close :: rest.lines)
  | choice c body alternative rest =>
    .condition c :: (body.lines ++ .otherwise :: (alternative.lines ++ .close :: rest.lines))
  | loop h body rest => .loop h :: (body.lines ++ .close :: rest.lines)

end Program
end LessonCheck
