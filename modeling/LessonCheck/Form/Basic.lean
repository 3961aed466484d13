import LessonCheck.ValueType

/-!
# Forms of a statement

What one fragment of a statement is. A closing bracket keeps what follows it; a declaration whose line ends
before its semicolon is a form of its own, so that the absorbed line is not blamed.
-/

namespace LessonCheck

inductive IoKind
  | print | scan
  deriving DecidableEq, Repr

namespace IoKind

def keyword : IoKind → Keyword
  | print => .print
  | scan => .scan

def context : IoKind → Text
  | print => "print".toList
  | scan => "scan".toList

end IoKind

inductive Form
  | closer (rest : Text)
  | declaration (name : Text) (type : ValueType) (value : Option Text)
  | unterminatedDeclaration
  | assignment (target expr : Text)
  | io (kind : IoKind) (arg : Text)
  | ifHeader (condition : Text)
  | elseHeader
  | elseSemicolon
  | loopHeader (header : Text)
  | unknown
  deriving DecidableEq, Repr

def Form.name : Form → Text
  | closer _ => "closer".toList
  | declaration .. => "declaration".toList
  | unterminatedDeclaration => "unterminated-declaration".toList
  | assignment .. => "assignment".toList
  | io .print _ => "print".toList
  | io .scan _ => "scan".toList
  | ifHeader _ => "if-header".toList
  | elseHeader => "else-header".toList
  | elseSemicolon => "else-semicolon".toList
  | loopHeader _ => "loop-header".toList
  | unknown => "unknown".toList

end LessonCheck
