import LessonCheck.Text.Utf8
import LessonCheck.Text.Numeral
import LessonCheck.Word

/-!
# Tokens of arithmetic

The right-hand side of an assignment is read as integers, identifiers, the four operators, parentheses and
string literals; a string is a token so that it can be refused by name. A lexeme is a token with the bytes
it covers.
-/

namespace LessonCheck.Arithmetic

inductive Token
  | int (digits : Text)
  | ident (name : Text)
  | str (body : Text)
  | plus | minus | star | slash | leftParen | rightParen
  deriving DecidableEq, Repr

def Token.text : Token → Text
  | int digits => digits
  | ident name => name
  | str body => '"' :: (body ++ ['"'])
  | plus => ['+']
  | minus => ['-']
  | star => ['*']
  | slash => ['/']
  | leftParen => ['(']
  | rightParen => [')']

structure Lexeme where
  token : Token
  start : Nat
  stop : Nat
  deriving DecidableEq, Repr

inductive Error
  | unexpectedInput (offset : Nat) (text : Text)
  | stringLiteral (body : Text)
  | unexpectedToken (token : Token)
  | unexpectedEnd
  | tooDeep
  deriving DecidableEq, Repr

def maxDepth : Nat := 256

def Error.message : Error → Text
  | unexpectedInput offset text =>
      "unrecognised input '".toList ++ text ++ "' at offset ".toList ++ Text.ofNat offset
  | stringLiteral body =>
      "string literal ".toList ++ (Token.str body).text ++ " in arithmetic expression".toList
  | unexpectedToken token => "unexpected '".toList ++ token.text ++ "'".toList
  | unexpectedEnd => "unexpected end of expression".toList
  | tooDeep => "expression nested deeper than ".toList ++ Text.ofNat maxDepth ++ " levels".toList

end LessonCheck.Arithmetic
