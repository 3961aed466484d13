import LessonCheck.Arithmetic.Depth

/-!
# The arithmetic grammar

    expr  := term (("+" | "-") term)*
    term  := unary (("*" | "/") unary)*
    unary := ("+" | "-")* atom
    atom  := INT | IDENT | "(" expr ")"

A reader takes one phrase off the front of a token list. Every choice is decided by the next token, so the
first token that a reader cannot use is the first that no expression continues with. `expr n` reads the
expressions with at most `n` parentheses open at once: its recursion is on `n` alone.
-/

namespace LessonCheck.Arithmetic

abbrev Reader := List Token → Except Error (List Token)

/-- The complaint about the place where a reader finds nothing to use. -/
def stuck : List Token → Error
  | [] => .unexpectedEnd
  | t :: _ => .unexpectedToken t

/-- An operand without signs; `group` reads the inside of parentheses. -/
def atom (group : Reader) : Reader
  | .int _ :: ts | .ident _ :: ts => .ok ts
  | .leftParen :: ts =>
    match group ts with
    | .ok (.rightParen :: rest) => .ok rest
    | .ok rest => .error (stuck rest)
    | .error e => .error e
  | ts => .error (stuck ts)

def unary (group : Reader) : Reader
  | .plus :: ts | .minus :: ts => unary group ts
  | ts => atom group ts

/-- At most `n` further operands, each behind an operator. -/
def operands (isOperator : Token → Bool) (operand : Reader) : Nat → Reader
  | n + 1, t :: ts =>
    if isOperator t then (operand ts).bind (operands isOperator operand n) else .ok (t :: ts)
  | _, ts => .ok ts

/-- An operand and as many further ones as follow. -/
def chain (isOperator : Token → Bool) (operand : Reader) : Reader := fun ts =>
  (operand ts).bind fun rest => operands isOperator operand rest.length rest

def isFactorOperator (t : Token) : Bool := t == .star || t == .slash

def isTermOperator (t : Token) : Bool := t == .plus || t == .minus

def term (group : Reader) : Reader := chain isFactorOperator (unary group)

def expr : Nat → Reader
  | 0 => chain isTermOperator (term fun _ => .error .tooDeep)
  | n + 1 => chain isTermOperator (term (expr n))

/-- Whether the whole list is one expression; the depth is judged first. -/
def checkGrammar (ts : List Token) : Except Error Unit :=
  if nestingDepth ts > maxDepth then .error .tooDeep
  else
    match expr maxDepth ts with
    | .ok [] => .ok ()
    | .ok rest => .error (stuck rest)
    | .error e => .error e

end LessonCheck.Arithmetic
