import LessonCheck.Arithmetic.Token

/-!
# Nesting depth of a token list

One scan bounds the nesting before the grammar runs. A parenthesis where an operand is expected opens a
group one level deeper than the signs before it, and its closer gives all these levels back. The scan makes
sense of any token list, well-formed or not.
-/

namespace LessonCheck.Arithmetic

/-- The state of the scan: the deepest level so far, the level of the innermost open group, the signs
pending above it, the levels that each open group added, and whether an operand comes next. -/
structure DepthScan where
  deepest : Nat
  base : Nat
  signs : Nat
  groups : List Nat
  operandNext : Bool
  deriving DecidableEq, Repr

namespace DepthScan

def start : DepthScan := ⟨0, 0, 0, [], true⟩

def sign (s : DepthScan) : DepthScan :=
  { s with signs := s.signs + 1, deepest := max s.deepest (s.base + (s.signs + 1)) }

def openGroup (s : DepthScan) : DepthScan :=
  let opened := s.signs + 1
  { s with
    groups := opened :: s.groups
    base := s.base + opened
    signs := 0
    deepest := max s.deepest (s.base + opened) }

def closeGroup (s : DepthScan) : DepthScan :=
  { s with
    base := s.base - s.groups.head?.getD 0
    groups := s.groups.tail
    signs := 0
    operandNext := false }

def operand (s : DepthScan) : DepthScan := { s with signs := 0, operandNext := false }

def operator (s : DepthScan) : DepthScan := { s with signs := 0, operandNext := true }

def step (s : DepthScan) : Token → DepthScan
  | .plus | .minus => if s.operandNext then s.sign else s.operator
  | .leftParen => if s.operandNext then s.openGroup else s.operator
  | .rightParen => s.closeGroup
  | .int _ | .ident _ | .str _ => s.operand
  | .star | .slash => s.operator

end DepthScan

def nestingDepth (ts : List Token) : Nat := (ts.foldl DepthScan.step .start).deepest

end LessonCheck.Arithmetic
