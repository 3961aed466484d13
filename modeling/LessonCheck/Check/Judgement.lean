import LessonCheck.Check.RightHandSide
import LessonCheck.Fragment
import LessonCheck.LoopHeader
import LessonCheck.Strictness

/-!
# Judging one fragment

The defects of a fragment against a symbol table, form by form. Nothing here depends on the open blocks but
the one bit that tells whether there is a block to close.
-/

namespace LessonCheck.Check

def declarationDefects (symbols : SymbolTable) (name : Text) (type : ValueType) (value : Option Text) :
    List Defect :=
  match symbols.judge name with
  | .reserved => [.reservedName name]
  | .duplicate => [.alreadyDeclared name]
  | .inserted => if value.all type.acceptsLiteral then [] else [.invalidInitializer name type]

def ioDefects (symbols : SymbolTable) (kind : IoKind) (arg : Text) : List Defect :=
  if Word.isStringLiteral arg || symbols.contains arg then [] else [.undeclaredIn arg kind.context]

/-- Whether the value may be compared with a variable of the type. -/
def comparable (symbols : SymbolTable) (relation : Relation) (value : Text) : ValueType → Bool
  | .integer => Word.isIntegerLiteral value || symbols.isType value .integer
  | .string => !relation.isOrdering && (Word.isStringLiteral value || symbols.isType value .string)

/-- A condition is a comparison of a declared variable with a value of its type. -/
def conditionDefects (symbols : SymbolTable) (condition : Text) : List Defect :=
  match Comparison.ofText? (Text.collapseBlanks condition) with
  | none => [.invalidCondition]
  | some c =>
    match symbols.get? c.name with
    | none => [.unresolvedCondition]
    | some type =>
      if Word.isIdentifier c.value && !symbols.contains c.value then [.unresolvedCondition]
      else if comparable symbols c.relation c.value type then []
      else [.invalidCondition]

def continuationDefects : Continuation → List Defect
  | .otherwiseSemicolon => [.closerElseSemicolon]
  | .semicolonOtherwise => [.closerSemicolonElse]
  | .nothing | .otherwise | .fragment _ => []

def endsWith (c : Char) (t : Text) : Bool := t.getLast? == some c

/-- Everything that is wrong with a fragment, in order. -/
def defects (strictness : Strictness) (symbols : SymbolTable) (nothingOpen : Bool) (f : Fragment) :
    List Defect :=
  match f.form with
  | .closer rest =>
    (if nothingOpen then [.unmatchedCloser] else []) ++ continuationDefects (Continuation.ofText rest)
  | .declaration name type value => declarationDefects symbols name type value
  | .unterminatedDeclaration => [.declarationMissingSemicolon]
  | .assignment target expr => assignmentDefects symbols target expr
  | .io kind arg => ioDefects symbols kind arg
  | .ifHeader condition => if strictness.checksConditions then conditionDefects symbols condition else []
  | .elseHeader => []
  | .elseSemicolon => [.elseSemicolon]
  | .loopHeader header => if (LoopHeader.counter? header).isSome then [] else [.invalidLoop]
  | .unknown =>
    if endsWith ';' f.text || endsWith '[' f.text then [.unknownStatement] else [.missingSemicolon]

end LessonCheck.Check
