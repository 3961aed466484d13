import LessonCheck.ValueType
import LessonCheck.Text.Numeral

/-!
# Diagnostics

A diagnostic is a line number and a message. A defect is the cause behind it: what is wrong, with the names
concerned. All wording is in `Defect.message`, and two defects of conditions share one wording. The lookup
defects are those that come from a name being unknown.
-/

namespace LessonCheck

structure Diagnostic where
  line : Nat
  message : Text
  deriving DecidableEq, Repr

def Diagnostic.display (d : Diagnostic) : Text :=
  "line ".toList ++ Text.ofNat d.line ++ ": ".toList ++ d.message

inductive Defect
  | unmatchedCloser
  | unclosedBlock
  | reservedName (name : Text)
  | alreadyDeclared (name : Text)
  | invalidInitializer (name : Text) (type : ValueType)
  | declarationMissingSemicolon
  | undeclared (name : Text)
  | typeMismatch (description : Text) (type : ValueType) (target : Text)
  | undeclaredIn (name context : Text)
  | invalidCondition
  | unresolvedCondition
  | elseSemicolon
  | closerElseSemicolon
  | closerSemicolonElse
  | invalidLoop
  | missingSemicolon
  | unknownStatement
  deriving DecidableEq, Repr

namespace Defect

/-- The description of a right-hand side that is one unknown name. -/
def undeclaredVariable : Text := "undeclared variable".toList

def literalOf : ValueType → Text
  | .integer => "integer".toList
  | .string => "string in quotes".toList

def message : Defect → Text
  | unmatchedCloser => "Unmatched closing bracket ']'".toList
  | unclosedBlock => "Missing closing ']' for block opened here.".toList
  | reservedName name => "Variable name '".toList ++ name ++ "' is reserved.".toList
  | alreadyDeclared name => "Variable '".toList ++ name ++ "' already declared.".toList
  | invalidInitializer name type =>
      "Invalid ".toList ++ type.describe ++ " value for '".toList ++ name ++ "'. Expected ".toList ++
        literalOf type ++ ".".toList
  | declarationMissingSemicolon => "Missing semicolon in variable declaration.".toList
  | undeclared name => "Undeclared variable '".toList ++ name ++ "'.".toList
  | typeMismatch description type target =>
      "Type mismatch: Cannot assign ".toList ++ description ++ " to ".toList ++ type.describe ++
        " variable '".toList ++ target ++ "'.".toList
  | undeclaredIn name context =>
      "Undeclared variable '".toList ++ name ++ "' in ".toList ++ context ++ ".".toList
  | invalidCondition | unresolvedCondition => "Invalid condition in ELAITHE.".toList
  | elseSemicolon => "Invalid ALAITHE syntax. Remove semicolon before '['.".toList
  | closerElseSemicolon => "Invalid syntax: Remove semicolon between '] ALAITHE' and '['.".toList
  | closerSemicolonElse => "Invalid syntax: Remove semicolon between ']' and 'ALAITHE'.".toList
  | invalidLoop => "Invalid MALLI-MALLI syntax.".toList
  | missingSemicolon => "Missing semicolon.".toList
  | unknownStatement => "Unknown or invalid statement.".toList

/-- Whether the defect comes from a name that was never declared. -/
def isLookup : Defect → Bool
  | undeclared _ | undeclaredIn .. | unresolvedCondition => true
  | typeMismatch description .. => description == undeclaredVariable
  | _ => false

def onLine (d : Defect) (line : Nat) : Diagnostic := ⟨line, d.message⟩

end Defect
end LessonCheck
