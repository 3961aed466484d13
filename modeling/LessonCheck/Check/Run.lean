import LessonCheck.BlockStack
import LessonCheck.Check.Judgement
import LessonCheck.LogicalStatement

/-!
# Checking a program

A run goes through the fragments of all statements in order, with a symbol table and a stack of open blocks.
Every fragment first yields its findings, then changes the table, then closes and opens blocks. Inside the
body of a rejected loop the loop variable was never declared, so lookup defects are withheld there; the rule
that marks such bodies can be switched off, which leaves everything but the withholding as it is. At the end
every block still open is a finding of its own.
-/

namespace LessonCheck.Check

structure Finding where
  line : Nat
  defect : Defect
  deriving DecidableEq, Repr

def Finding.diagnostic (f : Finding) : Diagnostic := f.defect.onLine f.line

structure Step where
  line : Nat
  fragment : Fragment
  deriving DecidableEq, Repr

def stepsOf (s : LogicalStatement) : List Step := (Fragment.ofStatement s.text).map (⟨s.line, ·⟩)

/-- The steps of a program, fixed by its text alone. -/
def steps (source : Text) : List Step := (LogicalStatement.ofSource source).flatMap stepsOf

structure Rules where
  strictness : Strictness
  /-- Whether the body of a rejected loop is marked as unbound. -/
  marksRejected : Bool
  deriving DecidableEq, Repr

def Rules.ofStrictness (s : Strictness) : Rules := ⟨s, true⟩

structure State where
  symbols : SymbolTable
  blocks : BlockStack
  deriving DecidableEq

namespace State

def start : State := ⟨.empty, .empty⟩

/-- The defects of a fragment that are reported here. -/
def reported (s : State) (rules : Rules) (f : Fragment) : List Defect :=
  let all := defects rules.strictness s.symbols s.blocks.top?.isNone f
  if s.blocks.inUnbound then all.filter fun d => !d.isLookup else all

/-- The table after a fragment: only declarations and accepted loop headers bind a name. -/
def bound (symbols : SymbolTable) : Form → SymbolTable
  | .declaration name type _ => symbols.declare name type
  | .loopHeader header =>
    match LoopHeader.counter? header with
    | some name => symbols.affirm name .integer
    | none => symbols
  | _ => symbols

def opened? (rules : Rules) (line : Nat) (f : Fragment) : Option Block :=
  match f.form with
  | .closer rest =>
    match Continuation.ofText rest with
    | .otherwise | .otherwiseSemicolon | .semicolonOtherwise => some ⟨line, .otherwise, false⟩
    | .nothing | .fragment _ => none
  | .unterminatedDeclaration | .unknown =>
    if endsWith '[' f.text then some ⟨line, .other, false⟩ else none
  | .ifHeader _ => some ⟨line, .when, false⟩
  | .elseHeader | .elseSemicolon => some ⟨line, .otherwise, false⟩
  | .loopHeader header =>
    some ⟨line, .loop, rules.marksRejected && (LoopHeader.counter? header).isNone⟩
  | .declaration .. | .assignment .. | .io .. => none

def closes : Form → Bool
  | .closer _ => true
  | _ => false

def nested (blocks : BlockStack) (rules : Rules) (line : Nat) (f : Fragment) : BlockStack :=
  let closed := if closes f.form then blocks.pop else blocks
  match opened? rules line f with
  | some b => closed.push b
  | none => closed

def next (s : State) (rules : Rules) (step : Step) : State :=
  ⟨bound s.symbols step.fragment.form, nested s.blocks rules step.line step.fragment⟩

def findings (s : State) (rules : Rules) (step : Step) : List Finding :=
  (s.reported rules step.fragment).map (⟨step.line, ·⟩)

/-- The findings of a list of steps and the state after them. -/
def run (rules : Rules) : State → List Step → List Finding × State
  | s, [] => ([], s)
  | s, step :: rest =>
    let r := run rules (s.next rules step) rest
    (s.findings rules step ++ r.1, r.2)

def unclosed (s : State) : List Finding := s.blocks.opened.map fun b => ⟨b.line, .unclosedBlock⟩

end State

/-- The outcome of a run: what was found, and the table at the end. -/
structure Outcome where
  findings : List Finding
  symbols : SymbolTable
  deriving DecidableEq

def Outcome.diagnostics (o : Outcome) : List Diagnostic := o.findings.map Finding.diagnostic

def program (rules : Rules) (source : Text) : Outcome :=
  let r := State.start.run rules (steps source)
  ⟨r.1 ++ r.2.unclosed, r.2.symbols⟩

end Check

/-- Checks a program: its diagnostics in the order of discovery, and its variables. -/
def check (strictness : Strictness) (source : Text) : List Diagnostic × SymbolTable :=
  let o := Check.program (.ofStrictness strictness) source
  (o.diagnostics, o.symbols)

end LessonCheck
