import LessonCheck.Arithmetic.Depth
import LessonCheck.Arithmetic.Expression
import LessonCheck.Arithmetic.Grammar
import LessonCheck.Arithmetic.Lexer
import LessonCheck.Arithmetic.Token
import LessonCheck.BlockStack
import LessonCheck.CaseFile
import LessonCheck.Check.Judgement
import LessonCheck.Check.RightHandSide
import LessonCheck.Check.Run
import LessonCheck.CodeLine
import LessonCheck.CommandLine
import LessonCheck.Comparison
import LessonCheck.Diagnostic
import LessonCheck.Execution
import LessonCheck.FileCheck
import LessonCheck.Folder
import LessonCheck.Form.Basic
import LessonCheck.Form.Reader
import LessonCheck.Fragment
import LessonCheck.Header
import LessonCheck.Json.Double
import LessonCheck.Json.Mismatch
import LessonCheck.Json.Number
import LessonCheck.Json.Scan
import LessonCheck.Json.Typed
import LessonCheck.Json.Writer
import LessonCheck.LogicalStatement
import LessonCheck.LoopHeader
import LessonCheck.Main
import LessonCheck.NativeText
import LessonCheck.Proofs.Accounting
import LessonCheck.Proofs.Appending
import LessonCheck.Proofs.Arithmetic.Acceptance
import LessonCheck.Proofs.Arithmetic.Depth
import LessonCheck.Proofs.Arithmetic.Derivation
import LessonCheck.Proofs.Arithmetic.Earliest
import LessonCheck.Proofs.Arithmetic.Layout
import LessonCheck.Proofs.Arithmetic.Reach
import LessonCheck.Proofs.Arithmetic.Spans
import LessonCheck.Proofs.Arithmetic.Spelling
import LessonCheck.Proofs.Arithmetic.Unlimited
import LessonCheck.Proofs.Bindings
import LessonCheck.Proofs.Blocks
import LessonCheck.Proofs.Brackets
import LessonCheck.Proofs.CaseFile
import LessonCheck.Proofs.CaseRun
import LessonCheck.Proofs.Chaining
import LessonCheck.Proofs.CommandLine
import LessonCheck.Proofs.Comparison
import LessonCheck.Proofs.FileCheck
import LessonCheck.Proofs.Findings
import LessonCheck.Proofs.Form
import LessonCheck.Proofs.Frame
import LessonCheck.Proofs.History
import LessonCheck.Proofs.IntegerAssignment
import LessonCheck.Proofs.Json.Composite
import LessonCheck.Proofs.Json.Scalar
import LessonCheck.Proofs.Json.Written
import LessonCheck.Proofs.Layout
import LessonCheck.Proofs.LoopHeader.InitialValue
import LessonCheck.Proofs.LoopHeader.Opening
import LessonCheck.Proofs.LoopHeader.Relation
import LessonCheck.Proofs.Matching
import LessonCheck.Proofs.Mentions
import LessonCheck.Proofs.Messages
import LessonCheck.Proofs.Mismatch
import LessonCheck.Proofs.Openers
import LessonCheck.Proofs.Operands
import LessonCheck.Proofs.Partition
import LessonCheck.Proofs.Places
import LessonCheck.Proofs.Program.Completeness
import LessonCheck.Proofs.Program.FirstLine
import LessonCheck.Proofs.Program.Grouping
import LessonCheck.Proofs.Program.Judgement
import LessonCheck.Proofs.Program.Opener
import LessonCheck.Proofs.Program.PrintedLiteral
import LessonCheck.Proofs.Program.Reading
import LessonCheck.Proofs.Program.Recognition
import LessonCheck.Proofs.Program.Tree
import LessonCheck.Proofs.Program.Typing
import LessonCheck.Proofs.Program.UnusedDeclaration
import LessonCheck.Proofs.Program.Written
import LessonCheck.Proofs.Progress
import LessonCheck.Proofs.Relayout
import LessonCheck.Proofs.Rendering
import LessonCheck.Proofs.Renumbering
import LessonCheck.Proofs.Report
import LessonCheck.Proofs.Run
import LessonCheck.Proofs.SameCode
import LessonCheck.Proofs.Session
import LessonCheck.Proofs.Shapes
import LessonCheck.Proofs.Soundness
import LessonCheck.Proofs.Statement
import LessonCheck.Proofs.Strictness
import LessonCheck.Proofs.Tally
import LessonCheck.Proofs.Text.Infix
import LessonCheck.Proofs.Text.Lines
import LessonCheck.Proofs.Text.Numeral
import LessonCheck.Proofs.Text.Trim
import LessonCheck.Proofs.Text.Words
import LessonCheck.Proofs.Withholding
import LessonCheck.Rendering
import LessonCheck.Report
import LessonCheck.Report.Reader
import LessonCheck.Session
import LessonCheck.Settings
import LessonCheck.Strictness
import LessonCheck.SymbolTable
import LessonCheck.Tally
import LessonCheck.Terminal
import LessonCheck.Text.Blank
import LessonCheck.Text.BreakClass
import LessonCheck.Text.Cluster
import LessonCheck.Text.Cut
import LessonCheck.Text.Line
import LessonCheck.Text.Numeral
import LessonCheck.Text.Quoted
import LessonCheck.Text.Utf8
import LessonCheck.TypedLine
import LessonCheck.ValueType
import LessonCheck.Word
