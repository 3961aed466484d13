import LessonCheck.Check.Run
import LessonCheck.Json.Writer
import LessonCheck.NativeText

/-!
# Reports

The record of one checked program: the program as submitted, whether it passed, and its diagnostics. A file
report adds the name of the file. Both are written as JSON, where a name has to be a text; file reports are also
written for people, one line for a clean file and one line for each diagnostic of any other.
-/

namespace LessonCheck

structure Report where
  code : Text
  isValid : Bool
  diagnostics : List Diagnostic
  deriving DecidableEq, Repr

structure FileReport where
  file : NativeText
  report : Report
  deriving DecidableEq, Repr

def Diagnostic.json (l : Json.Layout) (d : Diagnostic) : Text :=
  l.object [("line".toList, Json.number d.line), ("message".toList, Json.string d.message)]

namespace Report

def ofDiagnostics (code : Text) (diagnostics : List Diagnostic) : Report :=
  ⟨code, diagnostics.isEmpty, diagnostics⟩

def ofProgram (strictness : Strictness) (code : Text) : Report :=
  ofDiagnostics code (check strictness code).1

def members (l : Json.Layout) (r : Report) : List (Text × Text) := [
  ("code".toList, Json.string r.code),
  ("is_valid".toList, Json.bool r.isValid),
  ("diagnostics".toList, l.deeper.array (r.diagnostics.map (Diagnostic.json l.deeper.deeper)))]

def json (l : Json.Layout) (r : Report) : Text := l.object (r.members l)

end Report

namespace FileReport

def json (l : Json.Layout) (f : FileReport) : Json.Written :=
  match f.file with
  | .text name => .whole (l.object (("file".toList, Json.string name) :: f.report.members l))
  | .raw .. => l.brokenObject "file".toList

/-- All reports as one indented array with a final newline. -/
def listJson (fs : List FileReport) : Json.Written :=
  .concat [Json.Layout.writeArray (.indented 0) (fs.map (json (.indented 1))), .whole ['\n']]

def lines (f : FileReport) : List Text :=
  if f.report.isValid then [f.file.shown ++ ": ok".toList]
  else f.report.diagnostics.map fun d => f.file.shown ++ ':' :: Text.ofNat d.line ++ ": ".toList ++ d.message

def listText (fs : List FileReport) : Text := fs.flatMap fun f => f.lines.flatMap (· ++ ['\n'])

end FileReport

inductive ReportFormat
  | text | json
  deriving DecidableEq, Repr

namespace ReportFormat

def written : ReportFormat → List FileReport → Json.Written
  | text, fs => .whole (FileReport.listText fs)
  | json, fs => FileReport.listJson fs

def write (format : ReportFormat) (fs : List FileReport) : Text := (format.written fs).output

end ReportFormat

inductive FilesStatus
  | clean | diagnostics
  deriving DecidableEq, Repr

namespace FilesStatus

def ofReports (fs : List FileReport) : FilesStatus :=
  if fs.all fun f => f.report.isValid then clean else diagnostics

def exitCode : FilesStatus → Nat
  | clean => 0
  | diagnostics => 1

end FilesStatus
end LessonCheck
