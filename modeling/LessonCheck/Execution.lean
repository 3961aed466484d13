import LessonCheck.CommandLine
import LessonCheck.FileCheck
import LessonCheck.Session

/-!
# Running the program

What a run of the program comes to: its exit code, what it prints, and what it gives up with. Settings are
settled before anything else, so a run with invalid settings neither reads programs nor greets. The output takes all
that is printed; what may fail is the reading of a file, and the writing of reports that cannot be spelled.
-/

namespace LessonCheck

structure Surroundings where
  source : FileSource
  environment : Environment
  input : Text

structure Completion where
  exitCode : Nat
  output : Text
  failure : Option Failure

namespace Completion

def programName : Text := "yantra".toList

def version : Text := "0.3.0".toList

def ofOutput (output : Text) : Completion := ⟨0, output, none⟩

/-- Mistakes on the command line and failures have the same exit code. -/
def errorCode : Nat := 2

def brokenCode : Nat := 101

def ofFailure (f : Failure) : Completion := ⟨errorCode, [], some f⟩

/-- What has been written of the reports is printed in any case. -/
def ofReports (format : ReportFormat) (fs : List FileReport) : Completion :=
  if (format.written fs).isWhole then ⟨(FilesStatus.ofReports fs).exitCode, format.write fs, none⟩
  else ⟨errorCode, format.write fs, some .unwritableReports⟩

/-- The line for a failure, which ends where its message has a line of its own. -/
def errorLine (c : Completion) : Text :=
  match c.failure with
  | some f => (Text.lines (programName ++ ": ".toList ++ f.message)).headD []
  | none => []

end Completion

def Session.greeting (s : Strictness) : Text :=
  Completion.programName ++ " v".toList ++ Completion.version ++ " (".toList ++ s.text ++
    " mode)\nType a program, /check to validate it, /help for commands.\n\n".toList

def Session.complete (terminal : Terminal) (s : Strictness) (input : Text) : Completion :=
  let t := transcript terminal (start s) (Text.lines input)
  ⟨if t.isBroken then Completion.brokenCode else 0, greeting s ++ t.shown, none⟩

namespace Invocation

def settings (i : Invocation) (w : Surroundings) : Except Failure Settings :=
  Settings.resolve w.source i.flags.settingsFile (w.environment Settings.variableName) i.flags.relaxed

def run (i : Invocation) (w : Surroundings) : Except Failure Completion := do
  let settings ← i.settings w
  match i.task with
  | .session => .ok (Session.complete (.ofEnvironment w.environment) settings.strictness w.input)
  | .check files format =>
    let reports ← checkFiles w.source settings.strictness files
    .ok (.ofReports format reports)

def files (i : Invocation) : List NativeText :=
  i.flags.settingsFile.toList ++ match i.task with
    | .session => []
    | .check files _ => files

end Invocation

namespace Request

def complete (w : Surroundings) : Request → Completion
  | run i =>
    match i.run w with
    | .ok c => c
    | .error f => .ofFailure f
  | version => .ofOutput (Completion.programName ++ ' ' :: Completion.version ++ ['\n'])
  | help => .ofOutput []
  | misuse => ⟨Completion.errorCode, [], none⟩

end Request
end LessonCheck
