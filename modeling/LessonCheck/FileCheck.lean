import LessonCheck.Report
import LessonCheck.Settings

/-!
# Checking files

Every file is read and checked, in order. The first file that cannot be read ends the whole check: there are
reports for all files or for none.
-/

namespace LessonCheck

namespace FileReport

def ofFile (source : FileSource) (strictness : Strictness) (file : NativeText) : Except Failure FileReport := do
  let code ← (source file).mapError (.unreadableProgram file)
  .ok ⟨file, Report.ofProgram strictness code⟩

end FileReport

def checkFiles (source : FileSource) (strictness : Strictness) (files : List NativeText) :
    Except Failure (List FileReport) :=
  files.mapM (FileReport.ofFile source strictness)

end LessonCheck
