import LessonCheck.Execution
import LessonCheck.Proofs.CommandLine
import LessonCheck.Proofs.Messages
import LessonCheck.Proofs.Report
import LessonCheck.Proofs.Text.Lines
import LessonCheck.Proofs.Text.Numeral

/-!
# Checking many files

A check of files comes to an answer about all of them or to none. If one of them cannot be read, nothing is
printed, whatever stands in the files before it, and the failure names the first such file. Otherwise the exit code
says whether some file has a diagnostic, in either format, and the listing has a block of lines for each file. Only
reports in JSON on a file whose name is no text end in another way: they break off there.
-/

namespace LessonCheck

open Text

/-- The first file of the list that cannot be read. -/
def FirstUnreadable (source : FileSource) (files : List NativeText) (file : NativeText) (reason : ReadFailure) :
    Prop :=
  ∃ front back, files = front ++ file :: back ∧ (∀ f ∈ front, ∃ code, source f = .ok code) ∧
    source file = .error reason

/-- The lines about a file: a single one if its program has no diagnostic, else one for each diagnostic in order. -/
inductive Announces (source : FileSource) (strictness : Strictness) (file : NativeText) : List Text → Prop
  | clean {code : Text} (hRead : source file = .ok code) (hCheck : (check strictness code).1 = []) :
      Announces source strictness file [file.shown ++ ": ok".toList]
  | faulty {code : Text} (hRead : source file = .ok code) (hCheck : (check strictness code).1 ≠ []) :
      Announces source strictness file
        ((check strictness code).1.map fun d =>
          file.shown ++ ":".toList ++ Text.ofNat d.line ++ ": ".toList ++ d.message)

/-- Some file has a diagnostic. -/
def AnyFaulty (source : FileSource) (strictness : Strictness) (files : List NativeText) : Prop :=
  ∃ file ∈ files, ∃ code, source file = .ok code ∧ (check strictness code).1 ≠ []

/-- The check gives up over the file, and has printed nothing. -/
structure GivesUp (c : Completion) (file : NativeText) (reason : ReadFailure) : Prop where
  exitCode : c.exitCode = 2
  output : c.output = []
  failure : c.failure = some (.unreadableProgram file reason)
  message : c.failure.map Failure.message =
    some ("failed to read ".toList ++ file.shown ++ ": ".toList ++ reason.message)

/-- The check answers for all files. -/
structure AnswersAll (source : FileSource) (strictness : Strictness) (files : List NativeText)
    (format : ReportFormat) (c : Completion) : Prop where
  failure : c.failure = none
  faulty : c.exitCode = 1 ↔ AnyFaulty source strictness files
  clean : c.exitCode = 0 ↔ ¬AnyFaulty source strictness files
  listing : format = .text → ∃ blocks, List.Forall₂ (Announces source strictness) files blocks ∧
    c.output = endLines blocks.flatten ∧ ((∀ file ∈ files, '\n' ∉ file.shown) → lines c.output = blocks.flatten)

/-! ## Reading the files -/

/-- The report is about the file as it is read. -/
def IsReportOf (source : FileSource) (strictness : Strictness) (file : NativeText) (f : FileReport) : Prop :=
  ∃ code, source file = .ok code ∧ f = ⟨file, Report.ofProgram strictness code⟩

theorem exists_firstUnreadable {source : FileSource} {files : List NativeText}
    (h : ∃ file ∈ files, ∃ reason, source file = .error reason) :
    ∃ file reason, FirstUnreadable source files file reason := by
  induction files with
  | nil =>
    obtain ⟨file, hFile, -⟩ := h
    cases hFile
  | cons first files ih =>
    cases hRead : source first with
    | error reason => exact ⟨first, reason, [], files, rfl, List.forall_mem_nil _, hRead⟩
    | ok code =>
      have hRest : ∃ file ∈ files, ∃ reason, source file = .error reason := by
        obtain ⟨file, hFile, reason, hReason⟩ := h
        rcases List.mem_cons.mp hFile with rfl | hFile
        · cases hRead.symm.trans hReason
        · exact ⟨file, hFile, reason, hReason⟩
      obtain ⟨file, reason, front, back, rfl, hFront, hReason⟩ := ih hRest
      exact ⟨file, reason, first :: front, back, rfl, List.forall_mem_cons.mpr ⟨⟨code, hRead⟩, hFront⟩, hReason⟩

theorem checkFiles_cons (source : FileSource) (strictness : Strictness) (file : NativeText) (files : List NativeText) :
    checkFiles source strictness (file :: files) =
      (FileReport.ofFile source strictness file).bind fun f => (checkFiles source strictness files).map (f :: ·) := by
  rw [checkFiles, List.mapM_cons]
  rfl

theorem ofFile_of_read {source : FileSource} {file : NativeText} {code : Text} (h : source file = .ok code)
    (strictness : Strictness) :
    FileReport.ofFile source strictness file = .ok ⟨file, Report.ofProgram strictness code⟩ := by
  rw [FileReport.ofFile, h]
  rfl

theorem checkFiles_of_readable {source : FileSource} {files : List NativeText}
    (h : ∀ file ∈ files, ∃ code, source file = .ok code) (strictness : Strictness) :
    ∃ fs, checkFiles source strictness files = .ok fs ∧ List.Forall₂ (IsReportOf source strictness) files fs := by
  induction files with
  | nil => exact ⟨[], rfl, .nil⟩
  | cons file files ih =>
    obtain ⟨⟨code, hRead⟩, hRest⟩ := List.forall_mem_cons.mp h
    obtain ⟨fs, hFiles, hReports⟩ := ih hRest
    refine ⟨⟨file, Report.ofProgram strictness code⟩ :: fs, ?_, .cons ⟨code, hRead, rfl⟩ hReports⟩
    rw [checkFiles_cons, ofFile_of_read hRead, hFiles]
    rfl

theorem checkFiles_of_firstUnreadable {source : FileSource} {files : List NativeText} {file : NativeText}
    {reason : ReadFailure} (h : FirstUnreadable source files file reason) (strictness : Strictness) :
    checkFiles source strictness files = .error (.unreadableProgram file reason) := by
  obtain ⟨front, back, rfl, hFront, hReason⟩ := h
  induction front with
  | nil =>
    have hFirst : FileReport.ofFile source strictness file = .error (.unreadableProgram file reason) := by
      rw [FileReport.ofFile, hReason]
      rfl
    rw [List.nil_append, checkFiles_cons, hFirst]
    rfl
  | cons first front ih =>
    obtain ⟨⟨code, hRead⟩, hFront⟩ := List.forall_mem_cons.mp hFront
    rw [List.cons_append, checkFiles_cons, ofFile_of_read hRead, ih hFront]
    rfl

/-! ## What the reports say -/

theorem isValid_ofProgram_iff {strictness : Strictness} {code : Text} :
    (Report.ofProgram strictness code).isValid = true ↔ (check strictness code).1 = [] :=
  List.isEmpty_iff

theorem announces_lines {source : FileSource} {strictness : Strictness} {file : NativeText} {f : FileReport}
    (h : IsReportOf source strictness file f) : Announces source strictness file f.lines := by
  obtain ⟨code, hRead, rfl⟩ := h
  by_cases hCheck : (check strictness code).1 = []
  · have hValid : (Report.ofProgram strictness code).isValid = true := isValid_ofProgram_iff.mpr hCheck
    rw [FileReport.lines, if_pos hValid]
    exact .clean hRead hCheck
  · have hValid : ¬(Report.ofProgram strictness code).isValid = true := isValid_ofProgram_iff.not.mpr hCheck
    have hLines : FileReport.lines ⟨file, Report.ofProgram strictness code⟩ =
        (check strictness code).1.map fun d =>
          file.shown ++ ":".toList ++ Text.ofNat d.line ++ ": ".toList ++ d.message := by
      rw [FileReport.lines, if_neg hValid]
      exact List.map_congr_left fun d _ => by simp
    rw [hLines]
    exact .faulty hRead hCheck

section Reports

variable {source : FileSource} {strictness : Strictness} {files : List NativeText} {fs : List FileReport}
  (h : List.Forall₂ (IsReportOf source strictness) files fs)

include h

theorem all_isValid_iff : (fs.all fun f => f.report.isValid) = true ↔ ¬AnyFaulty source strictness files := by
  induction h with
  | nil => simp [AnyFaulty]
  | @cons file f files fs hFirst _ ih =>
    obtain ⟨code, hRead, rfl⟩ := hFirst
    rw [List.all_cons, Bool.and_eq_true, ih, isValid_ofProgram_iff]
    simp [AnyFaulty, hRead]

theorem exitCode_ofReports : (FilesStatus.ofReports fs).exitCode = 1 ∧ AnyFaulty source strictness files ∨
    (FilesStatus.ofReports fs).exitCode = 0 ∧ ¬AnyFaulty source strictness files := by
  rw [FilesStatus.ofReports]
  split
  · next hAll => exact .inr ⟨rfl, (all_isValid_iff h).mp hAll⟩
  · next hAll => exact .inl ⟨rfl, Classical.not_not.mp fun hNone => hAll ((all_isValid_iff h).mpr hNone)⟩

theorem exists_announced : ∃ blocks, List.Forall₂ (Announces source strictness) files blocks ∧
    FileReport.listText fs = endLines blocks.flatten := by
  refine ⟨fs.map FileReport.lines, List.forall₂_map_right_iff.mpr (h.imp fun _ _ => announces_lines), ?_⟩
  rw [FileReport.listText, endLines, ← List.flatMap_def, List.flatMap_assoc]

theorem forall_isText_iff : (∀ f ∈ fs, f.file.isText = true) ↔ ∀ file ∈ files, file.isText = true := by
  induction h with
  | nil => exact iff_of_true (List.forall_mem_nil _) (List.forall_mem_nil _)
  | cons hFirst _ ih =>
    obtain ⟨code, -, rfl⟩ := hFirst
    rw [List.forall_mem_cons, List.forall_mem_cons, ih]

theorem isWhole_written {format : ReportFormat} (hNames : format = .json → ∀ file ∈ files, file.isText = true) :
    (format.written fs).isWhole = true := by
  cases format with
  | text => rfl
  | json => exact FileReport.isWhole_listJson_iff.mpr ((forall_isText_iff h).mpr (hNames rfl))

end Reports

/-! ## The lines of the listing -/

/-- A line that a reader of the listing finds as it was written. -/
def IsLine (l : Text) : Prop := '\n' ∉ l ∧ dropReturn l = l

theorem isLine_of_framed_back {l back : Text} (hLine : '\n' ∉ l) (hBack : Framed back) (h : back <:+ l) : IsLine l := by
  obtain ⟨front, rfl⟩ := h
  obtain ⟨c, hLast, hc⟩ := hBack.2
  refine ⟨hLine, if_neg ?_⟩
  rw [List.getLast?_append, hLast, Option.some_or]
  rintro hReturn
  obtain rfl := Option.some.inj hReturn
  cases hc

theorem isLine_of_announces {source : FileSource} {strictness : Strictness} {file : NativeText} {ls : List Text}
    (h : Announces source strictness file ls) (hFile : '\n' ∉ file.shown) : ∀ l ∈ ls, IsLine l := by
  cases h with
  | clean =>
    have hOk : Framed ": ok".toList := ⟨⟨':', rfl, rfl⟩, ⟨'k', rfl, rfl⟩⟩
    have hLine : '\n' ∉ file.shown ++ ": ok".toList := List.not_mem_append hFile (by decide)
    exact List.forall_mem_singleton.mpr (isLine_of_framed_back hLine hOk ⟨file.shown, rfl⟩)
  | faulty =>
    refine List.forall_mem_map.mpr fun d hd => ?_
    obtain ⟨hMessage, hFramed⟩ := Check.message_of_mem_check hd
    have hDigits : '\n' ∉ Text.ofNat d.line := fun hMem => by cases isDigit_of_mem_ofNat hMem
    refine isLine_of_framed_back ?_ hFramed ⟨_, rfl⟩
    repeat' apply List.not_mem_append
    all_goals first | exact hFile | exact hDigits | exact hMessage | decide

theorem lines_listing {source : FileSource} {strictness : Strictness} {files : List NativeText}
    {blocks : List (List Text)} (h : List.Forall₂ (Announces source strictness) files blocks)
    (hFiles : ∀ file ∈ files, '\n' ∉ file.shown) :
    lines (endLines blocks.flatten) = blocks.flatten := by
  have hLines : ∀ l ∈ blocks.flatten, IsLine l := by
    induction h with
    | nil => exact List.forall_mem_nil _
    | cons hFirst _ ih =>
      obtain ⟨hFile, hRest⟩ := List.forall_mem_cons.mp hFiles
      exact List.forall_mem_append.mpr ⟨isLine_of_announces hFirst hFile, ih hRest⟩
  rw [lines_endLines fun l hl => (hLines l hl).1]
  exact (List.map_congr_left fun l hl => (hLines l hl).2).trans (List.map_id _)

/-! ## The check -/

section Check

variable {w : Surroundings} {arguments files : List NativeText} {format : ReportFormat} {flags : Flags}
  {settings : Settings} (hArguments : Request.ofArguments arguments = .run ⟨.check files format, flags⟩)
  (hSettings : Invocation.settings ⟨.check files format, flags⟩ w = .ok settings)

include hArguments hSettings

theorem complete_of_reports {fs : List FileReport} (h : checkFiles w.source settings.strictness files = .ok fs) :
    (Request.ofArguments arguments).complete w = .ofReports format fs := by
  rw [hArguments, Request.complete, Invocation.run, hSettings]
  simp only [bind, Except.bind, h]

theorem complete_of_failure {f : Failure} (h : checkFiles w.source settings.strictness files = .error f) :
    (Request.ofArguments arguments).complete w = .ofFailure f := by
  rw [hArguments, Request.complete, Invocation.run, hSettings]
  simp only [bind, Except.bind, h]

theorem givesUp_of_firstUnreadable {file : NativeText} {reason : ReadFailure}
    (hFirst : FirstUnreadable w.source files file reason) :
    GivesUp ((Request.ofArguments arguments).complete w) file reason := by
  rw [complete_of_failure hArguments hSettings (checkFiles_of_firstUnreadable hFirst _)]
  exact ⟨rfl, rfl, rfl, rfl⟩

theorem answersAll_of_readable (hReadable : ∀ file ∈ files, ∃ code, w.source file = .ok code)
    (hNames : format = .json → ∀ file ∈ files, file.isText = true) :
    AnswersAll w.source settings.strictness files format ((Request.ofArguments arguments).complete w) := by
  obtain ⟨fs, hFiles, hReports⟩ := checkFiles_of_readable hReadable settings.strictness
  have hWhole : (format.written fs).isWhole = true := isWhole_written hReports hNames
  rw [complete_of_reports hArguments hSettings hFiles, Completion.ofReports, if_pos hWhole]
  have hCode := exitCode_ofReports hReports
  refine ⟨rfl, ?faulty, ?clean, ?listing⟩
  case faulty =>
    rcases hCode with ⟨hOne, hFaulty⟩ | ⟨hZero, hNone⟩
    · exact iff_of_true hOne hFaulty
    · exact iff_of_false (by simp [hZero]) hNone
  case clean =>
    rcases hCode with ⟨hOne, hFaulty⟩ | ⟨hZero, hNone⟩
    · exact iff_of_false (by simp [hOne]) (not_not_intro hFaulty)
    · exact iff_of_true hZero hNone
  case listing =>
    rintro rfl
    obtain ⟨blocks, hBlocks, hText⟩ := exists_announced hReports
    refine ⟨blocks, hBlocks, hText, fun hNames => ?_⟩
    exact (congrArg lines hText).trans (lines_listing hBlocks hNames)

end Check

/-- The reports in JSON on files that can all be read break off at the first name that is no text, and the check fails
with what it has printed so far. -/
theorem check_breaksOff {w : Surroundings} {arguments front back : List NativeText} {file : NativeText} {flags : Flags}
    {settings : Settings}
    (hArguments : Request.ofArguments arguments = .run ⟨.check (front ++ file :: back) .json, flags⟩)
    (hSettings : Invocation.settings ⟨.check (front ++ file :: back) .json, flags⟩ w = .ok settings)
    (hReadable : ∀ f ∈ front ++ file :: back, ∃ code, w.source f = .ok code)
    (hFront : ∀ f ∈ front, f.isText = true) (hRaw : file.isText = false) :
    ∃ fs, List.Forall₂ (IsReportOf w.source settings.strictness) front fs ∧
      (Request.ofArguments arguments).complete w =
        ⟨2, "[\n  ".toList ++ (fs.flatMap fun f => (f.json (.indented 1)).output ++ ",\n  ".toList) ++
          "\x7b\n    \"file\": ".toList, some .unwritableReports⟩ := by
  obtain ⟨all, hFiles, hReports⟩ := checkFiles_of_readable hReadable settings.strictness
  have hBefore : List.Forall₂ (IsReportOf w.source settings.strictness) front (all.take front.length) :=
    (List.forall₂_take_append _ _ _ hReports.flip).flip
  have hFrom : List.Forall₂ (IsReportOf w.source settings.strictness) (file :: back) (all.drop front.length) :=
    (List.forall₂_drop_append _ _ _ hReports.flip).flip
  obtain ⟨f, rest, ⟨code, -, rfl⟩, -, hDrop⟩ := List.forall₂_cons_left_iff.mp hFrom
  have hNames := (forall_isText_iff hBefore).mpr hFront
  refine ⟨all.take front.length, hBefore, ?_⟩
  have hWritten := FileReport.listJson_of_raw (f := ⟨file, Report.ofProgram settings.strictness code⟩) hNames hRaw rest
  rw [← hDrop, List.take_append_drop] at hWritten
  rw [complete_of_reports hArguments hSettings hFiles, Completion.ofReports, ReportFormat.write, ReportFormat.written,
    hWritten]
  rfl

/-- Two programs, one whose name is no text, and a file that is no text. -/
def lessons : Folder := ⟨[
  ("clean".toList, "PADAM a:ANKHE;".toUTF8),
  ("faulty".toList, "a = 1;\nCHATIMPU(b)".toUTF8),
  (.ofBytes [0xFF], "count = 1;".toUTF8),
  ("broken".toList, ⟨#[0xFF]⟩)]⟩

def classroom : Surroundings := ⟨lessons.read, fun _ => none, []⟩

end LessonCheck
