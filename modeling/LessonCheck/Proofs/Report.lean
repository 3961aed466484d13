import LessonCheck.Proofs.Json.Composite
import LessonCheck.Proofs.Json.Written
import LessonCheck.Report.Reader

/-!
# Reading written reports

A report is read back from what is written of it, in either layout. A list of file reports is written to its end
exactly if every file has a text as its name, and else breaks off at the first other name. The reader of reports takes
the file reports of a written list one by one: each gives its report, since the name of the file is skipped.
-/

namespace LessonCheck

open Json Text

/-- Lines have numbers of 64 bits. -/
def Report.InRange (r : Report) : Prop := ∀ d ∈ r.diagnostics, d.line < Nat.pow 2 64

instance (r : Report) : Decidable r.InRange := inferInstanceAs (Decidable (∀ d ∈ r.diagnostics, _))

theorem Diagnostic.entered_members {d : Diagnostic} (h : d.line < Nat.pow 2 64) (l : Layout) :
    Entered enter l [("line".toList, number d.line), ("message".toList, string d.message)] ⟨none, none⟩
      ⟨some d.line, some d.message⟩ := by
  refine .cons (u := ⟨some d.line, none⟩) ?line (.cons ?message (.nil _))
  case line =>
    intro rest hRest
    rw [enter, if_pos rfl, readOnce_colon (reads_number h) _ l hRest]
    rfl
  case message =>
    intro rest hRest
    rw [enter, if_neg (by decide), if_pos rfl, readOnce_colon (reads_string d.message) _ l hRest]
    rfl

theorem Diagnostic.reads_json {d : Diagnostic} (h : d.line < Nat.pow 2 64) (l : Layout) :
    Reads Diagnostic.read (d.json l) d := by
  apply reads_record
  intro rest
  obtain ⟨t, hEq, hMembers⟩ := exists_readMembers_object (entered_members h l) rest
  refine ⟨t, hEq, ?_⟩
  rw [readFromObject, hMembers]
  rfl

namespace Report

theorem entered_members {r : Report} (h : r.InRange) (l : Layout) :
    Entered enter l (r.members l) ⟨none, none, none⟩ ⟨some r.code, some r.isValid, some r.diagnostics⟩ := by
  have hDiagnostics : Reads (readArray Diagnostic.read)
      (l.deeper.array (r.diagnostics.map (Diagnostic.json l.deeper.deeper))) r.diagnostics := by
    apply reads_array
    apply List.forall₂_map_left_iff.mpr
    exact List.forall₂_same.mpr fun d hd => Diagnostic.reads_json (h d hd) l.deeper.deeper
  -- Each member finds the fields that the members before it have filled.
  refine .cons (u := ⟨some r.code, none, none⟩) ?code
    (.cons (u := ⟨some r.code, some r.isValid, none⟩) ?valid (.cons ?diagnostics (.nil _)))
  case code =>
    intro rest hRest
    rw [enter, if_pos rfl, readOnce_colon (reads_string r.code) _ l hRest]
    rfl
  case valid =>
    intro rest hRest
    rw [enter, if_neg (by decide), if_pos rfl, readOnce_colon (reads_bool r.isValid) _ l hRest]
    rfl
  case diagnostics =>
    intro rest hRest
    rw [enter, if_neg (by decide), if_neg (by decide), if_pos rfl, readOnce_colon hDiagnostics _ l hRest]
    rfl

/-- A member of another name leaves the fields as they are. -/
theorem entered_file {fields : Fields} (file : Text) (l : Layout) (rest : Text) (hRest : Delimited rest) :
    enter "file".toList fields (l.colon ++ (string file ++ rest)) = .ok (fields, rest) := by
  rw [enter, if_neg (by decide), if_neg (by decide), if_neg (by decide),
    readValue_colon (reads_skipped_string file) l hRest]
  rfl

theorem reads_members {r : Report} {l : Layout} {ms : List (Text × Text)}
    (h : Entered enter l ms ⟨none, none, none⟩ ⟨some r.code, some r.isValid, some r.diagnostics⟩) :
    Reads Report.read (l.object ms) r := by
  apply reads_record
  intro rest
  obtain ⟨t, hEq, hMembers⟩ := exists_readMembers_object h rest
  refine ⟨t, hEq, ?_⟩
  rw [readFromObject, hMembers]
  rfl

theorem reads_json {r : Report} (h : r.InRange) (l : Layout) : Reads Report.read (r.json l) r :=
  reads_members (entered_members h l)

end Report

/-! ## Lists of file reports -/

namespace FileReport

theorem isWhole_json (f : FileReport) (l : Layout) : (f.json l).isWhole = f.file.isText := by
  obtain ⟨name | bytes, report⟩ := f <;> rfl

theorem reads_json {f : FileReport} (h : f.report.InRange) (hName : f.file.isText = true) (l : Layout) :
    Reads Report.read (f.json l).output f.report := by
  obtain ⟨name | bytes, report⟩ := f
  · exact Report.reads_members (.cons (Report.entered_file name l) (Report.entered_members h l))
  · cases hName

section List

variable {fs : List FileReport}

theorem forall_isWhole_json_iff (l : Layout) :
    (∀ w ∈ fs.map (json l), w.isWhole = true) ↔ ∀ f ∈ fs, f.file.isText = true := by
  simp only [List.forall_mem_map, isWhole_json]

theorem isWhole_listJson_iff : (listJson fs).isWhole = true ↔ ∀ f ∈ fs, f.file.isText = true := by
  rw [listJson, Written.isWhole_concat_iff, List.forall_mem_cons, Layout.isWhole_writeArray_iff,
    forall_isWhole_json_iff, List.forall_mem_singleton]
  exact and_iff_left rfl

theorem listJson_of_texts (h : ∀ f ∈ fs, f.file.isText = true) : listJson fs =
    .whole (Layout.array (.indented 0) (fs.map fun f => (f.json (.indented 1)).output) ++ ['\n']) := by
  rw [listJson, Layout.writeArray_of_whole ((forall_isWhole_json_iff _).mpr h), List.map_map]
  rfl

/-- A name that is no text leaves the list open at its place. -/
theorem listJson_of_raw (h : ∀ f ∈ fs, f.file.isText = true) {f : FileReport} (hRaw : f.file.isText = false)
    (rest : List FileReport) : listJson (fs ++ f :: rest) =
      .brokenOff ("[\n  ".toList ++ (fs.flatMap fun g => (g.json (.indented 1)).output ++ ",\n  ".toList) ++
        "\x7b\n    \"file\": ".toList) := by
  have hFront := (forall_isWhole_json_iff (.indented 1)).mpr h
  have hBroken : f.json (.indented 1) = Layout.brokenObject (.indented 1) "file".toList := by
    obtain ⟨name | bytes, report⟩ := f
    · cases hRaw
    · rfl
  have hBreaks : (f.json (.indented 1)).isWhole = false := by rw [hBroken, Layout.brokenObject, Written.brokenOff]
  rw [listJson, List.map_append, List.map_cons, Layout.writeArray_of_broken (.indented 0) hFront hBreaks, hBroken,
    List.flatMap_map]
  rfl

end List
end FileReport

namespace Report

/-- A report comes back from its own text. A list of file reports is written to its end exactly if every name is a
text. Then it is an array with an element for each of them in order, and what is read of an element, alone or in its
place, is the report. -/
theorem read_written {r : Report} {fs : List FileReport} (hReport : r.InRange)
    (hFiles : ∀ f ∈ fs, f.report.InRange) :
    ofJson (r.json .compact) = .ok r ∧
      ((ReportFormat.written .json fs).isWhole = true ↔ ∀ f ∈ fs, f.file.isText = true) ∧
      ((ReportFormat.written .json fs).isWhole = true →
        (∃ elements, ReportFormat.write .json fs = Layout.array (.indented 0) elements ++ ['\n'] ∧
          List.Forall₂ (fun element f => ofJson element = .ok f.report) elements fs) ∧
        readDocument (readArray Report.read) (ReportFormat.write .json fs) = .ok (fs.map (·.report))) := by
  have hWhole : (ReportFormat.written .json fs).isWhole = true ↔ ∀ f ∈ fs, f.file.isText = true :=
    FileReport.isWhole_listJson_iff
  refine ⟨readDocument_of_reads (reads_json hReport _), hWhole, fun hWritten => ?_⟩
  have hNames := hWhole.mp hWritten
  have hElements : ∀ f ∈ fs, Reads Report.read (f.json (.indented 1)).output f.report :=
    fun f hf => FileReport.reads_json (hFiles f hf) (hNames f hf) _
  have hOutput : ReportFormat.write .json fs =
      Layout.array (.indented 0) (fs.map fun f => (f.json (.indented 1)).output) ++ ['\n'] :=
    congrArg Written.output (FileReport.listJson_of_texts hNames)
  refine ⟨⟨_, hOutput, ?_⟩, ?_⟩
  · apply List.forall₂_map_left_iff.mpr
    exact List.forall₂_same.mpr fun f hf => readDocument_of_reads (hElements f hf)
  · have hReports : List.Forall₂ (Reads Report.read) (fs.map fun f => (f.json (.indented 1)).output)
        (fs.map (·.report)) :=
      List.forall₂_map_left_iff.mpr (List.forall₂_map_right_iff.mpr (List.forall₂_same.mpr hElements))
    rw [hOutput]
    exact readDocument_append_of_reads (reads_array hReports _) (spaces_singleton rfl)

/-- A report whose texts need every kind of escape. -/
def escaped : Report := ⟨"a=\"\\\";\n\x01é".toList, false, [⟨1, "‘𝄞’".toList⟩]⟩

def escapedFiles : List FileReport := [⟨"a\t.txt".toList, escaped⟩, ⟨.text [], ⟨[], true, []⟩⟩]

theorem read_written_escaped :
    escaped.json .compact = "\x7b\"code\":\"a=\\\"\\\\\\\";\\n\\u0001é\",\"is_valid\":false,".toList ++
        "\"diagnostics\":[\x7b\"line\":1,\"message\":\"‘𝄞’\"\x7d]\x7d".toList ∧
      ofJson (escaped.json .compact) = .ok escaped ∧
      readDocument (readArray Report.read) (ReportFormat.write .json escapedFiles) =
        .ok [escaped, ⟨[], true, []⟩] := by
  have hReport : escaped.InRange := by decide
  have hFiles : ∀ f ∈ escapedFiles, f.report.InRange := by decide
  obtain ⟨hCompact, hWhole, hList⟩ := read_written hReport hFiles
  exact ⟨by decide +kernel, hCompact, (hList (hWhole.mpr (by decide))).2⟩

end Report
end LessonCheck
