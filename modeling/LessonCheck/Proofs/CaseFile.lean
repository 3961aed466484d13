import LessonCheck.Proofs.Messages
import LessonCheck.Proofs.Places
import LessonCheck.Proofs.SameCode
import LessonCheck.Proofs.Tally
import LessonCheck.Proofs.Text.Numeral

/-!
# Writing case files

A case file can be written from programs: each becomes a case that expects what the check of it gives. Reading
gives these cases back, and each of them passes. A program may hold anything but a line that is a fence, lines
that look like an end mark or the name of a case among it.
-/

namespace LessonCheck

open Text

/-- A program to write down as a case. -/
structure Sample where
  name : Text
  strictness : Strictness
  source : Text
  deriving DecidableEq, Repr

namespace Sample

def diagnostics (s : Sample) : List Diagnostic := (check s.strictness s.source).1

/-- A name stands on one line with nothing trimmed off it, and the program holds no fence. The last clause holds
of every text that fits in memory: a line has to have a number that can be read. -/
structure Writable (s : Sample) : Prop where
  name_line : '\n' ∉ s.name
  name_trim : trim s.name = s.name
  source_lines : ∀ l ∈ s.source.physicalLines, trim l ≠ "---".toList
  source_length : s.source.physicalLines.length < Nat.pow 2 64

def modeLines : Strictness → List Text
  | .strict => []
  | .relaxed => ["# mode: relaxed".toList]

def expectation (d : Diagnostic) : Text := Text.ofNat d.line ++ ": ".toList ++ d.message

def opening (s : Sample) : List Text :=
  ("# test: ".toList ++ s.name) :: (modeLines s.strictness ++ ["---".toList])

def closing (s : Sample) : List Text :=
  "---".toList :: (s.diagnostics.map expectation ++ ["===".toList])

/-- The program between what names it and what it must give. -/
def text (s : Sample) : Text := endLines s.opening ++ (s.source ++ ['\n']) ++ endLines s.closing

/-- The case for a program whose first line in the file has the number. -/
def caseAt (s : Sample) (line : Nat) : Case where
  name := s.name
  line := line
  strictness := s.strictness
  source := joinLines (s.source.physicalLines.map dropReturn)
  expected := s.diagnostics
  flaw := none

/-- The cases for programs written one after the other, the first of them at the line. -/
def casesFrom (line : Nat) : List Sample → List Case
  | [] => []
  | s :: ss => s.caseAt line :: casesFrom (line + s.text.count '\n') ss

/-! ## The lines of a case -/

def lines (s : Sample) : List Text := s.opening ++ s.source.physicalLines ++ s.closing

theorem text_eq_endLines (s : Sample) : s.text = endLines s.lines := by
  rw [text, lines, endLines_append, endLines_append, endLines_physicalLines]

theorem flatMap_text (ss : List Sample) : ss.flatMap text = endLines (ss.flatMap lines) := by
  induction ss with
  | nil => rfl
  | cons s ss ih => rw [List.flatMap_cons, List.flatMap_cons, endLines_append, ih, text_eq_endLines]

theorem message_of_mem_diagnostics {s : Sample} {d : Diagnostic} (hd : d ∈ s.diagnostics) :
    '\n' ∉ d.message ∧ Framed d.message := Check.message_of_mem_check hd

theorem line_of_mem_diagnostics {s : Sample} (h : s.Writable) {d : Diagnostic} (hd : d ∈ s.diagnostics) :
    d.line < CaseFile.lineNumberBound := by
  obtain ⟨reports, unclosed, hEq, hPlaced⟩ := Check.exists_placed s.strictness s.source
  have hRange := hPlaced.range d (hEq ▸ hd)
  exact Nat.lt_of_le_of_lt hRange.2 h.source_length

theorem newline_notMem_expectation {s : Sample} {d : Diagnostic} (hd : d ∈ s.diagnostics) :
    '\n' ∉ expectation d := by
  have hNumber : '\n' ∉ Text.ofNat d.line := by
    intro hMem
    cases isDigit_of_mem_ofNat hMem
  exact List.not_mem_append (List.not_mem_append hNumber (by decide)) (message_of_mem_diagnostics hd).1

theorem newline_notMem_lines {s : Sample} (h : s.Writable) : ∀ l ∈ s.lines, '\n' ∉ l := by
  have hMode : ∀ l ∈ modeLines s.strictness, '\n' ∉ l := by
    cases s.strictness with
    | strict => exact List.forall_mem_nil _
    | relaxed => exact List.forall_mem_singleton.mpr (by decide)
  have hOpening : ∀ l ∈ s.opening, '\n' ∉ l := by
    refine List.forall_mem_cons.mpr ⟨List.not_mem_append (by decide) h.name_line, ?_⟩
    exact List.forall_mem_append.mpr ⟨hMode, List.forall_mem_singleton.mpr (by decide)⟩
  have hClosing : ∀ l ∈ s.closing, '\n' ∉ l := by
    refine List.forall_mem_cons.mpr ⟨by decide, List.forall_mem_append.mpr ⟨?_, ?_⟩⟩
    · exact List.forall_mem_map.mpr fun d hd => newline_notMem_expectation hd
    · exact List.forall_mem_singleton.mpr (by decide)
  have hSource : ∀ l ∈ s.source.physicalLines, '\n' ∉ l := fun l hl => newline_notMem_of_mem_physicalLines hl
  exact List.forall_mem_append.mpr ⟨List.forall_mem_append.mpr ⟨hOpening, hSource⟩, hClosing⟩

/-! ## Reading them back -/

theorem framed_expectation {d : Diagnostic} (h : Framed d.message) : Framed (expectation d) :=
  framed_append (framed_ofNat d.line) h (": ".toList)

theorem lineNumber?_ofNat {n : Nat} (h : n < CaseFile.lineNumberBound) :
    CaseFile.lineNumber? (Text.ofNat n) = some n := by
  obtain ⟨c, w, hEq, hc⟩ := exists_ofNat_cons n
  -- A sign may stand in front of the digits, so the first character has to be known.
  have hSign : c ≠ '+' := by
    rintro rfl
    cases hc
  unfold CaseFile.lineNumber?
  split
  · next r hPlus => exact absurd (List.cons.inj (hEq.symm.trans hPlus)).1 hSign
  · change (nat? (Text.ofNat n)).filter (· < CaseFile.lineNumberBound) = some n
    rw [nat?_ofNat, Option.filter_some, if_pos (decide_eq_true h)]

theorem expectation?_expectation {d : Diagnostic} (hLine : d.line < CaseFile.lineNumberBound)
    (hMessage : Framed d.message) : CaseFile.expectation? (expectation d) = some d := by
  have hColon : ':' ∉ Text.ofNat d.line := by
    intro hMem
    cases isDigit_of_mem_ofNat hMem
  have hCut : Text.cut? ':' (expectation d) = some (Text.ofNat d.line, ' ' :: d.message) :=
    cut?_eq_some_iff.mpr ⟨by simp [expectation], hColon⟩
  have hTrim : trim (' ' :: d.message) = d.message := by
    rw [trim_cons_of_blank (by decide), trim_of_framed hMessage]
  simp only [CaseFile.expectation?, hCut, trim_of_framed (framed_ofNat d.line), lineNumber?_ofNat hLine, hTrim,
    Option.bind_eq_bind, Option.bind_some]

end Sample

namespace CaseFile

def numbered (n : Nat) (ls : List Text) : List NumberedLine := (ls.map dropReturn).zipIdx n

theorem numbered_append (n : Nat) (ls ms : List Text) :
    numbered n (ls ++ ms) = numbered n ls ++ numbered (n + ls.length) ms := by
  rw [numbered, List.map_append, List.zipIdx_append, List.length_map]
  rfl

theorem numbered_cons (n : Nat) (l : Text) (ls : List Text) :
    numbered n (l :: ls) = (dropReturn l, n) :: numbered (n + 1) ls := rfl

theorem map_fst_numbered (n : Nat) (ls : List Text) : (numbered n ls).map (·.1) = ls.map dropReturn :=
  List.zipIdx_map_fst n _

theorem trim_ne_of_mem_numbered {mark : Text} {n : Nat} {ls : List Text} (h : ∀ l ∈ ls, trim l ≠ mark) :
    ∀ l ∈ numbered n ls, trim l.1 ≠ mark := by
  intro l hl
  have hText := List.mem_map_of_mem (f := (·.1)) hl
  rw [map_fst_numbered] at hText
  obtain ⟨p, hp, hEq⟩ := List.mem_map.mp hText
  rw [← hEq, trim_dropReturn]
  exact h p hp

theorem upTo_append {mark : Text} {front back : List NumberedLine} {l : NumberedLine}
    (hFront : ∀ l ∈ front, trim l.1 ≠ mark) (hMark : trim l.1 = mark) :
    upTo mark (front ++ l :: back) = (front, back) := by
  have hPass : ∀ l ∈ front, decide (trim l.1 ≠ mark) = true := fun l hl => decide_eq_true (hFront l hl)
  rw [upTo, List.takeWhile_append_of_pos hPass, List.dropWhile_append_of_pos hPass]
  simp [hMark]

theorem labelled?_line {label value : Text} (hLabel : Framed label) (hValue : trim value = value) (n : Nat) :
    labelled? label (dropReturn (label ++ ' ' :: value), n) = some value := by
  -- Without a value the blank behind the label is trimmed off as well.
  have hAfter : ∃ r, trim (label ++ ' ' :: value) = label ++ r ∧ trim r = value := by
    rcases trim_eq_nil_or_framed value with hNil | hFramed
    · obtain rfl : value = [] := hValue.symm.trans hNil
      have hBlank : AllBlank [' '] := by decide
      exact ⟨[], by rw [trim_append_of_allBlank hBlank, trim_of_framed hLabel, List.append_nil], rfl⟩
    · rw [hValue] at hFramed
      have hLine := framed_append hLabel hFramed [' ']
      rw [List.append_assoc, List.singleton_append] at hLine
      exact ⟨' ' :: value, trim_of_framed hLine, by rw [trim_cons_of_blank (by decide), hValue]⟩
  obtain ⟨r, hLine, hRest⟩ := hAfter
  rw [labelled?, trim_dropReturn, hLine, after?_eq_some_iff.mpr rfl, Option.map_some, hRest]

def modeWord : Strictness → Option Text
  | .strict => none
  | .relaxed => some "relaxed".toList

theorem splitMode_numbered (strictness : Strictness) (n m : Nat) (rest : List NumberedLine) :
    splitMode (numbered n (Sample.modeLines strictness) ++ (dropReturn fence, m) :: rest) =
      (modeWord strictness, (dropReturn fence, m) :: rest) := by
  cases strictness with
  | strict =>
    have hFence : mode? (dropReturn fence, m) = none := rfl
    rw [Sample.modeLines, numbered, List.map_nil, List.zipIdx_nil, List.nil_append, splitMode, hFence]
    rfl
  | relaxed =>
    have hMode : mode? (dropReturn "# mode: relaxed".toList, n) = some "relaxed".toList := rfl
    rw [Sample.modeLines, numbered_cons, List.cons_append, splitMode, hMode]
    rfl

theorem trims_numbered {ls : List Text} (h : ∀ l ∈ ls, Framed l) (n : Nat) :
    ((numbered n ls).map fun l => trim l.1).filter (· ≠ []) = ls := by
  have hTrim : ((numbered n ls).map fun l => trim l.1) = ls := by
    calc
      _ = ((numbered n ls).map (·.1)).map trim := by rw [List.map_map]; rfl
      _ = ls.map fun l => trim (dropReturn l) := by rw [map_fst_numbered, List.map_map]; rfl
      _ = ls.map id := List.map_congr_left fun l hl => (trim_dropReturn l).trans (trim_of_framed (h l hl))
      _ = ls := List.map_id ls
  rw [hTrim, List.filter_eq_self]
  intro l hl
  exact decide_eq_true (h l hl).ne_nil

theorem splitBlock_numbered {s : Sample} (h : s.Writable) (n : Nat) (rest : List NumberedLine) :
    splitBlock (numbered n s.lines.tail ++ rest) =
      (⟨modeWord s.strictness, s.source.physicalLines.map dropReturn, s.diagnostics.map Sample.expectation⟩,
        rest) := by
  have hExpected : ∀ l ∈ s.diagnostics.map Sample.expectation, Framed l := by
    intro l hl
    obtain ⟨d, hd, rfl⟩ := List.mem_map.mp hl
    exact Sample.framed_expectation (Sample.message_of_mem_diagnostics hd).2
  have hNoEnd : ∀ l ∈ s.diagnostics.map Sample.expectation, trim l ≠ endMark := by
    intro l hl hEnd
    rw [trim_of_framed (hExpected l hl)] at hEnd
    obtain ⟨d, hd, rfl⟩ := List.mem_map.mp hl
    obtain ⟨c, w, hNumber, hc⟩ := exists_ofNat_cons d.line
    rw [Sample.expectation, hNumber] at hEnd
    -- An expectation starts with a digit and the end mark does not.
    obtain rfl : c = '=' := (List.cons.inj hEnd).1
    cases hc
  have hNoFence : ∀ l ∈ s.source.physicalLines, trim l ≠ fence := h.source_lines
  have hFence : trim (dropReturn fence) = fence := rfl
  have hEnd : trim (dropReturn endMark) = endMark := rfl
  have hLines : s.lines.tail = Sample.modeLines s.strictness ++ (fence :: (s.source.physicalLines ++
      (fence :: (s.diagnostics.map Sample.expectation ++ [endMark])))) := by
    simp only [Sample.lines, Sample.opening, Sample.closing, List.cons_append, List.tail_cons, List.append_assoc,
      List.nil_append]
    rfl
  rw [hLines]
  simp only [numbered_append, numbered_cons, List.append_assoc, List.cons_append, splitBlock, splitMode_numbered]
  rw [← List.nil_append ((dropReturn fence, _) :: _), upTo_append (by simp) hFence,
    upTo_append (trim_ne_of_mem_numbered hNoFence) hFence, upTo_append (trim_ne_of_mem_numbered hNoEnd) hEnd,
    trims_numbered hExpected, map_fst_numbered]
  rfl

theorem caseOf_sample {s : Sample} (h : s.Writable) (line : Nat) :
    caseOf s.name line ⟨modeWord s.strictness, s.source.physicalLines.map dropReturn,
      s.diagnostics.map Sample.expectation⟩ = s.caseAt line := by
  have hMode : strictnessOf (modeWord s.strictness) = (s.strictness, none) := by
    cases s.strictness <;> rfl
  have hRead : ∀ d ∈ s.diagnostics, expectation? (Sample.expectation d) = some d := fun d hd =>
    Sample.expectation?_expectation (Sample.line_of_mem_diagnostics h hd) (Sample.message_of_mem_diagnostics hd).2
  have hFlaw : (s.diagnostics.map Sample.expectation).find? (fun l => (expectation? l).isNone) = none := by
    rw [List.find?_eq_none]
    intro l hl
    obtain ⟨d, hd, rfl⟩ := List.mem_map.mp hl
    simp [hRead d hd]
  have hExpected : (s.diagnostics.map Sample.expectation).filterMap expectation? = s.diagnostics := by
    rw [List.filterMap_map]
    exact (List.filterMap_congr hRead).trans List.filterMap_some
  rw [caseOf, hMode]
  simp only [hFlaw, hExpected]
  rfl

/-- Reading the lines of a program gives its case and goes on behind them. -/
theorem casesOf_numbered {s : Sample} (h : s.Writable) (n : Nat) (rest : List NumberedLine) :
    casesOf (numbered n s.lines ++ rest) = s.caseAt n :: casesOf rest := by
  have hHeader : header? (dropReturn ("# test: ".toList ++ s.name), n) = some s.name :=
    labelled?_line ⟨⟨'#', rfl, rfl⟩, ⟨':', rfl, rfl⟩⟩ h.name_trim n
  have hLines : numbered n s.lines =
      (dropReturn ("# test: ".toList ++ s.name), n) :: numbered (n + 1) s.lines.tail := rfl
  rw [hLines, List.cons_append, casesOf, hHeader]
  simp only [splitBlock_numbered h, caseOf_sample h]

theorem casesOf_numbered_flatMap {ss : List Sample} (h : ∀ s ∈ ss, s.Writable) (n : Nat) :
    casesOf (numbered n (ss.flatMap Sample.lines)) = Sample.casesFrom n ss := by
  induction ss generalizing n with
  | nil => rw [List.flatMap_nil, numbered, List.map_nil, List.zipIdx_nil, casesOf, Sample.casesFrom]
  | cons s ss ih =>
    obtain ⟨hFirst, hRest⟩ := List.forall_mem_cons.mp h
    have hCount : s.text.count '\n' = s.lines.length := by
      rw [s.text_eq_endLines]
      exact count_newline_endLines (Sample.newline_notMem_lines hFirst)
    rw [List.flatMap_cons, numbered_append, casesOf_numbered hFirst, ih hRest, Sample.casesFrom, hCount]

end CaseFile

namespace Sample

/-- The case of a program passes: leaving out carriage returns at the ends of lines changes no diagnostic. -/
theorem run_caseAt (s : Sample) (line : Nat) : (s.caseAt line).run = .pass := by
  have hLines : ∀ l ∈ s.source.physicalLines.map dropReturn, '\n' ∉ l := by
    intro l hl hMem
    obtain ⟨p, hp, rfl⟩ := List.mem_map.mp hl
    obtain ⟨w, -, hEq⟩ := exists_dropReturn_append p
    exact newline_notMem_of_mem_physicalLines hp (hEq ▸ List.mem_append_left w hMem)
  have hCode : CodeLine.ofSource (s.caseAt line).source = CodeLine.ofSource s.source := by
    rw [caseAt, CodeLine.ofSource_joinLines hLines, CodeLine.ofLines_map trim_dropReturn, ← CodeLine.ofSource]
  have hActual : (check s.strictness (s.caseAt line).source).1 = s.diagnostics := by
    rw [check_of_code_eq hCode, diagnostics]
  exact if_pos hActual

theorem run_of_mem_casesFrom {line : Nat} {ss : List Sample} {c : Case} (h : c ∈ casesFrom line ss) :
    c.run = .pass := by
  induction ss generalizing line with
  | nil => cases h
  | cons s ss ih =>
    rcases List.mem_cons.mp h with rfl | h
    · exact s.run_caseAt line
    · exact ih h

theorem outcomes_casesFrom (line : Nat) (ss : List Sample) :
    (casesFrom line ss).map (Case.outcome []) = (casesFrom line ss).map fun c => ⟨c.name, c.line, .pass⟩ := by
  apply List.map_congr_left
  intro c hc
  rw [Case.outcome, run_of_mem_casesFrom hc]
  rfl

theorem length_casesFrom (line : Nat) (ss : List Sample) : (casesFrom line ss).length = ss.length := by
  induction ss generalizing line with
  | nil => rfl
  | cons s ss ih => rw [casesFrom, List.length_cons, List.length_cons, ih]

theorem runAll_casesFrom (line : Nat) (ss : List Sample) :
    Case.runAll [] (casesFrom line ss) = ⟨ss.length, 0, 0, 0, []⟩ := by
  have hCounts := Case.counts_runAll [] (casesFrom line ss)
  rw [outcomes_casesFrom] at hCounts
  have hTally := hCounts.eq_of_passes (List.forall_mem_map.mpr fun _ _ => rfl)
  rwa [List.length_map, length_casesFrom] at hTally

/-- Programs written one after the other are read back as their cases, and all of these pass. -/
theorem read_text {ss : List Sample} (h : ∀ s ∈ ss, s.Writable) :
    CaseFile.read (ss.flatMap text) = casesFrom 1 ss ∧
      (CaseFile.read (ss.flatMap text)).map (Case.outcome []) =
        (casesFrom 1 ss).map (fun c => ⟨c.name, c.line, .pass⟩) ∧
      Case.runAll [] (CaseFile.read (ss.flatMap text)) = ⟨ss.length, 0, 0, 0, []⟩ := by
  have hLines : ∀ l ∈ ss.flatMap lines, '\n' ∉ l := by
    intro l hl
    obtain ⟨s, hs, hLine⟩ := List.mem_flatMap.mp hl
    exact newline_notMem_lines (h s hs) l hLine
  have hRead : CaseFile.read (ss.flatMap text) = casesFrom 1 ss := by
    rw [CaseFile.read, flatMap_text, lines_endLines hLines, ← CaseFile.numbered,
      CaseFile.casesOf_numbered_flatMap h]
  exact ⟨hRead, hRead ▸ outcomes_casesFrom 1 ss, hRead ▸ runAll_casesFrom 1 ss⟩

/-- A program with lines that look like the parts of a case. -/
def lookalike : Sample := ⟨"inner".toList, .relaxed, "# test: other\r\n===;\r\nsum = 1;".toList⟩

def unnamed : Sample := ⟨[], .strict, ['\n']⟩

def written : Text := endLines
  ["# test: inner".toList, "# mode: relaxed".toList, "---".toList,
    "# test: other\r".toList, "===;\r".toList, "sum = 1;".toList, "---".toList,
    "2: Unknown or invalid statement.".toList, "3: Undeclared variable 'sum'.".toList, "===".toList,
    "# test: ".toList, "---".toList, [], [], "---".toList, "===".toList]

theorem read_text_lookalike :
    [lookalike, unnamed].flatMap text = written ∧
      CaseFile.read written =
        [⟨"inner".toList, 1, .relaxed, "# test: other\n===;\nsum = 1;".toList,
          [⟨2, "Unknown or invalid statement.".toList⟩, ⟨3, "Undeclared variable 'sum'.".toList⟩], none⟩,
          ⟨[], 11, .strict, ['\n'], [], none⟩] ∧
      (CaseFile.read written).map (Case.outcome []) = [⟨"inner".toList, 1, .pass⟩, ⟨[], 11, .pass⟩] ∧
      Case.runAll [] (CaseFile.read written) = ⟨2, 0, 0, 0, []⟩ := by
  have hWritable : ∀ s ∈ [lookalike, unnamed], s.Writable := by
    intro s hs
    rcases List.mem_pair.mp hs with rfl | rfl
    · exact ⟨by decide, by decide, by decide +kernel, by decide +kernel⟩
    · exact ⟨by decide, by decide, by decide +kernel, by decide +kernel⟩
  have hText : [lookalike, unnamed].flatMap text = written := by decide +kernel
  obtain ⟨hRead, hOutcomes, hRun⟩ := read_text hWritable
  rw [hText] at hRead hOutcomes hRun
  refine ⟨hText, hRead.trans ?_, hOutcomes.trans ?_, hRun⟩
  · decide +kernel
  · decide +kernel

end Sample
end LessonCheck
