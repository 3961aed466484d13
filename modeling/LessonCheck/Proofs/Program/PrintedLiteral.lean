import LessonCheck.Proofs.Program.Completeness
import LessonCheck.Proofs.Program.FirstLine

/-!
# Printed literals in front of a program

A line that prints a string literal should move the program behind it one line down and do no more. It does so
exactly if no loop header seems to start in the literal: then the line is a statement of its own, which reports
nothing and changes nothing. Otherwise its statement stays open and takes in lines of the program, and what is
found in them bears the number of the print.
-/

namespace LessonCheck.Program

open Check LogicalStatement

def printed (b : Body) : Command := .io .print (.quoted b)

/-- In front of the source the line only moves what is found one line down. -/
def MovesDown (strictness : Strictness) (l source : Text) : Prop :=
  check strictness (l ++ '\n' :: source) =
    ((check strictness source).1.map (Diagnostic.renumber (· + 1)), (check strictness source).2)

theorem text_printed (b : Body) : (printed b).text = "CHATIMPU(\"".toList ++ (b.text ++ "\");".toList) := by
  change Keyword.print.text ++ '(' :: '"' :: (b.text ++ ['"'] ++ [')', ';']) = _
  rw [List.append_assoc]
  rfl

theorem newline_notMem_printed (b : Body) : '\n' ∉ (printed b).text := by
  rw [text_printed, List.mem_append, List.mem_append]
  rintro (hMem | hMem | hMem)
  · exact absurd hMem (by decide)
  · exact (b.plain _ hMem).2.1 rfl
  · exact absurd hMem (by decide)

/-! ## A literal without an opener -/

/-- Printing a literal reports nothing and changes nothing, wherever it stands. -/
theorem quiet_printed {b : Body} {step : Step} (h : step.fragment.form = (printed b).form) (rules : Rules)
    (s : State) : s.findings rules step = [] ∧ s.next rules step = s := by
  obtain ⟨line, t, form⟩ := step
  obtain rfl : form = .io .print b.quoted := h
  refine ⟨?_, rfl⟩
  have hLiteral : Word.isStringLiteral b.quoted = true := isStringLiteral_quoted b
  simp [State.findings, State.reported, defects, ioDefects, hLiteral]

theorem movesDown_printed {b : Body} (h : Header.containsLoop b.text = false) (strictness : Strictness)
    (source : Text) : MovesDown strictness (printed b).text source := by
  have hBody : ((printed b).body?.any fun b => Header.containsLoop b.text) = false := h
  obtain ⟨step, hForm, hSteps⟩ := steps_command_append (newline_notMem_printed b) hBody source
  obtain ⟨hFindings, hNext⟩ := quiet_printed hForm (.ofStrictness strictness) State.start
  rw [MovesDown, check_of_quiet_step hSteps hFindings hNext rfl, State.check_eq_outcome]

/-! ## A literal with an opener -/

theorem ofSource_printed_closer {b : Body} (h : Header.containsLoop b.text = true) :
    ofSource ((printed b).text ++ '\n' :: [']']) = [⟨joined [.command (printed b), .close], 1⟩] := by
  have hFirst : Holds (some (extend none ⟨1, (printed b).text⟩)) ([] ++ [.command (printed b)]) :=
    holds_extend .none rfl h
  have hOpen := @closes_extend _ _ ⟨2, [']']⟩ .close hFirst rfl
  have hCode := codeLines_line_append (l := .command (printed b)) (newline_notMem_printed b) [']']
  rw [Line.text] at hCode
  have hCloses : (extend none ⟨1, (printed b).text⟩).closes = !Header.containsLoop b.text :=
    closes_command (printed b) 1
  rw [ofSource, hCode, group_cons, hCloses, h]
  change (if _ then _ else group _ [⟨2, [']']⟩]) = _
  rw [if_neg (by decide), group_cons, hOpen]
  rfl

theorem steps_printed_closer {b : Body} (h : Header.containsLoop b.text = true) :
    ∃ first last : Step, steps ((printed b).text ++ '\n' :: [']']) = [first, last] ∧
      first.fragment.form = (printed b).form ∧ last.line = 1 ∧ ReadsAs .close last.fragment.form := by
  have hPlain : ∀ l ∈ [Line.command (printed b)], l.isPlain = true := by simp [Line.isPlain]
  have hReads := forall₂_readsAs_chain hPlain .close
  rw [← ofStatement_joined (by simp)] at hReads
  obtain ⟨f, fs, hFirst, hRest, hFragments⟩ := List.forall₂_cons_left_iff.mp hReads
  obtain ⟨g, gs, hLast, hNil, rfl⟩ := List.forall₂_cons_left_iff.mp hRest
  obtain rfl := List.forall₂_nil_left_iff.mp hNil
  refine ⟨⟨1, f⟩, ⟨1, g⟩, ?_, ?_, rfl, hLast⟩
  · rw [steps, ofSource_printed_closer h, List.flatMap_singleton, stepsOf]
    change (Fragment.ofStatement (joined ([.command (printed b)] ++ [.close]))).map _ = _
    rw [hFragments]
    rfl
  · generalize f.form = form at hFirst
    cases hFirst
    rfl

theorem check_printed_closer {b : Body} (h : Header.containsLoop b.text = true) (strictness : Strictness) :
    (check strictness ((printed b).text ++ '\n' :: [']'])).1 = [⟨1, Defect.unmatchedCloser.message⟩] := by
  obtain ⟨first, last, hSteps, hForm, hLine, hClose⟩ := steps_printed_closer h
  obtain ⟨hFindings, hNext⟩ := quiet_printed hForm (.ofStrictness strictness) State.start
  obtain ⟨line, t, form⟩ := last
  obtain rfl : line = 1 := hLine
  cases hClose with
  | @close rest hRest =>
    have hDefects := continuationDefects_eq_nil hRest
    have hOpened : State.opened? (.ofStrictness strictness) 1 ⟨t, .closer rest⟩ = none := by
      have hOpens : Fragment.opens ⟨t, .closer rest⟩ = false := hRest
      rw [← Option.not_isSome_iff_eq_none, Fragment.isSome_opened?, hOpens]
      exact Bool.false_ne_true
    have hLast : State.start.findings (.ofStrictness strictness) ⟨1, t, .closer rest⟩ =
        [⟨1, .unmatchedCloser⟩] := by
      simp [State.findings, State.reported, defects, hDefects, State.start, BlockStack.empty,
        BlockStack.top?, BlockStack.inUnbound]
    have hEnd : (State.start.next (.ofStrictness strictness) ⟨1, t, .closer rest⟩).unclosed = [] := by
      simp only [State.next, State.nested, hOpened]
      rfl
    simp only [check, Outcome.diagnostics, program, hSteps, State.run, hFindings, hNext, hLast, hEnd]
    rfl

/-- A printed literal in front of a program only moves it one line down, whatever the program is, exactly if no
loop header seems to start in the literal. -/
theorem forall_movesDown_printed_iff (strictness : Strictness) (b : Body) :
    (∀ source, MovesDown strictness (printed b).text source) ↔ Header.containsLoop b.text = false := by
  constructor
  · intro hAll
    cases hLoop : Header.containsLoop b.text with
    | false => rfl
    | true =>
      have hMoves := congrArg Prod.fst (hAll [']'])
      have hAlone : (check strictness [']']).1 = [⟨1, Defect.unmatchedCloser.message⟩] := by
        cases strictness <;> decide +kernel
      rw [check_printed_closer hLoop, hAlone] at hMoves
      cases hMoves
  · intro hLoop source
    exact movesDown_printed hLoop strictness source

/-- A body with none of the excluded characters and with the start of a loop header: what stands on the second
line is reported on the first. -/
theorem check_count_behind_misread :
    ("MALLI-MALLI (".toList.any fun c => ['"', '\n', ';', '[', ']'].contains c) = false ∧
      (check .strict "CHATIMPU(\"MALLI-MALLI (\");\ncount = 1;".toList).1 =
        [⟨1, "Undeclared variable 'count'.".toList⟩] ∧
      (check .strict "count = 1;".toList).1.map (Diagnostic.renumber (· + 1)) =
        [⟨2, "Undeclared variable 'count'.".toList⟩] := by
  refine ⟨by decide, ?_, ?_⟩
  · decide +kernel
  · decide +kernel

end LessonCheck.Program
