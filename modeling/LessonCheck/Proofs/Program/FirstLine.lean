import LessonCheck.Proofs.Program.Grouping
import LessonCheck.Proofs.Renumbering

/-!
# A command in front of a program

A command that is written on one line is a statement of its own, unless a loop header seems to start in its string
literal. So the program behind it is read as if it stood alone, one line further down, and is checked from the state
that the command leaves.
-/

namespace LessonCheck.Program

open Check LogicalStatement

/-- A line of a program without layout is a code line as it stands. -/
theorem ofPhysical?_text (l : Line) (n : Nat) : CodeLine.ofPhysical? n l.text = some ⟨n, l.text⟩ := by
  have hClean := CodeLine.clean_line Text.allBlank_nil l.framed_text l.whole_text (.blanks Text.allBlank_nil)
  rw [List.nil_append, List.append_nil] at hClean
  rw [CodeLine.ofPhysical?, hClean, if_neg l.framed_text.ne_nil]

theorem codeLines_line_append {l : Line} (h : '\n' ∉ l.text) (source : Text) :
    CodeLine.ofSource (l.text ++ '\n' :: source) =
      ⟨1, l.text⟩ :: (CodeLine.ofSource source).map (CodeLine.renumber (· + 1)) := by
  rw [CodeLine.ofSource_line_append h, ofPhysical?_text]
  rfl

theorem closes_command (c : Command) (n : Nat) :
    (extend none ⟨n, c.text⟩).closes = !c.body?.any fun b => Header.containsLoop b.text :=
  closes_extend (l := .command c) .none rfl

section OneLine

variable {c : Command} (hLine : '\n' ∉ c.text)
  (hBody : (c.body?.any fun b => Header.containsLoop b.text) = false)

include hLine hBody

theorem ofSource_command_append (source : Text) :
    ofSource (c.text ++ '\n' :: source) = ⟨c.text, 1⟩ :: (ofSource source).map (renumber (· + 1)) := by
  have hCode := codeLines_line_append (l := .command c) hLine source
  rw [Line.text] at hCode
  have hRest := group_renumber (· + 1) none (CodeLine.ofSource source)
  rw [Option.map_none] at hRest
  rw [ofSource, hCode, group_cons, closes_command, hBody, hRest]
  rfl

/-- The first step is the command, and the other steps are those of the program behind it. -/
theorem steps_command_append (source : Text) :
    ∃ step : Step, step.fragment.form = c.form ∧
      steps (c.text ++ '\n' :: source) = step :: (steps source).map (Step.renumber (· + 1)) := by
  obtain ⟨f, hReads, hChain⟩ := chain_line (.command c)
  rw [Line.text] at hChain
  have hFirst : stepsOf ⟨c.text, 1⟩ = [⟨1, f⟩] := by
    rw [stepsOf, Fragment.ofStatement, Text.trim_of_framed c.framed_text, hChain]
    rfl
  refine ⟨⟨1, f⟩, ?_, ?_⟩
  · generalize f.form = form at hReads
    cases hReads
    rfl
  · rw [steps, ofSource_command_append hLine hBody, List.flatMap_cons, flatMap_stepsOf_renumber, hFirst]
    rfl

end OneLine

/-- Behind a step that finds nothing and leaves no block open, a program is checked from the table that the step
leaves, and what is found in it stands one line further down. -/
theorem check_of_quiet_step {strictness : Strictness} {source other : Text} {step : Step} {s : State}
    (hSteps : steps other = step :: (steps source).map (Step.renumber (· + 1)))
    (hFindings : State.start.findings (.ofStrictness strictness) step = [])
    (hNext : State.start.next (.ofStrictness strictness) step = s) (hBlocks : s.blocks = .empty) :
    check strictness other =
      ((s.outcome (.ofStrictness strictness) (steps source)).diagnostics.map (Diagnostic.renumber (· + 1)),
        (s.outcome (.ofStrictness strictness) (steps source)).symbols) := by
  have hStart : s.renumber (· + 1) = s := by
    obtain ⟨symbols, blocks⟩ := s
    obtain rfl : blocks = .empty := hBlocks
    rfl
  have hOutcome := State.outcome_renumber (· + 1) (.ofStrictness strictness) s (steps source)
  rw [hStart] at hOutcome
  have hFirst : State.start.outcome (.ofStrictness strictness) (steps other) =
      (s.outcome (.ofStrictness strictness) (steps source)).renumber (· + 1) := by
    rw [hSteps, State.outcome, State.run_cons_fst, State.run_cons_snd, hFindings, hNext, List.nil_append, ← hOutcome]
    rfl
  rw [State.check_eq_outcome, hFirst, Outcome.diagnostics_renumber]
  rfl

end LessonCheck.Program
