import LessonCheck.Proofs.Run
import LessonCheck.Proofs.Statement

/-!
# Renumbered lines

A line number is carried along and never looked at: no form, no table and no bracket depends on one. So code
lines that bear other numbers are grouped and checked in the same way, and what is found bears the other
numbers. The numbers of the code lines of a text that starts further down are those of the text alone, shifted.
-/

namespace LessonCheck

variable (f : Nat → Nat)

namespace CodeLine

def renumber (l : CodeLine) : CodeLine := { l with number := f l.number }

theorem ofLines_add (n k : Nat) (ls : List Text) :
    ofLines (n + k) ls = (ofLines n ls).map (renumber (· + k)) := by
  induction ls generalizing n with
  | nil => rfl
  | cons l ls ih =>
    rw [ofLines, ofLines, Nat.add_right_comm, ih, List.map_append, ofPhysical?, ofPhysical?]
    split
    · rfl
    · rfl

theorem ofLines_append (n : Nat) (ls ms : List Text) :
    ofLines n (ls ++ ms) = ofLines n ls ++ ofLines (n + ls.length) ms := by
  induction ls generalizing n with
  | nil => rfl
  | cons l ls ih =>
    rw [List.cons_append, ofLines, ofLines, ih, List.append_assoc, List.length_cons, Nat.add_right_comm,
      Nat.add_assoc n]

/-- The code of a text behind another one starts below its last line. -/
theorem ofSource_append (source more : Text) :
    ofSource (source ++ '\n' :: more) =
      ofSource source ++ (ofSource more).map (renumber (· + source.physicalLines.length)) := by
  have hLines : Text.physicalLines (source ++ '\n' :: more) =
      Text.physicalLines source ++ Text.physicalLines more := List.splitOn_append_cons_self ..
  rw [ofSource, hLines, ofLines_append, ofLines_add]
  rfl

/-- A line in front of a text moves all its code lines one down. -/
theorem ofSource_line_append {l : Text} (h : '\n' ∉ l) (source : Text) :
    ofSource (l ++ '\n' :: source) = (ofPhysical? 1 l).toList ++ (ofSource source).map (renumber (· + 1)) := by
  have hLine : l.physicalLines = [l] := List.splitOn_eq_singleton h
  rw [ofSource_append, ofSource, hLine, ofLines, ofLines, List.append_nil]
  rfl

end CodeLine

namespace LogicalStatement

def renumber (s : LogicalStatement) : LogicalStatement := { s with line := f s.line }

def Pending.renumber (p : Pending) : Pending := { p with line := f p.line }

theorem extend_renumber (pending : Option Pending) (l : CodeLine) :
    extend (pending.map (Pending.renumber f)) (l.renumber f) = (extend pending l).renumber f := by
  cases pending <;> rfl

theorem group_renumber (pending : Option Pending) (ls : List CodeLine) :
    group (pending.map (Pending.renumber f)) (ls.map (CodeLine.renumber f)) =
      (group pending ls).map (renumber f) := by
  induction ls generalizing pending with
  | nil => cases pending <;> rfl
  | cons l ls ih =>
    have hNone := ih none
    have hSome := ih (some (extend pending l))
    rw [Option.map_none] at hNone
    rw [Option.map_some] at hSome
    rw [List.map_cons, group_cons, group_cons, extend_renumber, hNone, hSome]
    -- The number of a statement has no say in where the statement ends.
    change (if (extend pending l).closes then _ else _) = _
    split
    · rfl
    · rfl

end LogicalStatement

def Block.renumber (b : Block) : Block := { b with line := f b.line }

namespace BlockStack

def renumber (s : BlockStack) : BlockStack := { s with blocks := s.blocks.map (Block.renumber f) }

theorem pop_renumber (s : BlockStack) : (s.renumber f).pop = s.pop.renumber f := by
  obtain ⟨blocks, unbound⟩ := s
  cases blocks <;> rfl

theorem isNone_top?_renumber (s : BlockStack) : (s.renumber f).top?.isNone = s.top?.isNone := by
  obtain ⟨blocks, unbound⟩ := s
  cases blocks <;> rfl

end BlockStack

def Diagnostic.renumber (d : Diagnostic) : Diagnostic := { d with line := f d.line }

namespace Check

def Step.renumber (step : Step) : Step := { step with line := f step.line }

def Finding.renumber (finding : Finding) : Finding := { finding with line := f finding.line }

def Outcome.renumber (o : Outcome) : Outcome := { o with findings := o.findings.map (Finding.renumber f) }

theorem Outcome.diagnostics_renumber (o : Outcome) :
    (o.renumber f).diagnostics = o.diagnostics.map (Diagnostic.renumber f) := by
  rw [diagnostics, diagnostics, List.map_map]
  exact List.map_map

theorem flatMap_stepsOf_renumber (ss : List LogicalStatement) :
    (ss.map (LogicalStatement.renumber f)).flatMap stepsOf = (ss.flatMap stepsOf).map (Step.renumber f) := by
  rw [List.flatMap_map, List.map_flatMap]
  simp only [stepsOf, List.map_map]
  rfl

namespace State

def renumber (s : State) : State := { s with blocks := s.blocks.renumber f }

theorem opened?_renumber (rules : Rules) (line : Nat) (fragment : Fragment) :
    opened? rules (f line) fragment = (opened? rules line fragment).map (Block.renumber f) := by
  obtain ⟨t, form⟩ := fragment
  cases form with
  | closer rest =>
    simp only [opened?]
    cases Continuation.ofText rest <;> rfl
  | unterminatedDeclaration | unknown =>
    simp only [opened?]
    cases endsWith '[' t <;> rfl
  | _ => rfl

theorem nested_renumber (rules : Rules) (blocks : BlockStack) (line : Nat) (fragment : Fragment) :
    nested (blocks.renumber f) rules (f line) fragment = (nested blocks rules line fragment).renumber f := by
  have hClosed : (if closes fragment.form then (blocks.renumber f).pop else blocks.renumber f) =
      (if closes fragment.form then blocks.pop else blocks).renumber f := by
    split
    · exact blocks.pop_renumber f
    · rfl
  simp only [nested, hClosed, opened?_renumber]
  cases opened? rules line fragment <;> rfl

theorem next_renumber (rules : Rules) (s : State) (step : Step) :
    (s.renumber f).next rules (step.renumber f) = (s.next rules step).renumber f :=
  congrArg (State.mk _) (nested_renumber f rules s.blocks step.line step.fragment)

theorem findings_renumber (rules : Rules) (s : State) (step : Step) :
    (s.renumber f).findings rules (step.renumber f) = (s.findings rules step).map (Finding.renumber f) := by
  have hTop := s.blocks.isNone_top?_renumber f
  have hReported : (s.renumber f).reported rules step.fragment = s.reported rules step.fragment := by
    simp only [reported, renumber, hTop]
    rfl
  simp only [findings, Step.renumber, hReported, List.map_map]
  rfl

theorem run_renumber (rules : Rules) (s : State) (run : List Step) :
    (s.renumber f).run rules (run.map (Step.renumber f)) =
      ((s.run rules run).1.map (Finding.renumber f), (s.run rules run).2.renumber f) := by
  induction run generalizing s with
  | nil => rfl
  | cons step rest ih =>
    have hRest := ih (s.next rules step)
    rw [List.map_cons, State.run, next_renumber, hRest, findings_renumber, State.run, List.map_append]

theorem unclosed_renumber (s : State) : (s.renumber f).unclosed = s.unclosed.map (Finding.renumber f) := by
  simp only [unclosed, BlockStack.opened, renumber, BlockStack.renumber, ← List.map_reverse, List.map_map]
  rfl

theorem outcome_renumber (rules : Rules) (s : State) (run : List Step) :
    (s.renumber f).outcome rules (run.map (Step.renumber f)) = (s.outcome rules run).renumber f := by
  rw [outcome, run_renumber, unclosed_renumber, ← List.map_append]
  rfl

end State
end Check

theorem LogicalStatement.ofSource_renumber {source other : Text}
    (h : CodeLine.ofSource other = (CodeLine.ofSource source).map (CodeLine.renumber f)) :
    ofSource other = (ofSource source).map (renumber f) := by
  have hGroup := group_renumber f none (CodeLine.ofSource source)
  rwa [Option.map_none, ← h] at hGroup

/-- A source whose code lines are those of another one with other numbers is checked like that one. -/
theorem check_renumber (strictness : Strictness) {source other : Text}
    (h : CodeLine.ofSource other = (CodeLine.ofSource source).map (CodeLine.renumber f)) :
    check strictness other =
      ((check strictness source).1.map (Diagnostic.renumber f), (check strictness source).2) := by
  have hSteps : Check.steps other = (Check.steps source).map (Check.Step.renumber f) := by
    rw [Check.steps, LogicalStatement.ofSource_renumber f h, Check.flatMap_stepsOf_renumber, Check.steps]
  have hStart : Check.State.start.renumber f = Check.State.start := rfl
  have hOutcome := Check.State.outcome_renumber f (.ofStrictness strictness) Check.State.start (Check.steps source)
  rw [hStart, ← hSteps] at hOutcome
  rw [Check.State.check_eq_outcome, hOutcome, Check.Outcome.diagnostics_renumber]
  rfl

end LessonCheck
