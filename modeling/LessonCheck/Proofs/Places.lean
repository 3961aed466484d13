import LessonCheck.Proofs.Accounting
import LessonCheck.Proofs.Layout

/-!
# Where diagnostics stand

Code lines are numbered upwards, a statement bears the number of its first line, and what is found in a
statement bears that number too. So what a run finds comes in the order of the lines. A statement opens at most
one block, so the blocks left open are also in the order of their lines, and no two of them share one.
-/

namespace LessonCheck

open scoped List

/-- Things of one line stand in the order of their lines. -/
theorem pairwise_le_of_forall_eq {α : Type} {line : α → Nat} {n : Nat} {l : List α} (h : ∀ a ∈ l, line a = n) :
    l.Pairwise fun a b => line a ≤ line b := by
  apply List.pairwise_of_forall_mem_list
  intro a ha b hb
  exact Nat.le_of_eq ((h a ha).trans (h b hb).symm)

namespace CodeLine

theorem of_mem_ofPhysical? {n : Nat} {p : Text} {l : CodeLine} (h : l ∈ (ofPhysical? n p).toList) :
    clean p ≠ [] ∧ l.number = n := by
  obtain ⟨hCode, hEq⟩ := Option.ite_none_left_eq_some.mp (Option.mem_toList.mp h)
  exact ⟨hCode, (congrArg number (Option.some.inj hEq)).symm⟩

/-- A code line is numbered by its physical line, which is not layout alone. -/
theorem exists_physical_of_mem_ofLines {n : Nat} {ls : List Text} {l : CodeLine} (h : l ∈ ofLines n ls) :
    ∃ k p, ls[k]? = some p ∧ l.number = n + k ∧ ¬Filler p := by
  induction ls generalizing n with
  | nil => cases h
  | cons p ls ih =>
    rcases List.mem_append.mp h with hFirst | hRest
    · obtain ⟨hCode, hNumber⟩ := of_mem_ofPhysical? hFirst
      exact ⟨0, p, rfl, hNumber, fun hFiller => hCode (clean_of_filler hFiller)⟩
    · obtain ⟨k, q, hLine, hNumber, hFiller⟩ := ih hRest
      exact ⟨k + 1, q, hLine, by omega, hFiller⟩

theorem pairwise_number_ofLines (n : Nat) (ls : List Text) :
    (ofLines n ls).Pairwise fun l m => l.number < m.number := by
  induction ls generalizing n with
  | nil => exact List.Pairwise.nil
  | cons p ls ih =>
    refine List.pairwise_append.mpr ⟨?_, ih (n + 1), ?_⟩
    · unfold ofPhysical?
      split
      · exact List.Pairwise.nil
      · exact List.pairwise_singleton _ _
    · intro l hFirst m hRest
      obtain ⟨-, hHere⟩ := of_mem_ofPhysical? hFirst
      obtain ⟨k, -, -, hBelow, -⟩ := exists_physical_of_mem_ofLines hRest
      omega

end CodeLine

namespace LogicalStatement

/-- Each statement bears the number of a line of its own. -/
theorem sublist_line_group (pending : Option Pending) (ls : List CodeLine) :
    (group pending ls).map line <+ pending.toList.map Pending.line ++ ls.map CodeLine.number := by
  induction ls generalizing pending with
  | nil =>
    cases pending with
    | none => exact List.Sublist.refl _
    | some p => exact List.Sublist.refl _
  | cons l ls ih =>
    have hFirst : (extend pending l).line :: ls.map CodeLine.number <+
        pending.toList.map Pending.line ++ (l :: ls).map CodeLine.number := by
      cases pending with
      | none => exact List.Sublist.refl _
      | some p => exact (List.sublist_cons_self _ _).cons_cons _
    rw [group_cons]
    split
    · exact ((ih none).cons_cons _).trans hFirst
    · exact (ih (some (extend pending l))).trans hFirst

theorem sublist_line_ofSource (source : Text) :
    (ofSource source).map line <+ (CodeLine.ofSource source).map CodeLine.number :=
  sublist_line_group none _

theorem exists_codeLine_of_mem_ofSource {source : Text} {s : LogicalStatement} (h : s ∈ ofSource source) :
    ∃ l ∈ CodeLine.ofSource source, l.number = s.line :=
  List.mem_map.mp ((sublist_line_ofSource source).mem (List.mem_map_of_mem h))

theorem pairwise_line_ofSource (source : Text) : (ofSource source).Pairwise fun s t => s.line < t.line := by
  have hNumbers := List.pairwise_map.mpr (CodeLine.pairwise_number_ofLines 1 source.physicalLines)
  exact List.pairwise_map.mp (hNumbers.sublist (sublist_line_ofSource source))

end LogicalStatement

namespace Bracket

/-- The brackets left open are among the opening ones, in their order. -/
theorem sublist_leftOpen (lines : List Nat) (events : List (Nat × Bracket)) :
    (leftOpen lines events).reverse <+
      lines.reverse ++ (events.filter fun event => event.2 = .opening).map Prod.fst := by
  induction events generalizing lines with
  | nil => exact List.sublist_append_left _ _
  | cons event events ih =>
    obtain ⟨line, bracket⟩ := event
    cases bracket with
    | opening =>
      have hRest := ih (line :: lines)
      rw [List.reverse_cons, List.append_assoc] at hRest
      exact hRest
    | closing => exact (ih lines.tail).trans ((List.tail_sublist lines).reverse.append_right _)

end Bracket

namespace Check

theorem line_of_mem_stepsOf {s : LogicalStatement} {step : Step} (h : step ∈ stepsOf s) :
    step.line = s.line := by
  obtain ⟨f, -, rfl⟩ := List.mem_map.mp h
  rfl

theorem exists_statement_of_mem_steps {source : Text} {step : Step} (h : step ∈ steps source) :
    ∃ s ∈ LogicalStatement.ofSource source, s.line = step.line := by
  obtain ⟨s, hStatement, hStep⟩ := List.mem_flatMap.mp h
  exact ⟨s, hStatement, (line_of_mem_stepsOf hStep).symm⟩

theorem pairwise_line_steps (source : Text) : (steps source).Pairwise fun a b => a.line ≤ b.line := by
  rw [steps, List.pairwise_flatMap]
  constructor
  · intro s _
    exact pairwise_le_of_forall_eq fun _ => line_of_mem_stepsOf
  · apply (LogicalStatement.pairwise_line_ofSource source).imp
    intro s t hLine a ha b hb
    rw [line_of_mem_stepsOf ha, line_of_mem_stepsOf hb]
    exact Nat.le_of_lt hLine

/-- A statement has at most one opening bracket. -/
theorem filter_opening_bracketsOf (s : LogicalStatement) :
    (bracketsOf s).filter (· = .opening) = if endsWith '[' s.text then [.opening] else [] := by
  rw [bracketsOf, List.filter_append, List.filter_map]
  split
  · simp
  · simp

theorem filter_opening_bracketLines (source : Text) :
    ((bracketLines source).filter fun event => event.2 = .opening).map Prod.fst =
      ((LogicalStatement.ofSource source).filter fun s => endsWith '[' s.text).map LogicalStatement.line := by
  unfold bracketLines
  induction LogicalStatement.ofSource source with
  | nil => rfl
  | cons s ss ih =>
    have hOpening := filter_opening_bracketsOf s
    rw [List.flatMap_cons, List.filter_append, List.map_append, ih, List.filter_map, List.filter_cons]
    simp only [Function.comp_def, hOpening]
    split <;> rfl

namespace State

variable {rules : Rules}

theorem line_of_mem_findings {s : State} {step : Step} {f : Finding} (h : f ∈ s.findings rules step) :
    f.line = step.line := by
  obtain ⟨d, -, rfl⟩ := List.mem_map.mp h
  rfl

/-- What a run finds comes in the order of its steps. -/
theorem pairwise_line_run (s : State) {run : List Step} (h : run.Pairwise fun a b => a.line ≤ b.line) :
    (s.run rules run).1.Pairwise fun f g => f.line ≤ g.line := by
  induction run generalizing s with
  | nil => exact List.Pairwise.nil
  | cons step rest ih =>
    obtain ⟨hStep, hRest⟩ := List.pairwise_cons.mp h
    refine List.pairwise_append.mpr ⟨pairwise_le_of_forall_eq fun _ => line_of_mem_findings, ih _ hRest, ?_⟩
    intro f hf g hg
    obtain ⟨later, hLater, hLine, -⟩ := exists_step_of_mem_run hg
    rw [line_of_mem_findings hf, hLine]
    exact hStep later hLater

theorem sublist_line_unclosed (rules : Rules) (source : Text) :
    (start.run rules (steps source)).2.unclosed.map Finding.line <+
      (LogicalStatement.ofSource source).map LogicalStatement.line := by
  rw [map_line_unclosed, lines_run, flatMap_bracketEvents_steps]
  refine (Bracket.sublist_leftOpen [] _).trans ?_
  rw [filter_opening_bracketLines]
  exact List.filter_sublist.map _

end State

/-- Every diagnostic bears the line of a statement. -/
theorem exists_statement_of_mem_check {strictness : Strictness} {source : Text} {d : Diagnostic}
    (h : d ∈ (check strictness source).1) : ∃ s ∈ LogicalStatement.ofSource source, s.line = d.line := by
  rw [State.check_fst] at h
  rcases List.mem_append.mp h with hReport | hUnclosed
  · obtain ⟨f, hFinding, rfl⟩ := List.mem_map.mp hReport
    obtain ⟨step, hStep, hLine, -⟩ := State.exists_step_of_mem_run hFinding
    obtain ⟨s, hStatement, hEq⟩ := exists_statement_of_mem_steps hStep
    exact ⟨s, hStatement, hEq.trans hLine.symm⟩
  · obtain ⟨f, hFinding, rfl⟩ := List.mem_map.mp hUnclosed
    have hLine := (State.sublist_line_unclosed _ source).mem (List.mem_map_of_mem hFinding)
    exact List.mem_map.mp hLine

/-- The diagnostics of a program are what its statements report and then the blocks that they leave open. -/
structure Placed (source : Text) (reports unclosed : List Diagnostic) : Prop where
  reports_message : ∀ d ∈ reports, d.message ≠ "Missing closing ']' for block opened here.".toList
  reports_line : reports.Pairwise fun d e => d.line ≤ e.line
  unclosed_message : ∀ d ∈ unclosed, d.message = "Missing closing ']' for block opened here.".toList
  unclosed_line : unclosed.Pairwise fun d e => d.line < e.line
  statement : ∀ d ∈ reports ++ unclosed, ∃ s ∈ LogicalStatement.ofSource source, s.line = d.line
  range : ∀ d ∈ reports ++ unclosed, 1 ≤ d.line ∧ d.line ≤ source.physicalLines.length
  code : ∀ d ∈ reports ++ unclosed, ∃ p, source.physicalLines[d.line - 1]? = some p ∧ ¬CodeLine.Filler p

theorem exists_placed (strictness : Strictness) (source : Text) :
    ∃ reports unclosed, (check strictness source).1 = reports ++ unclosed ∧ Placed source reports unclosed := by
  have hPlace : ∀ d ∈ (check strictness source).1, ∃ k p,
      source.physicalLines[k]? = some p ∧ d.line = 1 + k ∧ ¬CodeLine.Filler p := by
    intro d hd
    obtain ⟨s, hStatement, hLine⟩ := exists_statement_of_mem_check hd
    obtain ⟨l, hCode, hNumber⟩ := LogicalStatement.exists_codeLine_of_mem_ofSource hStatement
    rw [← hLine, ← hNumber]
    exact CodeLine.exists_physical_of_mem_ofLines hCode
  refine ⟨_, _, State.check_fst strictness source, ?_⟩
  rw [State.check_fst] at hPlace
  refine ⟨?reports_message, ?reports_line, ?unclosed_message, ?unclosed_line, ?statement, ?range, ?code⟩
  case reports_message =>
    intro d hd
    obtain ⟨f, hFinding, rfl⟩ := List.mem_map.mp hd
    exact State.message_ne_of_mem_run hFinding
  case reports_line =>
    exact List.pairwise_map.mpr (State.pairwise_line_run State.start (pairwise_line_steps source))
  case unclosed_message =>
    intro d hd
    obtain ⟨f, hFinding, rfl⟩ := List.mem_map.mp hd
    exact State.message_of_mem_unclosed hFinding
  case unclosed_line =>
    have hLines := List.pairwise_map.mpr (LogicalStatement.pairwise_line_ofSource source)
    have hOpen := hLines.sublist (State.sublist_line_unclosed (.ofStrictness strictness) source)
    exact List.pairwise_map.mpr (List.pairwise_map.mp hOpen)
  case statement =>
    intro d hd
    rw [← State.check_fst] at hd
    exact exists_statement_of_mem_check hd
  case range =>
    intro d hd
    obtain ⟨k, p, hLine, hNumber, -⟩ := hPlace d hd
    have hLength := (List.getElem?_eq_some_iff.mp hLine).1
    omega
  case code =>
    intro d hd
    obtain ⟨k, p, hLine, hNumber, hCode⟩ := hPlace d hd
    exact ⟨p, by rwa [hNumber, Nat.add_sub_cancel_left], hCode⟩

end Check
end LessonCheck
