import LessonCheck.Proofs.Findings
import LessonCheck.Proofs.Run

/-!
# The two strictnesses

Relaxed checking passes over conditions and over nothing else. Both ways of checking go through the same
states, so what relaxed checking finds is what strict checking finds without the findings on conditions, in
the same order.
-/

namespace LessonCheck

open Check

namespace Check

theorem defects_relaxed (symbols : SymbolTable) (nothingOpen : Bool) (f : Fragment) :
    defects .relaxed symbols nothingOpen f =
      (defects .strict symbols nothingOpen f).filter fun d => !d.isCondition := by
  obtain ⟨t, form⟩ := f
  symm
  cases form with
  | ifHeader condition =>
    apply List.filter_eq_nil_iff.mpr
    intro d hDefect
    have hConcerns := concerns_of_mem_defects hDefect
    rw [Defect.concerns_ifHeader] at hConcerns
    rw [hConcerns]
    decide
  | _ =>
    apply List.filter_eq_self.mpr
    intro d hDefect
    rw [Defect.isCondition_eq_false_of_concerns (concerns_of_mem_defects hDefect) (by rintro condition ⟨⟩)]
    rfl

namespace State

theorem reported_relaxed (s : State) (marksRejected : Bool) (f : Fragment) :
    s.reported ⟨.relaxed, marksRejected⟩ f =
      (s.reported ⟨.strict, marksRejected⟩ f).filter fun d => !d.isCondition := by
  simp only [reported, defects_relaxed]
  split
  · simp only [List.filter_filter, Bool.and_comm]
  · rfl

theorem findings_relaxed (s : State) (marksRejected : Bool) (step : Step) :
    s.findings ⟨.relaxed, marksRejected⟩ step =
      (s.findings ⟨.strict, marksRejected⟩ step).filter fun f => !f.defect.isCondition := by
  rw [findings, findings, reported_relaxed, List.filter_map]
  rfl

/-- The strictness has no part in what a step does. -/
theorem next_relaxed (s : State) (marksRejected : Bool) (step : Step) :
    s.next ⟨.relaxed, marksRejected⟩ step = s.next ⟨.strict, marksRejected⟩ step := rfl

theorem run_relaxed (s : State) (marksRejected : Bool) (run : List Step) :
    s.run ⟨.relaxed, marksRejected⟩ run =
      ((s.run ⟨.strict, marksRejected⟩ run).1.filter fun f => !f.defect.isCondition,
        (s.run ⟨.strict, marksRejected⟩ run).2) := by
  induction run generalizing s with
  | nil => rfl
  | cons step rest ih =>
    simp only [State.run, next_relaxed, ih, findings_relaxed, List.filter_append]

theorem filter_unclosed (s : State) : s.unclosed.filter (fun f => !f.defect.isCondition) = s.unclosed := by
  apply List.filter_eq_self.mpr
  intro f hFinding
  rw [defect_of_mem_unclosed hFinding]
  rfl

end State

theorem program_relaxed (marksRejected : Bool) (source : Text) :
    program ⟨.relaxed, marksRejected⟩ source =
      ⟨(program ⟨.strict, marksRejected⟩ source).findings.filter fun f => !f.defect.isCondition,
        (program ⟨.strict, marksRejected⟩ source).symbols⟩ := by
  simp only [program, State.run_relaxed, List.filter_append, State.filter_unclosed]

end Check

/-- Relaxed checking gives the diagnostics of strict checking without those of invalid conditions, in their
order, and the same variables. -/
theorem check_relaxed (source : Text) :
    check .relaxed source =
      ((check .strict source).1.filter fun d => d.message ≠ "Invalid condition in ELAITHE.".toList,
        (check .strict source).2) := by
  have hMessage : (fun f : Finding => !f.defect.isCondition) =
      fun f => decide (f.defect.message ≠ "Invalid condition in ELAITHE.".toList) := by
    funext f
    simp only [ne_eq, Defect.message_eq_condition_iff, decide_not, Bool.decide_eq_true]
  simp only [check, Rules.ofStrictness, program_relaxed, Outcome.diagnostics, List.filter_map, hMessage]
  rfl

end LessonCheck
