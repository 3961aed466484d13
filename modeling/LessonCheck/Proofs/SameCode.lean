import LessonCheck.Proofs.Renumbering
import LessonCheck.Proofs.Text.Lines

/-!
# Line endings and trailing blanks

Checking reads nothing of a source but its code lines. A line that loses blanks at its end gives the same code
line at the same number, and it makes no difference whether the last line of a source is ended.
-/

namespace LessonCheck

namespace CodeLine

open Text

theorem clean_congr {p q : Text} (h : trim p = trim q) : clean p = clean q := by
  rw [clean, h, clean]

/-- Lines that trimming cannot tell apart have the same code. -/
theorem ofLines_map {f : Text → Text} (h : ∀ p, trim (f p) = trim p) (n : Nat) (ls : List Text) :
    ofLines n (ls.map f) = ofLines n ls := by
  induction ls generalizing n with
  | nil => rfl
  | cons p ls ih =>
    rw [List.map_cons, ofLines, ofLines, ih, ofPhysical?, ofPhysical?, clean_congr (h p)]

theorem ofSource_joinLines {ls : List Text} (h : ∀ l ∈ ls, '\n' ∉ l) : ofSource (joinLines ls) = ofLines 1 ls := by
  cases ls with
  | nil => rfl
  | cons l ls => rw [ofSource, physicalLines_joinLines h (List.cons_ne_nil l ls)]

theorem ofSource_endLines {ls : List Text} (h : ∀ l ∈ ls, '\n' ∉ l) : ofSource (endLines ls) = ofLines 1 ls := by
  rw [ofSource, physicalLines_endLines h, ofLines_append]
  exact List.append_nil _

end CodeLine

theorem check_of_code_eq {source other : Text} (h : CodeLine.ofSource source = CodeLine.ofSource other)
    (strictness : Strictness) : check strictness source = check strictness other := by
  rw [check, Check.program, Check.steps, LogicalStatement.ofSource, h, ← LogicalStatement.ofSource, ← Check.steps,
    ← Check.program, ← check]

end LessonCheck
