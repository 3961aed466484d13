import LessonCheck.Proofs.Places
import LessonCheck.Proofs.Renumbering
import Mathlib.Data.List.Forall2

/-!
# Other layouts of the same code

Two sources whose code lines read the same differ in nothing but layout and comments, so one of them numbers
the lines in another way and that is all. What is found in the one is found in the other, at the line that holds
the same code.
-/

namespace LessonCheck

namespace CodeLine

/-- Lines with the same texts have each other's numbers put in their place, if no number stands twice. -/
theorem exists_renumber {ls ms : List CodeLine} (hText : ls.map text = ms.map text)
    (hNumber : ls.Pairwise fun l m => l.number < m.number) : ∃ f, ms = ls.map (renumber f) := by
  induction ls generalizing ms with
  | nil => exact ⟨id, List.map_eq_nil_iff.mp hText.symm⟩
  | cons l ls ih =>
    obtain ⟨hFirst, hRest⟩ := List.pairwise_cons.mp hNumber
    obtain ⟨m, ms', rfl, hEq, hTexts⟩ := List.map_eq_cons_iff.mp hText.symm
    obtain ⟨f, rfl⟩ := ih hTexts.symm hRest
    refine ⟨Function.update f l.number m.number, ?_⟩
    have hHead : m = l.renumber (Function.update f l.number m.number) := by
      rw [renumber, Function.update_self, ← hEq]
    have hTail : ls.map (renumber f) = ls.map (renumber (Function.update f l.number m.number)) := by
      apply List.map_congr_left
      intro other hOther
      rw [renumber, renumber, Function.update_of_ne (Nat.ne_of_gt (hFirst other hOther))]
    rw [List.map_cons, ← hHead, ← hTail]

end CodeLine

/-- Both say the same, and they stand at the same code line, each at its number in its own source. -/
def SameFinding (source other : Text) (d e : Diagnostic) : Prop :=
  d.message = e.message ∧ ∃! k : Nat, ((CodeLine.ofSource source).map CodeLine.number)[k]? = some d.line ∧
    ((CodeLine.ofSource other).map CodeLine.number)[k]? = some e.line

theorem check_of_same_code (strictness : Strictness) {source other : Text}
    (h : (CodeLine.ofSource source).map CodeLine.text = (CodeLine.ofSource other).map CodeLine.text) :
    List.Forall₂ (SameFinding source other) (check strictness source).1 (check strictness other).1 ∧
      (check strictness source).2 = (check strictness other).2 := by
  have hNumber := CodeLine.pairwise_number_ofLines 1 source.physicalLines
  have hNodup : ((CodeLine.ofSource source).map CodeLine.number).Nodup := (List.pairwise_map.mpr hNumber).nodup
  obtain ⟨f, hCode⟩ := CodeLine.exists_renumber h hNumber
  rw [check_renumber f strictness hCode]
  refine ⟨?_, rfl⟩
  rw [List.forall₂_map_right_iff, List.forall₂_same]
  intro d hd
  obtain ⟨s, hStatement, hLine⟩ := Check.exists_statement_of_mem_check hd
  obtain ⟨l, hMem, hLine'⟩ := LogicalStatement.exists_codeLine_of_mem_ofSource hStatement
  obtain ⟨k, hAt⟩ := List.getElem?_of_mem hMem
  have hHere : ((CodeLine.ofSource source).map CodeLine.number)[k]? = some d.line := by
    rw [List.getElem?_map, hAt, Option.map_some, hLine', hLine]
  have hThere : ((CodeLine.ofSource other).map CodeLine.number)[k]? = some (f d.line) := by
    rw [hCode, List.map_map, List.getElem?_map, hAt, Option.map_some, ← hLine, ← hLine']
    rfl
  refine ⟨rfl, k, ⟨hHere, hThere⟩, ?_⟩
  rintro j ⟨hOther, -⟩
  have hLength := (List.getElem?_eq_some_iff.mp hOther).1
  exact (List.getElem?_inj hLength hNodup).mp (hOther.trans hHere.symm)

/-- A greeting that prints a hash sign and a name which is never declared. -/
def greeting : Text := "CHATIMPU(\"#\");\nCHATIMPU(name);".toList

/-- The greeting with blanks, comments, blank lines and carriage returns around its code. -/
def greetingRelaid : Text :=
  "# a greeting\r\n  CHATIMPU(\"#\"); # its sign\r\n\t\r\n CHATIMPU(name); \r\n".toList

theorem check_greeting_relaid :
    (CodeLine.ofSource greeting).map CodeLine.text = (CodeLine.ofSource greetingRelaid).map CodeLine.text ∧
      List.Forall₂ (SameFinding greeting greetingRelaid)
        [⟨2, "Undeclared variable 'name' in print.".toList⟩]
        [⟨4, "Undeclared variable 'name' in print.".toList⟩] ∧
      (check .strict greeting).2 = (check .strict greetingRelaid).2 := by
  have hCode : (CodeLine.ofSource greeting).map CodeLine.text =
      (CodeLine.ofSource greetingRelaid).map CodeLine.text := by decide +kernel
  have hBare : (check .strict greeting).1 = [⟨2, "Undeclared variable 'name' in print.".toList⟩] := by
    decide +kernel
  have hRelaid : (check .strict greetingRelaid).1 = [⟨4, "Undeclared variable 'name' in print.".toList⟩] := by
    decide +kernel
  rw [← hBare, ← hRelaid]
  exact ⟨hCode, check_of_same_code .strict hCode⟩

end LessonCheck
