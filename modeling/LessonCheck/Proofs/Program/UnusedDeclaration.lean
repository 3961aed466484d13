import LessonCheck.Proofs.Frame
import LessonCheck.Proofs.Program.FirstLine
import LessonCheck.Proofs.Program.Judgement

/-!
# Declarations of names that a program does not use

A declaration in front of a program changes what the program is found to be only through its name. If the name is
not written anywhere in the program, no step of the program mentions it: every step finds the same as without the
declaration, and the table has the declared name at the end and is otherwise what it would have been.
-/

namespace LessonCheck.Program

open Check

/-- The line that declares the name without a value. -/
def declarationLine (x : Name) (type : ValueType) : Text :=
  Keyword.declare.text ++ ' ' :: (x.text ++ ':' :: (type.keyword.text ++ [';', '\n']))

section Declared

variable (x : Name) (type : ValueType)

theorem declarationLine_append (source : Text) :
    declarationLine x type ++ source = (Command.declare x type none).text ++ '\n' :: source := by
  simp [declarationLine, Command.text, Command.initializer]

theorem newline_notMem_declare : '\n' ∉ (Command.declare x type none).text := by
  have hKeyword : '\n' ∉ Keyword.declare.text := by decide
  have hName := Word.newline_notMem_of_isIdentifier x.isIdentifier
  have hType : '\n' ∉ type.keyword.text := by cases type <;> decide
  simp [Command.text, Command.initializer, hKeyword, hName, hType]

/-- The state in which the name is bound, and nothing else. -/
def declaredState : State := ⟨SymbolTable.empty.affirm x.text type, .empty⟩

theorem extends_declaredState : State.Extends x.text type State.start (declaredState x type) where
  blocks := rfl
  others other hne := by rw [declaredState, SymbolTable.get?_affirm, if_neg hne]; rfl
  bound := by rw [declaredState, SymbolTable.get?_affirm, if_pos rfl]

variable {x type}

/-- As the first step of a program the declaration finds nothing and binds its name. -/
theorem start_declared {step : Step} (h : step.fragment.form = (Command.declare x type none).form) (rules : Rules) :
    State.start.findings rules step = [] ∧ State.start.next rules step = declaredState x type := by
  obtain ⟨line, t, form⟩ := step
  obtain rfl : form = .declaration x.text type none := h
  have hEmpty : Agrees .empty fun _ => none := fun _ => rfl
  have hFresh : SymbolTable.empty.judge x.text = .inserted := judge_fresh hEmpty rfl
  constructor
  · have hDefects := @declarationDefects_eq_nil .empty _ hEmpty x type none rfl nofun
    rwa [State.findings_eq_nil_iff rfl]
  · have hTable : SymbolTable.empty.declare x.text type = SymbolTable.empty.affirm x.text type := by
      rw [SymbolTable.declare, hFresh]
    simp only [State.next, State.bound, State.start, hTable]
    rfl

end Declared

/-- A declaration of a name that is not written in the program behind it moves what is found in the program one line
down, and adds its own entry to the table. -/
theorem check_unused_declaration (strictness : Strictness) {x : Name} {source : Text} (h : ¬x.text <:+: source)
    (type : ValueType) :
    (check strictness (declarationLine x type ++ source)).1 =
        (check strictness source).1.map (Diagnostic.renumber (· + 1)) ∧
      (check strictness (declarationLine x type ++ source)).2.entries.Perm
        ((x.text, type) :: (check strictness source).2.entries) := by
  have hMentions : ∀ step ∈ steps source, ¬step.fragment.form.Mentions x.text :=
    fun _ => not_mentions_of_mem_steps x.isIdentifier h
  obtain ⟨step, hForm, hSteps⟩ := steps_command_append (newline_notMem_declare x type) rfl source
  obtain ⟨hFindings, hNext⟩ := start_declared hForm (.ofStrictness strictness)
  have hExtends := extends_declaredState x type
  rw [declarationLine_append, check_of_quiet_step hSteps hFindings hNext rfl, State.check_eq_outcome]
  constructor
  · have hSame := hExtends.findings_outcome x.isIdentifier hMentions (.ofStrictness strictness)
    simp only [Outcome.diagnostics, hSame]
  · exact hExtends.perm_entries_outcome x.isIdentifier rfl hMentions (.ofStrictness strictness)

/-- A spare integer in front of a program that declares another variable and assigns to an undeclared one. -/
theorem check_spare_declaration :
    ¬"spare".toList <:+: "PADAM a:ANKHE = 1;\nb = 2;".toList ∧
      (check .strict "PADAM spare:ANKHE;\nPADAM a:ANKHE = 1;\nb = 2;".toList).1 =
        (check .strict "PADAM a:ANKHE = 1;\nb = 2;".toList).1.map (Diagnostic.renumber (· + 1)) ∧
      (check .strict "PADAM spare:ANKHE;\nPADAM a:ANKHE = 1;\nb = 2;".toList).2.entries.Perm
        (("spare".toList, .integer) :: (check .strict "PADAM a:ANKHE = 1;\nb = 2;".toList).2.entries) := by
  have hAbsent : ¬"spare".toList <:+: "PADAM a:ANKHE = 1;\nb = 2;".toList := by decide
  exact ⟨hAbsent, check_unused_declaration .strict (x := ⟨"spare".toList, by decide, by decide⟩) hAbsent .integer⟩

end LessonCheck.Program
