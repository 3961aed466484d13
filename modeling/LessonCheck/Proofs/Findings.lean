import LessonCheck.Check.Run

/-!
# What a finding is about

Each defect arises at one form of fragment only, and a block that is never closed at none: it is found at the
end of a program. Where a wording is quoted, the defects that bear it are told apart from all others by the
first words of their messages.
-/

namespace LessonCheck

namespace Defect

/-- Whether the defect is one of fragments of this form. -/
def concerns : Defect → Form → Bool
  | unmatchedCloser, .closer _ | closerElseSemicolon, .closer _ | closerSemicolonElse, .closer _ => true
  | reservedName _, .declaration .. | alreadyDeclared _, .declaration .. => true
  | invalidInitializer .., .declaration .. => true
  | declarationMissingSemicolon, .unterminatedDeclaration => true
  | undeclared _, .assignment .. | typeMismatch .., .assignment .. => true
  | undeclaredIn .., .io .. => true
  | invalidCondition, .ifHeader _ | unresolvedCondition, .ifHeader _ => true
  | elseSemicolon, .elseSemicolon => true
  | invalidLoop, .loopHeader _ => true
  | missingSemicolon, .unknown | unknownStatement, .unknown => true
  | _, _ => false

def isCondition : Defect → Bool
  | invalidCondition | unresolvedCondition => true
  | _ => false

theorem not_concerns_unclosedBlock (form : Form) : unclosedBlock.concerns form = false := rfl

theorem closes_of_concerns_unmatchedCloser {form : Form} (h : unmatchedCloser.concerns form = true) :
    Check.State.closes form = true := by
  cases form with
  | closer => rfl
  | _ => cases h

theorem concerns_ifHeader (d : Defect) (condition : Text) :
    d.concerns (.ifHeader condition) = d.isCondition := by
  cases d <;> rfl

theorem isCondition_eq_false_of_concerns {d : Defect} {form : Form} (h : d.concerns form = true)
    (hForm : ∀ condition, form ≠ .ifHeader condition) : d.isCondition = false := by
  cases d with
  | invalidCondition | unresolvedCondition =>
    cases form with
    | ifHeader condition => exact absurd rfl (hForm condition)
    | _ => cases h
  | _ => rfl

/-! ## Wordings -/

/-- The first and the ninth character of the message; no name in it starts before the tenth. -/
def signs : Defect → Char × Char
  | unmatchedCloser => ('U', 'd')
  | unclosedBlock => ('M', 'c')
  | reservedName _ | alreadyDeclared _ => ('V', ' ')
  | invalidInitializer _ .integer => ('I', 'i')
  | invalidInitializer _ .string => ('I', 's')
  | declarationMissingSemicolon | missingSemicolon => ('M', 's')
  | undeclared _ | undeclaredIn .. => ('U', 'e')
  | typeMismatch .. => ('T', 'm')
  | invalidCondition | unresolvedCondition => ('I', 'c')
  | elseSemicolon => ('I', 'A')
  | closerElseSemicolon | closerSemicolonElse => ('I', 's')
  | invalidLoop => ('I', 'M')
  | unknownStatement => ('U', 'o')

theorem signs_message (d : Defect) : (d.message.head?, d.message[8]?) = (some d.signs.1, some d.signs.2) := by
  cases d with
  | invalidInitializer name type => cases type <;> rfl
  | _ => rfl

theorem signs_eq_of_message_eq {d e : Defect} (h : d.message = e.message) : d.signs = e.signs := by
  have hSigns := signs_message d
  rw [h, signs_message] at hSigns
  injection hSigns with hFirst hNinth
  exact (Prod.ext (Option.some.inj hFirst) (Option.some.inj hNinth)).symm

theorem message_eq_iff {e : Defect} (h : ∀ d : Defect, d.signs = e.signs → d = e) (d : Defect) :
    d.message = e.message ↔ d = e := by
  constructor
  · intro hMessage
    exact h d (signs_eq_of_message_eq hMessage)
  · rintro rfl
    rfl

theorem message_eq_condition_iff (d : Defect) :
    d.message = "Invalid condition in ELAITHE.".toList ↔ d.isCondition = true := by
  constructor
  · intro h
    have hSigns : d.signs = invalidCondition.signs := signs_eq_of_message_eq h
    cases d with
    | invalidCondition | unresolvedCondition => rfl
    | invalidInitializer name type => cases type <;> cases hSigns
    | _ => cases hSigns
  · intro h
    cases d with
    | invalidCondition | unresolvedCondition => rfl
    | _ => cases h

theorem message_eq_unmatched_iff (d : Defect) :
    d.message = "Unmatched closing bracket ']'".toList ↔ d = .unmatchedCloser := by
  apply message_eq_iff (e := .unmatchedCloser)
  intro d hSigns
  cases d with
  | unmatchedCloser => rfl
  | invalidInitializer name type => cases type <;> cases hSigns
  | _ => cases hSigns

theorem message_eq_unclosed_iff (d : Defect) :
    d.message = "Missing closing ']' for block opened here.".toList ↔ d = .unclosedBlock := by
  apply message_eq_iff (e := .unclosedBlock)
  intro d hSigns
  cases d with
  | unclosedBlock => rfl
  | invalidInitializer name type => cases type <;> cases hSigns
  | _ => cases hSigns

end Defect

namespace Check

open Defect

theorem concerns_of_mem_singleton {d e : Defect} {form : Form} (h : d ∈ [e])
    (hForm : e.concerns form = true) : d.concerns form = true := by
  rwa [List.mem_singleton.mp h]

theorem isCondition_of_mem_conditionDefects {d : Defect} {symbols : SymbolTable} {condition : Text}
    (h : d ∈ conditionDefects symbols condition) : d.isCondition = true := by
  have hNames : d ∈ [invalidCondition] ∨ d ∈ [unresolvedCondition] := by
    unfold conditionDefects at h
    grind
  rcases hNames with hName | hName <;> rw [List.mem_singleton.mp hName] <;> rfl

/-- A defect of a fragment is one of its form. -/
theorem concerns_of_mem_defects {strictness : Strictness} {symbols : SymbolTable} {nothingOpen : Bool}
    {f : Fragment} {d : Defect} (h : d ∈ defects strictness symbols nothingOpen f) :
    d.concerns f.form = true := by
  obtain ⟨t, form⟩ := f
  unfold defects at h
  cases form with
  | closer rest =>
    simp only at h
    rcases List.mem_append.mp h with hCloser | hNext
    · split at hCloser
      · exact concerns_of_mem_singleton hCloser rfl
      · cases hCloser
    · unfold continuationDefects at hNext
      split at hNext
      · exact concerns_of_mem_singleton hNext rfl
      · exact concerns_of_mem_singleton hNext rfl
      all_goals cases hNext
  | declaration name type value =>
    simp only [declarationDefects] at h
    split at h
    · exact concerns_of_mem_singleton h rfl
    · exact concerns_of_mem_singleton h rfl
    · split at h
      · cases h
      · exact concerns_of_mem_singleton h rfl
  | assignment target expr =>
    simp only [assignmentDefects] at h
    split at h
    · exact concerns_of_mem_singleton h rfl
    · split at h
      · cases h
      · obtain ⟨name, -, rfl⟩ := List.mem_map.mp h
        rfl
      · exact concerns_of_mem_singleton h rfl
  | io kind arg =>
    simp only [ioDefects] at h
    split at h
    · cases h
    · exact concerns_of_mem_singleton h rfl
  | ifHeader condition =>
    rw [concerns_ifHeader]
    simp only at h
    split at h
    · exact isCondition_of_mem_conditionDefects h
    · cases h
  | loopHeader header =>
    simp only at h
    split at h
    · cases h
    · exact concerns_of_mem_singleton h rfl
  | unterminatedDeclaration | elseSemicolon => exact concerns_of_mem_singleton h rfl
  | elseHeader => cases h
  | unknown =>
    simp only at h
    split at h
    · exact concerns_of_mem_singleton h rfl
    · exact concerns_of_mem_singleton h rfl

namespace State

theorem mem_defects_of_mem_reported {s : State} {rules : Rules} {f : Fragment} {d : Defect}
    (h : d ∈ s.reported rules f) : d ∈ defects rules.strictness s.symbols s.blocks.top?.isNone f := by
  simp only [reported] at h
  split at h
  · exact (List.mem_filter.mp h).1
  · exact h

theorem defect_of_mem_unclosed {s : State} {f : Finding} (h : f ∈ s.unclosed) :
    f.defect = .unclosedBlock := by
  obtain ⟨b, -, rfl⟩ := List.mem_map.mp h
  rfl

/-- Whatever a run finds is a defect of one of its steps, against some table, and bears its line. -/
theorem exists_defects_of_mem_run {s : State} {rules : Rules} {run : List Step} {f : Finding}
    (h : f ∈ (s.run rules run).1) :
    ∃ step ∈ run, f.line = step.line ∧ ∃ symbols nothingOpen,
      f.defect ∈ defects rules.strictness symbols nothingOpen step.fragment := by
  induction run generalizing s with
  | nil => cases h
  | cons step rest ih =>
    rcases List.mem_append.mp h with hStep | hRest
    · obtain ⟨d, hDefect, rfl⟩ := List.mem_map.mp hStep
      exact ⟨step, List.mem_cons_self, rfl, _, _, mem_defects_of_mem_reported hDefect⟩
    · obtain ⟨later, hLater, hFound⟩ := ih hRest
      exact ⟨later, List.mem_cons_of_mem step hLater, hFound⟩

theorem exists_step_of_mem_run {s : State} {rules : Rules} {run : List Step} {f : Finding}
    (h : f ∈ (s.run rules run).1) :
    ∃ step ∈ run, f.line = step.line ∧ f.defect.concerns step.fragment.form = true := by
  obtain ⟨step, hStep, hLine, _, _, hDefect⟩ := exists_defects_of_mem_run h
  exact ⟨step, hStep, hLine, concerns_of_mem_defects hDefect⟩

/-- A block that is never closed is found by no step. -/
theorem defect_ne_of_mem_run {s : State} {rules : Rules} {run : List Step} {f : Finding}
    (h : f ∈ (s.run rules run).1) : f.defect ≠ .unclosedBlock := by
  obtain ⟨step, -, -, hConcerns⟩ := exists_step_of_mem_run h
  intro hUnclosed
  rw [hUnclosed, not_concerns_unclosedBlock] at hConcerns
  cases hConcerns

theorem message_ne_of_mem_run {s : State} {rules : Rules} {run : List Step} {f : Finding}
    (h : f ∈ (s.run rules run).1) : f.defect.message ≠ "Missing closing ']' for block opened here.".toList := by
  rw [Ne, message_eq_unclosed_iff]
  exact defect_ne_of_mem_run h

theorem message_of_mem_unclosed {s : State} {f : Finding} (h : f ∈ s.unclosed) :
    f.defect.message = "Missing closing ']' for block opened here.".toList :=
  congrArg Defect.message (defect_of_mem_unclosed h)

end State
end Check
end LessonCheck
