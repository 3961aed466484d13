import LessonCheck.Proofs.Bindings
import LessonCheck.Proofs.Blocks
import LessonCheck.Proofs.Statement
import Mathlib.Data.List.Induction
import Mathlib.Data.List.Nodup

/-!
# What an empty list of diagnostics vouches for

A run without findings enters no body of a rejected loop, since the rejection itself is a finding that is
never withheld. So at each of its steps nothing at all is wrong with the fragment against the table of the
steps before it. From there every promise of the verdict is read off one form at a time, and the brackets are
balanced because the stack follows them.
-/

namespace LessonCheck

namespace Check
namespace State

variable {rules : Rules} {s : State}

/-- A run without findings that starts outside unbound bodies stays outside, and nothing is wrong with any of
its fragments. -/
theorem quiet_run {front back : List Step} {step : Step} (hBound : s.blocks.unbound = 0)
    (h : (s.run rules (front ++ step :: back)).1 = []) :
    (s.run rules front).2.blocks.unbound = 0 ∧
      defects rules.strictness (s.run rules front).2.symbols (s.run rules front).2.blocks.top?.isNone
        step.fragment = [] := by
  induction front generalizing s with
  | nil =>
    rw [List.nil_append, run_cons_fst, List.append_eq_nil_iff] at h
    exact ⟨hBound, (findings_eq_nil_iff hBound).mp h.1⟩
  | cons first front ih =>
    rw [List.cons_append, run_cons_fst, List.append_eq_nil_iff] at h
    have hFirst := (findings_eq_nil_iff hBound).mp h.1
    exact ih (unbound_next hBound (accepts_of_defects hFirst)) h.2

theorem depthAfter_brackets {step : Step}
    (h : defects rules.strictness s.symbols s.blocks.top?.isNone step.fragment = []) :
    Bracket.depthAfter s.blocks.depth step.fragment.brackets = some (s.next rules step).blocks.depth := by
  have hOpen : s.blocks.depth ≠ 0 ∨ closes step.fragment.form = false := by
    obtain ⟨line, t, form⟩ := step
    cases form with
    | closer rest =>
      left
      intro hEmpty
      rw [BlockStack.isNone_top?, hEmpty] at h
      simp [defects] at h
    | _ => exact .inr rfl
  rw [depth_next, Fragment.brackets]
  rcases hOpen with hDepth | hCloses
  · obtain ⟨d, hDepth⟩ := Nat.exists_eq_succ_of_ne_zero hDepth
    rw [hDepth]
    cases closes step.fragment.form <;> cases step.fragment.opens <;> rfl
  · rw [hCloses]
    cases step.fragment.opens <;> rfl

theorem depthAfter_run {run : List Step} (hBound : s.blocks.unbound = 0) (h : (s.run rules run).1 = []) :
    Bracket.depthAfter s.blocks.depth (run.flatMap fun step => step.fragment.brackets) =
      some (s.run rules run).2.blocks.depth := by
  induction run generalizing s with
  | nil => rfl
  | cons step rest ih =>
    rw [run_cons_fst, List.append_eq_nil_iff] at h
    have hStep := (findings_eq_nil_iff hBound).mp h.1
    have hRest := ih (unbound_next hBound (accepts_of_defects hStep)) h.2
    rw [List.flatMap_cons, Bracket.depthAfter_append, depthAfter_brackets hStep, Option.bind_some, hRest,
      run_cons_snd]

end State

/-- The brackets of a statement: one closing for each closer in it, then one opening if its text ends with an
opening bracket. -/
def bracketsOf (s : LogicalStatement) : List Bracket :=
  ((Fragment.ofStatement s.text).filter fun f => State.closes f.form).map (fun _ => .closing) ++
    if endsWith '[' s.text then [.opening] else []

theorem flatMap_brackets_steps (source : Text) :
    (steps source).flatMap (fun step => step.fragment.brackets) =
      (LogicalStatement.ofSource source).flatMap bracketsOf := by
  rw [steps, List.flatMap_assoc]
  apply List.flatMap_congr
  intro s hs
  have hFramed := LogicalStatement.framed_of_mem_ofSource hs
  rw [stepsOf, List.flatMap_map, bracketsOf, Fragment.ofStatement, Text.trim_of_framed hFramed]
  exact Fragment.brackets_chain hFramed

def declaredName : Form → Option Text
  | .declaration name _ _ => some name
  | _ => none

def declaredNames (run : List Step) : List Text := run.filterMap fun step => declaredName step.fragment.form

/-- Some step of the run is a declaration of the name or an accepted loop header over it. -/
def Introduces (run : List Step) (name : Text) : Prop :=
  ∃ step ∈ run, declaredName step.fragment.form = some name ∨
    ∃ header, step.fragment.form = .loopHeader header ∧ LoopHeader.counter? header = some name

/-- What is promised of a program without diagnostics. -/
structure Sound (source : Text) : Prop where
  recognised : ∀ step ∈ steps source, step.fragment.form ≠ .unknown ∧
    step.fragment.form ≠ .unterminatedDeclaration ∧ step.fragment.form ≠ .elseSemicolon ∧
    ∀ header, step.fragment.form = .loopHeader header → ∃ name, LoopHeader.counter? header = some name
  balanced : Bracket.Balanced ((LogicalStatement.ofSource source).flatMap bracketsOf)
  distinct : (declaredNames (steps source)).Nodup
  declared : ∀ front step back name type value, steps source = front ++ step :: back →
    step.fragment.form = .declaration name type value →
      Word.isReserved name = false ∧
      (∀ earlier ∈ front, ∀ header, earlier.fragment.form = .loopHeader header →
        LoopHeader.counter? header ≠ some name) ∧
      ∀ literal, value = some literal → type.acceptsLiteral literal = true
  assigned : ∀ front step back target expr, steps source = front ++ step :: back →
    step.fragment.form = .assignment target expr → Introduces front target
  used : ∀ front step back kind arg, steps source = front ++ step :: back →
    step.fragment.form = .io kind arg → Word.isStringLiteral arg = true ∨ Introduces front arg

theorem introduces_of_contains {rules : Rules} {front : List Step} {name : Text}
    (h : (State.start.run rules front).2.symbols.contains name = true) : Introduces front name := by
  rcases (State.contains_run_iff rules State.start front name).mp h with hStart | ⟨step, hStep, hBinds⟩
  · cases hStart
  · refine ⟨step, hStep, ?_⟩
    unfold binds at hBinds
    split at hBinds
    · next hForm =>
      obtain ⟨-, hName⟩ := Option.ite_none_left_eq_some.mp hBinds
      exact .inl (by rw [hForm, declaredName, hName])
    · next header hForm => exact .inr ⟨header, hForm, hBinds⟩
    · cases hBinds

theorem judge_of_defects {symbols : SymbolTable} {name : Text} {type : ValueType} {value : Option Text}
    (h : declarationDefects symbols name type value = []) :
    Word.isReserved name = false ∧ symbols.contains name = false ∧
      ∀ literal, value = some literal → type.acceptsLiteral literal = true := by
  unfold declarationDefects SymbolTable.judge at h
  split at h
  · cases h
  · cases h
  · next hJudge =>
    split at hJudge
    · cases hJudge
    · next hReserved =>
      split at hJudge
      · cases hJudge
      · next hContains =>
        refine ⟨Bool.eq_false_iff.mpr hReserved, Bool.eq_false_iff.mpr hContains, ?_⟩
        rintro literal rfl
        split at h
        · next hLiteral => exact hLiteral
        · cases h

theorem form_of_declaredName {form : Form} {name : Text} (h : declaredName form = some name) :
    ∃ type value, form = .declaration name type value := by
  cases form with
  | declaration declared type value =>
    obtain rfl := Option.some.inj h
    exact ⟨type, value, rfl⟩
  | _ => cases h

theorem nodup_declaredNames {run : List Step} (h : ∀ front step back name, run = front ++ step :: back →
    declaredName step.fragment.form = some name → name ∉ declaredNames front) :
    (declaredNames run).Nodup := by
  -- From the back: the hypothesis compares the last declaration with all those before it.
  induction run using List.reverseRecOn with
  | nil => exact List.nodup_nil
  | append_singleton front step ih =>
    have hFront : (declaredNames front).Nodup := by
      apply ih
      intro front' step' back name hEq hName
      apply h front' step' (back ++ [step]) name _ hName
      rw [hEq, List.append_assoc, List.cons_append]
    rw [declaredNames, List.filterMap_append, ← declaredNames]
    cases hName : declaredName step.fragment.form with
    | none => simpa [hName] using hFront
    | some name =>
      have hFresh := h front step [] name rfl hName
      have hLast : [step].filterMap (fun step => declaredName step.fragment.form) = [name] := by simp [hName]
      rw [hLast, ← List.concat_eq_append, List.nodup_concat]
      exact ⟨hFresh, hFront⟩

/-- A program without diagnostics is sound: all its fragments are recognised, its brackets are balanced, its
declarations are fresh and well-typed, and every name it uses was introduced before. -/
theorem sound_of_check_eq_nil {strictness : Strictness} {source : Text}
    (h : (check strictness source).1 = []) : Sound source := by
  obtain ⟨hFindings, hOpen⟩ := (State.check_fst_eq_nil_iff strictness source).mp h
  have hQuiet {front : List Step} {step : Step} {back : List Step}
      (hSteps : steps source = front ++ step :: back) :
      defects strictness (State.start.run (.ofStrictness strictness) front).2.symbols
        (State.start.run (.ofStrictness strictness) front).2.blocks.top?.isNone step.fragment = [] := by
    rw [hSteps] at hFindings
    exact (State.quiet_run rfl hFindings).2
  refine ⟨?recognised, ?balanced, ?distinct, ?declared, ?assigned, ?used⟩
  case recognised =>
    intro step hStep
    obtain ⟨front, back, hSteps⟩ := List.append_of_mem hStep
    have hDefects := hQuiet hSteps
    refine ⟨?_, ?_, ?_, ?_⟩
    · intro hForm
      rw [defects, hForm] at hDefects
      simp only at hDefects
      split at hDefects <;> cases hDefects
    · intro hForm
      rw [defects, hForm] at hDefects
      cases hDefects
    · intro hForm
      rw [defects, hForm] at hDefects
      cases hDefects
    · intro header hForm
      have hAccepts := State.accepts_of_defects hDefects
      rw [hForm] at hAccepts
      exact Option.isSome_iff_exists.mp hAccepts
  case balanced =>
    have hDepth := State.depthAfter_run rfl hFindings
    rw [flatMap_brackets_steps] at hDepth
    rw [Bracket.Balanced, show 0 = State.start.blocks.depth from rfl, hDepth, BlockStack.depth, hOpen]
    rfl
  case distinct =>
    apply nodup_declaredNames
    intro front step back name hSteps hName hEarlier
    obtain ⟨type, value, hForm⟩ := form_of_declaredName hName
    have hDefects := hQuiet hSteps
    rw [defects, hForm] at hDefects
    obtain ⟨hReserved, hContains, -⟩ := judge_of_defects hDefects
    obtain ⟨earlier, hMem, hDeclared⟩ := List.mem_filterMap.mp hEarlier
    obtain ⟨type', value', hForm'⟩ := form_of_declaredName hDeclared
    rw [(State.contains_run_iff ..).mpr (.inr ⟨earlier, hMem, by simp [binds, hForm', hReserved]⟩)] at hContains
    cases hContains
  case declared =>
    intro front step back name type value hSteps hForm
    have hDefects := hQuiet hSteps
    rw [defects, hForm] at hDefects
    obtain ⟨hReserved, hContains, hLiteral⟩ := judge_of_defects hDefects
    refine ⟨hReserved, ?_, hLiteral⟩
    intro earlier hMem header hHeader hCounter
    rw [(State.contains_run_iff ..).mpr (.inr ⟨earlier, hMem, by rw [hHeader]; exact hCounter⟩)] at hContains
    cases hContains
  case assigned =>
    intro front step back target expr hSteps hForm
    have hDefects := hQuiet hSteps
    rw [defects, hForm] at hDefects
    have hTarget : (State.start.run (.ofStrictness strictness) front).2.symbols.contains target = true := by
      rw [SymbolTable.contains, Option.isSome_iff_ne_none]
      intro hNone
      simp [assignmentDefects, hNone] at hDefects
    exact introduces_of_contains hTarget
  case used =>
    intro front step back kind arg hSteps hForm
    have hDefects := hQuiet hSteps
    rw [defects, hForm] at hDefects
    simp only [ioDefects] at hDefects
    split at hDefects
    · next hUse => exact (Bool.or_eq_true_iff.mp hUse).imp_right introduces_of_contains
    · cases hDefects

/-- A lesson with a declaration, a loop, both branches of a condition, an assignment and a print. -/
def lesson : Text :=
  ("PADAM s:VARTTAI; # greeting\nMALLI-MALLI (PADAM i:ANKHE = 1;\ni < 3; i = i + 1) [\nELAITHE (i == 2) [\n" ++
    "s = \"x\";\n] ALAITHE [\nCHATIMPU(i);\n]\n]").toList

theorem sound_lesson : (check .strict lesson).1 = [] ∧ Sound lesson := by
  have h : (check .strict lesson).1 = [] := by decide +kernel
  exact ⟨h, sound_of_check_eq_nil h⟩

end Check
end LessonCheck
