import LessonCheck.Proofs.Findings
import LessonCheck.Proofs.Openers

/-!
# Withholding

In the body of a rejected loop the defects that come from unknown names are withheld. Measured against the
run that marks no rejected loop this is a filter and nothing else: both runs end with the same variables and
have blocks open at the same lines, and the findings of the one are those of the other without the failed
lookups made while a block of a rejected loop was open. The rejected header itself is always reported, so
withholding leaves no program without a finding that has one.
-/

namespace LessonCheck

open Check

namespace Check

/-- The rules that mark no rejected loop. -/
def Rules.unmarked (s : Strictness) : Rules := ⟨s, false⟩

/-! ## Failed lookups -/

/-- The defects of a form that come from a name which is not in the table. -/
inductive FailedLookup (symbols : SymbolTable) : Form → Defect → Prop
  | target {target expr : Text} (hTarget : symbols.get? target = none) :
      FailedLookup symbols (.assignment target expr) (.undeclared target)
  | operand {target expr name : Text} {e : Arithmetic.Expression}
      (hTarget : symbols.get? target = some .integer)
      (hExpr : Arithmetic.Expression.ofText (Text.trim expr) = .ok e) (hName : name ∈ e.names)
      (hUnknown : symbols.get? name = none) :
      FailedLookup symbols (.assignment target expr) (.undeclared name)
  | mismatch {target expr : Text} {type : ValueType} (hTarget : symbols.get? target = some type)
      (hUnknown : symbols.get? (Text.trim expr) = none) :
      FailedLookup symbols (.assignment target expr) (.typeMismatch Defect.undeclaredVariable type target)
  | argument {kind : IoKind} {arg : Text} (hUnknown : symbols.get? arg = none) :
      FailedLookup symbols (.io kind arg) (.undeclaredIn arg kind.context)
  | condition {condition : Text} {c : Comparison} {d : Defect} (hDefect : d.isCondition = true)
      (hRead : Comparison.ofText? (Text.collapseBlanks condition) = some c)
      (hUnknown : symbols.get? c.name = none ∨
        Word.isIdentifier c.value = true ∧ symbols.get? c.value = none) :
      FailedLookup symbols (.ifHeader condition) d

section Lookups

variable {symbols : SymbolTable} {d : Defect}

theorem get?_of_contains {name : Text} (h : symbols.contains name = false) : symbols.get? name = none :=
  Option.isSome_eq_false_iff.mp h |> Option.isNone_iff_eq_none.mp

theorem operands_of_verdict {expr : Text} {type : ValueType} {names : List Text}
    (h : verdict symbols expr type = .undeclared names) : type = .integer ∧
      ∃ e, Arithmetic.Expression.ofText expr = .ok e ∧
        ∀ name ∈ names, name ∈ e.names ∧ symbols.get? name = none := by
  cases type with
  | string =>
    simp only [verdict, stringVerdict] at h
    split at h <;> cases h
  | integer =>
    refine ⟨rfl, ?_⟩
    simp only [verdict, integerVerdict] at h
    split at h
    · cases h
    · split at h
      · split at h <;> cases h
      · split at h
        · cases h
        · split at h
          · next e hExpr =>
            refine ⟨e, hExpr, ?_⟩
            unfold expressionVerdict at h
            split at h
            · next first rest hNames =>
              obtain rfl := Verdict.undeclared.inj h
              intro name hName
              rw [← hNames] at hName
              obtain ⟨hMem, hUnknown⟩ := List.mem_filter.mp hName
              exact ⟨hMem, get?_of_contains (by simpa using hUnknown)⟩
            · split at h
              · split at h <;> cases h
              · cases h
          · cases h

theorem text_eq_undeclaredVariable_iff (shape : Shape) :
    shape.text = Defect.undeclaredVariable ↔ shape = .undeclaredVariable := by
  constructor
  · intro h
    -- No other description is as long.
    have hLength : shape.text.length = 19 := congrArg List.length h
    cases shape with
    | undeclaredVariable => rfl
    | _ => cases hLength
  · rintro rfl
    rfl

theorem get?_of_shape {expr : Text} (h : Shape.ofExpr symbols expr = .undeclaredVariable) :
    symbols.get? expr = none := by
  unfold Shape.ofExpr at h
  grind

theorem isLookup_assignment {target expr : Text} (h : d ∈ assignmentDefects symbols target expr) :
    d.isLookup = true ↔ FailedLookup symbols (.assignment target expr) d := by
  unfold assignmentDefects at h
  split at h
  · next hTarget =>
    obtain rfl := List.mem_singleton.mp h
    exact iff_of_true rfl (.target hTarget)
  · next type hTarget =>
    split at h
    · cases h
    · next names hVerdict =>
      obtain ⟨rfl, e, hExpr, hNames⟩ := operands_of_verdict hVerdict
      obtain ⟨name, hName, rfl⟩ := List.mem_map.mp h
      obtain ⟨hOperand, hUnknown⟩ := hNames name hName
      exact iff_of_true rfl (.operand hTarget hExpr hOperand hUnknown)
    · obtain rfl := List.mem_singleton.mp h
      rw [Defect.isLookup, beq_iff_eq, text_eq_undeclaredVariable_iff]
      constructor
      · intro hShape
        rw [hShape]
        exact .mismatch hTarget (get?_of_shape hShape)
      · intro hFailed
        rw [← text_eq_undeclaredVariable_iff]
        -- No constructor matches the text of a shape, but one matches any description.
        generalize (Shape.ofExpr symbols (Text.trim expr)).text = description at hFailed
        cases hFailed
        rfl

theorem isLookup_io {kind : IoKind} {arg : Text} (h : d ∈ ioDefects symbols kind arg) :
    d.isLookup = true ↔ FailedLookup symbols (.io kind arg) d := by
  unfold ioDefects at h
  split at h
  · cases h
  · next hUnknown =>
    rw [Bool.or_eq_true, not_or] at hUnknown
    obtain rfl := List.mem_singleton.mp h
    exact iff_of_true rfl (.argument (get?_of_contains (Bool.eq_false_iff.mpr hUnknown.2)))

theorem isLookup_condition {condition : Text} (h : d ∈ conditionDefects symbols condition) :
    d.isLookup = true ↔ FailedLookup symbols (.ifHeader condition) d := by
  unfold conditionDefects at h
  split at h
  · next hRead =>
    obtain rfl := List.mem_singleton.mp h
    refine iff_of_false (by decide) ?_
    rintro ⟨⟩
    simp_all
  · next c hRead =>
    split at h
    · next hName =>
      obtain rfl := List.mem_singleton.mp h
      exact iff_of_true rfl (.condition rfl hRead (.inl hName))
    · next type hName =>
      split at h
      · next hValue =>
        obtain rfl := List.mem_singleton.mp h
        rw [Bool.and_eq_true, Bool.not_eq_true'] at hValue
        exact iff_of_true rfl (.condition rfl hRead (.inr ⟨hValue.1, get?_of_contains hValue.2⟩))
      · next hValue =>
        split at h
        · cases h
        · obtain rfl := List.mem_singleton.mp h
          refine iff_of_false (by decide) ?_
          intro hFailed
          cases hFailed
          simp_all [SymbolTable.contains]

/-- The lookup defects of a fragment are those that come from a name which is not in the table. -/
theorem isLookup_iff_failedLookup {strictness : Strictness} {nothingOpen : Bool} {f : Fragment}
    (h : d ∈ defects strictness symbols nothingOpen f) :
    d.isLookup = true ↔ FailedLookup symbols f.form d := by
  have hConcerns := concerns_of_mem_defects h
  obtain ⟨t, form⟩ := f
  cases form with
  | assignment target expr => exact isLookup_assignment h
  | io kind arg => exact isLookup_io h
  | ifHeader condition =>
    simp only [defects] at h
    split at h
    · exact isLookup_condition h
    · cases h
  | _ =>
    refine iff_of_false ?_ ?_
    · cases d with
      | undeclared | undeclaredIn | unresolvedCondition | typeMismatch => cases hConcerns
      | _ => exact Bool.false_ne_true
    · intro hFailed
      cases hFailed

end Lookups

/-! ## Findings and where they are made -/

/-- A finding with the steps in front of the place where it is made. -/
structure Located where
  front : List Step
  finding : Finding
  deriving DecidableEq

/-- The findings of a list of steps behind others. -/
def located (rules : Rules) (front : List Step) : List Step → List Located
  | [] => []
  | step :: rest =>
    ((State.start.run rules front).2.findings rules step).map (⟨front, ·⟩) ++
      located rules (front ++ [step]) rest

/-- All findings of a program in their order; blocks left open are found behind its last step. -/
def Located.ofProgram (rules : Rules) (source : Text) : List Located :=
  located rules [] (steps source) ++
    (State.start.run rules (steps source)).2.unclosed.map (⟨steps source, ·⟩)

/-- Whether the finding is a failed lookup made while a block of a rejected loop is open. -/
def Located.isWithheld (l : Located) : Bool := l.finding.defect.isLookup && inRejectedBody l.front

section Runs

variable {rules : Rules} {strictness : Strictness}

theorem run_snoc (rules : Rules) (front : List Step) (step : Step) :
    (State.start.run rules (front ++ [step])).2 = (State.start.run rules front).2.next rules step := by
  rw [State.run_append]
  rfl

theorem map_finding_located (rules : Rules) (front back : List Step) :
    (located rules front back).map Located.finding = ((State.start.run rules front).2.run rules back).1 := by
  induction back generalizing front with
  | nil => rfl
  | cons step rest ih =>
    rw [located, List.map_append, List.map_map, ih, run_snoc, State.run_cons_fst]
    congr 1
    exact List.map_id _

theorem map_finding_ofProgram (rules : Rules) (source : Text) :
    (Located.ofProgram rules source).map Located.finding = (program rules source).findings := by
  rw [Located.ofProgram, List.map_append, map_finding_located, List.map_map]
  congr 1
  exact List.map_id _

theorem exists_step_of_mem_located {front back : List Step} {l : Located} (h : l ∈ located rules front back) :
    ∃ mid step rest, back = mid ++ step :: rest ∧ l.front = front ++ mid ∧
      l.finding.defect ∈ (State.start.run rules l.front).2.reported rules step.fragment := by
  induction back generalizing front with
  | nil => cases h
  | cons step rest ih =>
    rcases List.mem_append.mp h with hStep | hRest
    · obtain ⟨finding, hFinding, rfl⟩ := List.mem_map.mp hStep
      obtain ⟨d, hDefect, rfl⟩ := List.mem_map.mp hFinding
      exact ⟨[], step, rest, rfl, (List.append_nil front).symm, hDefect⟩
    · obtain ⟨mid, later, rest', rfl, hFront, hDefect⟩ := ih hRest
      refine ⟨step :: mid, later, rest', rfl, ?_, hDefect⟩
      rw [hFront, List.append_assoc, List.singleton_append]

/-! ## The filter -/

/-- A step reports under marking what it reports without, but for its failed lookups in a rejected body. -/
theorem reported_marked (strictness : Strictness) (front : List Step) (f : Fragment) :
    (State.start.run (.ofStrictness strictness) front).2.reported (.ofStrictness strictness) f =
      ((State.start.run (.unmarked strictness) front).2.reported (.unmarked strictness) f).filter
        fun d => !(d.isLookup && inRejectedBody front) := by
  have hSymbols := State.symbols_run (.ofStrictness strictness) (.unmarked strictness)
    (rfl : State.start.symbols = State.start.symbols) front
  have hTop := State.isNone_top?_run (.ofStrictness strictness) (.unmarked strictness) front
  simp only [State.reported, State.inUnbound_run, hSymbols, hTop]
  simp only [Rules.ofStrictness, Rules.unmarked, Bool.true_and, Bool.false_and]
  cases inRejectedBody front with
  | false =>
    symm
    apply List.filter_eq_self.mpr
    intro d _
    rw [Bool.and_false]
    rfl
  | true => simp only [Bool.and_true, if_true, Bool.false_eq_true, if_false]

theorem located_marked (strictness : Strictness) (front back : List Step) :
    located (.ofStrictness strictness) front back =
      (located (.unmarked strictness) front back).filter fun l => !l.isWithheld := by
  induction back generalizing front with
  | nil => rfl
  | cons step rest ih =>
    rw [located, located, List.filter_append, ih, State.findings, State.findings, reported_marked]
    simp only [List.filter_map, List.map_map]
    rfl

theorem unclosed_marked (strictness : Strictness) (run : List Step) :
    (State.start.run (.ofStrictness strictness) run).2.unclosed =
      (State.start.run (.unmarked strictness) run).2.unclosed := by
  have hPlaces := State.places_run (.ofStrictness strictness) (.unmarked strictness) run
  have hUnclosed (s : State) : s.unclosed =
      ((s.blocks.blocks.map fun b => (b.line, b.kind)).map
        fun place => (⟨place.1, .unclosedBlock⟩ : Finding)).reverse := by
    rw [List.map_map, ← List.map_reverse]
    rfl
  rw [hUnclosed, hUnclosed, hPlaces]

theorem ofProgram_marked (strictness : Strictness) (source : Text) :
    Located.ofProgram (.ofStrictness strictness) source =
      (Located.ofProgram (.unmarked strictness) source).filter fun l => !l.isWithheld := by
  rw [Located.ofProgram, Located.ofProgram, List.filter_append, located_marked, unclosed_marked]
  congr 1
  symm
  apply List.filter_eq_self.mpr
  intro l hLocated
  obtain ⟨f, hFinding, rfl⟩ := List.mem_map.mp hLocated
  rw [Located.isWithheld, State.defect_of_mem_unclosed hFinding]
  rfl

/-- Every rejected loop header is found. -/
theorem exists_invalidLoop (strictness : Strictness) (front : List Step) {back : List Step} {step : Step}
    (h : step ∈ back) (hRejected : accepts step.fragment.form = false) :
    ∃ l ∈ located (.unmarked strictness) front back, l.finding.defect = .invalidLoop := by
  induction back generalizing front with
  | nil => cases h
  | cons first rest ih =>
    rcases List.mem_cons.mp h with rfl | hRest
    · have hReported : (State.start.run (.unmarked strictness) front).2.reported (.unmarked strictness)
          step.fragment = [.invalidLoop] := by
        obtain ⟨line, t, form⟩ := step
        cases form with
        | loopHeader header =>
          rw [accepts] at hRejected
          simp only [State.reported, State.inUnbound_run, Rules.unmarked, Bool.false_and, defects, hRejected,
            Bool.false_eq_true, if_false]
        | _ => cases hRejected
      refine ⟨⟨front, step.line, .invalidLoop⟩, List.mem_append_left _ ?_, rfl⟩
      rw [State.findings, hReported]
      exact List.mem_singleton_self _
    · obtain ⟨l, hLocated, hDefect⟩ := ih (front ++ [first]) hRest
      exact ⟨l, List.mem_append_right _ hLocated, hDefect⟩

/-- If anything is withheld from a program, the header of the rejected loop is not. -/
theorem exists_kept {source : Text} {l : Located} (h : l ∈ Located.ofProgram (.unmarked strictness) source) :
    ∃ kept ∈ Located.ofProgram (.unmarked strictness) source, kept.isWithheld = false := by
  cases hWithheld : l.isWithheld with
  | false => exact ⟨l, h, hWithheld⟩
  | true =>
    -- The header that opened the rejected body stands in front of the finding, and its own is no lookup.
    have hFront : ∀ step ∈ l.front, step ∈ steps source := by
      intro step hStep
      rcases List.mem_append.mp h with hLocated | hUnclosed
      · obtain ⟨mid, next, rest, hSteps, hEq, -⟩ := exists_step_of_mem_located hLocated
        rw [hEq] at hStep
        rw [hSteps]
        exact List.mem_append_left _ hStep
      · obtain ⟨f, -, rfl⟩ := List.mem_map.mp hUnclosed
        exact hStep
    obtain ⟨opener, hOpener, hRejected⟩ := List.any_eq_true.mp (Bool.and_eq_true_iff.mp hWithheld).2
    obtain ⟨kept, hKept, hDefect⟩ := exists_invalidLoop strictness []
      (hFront opener (mem_of_mem_openers hOpener)) (Bool.not_eq_true' _ |>.mp hRejected)
    refine ⟨kept, List.mem_append_left _ hKept, ?_⟩
    rw [Located.isWithheld, hDefect]
    rfl

/-- A finding has a lookup defect exactly if the lookup of a name fails at the step behind its place. -/
theorem isLookup_iff_of_mem_ofProgram {source : Text} {l : Located}
    (h : l ∈ Located.ofProgram rules source) : l.finding.defect.isLookup = true ↔
      ∃ step back, steps source = l.front ++ step :: back ∧
        FailedLookup (State.start.run rules l.front).2.symbols step.fragment.form l.finding.defect := by
  rcases List.mem_append.mp h with hLocated | hUnclosed
  · obtain ⟨mid, step, rest, hSteps, hFront, hReported⟩ := exists_step_of_mem_located hLocated
    rw [List.nil_append] at hFront
    rw [← hFront] at hSteps
    rw [isLookup_iff_failedLookup (State.mem_defects_of_mem_reported hReported)]
    constructor
    · intro hFailed
      exact ⟨step, rest, hSteps, hFailed⟩
    · rintro ⟨other, back, hOther, hFailed⟩
      rw [hSteps] at hOther
      obtain ⟨rfl, -⟩ := List.cons.inj (List.append_cancel_left hOther)
      exact hFailed
  · obtain ⟨f, hFinding, rfl⟩ := List.mem_map.mp hUnclosed
    rw [State.defect_of_mem_unclosed hFinding]
    refine iff_of_false Bool.false_ne_true ?_
    rintro ⟨step, back, hSteps, -⟩
    exact absurd (List.self_eq_append_right.mp hSteps) (List.cons_ne_nil step back)

end Runs

/-- What withholding does to a program: it filters the findings of the run that marks no rejected loop. The
steps that the filter asks about are those behind the open blocks, and its lookups are those that fail. -/
structure PureFilter (strictness : Strictness) (source : Text) : Prop where
  symbols : (check strictness source).2 = (program (.unmarked strictness) source).symbols
  places : ∀ n, (State.after (.ofStrictness strictness) source n).blocks.blocks.map (fun b => (b.line, b.kind)) =
    (State.after (.unmarked strictness) source n).blocks.blocks.map fun b => (b.line, b.kind)
  openers : ∀ n, State.OpenedBy (.unmarked strictness) (openers ((steps source).take n))
    (State.after (.unmarked strictness) source n)
  unmarked : (Located.ofProgram (.unmarked strictness) source).map (·.finding.diagnostic) =
    (program (.unmarked strictness) source).diagnostics
  filtered : (check strictness source).1 =
    ((Located.ofProgram (.unmarked strictness) source).filter
      fun l => !(l.finding.defect.isLookup && inRejectedBody l.front)).map (·.finding.diagnostic)
  lookup : ∀ l ∈ Located.ofProgram (.unmarked strictness) source, l.finding.defect.isLookup = true ↔
    ∃ step back, steps source = l.front ++ step :: back ∧
      FailedLookup (State.start.run (.unmarked strictness) l.front).2.symbols step.fragment.form l.finding.defect
  silent : (check strictness source).1 = [] ↔ (program (.unmarked strictness) source).diagnostics = []

theorem pureFilter (strictness : Strictness) (source : Text) : PureFilter strictness source := by
  have hDiagnostics (rules : Rules) : (Located.ofProgram rules source).map (·.finding.diagnostic) =
      (program rules source).diagnostics := by
    rw [Outcome.diagnostics, ← map_finding_ofProgram, List.map_map]
    rfl
  have hFiltered : (check strictness source).1 =
      ((Located.ofProgram (.unmarked strictness) source).filter fun l => !l.isWithheld).map
        (·.finding.diagnostic) := by
    rw [← ofProgram_marked, hDiagnostics]
    rfl
  refine ⟨?symbols, ?places, ?openers, hDiagnostics _, hFiltered, ?lookup, ?silent⟩
  case symbols => exact State.symbols_run _ _ rfl (steps source)
  case places =>
    intro n
    exact State.places_run _ _ ((steps source).take n)
  case openers =>
    intro n
    exact State.openedBy_openers _ ((steps source).take n)
  case lookup =>
    intro l hLocated
    exact isLookup_iff_of_mem_ofProgram hLocated
  case silent =>
    rw [hFiltered, ← hDiagnostics, List.map_eq_nil_iff, List.map_eq_nil_iff]
    constructor
    · intro hNone
      apply List.eq_nil_iff_forall_not_mem.mpr
      intro l hLocated
      obtain ⟨kept, hKept, hWithheld⟩ := exists_kept hLocated
      have hFilter := List.filter_eq_nil_iff.mp hNone kept hKept
      rw [hWithheld] at hFilter
      exact hFilter rfl
    · intro hNone
      rw [hNone]
      rfl

example : check .strict "MALLI-MALLI (i) [\ni = 1;\n]".toList =
      ([⟨1, "Invalid MALLI-MALLI syntax.".toList⟩], .empty) ∧
    (program (.unmarked .strict) "MALLI-MALLI (i) [\ni = 1;\n]".toList).diagnostics =
      [⟨1, "Invalid MALLI-MALLI syntax.".toList⟩, ⟨2, "Undeclared variable 'i'.".toList⟩] := by
  decide +kernel

end Check
end LessonCheck
