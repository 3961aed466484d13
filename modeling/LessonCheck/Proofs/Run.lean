import LessonCheck.Check.Run

/-!
# Runs step by step

A run over two lists of steps is a run over the first and then over the second, so the state before any step
is the state after the steps in front of it. Outside unbound bodies a step reports all that is wrong with its
fragment.
-/

namespace LessonCheck.Check.State

/-- The state of the run over the source after its first `n` steps. -/
def after (rules : Rules) (source : Text) (n : Nat) : State :=
  (start.run rules ((steps source).take n)).2

theorem run_append (rules : Rules) (s : State) (front back : List Step) :
    s.run rules (front ++ back) =
      ((s.run rules front).1 ++ ((s.run rules front).2.run rules back).1,
        ((s.run rules front).2.run rules back).2) := by
  induction front generalizing s with
  | nil => rfl
  | cons step front ih =>
    simp only [List.cons_append, run, ih, List.append_assoc]

theorem run_cons_fst (rules : Rules) (s : State) (step : Step) (rest : List Step) :
    (s.run rules (step :: rest)).1 = s.findings rules step ++ ((s.next rules step).run rules rest).1 := rfl

theorem run_cons_snd (rules : Rules) (s : State) (step : Step) (rest : List Step) :
    (s.run rules (step :: rest)).2 = ((s.next rules step).run rules rest).2 := rfl

theorem after_succ {rules : Rules} {source : Text} {n : Nat} {step : Step} (h : (steps source)[n]? = some step) :
    after rules source (n + 1) = (after rules source n).next rules step := by
  rw [after, List.take_add_one, h, run_append]
  rfl

/-- What the step with this number finds; behind the last one there is nothing. -/
def findingsAt (rules : Rules) (source : Text) (n : Nat) : List Finding :=
  (steps source)[n]?.toList.flatMap ((after rules source n).findings rules)

theorem findingsAt_of_getElem? {rules : Rules} {source : Text} {n : Nat} {step : Step}
    (h : (steps source)[n]? = some step) :
    findingsAt rules source n = (after rules source n).findings rules step := by
  rw [findingsAt, h, Option.toList_some, List.flatMap_singleton]

theorem run_take_fst (rules : Rules) (source : Text) (n : Nat) :
    (start.run rules ((steps source).take n)).1 = (List.range n).flatMap (findingsAt rules source) := by
  induction n with
  | zero => rfl
  | succ n ih =>
    rw [List.take_add_one, run_append, ih, List.range_succ, List.flatMap_append, List.flatMap_singleton,
      findingsAt, after]
    cases (steps source)[n]? with
    | none => rfl
    | some step => simp only [Option.toList_some, List.flatMap_singleton, run, List.append_nil]

/-- Outside unbound bodies nothing is withheld. -/
theorem reported_of_bound {s : State} (hBound : s.blocks.unbound = 0) (rules : Rules) (f : Fragment) :
    s.reported rules f = defects rules.strictness s.symbols s.blocks.top?.isNone f := by
  simp [reported, BlockStack.inUnbound, hBound]

theorem findings_eq_nil_iff {rules : Rules} {s : State} {step : Step} (hBound : s.blocks.unbound = 0) :
    s.findings rules step = [] ↔
      defects rules.strictness s.symbols s.blocks.top?.isNone step.fragment = [] := by
  rw [findings, List.map_eq_nil_iff, reported_of_bound hBound]

theorem after_length (rules : Rules) (source : Text) :
    after rules source (steps source).length = (start.run rules (steps source)).2 := by
  rw [after, List.take_length]

theorem check_snd (strictness : Strictness) (source : Text) :
    (check strictness source).2 =
      (after (.ofStrictness strictness) source (steps source).length).symbols := by
  rw [after_length]
  rfl

theorem check_fst (strictness : Strictness) (source : Text) :
    (check strictness source).1 =
      (start.run (.ofStrictness strictness) (steps source)).1.map Finding.diagnostic ++
        (start.run (.ofStrictness strictness) (steps source)).2.unclosed.map Finding.diagnostic :=
  List.map_append

/-- The outcome of a run from the state: what it finds, what it leaves open, and the table at its end. -/
def outcome (rules : Rules) (s : State) (run : List Step) : Outcome :=
  ⟨(s.run rules run).1 ++ (s.run rules run).2.unclosed, (s.run rules run).2.symbols⟩

theorem check_eq_outcome (strictness : Strictness) (source : Text) :
    check strictness source =
      ((start.outcome (.ofStrictness strictness) (steps source)).diagnostics,
        (start.outcome (.ofStrictness strictness) (steps source)).symbols) := rfl

/-- A program has no findings exactly when its run has none and leaves nothing open. -/
theorem check_fst_eq_nil_iff (strictness : Strictness) (source : Text) :
    (check strictness source).1 = [] ↔
      (start.run (.ofStrictness strictness) (steps source)).1 = [] ∧
        (start.run (.ofStrictness strictness) (steps source)).2.blocks.blocks = [] := by
  simp [check, Outcome.diagnostics, program, unclosed, BlockStack.opened]

end LessonCheck.Check.State
