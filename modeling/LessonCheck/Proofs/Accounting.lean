import LessonCheck.Proofs.Blocks
import LessonCheck.Proofs.Findings
import LessonCheck.Proofs.Soundness

/-!
# The account of the brackets

A statement acts on the stack of open blocks in a fixed way: it closes one block for each closer in it, and
then opens one if its text ends with an opening bracket. Over a program the blocks opened and the closers that
met an empty stack are together as many as the closers and the blocks never closed, and the blocks never
closed are those that matching each closing bracket with the last open one leaves.
-/

namespace LessonCheck

open Check

namespace Bracket

/-- The lines of the brackets left open, the last one first, when each closing bracket takes away the last
opening one still there; a closing one that meets none is passed over. -/
def leftOpen : List Nat → List (Nat × Bracket) → List Nat
  | lines, [] => lines
  | lines, (line, opening) :: events => leftOpen (line :: lines) events
  | lines, (_, closing) :: events => leftOpen lines.tail events

theorem leftOpen_append (lines : List Nat) (front back : List (Nat × Bracket)) :
    leftOpen lines (front ++ back) = leftOpen (leftOpen lines front) back := by
  induction front generalizing lines with
  | nil => rfl
  | cons event front ih =>
    obtain ⟨line, bracket⟩ := event
    cases bracket with
    | opening => exact ih (line :: lines)
    | closing => exact ih lines.tail

end Bracket

namespace BlockStack

inductive Operation
  | pop
  | push (b : Block)
  deriving DecidableEq, Repr

namespace Operation

def bracket : Operation → Bracket
  | pop => .closing
  | push _ => .opening

theorem eq_replicate_pop {operations : List Operation} {n : Nat}
    (h : operations.map bracket = List.replicate n .closing) : operations = List.replicate n pop := by
  obtain ⟨hLength, hBrackets⟩ := List.eq_replicate_iff.mp h
  rw [List.length_map] at hLength
  refine List.eq_replicate_iff.mpr ⟨hLength, ?_⟩
  intro operation hMem
  have hClosing := hBrackets operation.bracket (List.mem_map_of_mem hMem)
  cases operation with
  | pop => rfl
  | push b => cases hClosing

end Operation

def apply (s : BlockStack) : Operation → BlockStack
  | .pop => s.pop
  | .push b => s.push b

/-- The lines of the open blocks, innermost first. -/
def lines (s : BlockStack) : List Nat := s.blocks.map Block.line

theorem lines_push (s : BlockStack) (b : Block) : (s.push b).lines = b.line :: s.lines := rfl

theorem lines_pop (s : BlockStack) : s.pop.lines = s.lines.tail := by
  rw [lines, blocks_pop, List.map_tail, lines]

end BlockStack

namespace Check

namespace State

variable {rules : Rules} {s : State}

/-! ## What a statement does to the stack -/

/-- What a fragment does to the stack, in its order. -/
def operationsOf (rules : Rules) (step : Step) : List BlockStack.Operation :=
  (if closes step.fragment.form then [.pop] else []) ++
    (opened? rules step.line step.fragment).toList.map .push

def operations (rules : Rules) (run : List Step) : List BlockStack.Operation :=
  run.flatMap (operationsOf rules)

theorem blocks_next (rules : Rules) (s : State) (step : Step) :
    (s.next rules step).blocks = (operationsOf rules step).foldl BlockStack.apply s.blocks := by
  simp only [next, nested, operationsOf]
  cases closes step.fragment.form <;> cases opened? rules step.line step.fragment <;> rfl

/-- The stack after a run is the result of its operations. -/
theorem blocks_run (rules : Rules) (s : State) (run : List Step) :
    (s.run rules run).2.blocks = (operations rules run).foldl BlockStack.apply s.blocks := by
  induction run generalizing s with
  | nil => rfl
  | cons step rest ih =>
    rw [run_cons_snd, ih, blocks_next, operations, operations, List.flatMap_cons, List.foldl_append]

theorem map_bracket_operationsOf (rules : Rules) (step : Step) :
    (operationsOf rules step).map BlockStack.Operation.bracket = step.fragment.brackets := by
  rw [Fragment.brackets, ← Fragment.isSome_opened? rules step.line step.fragment, operationsOf]
  cases closes step.fragment.form <;> cases opened? rules step.line step.fragment <;> rfl

theorem line_of_opened? {line : Nat} {f : Fragment} {b : Block} (h : opened? rules line f = some b) :
    b.line = line := by
  unfold opened? at h
  grind

theorem line_of_push {step : Step} {b : Block} (h : .push b ∈ operationsOf rules step) : b.line = step.line := by
  rcases List.mem_append.mp h with hPop | hPush
  · split at hPop <;> simp at hPop
  · obtain ⟨opened, hOpened, hEq⟩ := List.mem_map.mp hPush
    obtain rfl := BlockStack.Operation.push.inj hEq
    exact line_of_opened? (Option.mem_toList.mp hOpened)

end State

/-- The brackets of any statement: a closing one for each closer, then an opening one if the text ends so. -/
theorem brackets_stepsOf (s : LogicalStatement) :
    (stepsOf s).flatMap (fun step => step.fragment.brackets) =
      List.replicate ((stepsOf s).countP fun step => State.closes step.fragment.form) .closing ++
        if endsWith '[' (Text.trim s.text) then [.opening] else [] := by
  rw [stepsOf, List.flatMap_map, List.countP_map, Fragment.ofStatement]
  rcases Text.trim_eq_nil_or_framed s.text with hNil | hFramed
  · rw [hNil, Fragment.chain_nil]
    rfl
  · rw [Fragment.brackets_chain hFramed, List.map_const', List.countP_eq_length_filter]
    rfl

namespace State

theorem map_bracket_operations (rules : Rules) (run : List Step) :
    (operations rules run).map BlockStack.Operation.bracket =
      run.flatMap fun step => step.fragment.brackets := by
  rw [operations, List.map_flatMap]
  simp only [map_bracket_operationsOf]

/-- A statement closes a block for each closer in it, and then opens one exactly if its text ends with an
opening bracket. -/
theorem operations_stepsOf (rules : Rules) (st : LogicalStatement) : ∃ opened : Option Block,
    opened.map Block.line = (if endsWith '[' (Text.trim st.text) then some st.line else none) ∧
    operations rules (stepsOf st) =
      List.replicate ((stepsOf st).countP fun step => closes step.fragment.form) .pop ++
        opened.toList.map .push := by
  -- The operations are cut where their brackets change from closing to opening.
  have hBrackets := map_bracket_operations rules (stepsOf st)
  rw [brackets_stepsOf] at hBrackets
  obtain ⟨pops, pushes, hOperations, hPops, hPushes⟩ := List.map_eq_append_iff.mp hBrackets
  have hPops := BlockStack.Operation.eq_replicate_pop hPops
  split at hPushes
  · next hEnd =>
    obtain ⟨operation, hPush, hBracket⟩ := List.map_eq_singleton_iff.mp hPushes
    cases operation with
    | pop => cases hBracket
    | push b =>
      have hMem : .push b ∈ operations rules (stepsOf st) := by
        rw [hOperations, hPush]
        exact List.mem_append_right pops (List.mem_singleton_self _)
      obtain ⟨step, hStep, hOperation⟩ := List.mem_flatMap.mp hMem
      obtain ⟨f, -, rfl⟩ := List.mem_map.mp hStep
      have hLine : b.line = st.line := line_of_push hOperation
      refine ⟨some b, ?_, ?_⟩
      · rw [if_pos hEnd, Option.map_some, hLine]
      · rw [hOperations, hPops, hPush]
        rfl
  · next hEnd =>
    refine ⟨none, ?_, ?_⟩
    · rw [if_neg hEnd]
      rfl
    · rw [hOperations, hPops, List.map_eq_nil_iff.mp hPushes]
      rfl

end State

/-! ## Matching over a program -/

/-- The brackets of a step, each with its line. -/
def bracketEvents (step : Step) : List (Nat × Bracket) := step.fragment.brackets.map (step.line, ·)

/-- The brackets of a program: for each statement its closers, and then its opening bracket if its text ends
with one. -/
def bracketLines (source : Text) : List (Nat × Bracket) :=
  (LogicalStatement.ofSource source).flatMap fun s => (bracketsOf s).map (s.line, ·)

theorem flatMap_bracketEvents_steps (source : Text) :
    (steps source).flatMap bracketEvents = bracketLines source := by
  rw [steps, bracketLines, List.flatMap_assoc]
  apply List.flatMap_congr
  intro s hs
  have hFramed := LogicalStatement.framed_of_mem_ofSource hs
  have hBrackets := Fragment.brackets_chain hFramed
  rw [bracketsOf, stepsOf, List.flatMap_map, Fragment.ofStatement, Text.trim_of_framed hFramed, ← hBrackets,
    List.map_flatMap]
  rfl

namespace State

variable {rules : Rules} {s : State}

theorem lines_next (rules : Rules) (s : State) (step : Step) :
    (s.next rules step).blocks.lines = Bracket.leftOpen s.blocks.lines (bracketEvents step) := by
  have hLine := @line_of_opened? rules step.line step.fragment
  rw [bracketEvents, Fragment.brackets, ← Fragment.isSome_opened? rules step.line step.fragment]
  simp only [next, nested]
  cases hOpened : opened? rules step.line step.fragment with
  | none =>
    cases closes step.fragment.form with
    | false => rfl
    | true => exact BlockStack.lines_pop s.blocks
  | some b =>
    have hPushed (blocks : BlockStack) : (blocks.push b).lines = step.line :: blocks.lines := by
      rw [BlockStack.lines_push, hLine hOpened]
    cases closes step.fragment.form with
    | false => exact hPushed s.blocks
    | true =>
      refine (hPushed s.blocks.pop).trans ?_
      rw [BlockStack.lines_pop]
      rfl

theorem lines_run (rules : Rules) (s : State) (run : List Step) :
    (s.run rules run).2.blocks.lines = Bracket.leftOpen s.blocks.lines (run.flatMap bracketEvents) := by
  induction run generalizing s with
  | nil => rfl
  | cons step rest ih =>
    rw [run_cons_snd, ih, lines_next, List.flatMap_cons, Bracket.leftOpen_append]

/-! ## Counting over a program -/

theorem countP_unmatched_of_not_closes {strictness : Strictness} {symbols : SymbolTable} {nothingOpen : Bool}
    {f : Fragment} (h : closes f.form = false) :
    (defects strictness symbols nothingOpen f).countP (· = .unmatchedCloser) = 0 := by
  rw [List.countP_eq_zero]
  intro d hDefect hUnmatched
  obtain rfl := of_decide_eq_true hUnmatched
  rw [Defect.closes_of_concerns_unmatchedCloser (concerns_of_mem_defects hDefect)] at h
  cases h

theorem countP_unmatched_defects (strictness : Strictness) (symbols : SymbolTable) (nothingOpen : Bool)
    (f : Fragment) : (defects strictness symbols nothingOpen f).countP (· = .unmatchedCloser) =
      if closes f.form && nothingOpen then 1 else 0 := by
  obtain ⟨t, form⟩ := f
  cases form with
  | closer rest =>
    simp only [defects, closes, Bool.true_and, List.countP_append]
    cases nothingOpen <;> cases Continuation.ofText rest <;> rfl
  | _ => exact countP_unmatched_of_not_closes rfl

/-- A step reports an unmatched closer exactly if it closes and nothing is open; that is never withheld. -/
theorem countP_unmatched_findings (rules : Rules) (s : State) (step : Step) :
    (s.findings rules step).countP (·.defect = .unmatchedCloser) =
      if closes step.fragment.form && s.blocks.top?.isNone then 1 else 0 := by
  rw [← countP_unmatched_defects rules.strictness s.symbols, findings, List.countP_map, reported]
  split
  · rw [List.countP_filter]
    apply List.countP_congr
    intro d _
    cases d <;> simp [Defect.isLookup]
  · rfl

theorem countP_unmatched_run (rules : Rules) (s : State) (run : List Step) :
    run.countP (·.fragment.opens) + (s.run rules run).1.countP (·.defect = .unmatchedCloser) + s.blocks.depth =
      run.countP (fun step => closes step.fragment.form) + (s.run rules run).2.blocks.depth := by
  induction run generalizing s with
  | nil => rfl
  | cons step rest ih =>
    have hRest := ih (s.next rules step)
    have hDepth := depth_next rules s step
    rw [run_cons_fst, run_cons_snd, List.countP_append, countP_unmatched_findings, BlockStack.isNone_top?,
      List.countP_cons, List.countP_cons]
    cases hCloses : closes step.fragment.form <;> cases hEmpty : decide (s.blocks.depth = 0) <;>
      simp [hCloses] at hDepth hEmpty ⊢ <;> omega

end State

theorem countP_flatMap_eq_countP {α β : Type} {p : β → Bool} {q : α → Bool} {f : α → List β} {l : List α}
    (h : ∀ a ∈ l, (f a).countP p = if q a then 1 else 0) : (l.flatMap f).countP p = l.countP q := by
  induction l with
  | nil => rfl
  | cons a l ih =>
    have hRest := ih fun b hb => h b (List.mem_cons_of_mem a hb)
    rw [List.flatMap_cons, List.countP_append, List.countP_cons, h a List.mem_cons_self, hRest, Nat.add_comm]

theorem countP_opens_stepsOf (s : LogicalStatement) :
    (stepsOf s).countP (·.fragment.opens) = if endsWith '[' (Text.trim s.text) then 1 else 0 := by
  have hSteps : ((stepsOf s).flatMap fun step => step.fragment.brackets).count .opening =
      (stepsOf s).countP (·.fragment.opens) := by
    apply countP_flatMap_eq_countP
    intro step _
    rw [Fragment.brackets]
    cases State.closes step.fragment.form <;> cases step.fragment.opens <;> rfl
  rw [← hSteps, brackets_stepsOf, List.count_append, List.count_replicate]
  cases endsWith '[' (Text.trim s.text) <;> rfl

theorem countP_opens_steps (source : Text) : (steps source).countP (·.fragment.opens) =
    (LogicalStatement.ofSource source).countP fun s => endsWith '[' s.text := by
  apply countP_flatMap_eq_countP
  intro s hs
  rw [countP_opens_stepsOf, Text.trim_of_framed (LogicalStatement.framed_of_mem_ofSource hs)]

theorem countP_diagnostics {t : Text} {d : Defect} (h : ∀ e : Defect, e.message = t ↔ e = d)
    (findings : List Finding) : (findings.map Finding.diagnostic).countP (fun e => e.message = t) =
      findings.countP (·.defect = d) := by
  rw [List.countP_map]
  apply List.countP_congr
  intro f _
  simp only [Function.comp_apply, decide_eq_true_eq]
  exact h f.defect

theorem filter_diagnostics {t : Text} {d : Defect} (h : ∀ e : Defect, e.message = t ↔ e = d)
    (findings : List Finding) : (findings.map Finding.diagnostic).filter (fun e => e.message = t) =
      (findings.filter (·.defect = d)).map Finding.diagnostic := by
  rw [List.filter_map]
  apply congrArg
  apply List.filter_congr
  intro f _
  simp only [Function.comp_apply]
  exact decide_eq_decide.mpr (h f.defect)

namespace State

theorem filter_unclosed_run (rules : Rules) (s : State) (run : List Step) :
    (s.run rules run).1.filter (·.defect = .unclosedBlock) = [] := by
  apply List.filter_eq_nil_iff.mpr
  intro f hFinding hUnclosed
  exact defect_ne_of_mem_run hFinding (of_decide_eq_true hUnclosed)

theorem filter_unclosed_unclosed (s : State) : s.unclosed.filter (·.defect = .unclosedBlock) = s.unclosed := by
  apply List.filter_eq_self.mpr
  intro f hFinding
  exact decide_eq_true (defect_of_mem_unclosed hFinding)

theorem countP_unmatched_unclosed (s : State) : s.unclosed.countP (·.defect = .unmatchedCloser) = 0 := by
  rw [List.countP_eq_zero]
  intro f hFinding hUnmatched
  have hDefect := of_decide_eq_true hUnmatched
  rw [defect_of_mem_unclosed hFinding] at hDefect
  cases hDefect

theorem map_line_unclosed (s : State) : s.unclosed.map Finding.line = s.blocks.lines.reverse := by
  rw [unclosed, List.map_map, BlockStack.opened, List.map_reverse]
  rfl

end State

/-- The brackets of a program account for the blocks it opens and closes. -/
structure Accounted (strictness : Strictness) (source : Text) : Prop where
  statement : ∀ (s : State) (st : LogicalStatement),
    (s.run (.ofStrictness strictness) (stepsOf st)).2.blocks =
      (State.operations (.ofStrictness strictness) (stepsOf st)).foldl BlockStack.apply s.blocks ∧
    ∃ opened : Option Block,
      opened.map Block.line = (if endsWith '[' (Text.trim st.text) then some st.line else none) ∧
      State.operations (.ofStrictness strictness) (stepsOf st) =
        List.replicate ((stepsOf st).countP fun step => State.closes step.fragment.form) .pop ++
          opened.toList.map .push
  count : ((LogicalStatement.ofSource source).countP fun s => endsWith '[' s.text) +
      (check strictness source).1.countP (fun d => d.message = "Unmatched closing bracket ']'".toList) =
    ((steps source).countP fun step => State.closes step.fragment.form) +
      (check strictness source).1.countP
        (fun d => d.message = "Missing closing ']' for block opened here.".toList)
  missing : ((check strictness source).1.filter
      fun d => d.message = "Missing closing ']' for block opened here.".toList).map Diagnostic.line =
    (Bracket.leftOpen [] (bracketLines source)).reverse

theorem accounted (strictness : Strictness) (source : Text) : Accounted strictness source := by
  have hMissing : (check strictness source).1.filter
        (fun d => d.message = "Missing closing ']' for block opened here.".toList) =
      (State.start.run (.ofStrictness strictness) (steps source)).2.unclosed.map Finding.diagnostic := by
    simp only [check, Outcome.diagnostics, program]
    rw [filter_diagnostics Defect.message_eq_unclosed_iff, List.filter_append, State.filter_unclosed_run,
      State.filter_unclosed_unclosed, List.nil_append]
  have hUnmatched : (check strictness source).1.countP
        (fun d => d.message = "Unmatched closing bracket ']'".toList) =
      (State.start.run (.ofStrictness strictness) (steps source)).1.countP (·.defect = .unmatchedCloser) := by
    simp only [check, Outcome.diagnostics, program]
    rw [countP_diagnostics Defect.message_eq_unmatched_iff, List.countP_append,
      State.countP_unmatched_unclosed, Nat.add_zero]
  refine ⟨?statement, ?count, ?missing⟩
  case statement =>
    intro s st
    exact ⟨State.blocks_run _ s (stepsOf st), State.operations_stepsOf _ st⟩
  case count =>
    have hUnclosed : (check strictness source).1.countP
          (fun d => d.message = "Missing closing ']' for block opened here.".toList) =
        (State.start.run (.ofStrictness strictness) (steps source)).2.blocks.depth := by
      rw [List.countP_eq_length_filter, hMissing, List.length_map, State.unclosed, List.length_map,
        BlockStack.opened, List.length_reverse]
      rfl
    rw [hUnmatched, hUnclosed, ← countP_opens_steps]
    exact State.countP_unmatched_run (.ofStrictness strictness) .start (steps source)
  case missing =>
    rw [hMissing, List.map_map, ← flatMap_bracketEvents_steps]
    exact (State.map_line_unclosed _).trans (congrArg List.reverse (State.lines_run ..))

end Check
end LessonCheck
