import LessonCheck.Proofs.Blocks

/-!
# The steps behind the open blocks

The steps of a run tell which of them opened a block that is still open. The open blocks are what these steps
open under the rules, and the counter of the stack counts the unbound ones among them. So rules that mark
rejected loops withhold exactly while one of these steps is a rejected loop header, and rules that do not mark
them never withhold; in lines and kinds the stacks do not differ.
-/

namespace LessonCheck

open Check

namespace BlockStack

/-- The counter is the number of unbound blocks. -/
def Counted (s : BlockStack) : Prop := s.unbound = s.blocks.countP Block.unbound

variable {s : BlockStack}

theorem Counted.push (h : s.Counted) (b : Block) : (s.push b).Counted := by
  rw [Counted, BlockStack.push, List.countP_cons, ← h]
  cases b.unbound <;> rfl

theorem Counted.pop (h : s.Counted) : s.pop.Counted := by
  obtain ⟨blocks, unbound⟩ := s
  cases blocks with
  | nil => exact h
  | cons b blocks =>
    rw [Counted, List.countP_cons] at h
    rw [Counted, BlockStack.pop]
    cases hUnbound : b.unbound <;> simp [hUnbound] at h ⊢ <;> omega

theorem Counted.inUnbound (h : s.Counted) : s.inUnbound = s.blocks.any Block.unbound := by
  rw [Bool.eq_iff_iff, BlockStack.inUnbound, decide_eq_true_eq, h, List.countP_pos_iff, List.any_eq_true]

end BlockStack

namespace Check

/-- The openers of the open blocks after one more step, innermost first. -/
def openersAfter (current : List Step) (step : Step) : List Step :=
  let left := if State.closes step.fragment.form then current.tail else current
  if step.fragment.opens then step :: left else left

/-- The steps that opened a block which is still open, innermost first. -/
def openers (run : List Step) : List Step := run.foldl openersAfter []

/-- Whether a block that a rejected loop header opened is open after the steps. -/
def inRejectedBody (front : List Step) : Bool :=
  (openers front).any fun step => !accepts step.fragment.form

theorem mem_openersAfter {current : List Step} {step opener : Step} (h : opener ∈ openersAfter current step) :
    opener = step ∨ opener ∈ current := by
  have hLeft : opener ∈ (if State.closes step.fragment.form then current.tail else current) →
      opener ∈ current := by
    split
    · exact List.mem_of_mem_tail
    · exact id
  simp only [openersAfter] at h
  split at h
  · exact (List.mem_cons.mp h).imp_right hLeft
  · exact .inr (hLeft h)

theorem mem_of_mem_openers {run : List Step} {opener : Step} (h : opener ∈ openers run) : opener ∈ run := by
  suffices hGeneral : ∀ current, opener ∈ run.foldl openersAfter current → opener ∈ current ∨ opener ∈ run by
    exact (hGeneral [] h).resolve_left List.not_mem_nil
  clear h
  induction run with
  | nil => exact fun current h => .inl h
  | cons step rest ih =>
    intro current h
    rcases ih (openersAfter current step) h with hCurrent | hRest
    · rcases mem_openersAfter hCurrent with rfl | hCurrent
      · exact .inr List.mem_cons_self
      · exact .inl hCurrent
    · exact .inr (List.mem_cons_of_mem step hRest)

namespace State

variable {rules : Rules}

/-- The open blocks are those that the steps open under the rules, and the counter counts them. -/
structure OpenedBy (rules : Rules) (current : List Step) (s : State) : Prop where
  blocks : s.blocks.blocks.map some = current.map fun step => opened? rules step.line step.fragment
  counted : s.blocks.Counted

theorem openedBy_start (rules : Rules) : OpenedBy rules [] start := ⟨rfl, rfl⟩

theorem OpenedBy.next {current : List Step} {s : State} (h : OpenedBy rules current s) (step : Step) :
    OpenedBy rules (openersAfter current step) (s.next rules step) := by
  -- The closing is the same on both sides, so only what is pushed on top depends on the step.
  let closed := if closes step.fragment.form then s.blocks.pop else s.blocks
  let left := if closes step.fragment.form then current.tail else current
  have hCounted : closed.Counted := by
    simp only [closed]
    split
    · exact h.counted.pop
    · exact h.counted
  have hBlocks : closed.blocks.map some = left.map fun step => opened? rules step.line step.fragment := by
    simp only [closed, left]
    split
    · rw [BlockStack.blocks_pop, List.map_tail, List.map_tail, h.blocks]
    · exact h.blocks
  have hOpens := Fragment.isSome_opened? rules step.line step.fragment
  cases hOpened : opened? rules step.line step.fragment with
  | none =>
    have hNext : (s.next rules step).blocks = closed := by
      simp only [State.next, nested, hOpened, closed]
    have hOpeners : openersAfter current step = left := by
      rw [hOpened] at hOpens
      rw [openersAfter, ← hOpens]
      rfl
    rw [hOpeners]
    exact ⟨hNext ▸ hBlocks, hNext ▸ hCounted⟩
  | some b =>
    have hNext : (s.next rules step).blocks = closed.push b := by
      simp only [State.next, nested, hOpened, closed]
    have hOpeners : openersAfter current step = step :: left := by
      rw [hOpened] at hOpens
      rw [openersAfter, ← hOpens]
      rfl
    rw [hOpeners]
    refine ⟨?_, hNext ▸ hCounted.push b⟩
    rw [hNext, BlockStack.push, List.map_cons, List.map_cons, hOpened, hBlocks]

theorem OpenedBy.run {current : List Step} {s : State} (h : OpenedBy rules current s) (run : List Step) :
    OpenedBy rules (run.foldl openersAfter current) (s.run rules run).2 := by
  induction run generalizing current s with
  | nil => exact h
  | cons step rest ih => exact ih (h.next step)

/-- The open blocks of a run are those that its openers opened. -/
theorem openedBy_openers (rules : Rules) (front : List Step) :
    OpenedBy rules (openers front) (start.run rules front).2 := (openedBy_start rules).run front

theorem any_unbound_opened? (rules : Rules) (line : Nat) (f : Fragment) :
    (opened? rules line f).any Block.unbound = (rules.marksRejected && !accepts f.form) := by
  cases hAccepts : accepts f.form with
  | true =>
    rw [Bool.not_true, Bool.and_false]
    cases hOpened : opened? rules line f with
    | none => rfl
    | some b => exact unbound_opened? hAccepts hOpened
  | false =>
    obtain ⟨t, form⟩ := f
    cases form with
    | loopHeader header =>
      have hCounter : (LoopHeader.counter? header).isNone = true := by
        rw [accepts] at hAccepts
        rw [← Option.not_isSome, hAccepts]
        rfl
      simp only [opened?, Option.any_some, hCounter, Bool.not_false]
    | _ => cases hAccepts

/-- A place lies in an unbound body exactly if rejected loops are marked and one of them is still open. -/
theorem inUnbound_run (rules : Rules) (front : List Step) :
    (start.run rules front).2.blocks.inUnbound = (rules.marksRejected && inRejectedBody front) := by
  have h := openedBy_openers rules front
  have hAny := congrArg (List.any · (Option.any Block.unbound)) h.blocks
  simp only [List.any_map, Function.comp_def, any_unbound_opened?, Option.any_some] at hAny
  rw [h.counted.inUnbound, hAny, inRejectedBody, List.and_any_distrib_left]

/-- The rules have no part in the lines and kinds of the open blocks. -/
theorem places_run (rules other : Rules) (front : List Step) :
    (start.run rules front).2.blocks.blocks.map (fun b => (b.line, b.kind)) =
      (start.run other front).2.blocks.blocks.map fun b => (b.line, b.kind) := by
  have hOpened (step : Step) :
      (opened? rules step.line step.fragment).map (fun b => (b.line, b.kind)) =
        (opened? other step.line step.fragment).map fun b => (b.line, b.kind) := by
    obtain ⟨line, t, form⟩ := step
    cases form <;> rfl
  have h := congrArg (List.map (Option.map fun b => (b.line, b.kind))) (openedBy_openers rules front).blocks
  have hOther := congrArg (List.map (Option.map fun b => (b.line, b.kind))) (openedBy_openers other front).blocks
  simp only [List.map_map, Function.comp_def, hOpened, Option.map_some] at h hOther
  apply (List.map_inj_right fun _ _ => Option.some.inj).mp
  rw [List.map_map, List.map_map]
  exact h.trans hOther.symm

theorem isNone_top?_run (rules other : Rules) (front : List Step) :
    (start.run rules front).2.blocks.top?.isNone = (start.run other front).2.blocks.top?.isNone := by
  have hLength := congrArg List.length (places_run rules other front)
  rw [List.length_map, List.length_map] at hLength
  rw [BlockStack.isNone_top?, BlockStack.isNone_top?, BlockStack.depth, BlockStack.depth, hLength]

theorem symbols_run (rules other : Rules) {s t : State} (h : s.symbols = t.symbols) (run : List Step) :
    (s.run rules run).2.symbols = (t.run other run).2.symbols := by
  induction run generalizing s t with
  | nil => exact h
  | cons step rest ih =>
    apply ih
    rw [next, next, h]

end State
end Check
end LessonCheck
