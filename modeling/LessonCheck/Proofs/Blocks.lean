import LessonCheck.Proofs.Brackets
import LessonCheck.Proofs.Run

/-!
# The stack of open blocks

What one step does to the stack. Its depth follows the brackets of the fragment, and only a rejected loop
header opens an unbound body, so a step with nothing wrong stays outside all of them.
-/

namespace LessonCheck

open Check

namespace BlockStack

theorem unbound_pop {s : BlockStack} (h : s.unbound = 0) : s.pop.unbound = 0 := by
  unfold pop
  split
  · exact h
  · split
    · rw [h]
    · exact h

theorem blocks_pop (s : BlockStack) : s.pop.blocks = s.blocks.tail := by
  unfold pop
  split
  · next h => rw [h]; rfl
  · next h => rw [h]; rfl

theorem depth_pop (s : BlockStack) : s.pop.depth = s.depth - 1 := by
  unfold pop depth
  split
  · next h => simp [h]
  · next h => simp [h]

theorem depth_push (s : BlockStack) (b : Block) : (s.push b).depth = s.depth + 1 := rfl

theorem isNone_top? (s : BlockStack) : s.top?.isNone = decide (s.depth = 0) := by
  unfold top? depth
  cases s.blocks <;> rfl

end BlockStack

namespace Check

/-- Whether a loop header is accepted; any other form is. -/
def accepts : Form → Bool
  | .loopHeader header => (LoopHeader.counter? header).isSome
  | _ => true

namespace State

variable {rules : Rules} {s : State}

theorem unbound_opened? {line : Nat} {f : Fragment} {b : Block} (h : accepts f.form = true)
    (hOpened : opened? rules line f = some b) : b.unbound = false := by
  obtain ⟨t, form⟩ := f
  cases form with
  | closer rest =>
    simp only [opened?] at hOpened
    split at hOpened <;> cases hOpened
    all_goals rfl
  | unterminatedDeclaration | unknown =>
    simp only [opened?] at hOpened
    split at hOpened <;> cases hOpened
    rfl
  | loopHeader header =>
    obtain rfl := Option.some.inj hOpened
    obtain ⟨name, hCounter⟩ := Option.isSome_iff_exists.mp h
    simp [hCounter]
  | ifHeader | elseHeader | elseSemicolon =>
    obtain rfl := Option.some.inj hOpened
    rfl
  | declaration | assignment | io => cases hOpened

/-- Only a rejected loop header opens an unbound body. -/
theorem unbound_next {step : Step} (hBound : s.blocks.unbound = 0) (h : accepts step.fragment.form = true) :
    (s.next rules step).blocks.unbound = 0 := by
  have hClosed : (if closes step.fragment.form then s.blocks.pop else s.blocks).unbound = 0 := by
    split
    · exact BlockStack.unbound_pop hBound
    · exact hBound
  simp only [next, nested]
  split
  · next b hOpened =>
    simp only [BlockStack.push, unbound_opened? h hOpened, Bool.false_eq_true, if_false]
    exact hClosed
  · exact hClosed

theorem accepts_of_defects {strictness : Strictness} {symbols : SymbolTable} {empty : Bool} {f : Fragment}
    (h : defects strictness symbols empty f = []) : accepts f.form = true := by
  obtain ⟨t, form⟩ := f
  cases form with
  | loopHeader header =>
    unfold defects at h
    simp only at h
    split at h
    · next hCounter => exact hCounter
    · cases h
  | _ => rfl

/-- A closer takes one block off the stack, and an opening bracket puts one on it. -/
theorem depth_next (rules : Rules) (s : State) (step : Step) : (s.next rules step).blocks.depth =
    (if closes step.fragment.form then s.blocks.depth - 1 else s.blocks.depth) +
      if step.fragment.opens then 1 else 0 := by
  rw [← Fragment.isSome_opened? rules step.line step.fragment]
  simp only [next, nested]
  cases opened? rules step.line step.fragment <;> cases closes step.fragment.form <;>
    simp [BlockStack.depth_pop, BlockStack.depth_push]

end State
end Check
end LessonCheck
