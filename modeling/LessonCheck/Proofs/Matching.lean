import LessonCheck.Proofs.Accounting
import LessonCheck.Proofs.Openers

/-!
# Openings and their closings

A stack that starts empty is known from the operations on it. A closing belongs to the opening from which it is
parted by balanced operations only. The blocks open at the end are those whose opening has no closing, in the order
of their openings, and the next closing belongs to the last of them. Meanwhile the counter stays the number of the
unbound blocks that are open, so nothing is taken off a counter that is zero.
-/

namespace LessonCheck.BlockStack

namespace Operation

/-- The blocks that are opened and not closed again, in the order of their openings: behind the opening of such a
block no closing meets an empty stack, if the operations behind it start with one. -/
def remaining : List Operation → List Block
  | [] => []
  | pop :: later => remaining later
  | push b :: later =>
    if (Bracket.depthAfter 0 (later.map bracket)).isSome then b :: remaining later else remaining later

/-- How many of the blocks that were open before the operations close, if there are so many. -/
def reach : List Operation → Nat
  | [] => 0
  | pop :: later => reach later + 1
  | push _ :: later => reach later - 1

theorem depthAfter_map_bracket (d : Nat) (operations : List Operation) :
    Bracket.depthAfter d (operations.map bracket) =
      if reach operations ≤ d then some (d - reach operations + (remaining operations).length) else none := by
  induction operations generalizing d with
  | nil => simp [Bracket.depthAfter, reach, remaining]
  | cons operation later ih =>
    cases operation with
    | pop =>
      cases d with
      | zero => simp [Bracket.depthAfter, bracket, reach]
      | succ d => simp [Bracket.depthAfter, bracket, reach, remaining, ih]
    | push b =>
      have hDeeper : Bracket.depthAfter d ((push b :: later).map bracket) =
          Bracket.depthAfter (d + 1) (later.map bracket) := rfl
      rw [hDeeper, ih, remaining, ih, reach]
      by_cases hReach : reach later = 0
      · simp [hReach, Nat.add_assoc, Nat.add_comm 1]
      · have hWithin : reach later ≤ d + 1 ↔ reach later - 1 ≤ d := by omega
        have hLeft : d + 1 - reach later = d - (reach later - 1) := by omega
        simp only [hWithin, hLeft, Nat.le_zero.not.mpr hReach, if_false, Option.isSome_none, Bool.false_eq_true]

theorem remaining_push (b : Block) (later : List Operation) :
    remaining (push b :: later) = if reach later = 0 then b :: remaining later else remaining later := by
  rw [remaining, depthAfter_map_bracket]
  split <;> simp_all

theorem balanced_iff (operations : List Operation) :
    Bracket.Balanced (operations.map bracket) ↔ reach operations = 0 ∧ remaining operations = [] := by
  rw [Bracket.Balanced, depthAfter_map_bracket]
  split
  · next hReach => simp [Nat.le_zero.mp hReach]
  · next hReach => simp [Nat.le_zero.not.mp hReach]

theorem getLast?_remaining_cons {b : Block} {later : List Operation} (h : (remaining later).getLast? = some b)
    (operation : Operation) : (remaining (operation :: later)).getLast? = some b := by
  cases operation with
  | pop => exact h
  | push c =>
    rw [remaining_push]
    split
    · rw [List.getLast?_cons, h, Option.getD_some]
    · exact h

/-- The last block that remains is the one whose opening only balanced operations follow. -/
theorem getLast?_remaining_iff {operations : List Operation} {b : Block} :
    (remaining operations).getLast? = some b ↔
      ∃ front later, operations = front ++ push b :: later ∧ Bracket.Balanced (later.map bracket) := by
  constructor
  · intro h
    induction operations with
    | nil => cases h
    | cons operation operations ih =>
      have hLater (h : (remaining operations).getLast? = some b) : ∃ front later,
          operation :: operations = front ++ push b :: later ∧ Bracket.Balanced (later.map bracket) := by
        obtain ⟨front, later, rfl, hBalanced⟩ := ih h
        exact ⟨operation :: front, later, rfl, hBalanced⟩
      cases operation with
      | pop => exact hLater h
      | push c =>
        rw [remaining_push] at h
        split at h
        · next hReach =>
          rw [List.getLast?_cons] at h
          cases hLast : (remaining operations).getLast? with
          | none =>
            rw [hLast] at h
            obtain rfl := Option.some.inj h
            have hNone := List.getLast?_eq_none_iff.mp hLast
            exact ⟨[], operations, rfl, (balanced_iff operations).mpr ⟨hReach, hNone⟩⟩
          | some last =>
            rw [hLast, Option.getD_some] at h
            exact hLater (hLast.trans h)
        · exact hLater h
  · rintro ⟨front, later, rfl, hBalanced⟩
    obtain ⟨hReach, hNone⟩ := (balanced_iff later).mp hBalanced
    induction front with
    | nil =>
      rw [List.nil_append, remaining_push, if_pos hReach, hNone]
      rfl
    | cons operation front ih => exact getLast?_remaining_cons ih operation

end Operation

open Operation

/-- The operations leave what they open, and of what was open before, what they do not reach. -/
theorem blocks_foldl (s : BlockStack) (operations : List Operation) :
    (operations.foldl apply s).blocks = (remaining operations).reverse ++ s.blocks.drop (reach operations) := by
  induction operations generalizing s with
  | nil => rfl
  | cons operation later ih =>
    rw [List.foldl_cons, ih]
    cases operation with
    | pop => rw [apply, blocks_pop, remaining, reach, ← List.drop_one, List.drop_drop, Nat.add_comm]
    | push b =>
      rw [apply, push, remaining_push, reach]
      cases hReach : reach later with
      | zero => simp
      | succ n => simp

theorem counted_empty : empty.Counted := rfl

theorem counted_foldl {s : BlockStack} (h : s.Counted) (operations : List Operation) :
    (operations.foldl apply s).Counted := by
  induction operations generalizing s with
  | nil => exact h
  | cons operation later ih =>
    apply ih
    cases operation with
    | pop => exact h.pop
    | push b => exact h.push b

/-- The stack after operations on an empty one. -/
def after (operations : List Operation) : BlockStack := operations.foldl apply empty

theorem opened_after (operations : List Operation) : (after operations).opened = remaining operations := by
  rw [opened, after, blocks_foldl, empty, List.drop_nil, List.append_nil, List.reverse_reverse]

theorem top?_eq_getLast?_opened (s : BlockStack) : s.top? = s.opened.getLast? := by
  rw [top?, opened, List.getLast?_reverse]

theorem Counted.push_pop {s : BlockStack} (h : s.Counted) {b : Block} (hTop : s.top? = some b) :
    s.pop.push b = s := by
  obtain ⟨blocks, unbound⟩ := s
  obtain ⟨rest, rfl⟩ := List.head?_eq_some_iff.mp hTop
  have hCounter : unbound = rest.countP Block.unbound + if b.unbound then 1 else 0 :=
    h.trans List.countP_cons
  cases hUnbound : b.unbound with
  | false => simp [BlockStack.pop, BlockStack.push, hUnbound]
  | true =>
    rw [hUnbound, if_pos rfl] at hCounter
    simp [BlockStack.pop, BlockStack.push, hUnbound, hCounter]

theorem Counted.eq_empty {s : BlockStack} (h : s.Counted) (hNone : s.opened = []) : s = empty := by
  obtain ⟨blocks, unbound⟩ := s
  obtain rfl := List.reverse_eq_nil_iff.mp hNone
  rw [show unbound = 0 from h, empty]

/-- How a stack stands after operations on an empty one. Its top is the block that the next closing closes. -/
structure Matched (operations : List Operation) : Prop where
  counter : (after operations).unbound = (after operations).opened.countP Block.unbound
  decrement : ∀ b, (after operations).top? = some b → b.unbound = true → 0 < (after operations).unbound
  inUnbound : (after operations).inUnbound = true ↔ ∃ b ∈ (after operations).opened, b.unbound = true
  top : ∀ b, (after operations).top? = some b ↔
    ∃ front later, operations = front ++ .push b :: later ∧ Bracket.Balanced (later.map bracket)
  pop : ∀ b, (after operations).top? = some b → (after operations).pop.push b = after operations
  top_none : (after operations).top? = none ↔ (after operations).opened = []
  pop_none : (after operations).top? = none → (after operations).pop = empty
  opened : (after operations).opened = remaining operations

theorem matched (operations : List Operation) : Matched operations := by
  have hCounted : (after operations).Counted := counted_foldl counted_empty operations
  have hCounter : (after operations).unbound = (after operations).opened.countP Block.unbound := by
    rw [BlockStack.opened, List.countP_reverse]
    exact hCounted
  have hTop := top?_eq_getLast?_opened (after operations)
  refine ⟨hCounter, ?decrement, ?inUnbound, ?top, fun b => hCounted.push_pop, ?top_none, ?pop_none,
    opened_after operations⟩
  case decrement =>
    intro b hb hUnbound
    rw [hTop] at hb
    rw [hCounter, List.countP_pos_iff]
    exact ⟨b, List.mem_of_getLast? hb, hUnbound⟩
  case inUnbound => simp only [hCounted.inUnbound, List.any_eq_true, BlockStack.opened, List.mem_reverse]
  case top =>
    intro b
    rw [hTop, opened_after, getLast?_remaining_iff]
  case top_none => rw [hTop, List.getLast?_eq_none_iff]
  case pop_none =>
    intro hNone
    rw [hTop, List.getLast?_eq_none_iff] at hNone
    rw [hCounted.eq_empty hNone]
    rfl

/-- The closing in front meets nothing, and the block of line 2 is closed again. -/
example : remaining [.pop, .push ⟨1, .loop, true⟩, .push ⟨2, .when, false⟩, .pop, .push ⟨4, .other, false⟩] =
    [⟨1, .loop, true⟩, ⟨4, .other, false⟩] := by
  decide

end LessonCheck.BlockStack
