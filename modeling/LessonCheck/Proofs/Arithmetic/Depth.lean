import LessonCheck.Arithmetic.Depth
import Mathlib.Algebra.GroupWithZero.Nat
import Mathlib.Algebra.Order.BigOperators.Group.List

/-!
# The scan of the depth on any token list

The scan goes over lists that no expression starts with as well as over expressions. On every list the level of
the innermost open group is the sum of what the open groups added, so that a closer never takes back more than
was added, and each open group added at least one level.
-/

namespace LessonCheck.Arithmetic

namespace DepthScan

/-- What holds of the scan behind every token list. -/
structure Consistent (s : DepthScan) : Prop where
  base_eq : s.base = s.groups.sum
  one_le : ∀ added ∈ s.groups, 1 ≤ added
  within : s.base + s.signs ≤ s.deepest

theorem consistent_start : start.Consistent := ⟨rfl, by simp [start], Nat.le_refl 0⟩

namespace Consistent

variable {s : DepthScan} (h : s.Consistent)

include h

theorem sign : s.sign.Consistent := ⟨h.base_eq, h.one_le, Nat.le_max_right ..⟩

theorem operand : s.operand.Consistent := ⟨h.base_eq, h.one_le, Nat.le_of_add_right_le h.within⟩

theorem operator : s.operator.Consistent := ⟨h.base_eq, h.one_le, Nat.le_of_add_right_le h.within⟩

theorem openGroup : s.openGroup.Consistent := by
  refine ⟨?base_eq, ?one_le, Nat.le_max_right ..⟩
  case base_eq => simp only [DepthScan.openGroup, List.sum_cons, h.base_eq, Nat.add_comm]
  case one_le => exact List.forall_mem_cons.mpr ⟨Nat.le_add_left 1 s.signs, h.one_le⟩

theorem closeGroup : s.closeGroup.Consistent := by
  have hBase : s.closeGroup.base = s.closeGroup.groups.sum := by
    simp only [DepthScan.closeGroup, h.base_eq]
    cases s.groups with
    | nil => rfl
    | cons added groups => simp
  refine ⟨hBase, fun added hAdded => h.one_le added (List.mem_of_mem_tail hAdded), ?_⟩
  exact Nat.le_trans (Nat.sub_le ..) (Nat.le_of_add_right_le h.within)

/-- A closer takes back exactly what its group added. -/
theorem closeGroup_add : s.closeGroup.base + s.groups.head?.getD 0 = s.base := by
  simp only [DepthScan.closeGroup, h.base_eq]
  cases s.groups with
  | nil => rfl
  | cons added groups => simp [Nat.add_comm]

theorem step (t : Token) : (s.step t).Consistent := by
  cases t with
  | plus | minus =>
    simp only [DepthScan.step]
    split
    · exact h.sign
    · exact h.operator
  | leftParen =>
    simp only [DepthScan.step]
    split
    · exact h.openGroup
    · exact h.operator
  | rightParen => exact h.closeGroup
  | int | ident | str => exact h.operand
  | star | slash => exact h.operator

theorem foldl (ts : List Token) : (ts.foldl DepthScan.step s).Consistent := by
  induction ts generalizing s with
  | nil => exact h
  | cons t ts ih => exact ih (h.step t)

theorem length_groups_le : s.groups.length ≤ s.deepest :=
  calc s.groups.length ≤ s.groups.sum := List.length_le_sum_of_one_le _ h.one_le
    _ = s.base := h.base_eq.symm
    _ ≤ s.deepest := Nat.le_of_add_right_le h.within

end Consistent

theorem deepest_le_step (s : DepthScan) (t : Token) : s.deepest ≤ (s.step t).deepest := by
  cases t with
  | plus | minus | leftParen =>
    simp only [step]
    split
    · exact Nat.le_max_left ..
    · exact Nat.le_refl _
  | rightParen | int | ident | str | star | slash => exact Nat.le_refl _

theorem deepest_le_foldl (s : DepthScan) (ts : List Token) : s.deepest ≤ (ts.foldl step s).deepest := by
  induction ts generalizing s with
  | nil => exact Nat.le_refl _
  | cons t ts ih => exact Nat.le_trans (s.deepest_le_step t) (ih (s.step t))

end DepthScan

theorem nestingDepth_le_append (front back : List Token) : nestingDepth front ≤ nestingDepth (front ++ back) := by
  rw [nestingDepth, nestingDepth, List.foldl_append]
  exact DepthScan.deepest_le_foldl _ back

end LessonCheck.Arithmetic
