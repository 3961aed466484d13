import LessonCheck.Proofs.Findings
import LessonCheck.Proofs.Renumbering
import LessonCheck.Proofs.Run

/-!
# Appending to a program

A statement that closes leaves no trace in the grouping, so a text behind a program whose last statement is
closed is grouped as if it stood alone. Its steps come behind those of the program and have no part in what
these found; only the blocks that the program left open may be closed by them.
-/

namespace LessonCheck

open Check

namespace LogicalStatement

/-- The statement that is pending behind one more line. -/
def afterLine (pending : Option Pending) (l : CodeLine) : Option Pending :=
  if (extend pending l).closes then none else some (extend pending l)

def pendingAfter (pending : Option Pending) (ls : List CodeLine) : Option Pending := ls.foldl afterLine pending

/-- Lines behind which no statement is pending are grouped alone. -/
theorem group_append {pending : Option Pending} {front : List CodeLine}
    (h : pendingAfter pending front = none) (back : List CodeLine) :
    group pending (front ++ back) = group pending front ++ group none back := by
  induction front generalizing pending with
  | nil =>
    obtain rfl : pending = none := h
    rfl
  | cons l front ih =>
    rw [pendingAfter, List.foldl_cons, afterLine] at h
    rw [List.cons_append, group_cons, group_cons]
    split
    · next hCloses =>
      rw [if_pos hCloses] at h
      rw [ih h, List.cons_append]
    · next hOpen =>
      rw [if_neg hOpen] at h
      exact ih h

/-- The source has no code, or its last code line closes the statement that it stands in. -/
def Settled (source : Text) : Prop :=
  CodeLine.ofSource source = [] ∨ ∃ front l, CodeLine.ofSource source = front ++ [l] ∧
    (extend (pendingAfter none front) l).closes = true

theorem settled_iff (source : Text) : Settled source ↔ pendingAfter none (CodeLine.ofSource source) = none := by
  have hConcat (front : List CodeLine) (l : CodeLine) :
      pendingAfter none (front ++ [l]) = none ↔ (extend (pendingAfter none front) l).closes = true := by
    rw [pendingAfter, List.foldl_append, List.foldl_cons, List.foldl_nil, afterLine, ← pendingAfter]
    split
    · next h => exact iff_of_true rfl h
    · next h => exact iff_of_false (Option.some_ne_none _) h
  constructor
  · rintro (hNil | ⟨front, l, hCode, hCloses⟩)
    · rw [hNil]
      rfl
    · rw [hCode, hConcat]
      exact hCloses
  · intro h
    rcases List.eq_nil_or_concat (CodeLine.ofSource source) with hNil | ⟨front, l, hCode⟩
    · exact .inl hNil
    · rw [List.concat_eq_append] at hCode
      rw [hCode, hConcat] at h
      exact .inr ⟨front, l, hCode, h⟩

instance (source : Text) : Decidable (Settled source) := decidable_of_iff _ (settled_iff source).symm

theorem ofSource_append {source : Text} (h : Settled source) (more : Text) :
    ofSource (source ++ '\n' :: more) =
      ofSource source ++ (ofSource more).map (renumber (· + source.physicalLines.length)) := by
  have hMore := group_renumber (· + source.physicalLines.length) none (CodeLine.ofSource more)
  rw [Option.map_none] at hMore
  rw [ofSource, CodeLine.ofSource_append, group_append ((settled_iff source).mp h), hMore]
  rfl

end LogicalStatement

namespace Check

theorem steps_append {source : Text} (h : LogicalStatement.Settled source) (more : Text) :
    steps (source ++ '\n' :: more) =
      steps source ++ (steps more).map (Step.renumber (· + source.physicalLines.length)) := by
  rw [steps, LogicalStatement.ofSource_append h, List.flatMap_append, flatMap_stepsOf_renumber]
  rfl

/-- Without the blocks left open, the diagnostics of a program are those of its steps. -/
theorem filter_check (strictness : Strictness) (source : Text) :
    (check strictness source).1.filter
        (fun d => d.message ≠ "Missing closing ']' for block opened here.".toList) =
      (State.start.run (.ofStrictness strictness) (steps source)).1.map Finding.diagnostic := by
  rw [State.check_fst, List.filter_append, List.filter_eq_self.mpr, List.filter_eq_nil_iff.mpr, List.append_nil]
  · intro d hd hMessage
    obtain ⟨f, hFinding, rfl⟩ := List.mem_map.mp hd
    exact of_decide_eq_true hMessage (State.message_of_mem_unclosed hFinding)
  · intro d hd
    obtain ⟨f, hFinding, rfl⟩ := List.mem_map.mp hd
    exact decide_eq_true (State.message_ne_of_mem_run hFinding)

end Check

/-- A text behind a program whose last statement is closed has its own statements, further down, and takes back
nothing of what the program was found to be but the blocks that it left open. -/
theorem check_append {source : Text} (h : LogicalStatement.Settled source) (more : Text) :
    LogicalStatement.ofSource (source ++ '\n' :: more) =
      LogicalStatement.ofSource source ++
        (LogicalStatement.ofSource more).map (LogicalStatement.renumber (· + source.physicalLines.length)) ∧
    ∀ strictness, ((check strictness source).1.filter
        fun d => d.message ≠ "Missing closing ']' for block opened here.".toList) <+:
      (check strictness (source ++ '\n' :: more)).1 := by
  refine ⟨LogicalStatement.ofSource_append h more, ?_⟩
  intro strictness
  rw [filter_check, State.check_fst, steps_append h, State.run_append, List.map_append, List.append_assoc]
  exact List.prefix_append _ _

/-- A program with an open block and an unknown name, and a text that closes the block. -/
theorem check_append_closer :
    LogicalStatement.Settled "PADAM a:ANKHE;\nELAITHE (a == b) [".toList ∧
      [⟨2, "Invalid condition in ELAITHE.".toList⟩] <+:
        (check .strict ("PADAM a:ANKHE;\nELAITHE (a == b) [".toList ++ '\n' :: "]\na = c;".toList)).1 := by
  have hSettled : LogicalStatement.Settled "PADAM a:ANKHE;\nELAITHE (a == b) [".toList := by decide +kernel
  have hFirst : ((check .strict "PADAM a:ANKHE;\nELAITHE (a == b) [".toList).1.filter
      fun d => d.message ≠ "Missing closing ']' for block opened here.".toList) =
        [⟨2, "Invalid condition in ELAITHE.".toList⟩] := by
    decide +kernel
  have hPrefix := (check_append hSettled "]\na = c;".toList).2 .strict
  rw [hFirst] at hPrefix
  exact ⟨hSettled, hPrefix⟩

end LessonCheck
