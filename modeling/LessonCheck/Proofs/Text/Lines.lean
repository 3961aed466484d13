import LessonCheck.Proofs.Text.Trim
import LessonCheck.Text.Line

/-!
# Texts put together from lines

A text may be put together from lines with a newline between each two of them or with one behind each. Either
way the lines come back, if none of them holds a newline. A reader of a file takes one carriage return off the
end of each line, which trimming would take off as well.
-/

namespace LessonCheck.Text

/-- Every line with a newline behind it. -/
def endLines (ls : List Text) : Text := ls.flatMap (· ++ ['\n'])

@[simp] theorem endLines_nil : endLines [] = [] := rfl

@[simp] theorem endLines_cons (l : Text) (ls : List Text) : endLines (l :: ls) = l ++ '\n' :: endLines ls := by
  simp [endLines]

@[simp] theorem endLines_append (ls ms : List Text) : endLines (ls ++ ms) = endLines ls ++ endLines ms :=
  List.flatMap_append

theorem newline_notMem_of_mem_physicalLines {t l : Text} (h : l ∈ physicalLines t) : '\n' ∉ l := by
  induction t generalizing l with
  | nil =>
    obtain rfl : l = [] := by simpa [physicalLines] using h
    exact List.not_mem_nil
  | cons c t ih =>
    obtain ⟨first, rest, hSplit⟩ := List.exists_cons_of_ne_nil (physicalLines_ne_nil t)
    have hTail : ∀ other ∈ first :: rest, '\n' ∉ other := fun other hOther => ih (by rwa [hSplit])
    obtain ⟨hFirst, hRest⟩ := List.forall_mem_cons.mp hTail
    have hLines : physicalLines (c :: t) =
        if c = '\n' then [] :: first :: rest else (c :: first) :: rest := by
      rw [← List.modifyHead_cons, ← hSplit]
      simp [physicalLines, List.splitOn, List.splitOnP_cons_eq_if_modifyHead]
    rw [hLines] at h
    split at h
    · rcases List.mem_cons.mp h with rfl | h
      · exact List.not_mem_nil
      · exact hTail l h
    · next hc =>
      rcases List.mem_cons.mp h with rfl | h
      · exact List.not_mem_cons_of_ne_of_not_mem (Ne.symm hc) hFirst
      · exact hRest l h

theorem physicalLines_append_cons (s t : Text) :
    physicalLines (s ++ '\n' :: t) = physicalLines s ++ physicalLines t :=
  List.splitOn_append_cons_self ..

theorem physicalLines_eq_singleton {l : Text} (h : '\n' ∉ l) : physicalLines l = [l] :=
  List.splitOn_eq_singleton h

theorem physicalLines_joinLines {ls : List Text} (h : ∀ l ∈ ls, '\n' ∉ l) (hne : ls ≠ []) :
    physicalLines (joinLines ls) = ls :=
  List.splitOn_intercalate '\n' h hne

theorem physicalLines_endLines {ls : List Text} (h : ∀ l ∈ ls, '\n' ∉ l) :
    physicalLines (endLines ls) = ls ++ [[]] := by
  induction ls with
  | nil => exact physicalLines_eq_singleton List.not_mem_nil
  | cons l ls ih =>
    obtain ⟨hFirst, hRest⟩ := List.forall_mem_cons.mp h
    rw [endLines_cons, physicalLines_append_cons, physicalLines_eq_singleton hFirst, ih hRest]
    rfl

theorem endLines_eq_joinLines_append {ls : List Text} (hne : ls ≠ []) : endLines ls = joinLines ls ++ ['\n'] := by
  induction ls with
  | nil => exact absurd rfl hne
  | cons l ls ih =>
    cases ls with
    | nil => simp [joinLines, List.intercalate_singleton]
    | cons m ms =>
      rw [endLines_cons, ih (by simp), joinLines, joinLines, List.intercalate_cons_cons]
      simp

/-- The physical lines of a text, all of them ended, are the text with one more newline. -/
theorem endLines_physicalLines (t : Text) : endLines (physicalLines t) = t ++ ['\n'] := by
  rw [endLines_eq_joinLines_append (physicalLines_ne_nil t), joinLines_physicalLines]

theorem lines_endLines {ls : List Text} (h : ∀ l ∈ ls, '\n' ∉ l) : lines (endLines ls) = ls.map dropReturn := by
  simp [lines, physicalLines_endLines h]

theorem count_newline_endLines {ls : List Text} (h : ∀ l ∈ ls, '\n' ∉ l) :
    (endLines ls).count '\n' = ls.length := by
  induction ls with
  | nil => rfl
  | cons l ls ih =>
    obtain ⟨hFirst, hRest⟩ := List.forall_mem_cons.mp h
    rw [endLines_cons, List.count_append, List.count_cons_self, List.count_eq_zero_of_not_mem hFirst, ih hRest]
    simp

/-! ## Line endings -/

theorem exists_dropReturn_append (l : Text) : ∃ w, AllBlank w ∧ l = dropReturn l ++ w := by
  unfold dropReturn
  split
  · next hReturn =>
    obtain ⟨r, rfl⟩ := List.getLast?_eq_some_iff.mp hReturn
    exact ⟨['\r'], by decide, by simp⟩
  · exact ⟨[], allBlank_nil, (List.append_nil l).symm⟩

theorem trim_dropReturn (l : Text) : trim (dropReturn l) = trim l := by
  obtain ⟨w, hw, hEq⟩ := exists_dropReturn_append l
  have hTrim := trim_append_of_allBlank hw (dropReturn l)
  rw [← hEq] at hTrim
  exact hTrim.symm

theorem trim_trimEnd (l : Text) : trim (trimEnd l) = trim l := by
  obtain ⟨w, hw, hEq⟩ := exists_trimEnd_append l
  have hTrim := trim_append_of_allBlank hw (trimEnd l)
  rw [← hEq] at hTrim
  exact hTrim.symm

end LessonCheck.Text
