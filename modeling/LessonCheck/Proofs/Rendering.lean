import LessonCheck.Proofs.Messages
import LessonCheck.Proofs.Places
import LessonCheck.Proofs.Text.Lines
import LessonCheck.Proofs.Text.Numeral
import LessonCheck.Rendering

/-!
# Diagnostics over their source lines

Line numbers come from counting newlines, and the renderer looks a line up among the lines of a file, where a
carriage return belongs to the ending and an empty last line does not count. The two agree up to blanks at the end
on every line that is not blank, and a diagnostic is always about such a line. So each diagnostic of a program is
rendered as two lines of text: what it says, and the line that it is about behind its number.
-/

namespace LessonCheck

namespace Text

theorem trimEnd_dropReturn (l : Text) : trimEnd (dropReturn l) = trimEnd l := by
  obtain ⟨w, hw, hEq⟩ := exists_dropReturn_append l
  have hTrim := trimEnd_append_of_allBlank hw (dropReturn l)
  rw [← hEq] at hTrim
  exact hTrim.symm

/-- A reader of a file finds every line that is not blank at its place. -/
theorem exists_lines_getElem? {t p : Text} {k : Nat} (hLine : (physicalLines t)[k]? = some p) (hBlank : ¬AllBlank p) :
    ∃ l, (lines t)[k]? = some l ∧ trimEnd l = trimEnd p := by
  have hne : p ≠ [] := by
    rintro rfl
    exact hBlank allBlank_nil
  have hSplit := List.dropLast_concat_getLast (physicalLines_ne_nil t)
  generalize (physicalLines t).dropLast = front at hSplit
  generalize (physicalLines t).getLast (physicalLines_ne_nil t) = last at hSplit
  have hLines : lines t = front.map dropReturn ++ [last].filter (· ≠ []) := by
    rw [lines, ← hSplit]
    simp
  rw [← hSplit] at hLine
  rcases Nat.lt_or_ge k front.length with hk | hk
  · rw [List.getElem?_append_left hk] at hLine
    refine ⟨dropReturn p, ?_, trimEnd_dropReturn p⟩
    rw [hLines, List.getElem?_append_left (by simpa using hk), List.getElem?_map, hLine]
    rfl
  · rw [List.getElem?_append_right hk] at hLine
    rw [List.getElem?_singleton] at hLine
    obtain ⟨hEnd, hLast⟩ := Option.ite_none_right_eq_some.mp hLine
    obtain rfl := Option.some.inj hLast
    refine ⟨last, ?_, rfl⟩
    rw [hLines, List.getElem?_append_right (by simpa using hk), List.length_map, hEnd]
    simp [hne]

end Text

namespace Rendering

open Text

theorem le_foldl_max {α : Type} (f : α → Nat) (l : List α) (w : Nat) :
    w ≤ l.foldl (fun w a => max w (f a)) w ∧ ∀ a ∈ l, f a ≤ l.foldl (fun w a => max w (f a)) w := by
  induction l generalizing w with
  | nil => exact ⟨Nat.le_refl w, by simp⟩
  | cons a l ih =>
    obtain ⟨hStart, hRest⟩ := ih (max w (f a))
    refine ⟨?_, List.forall_mem_cons.mpr ⟨?_, hRest⟩⟩
    · exact Nat.le_trans (Nat.le_max_left w (f a)) hStart
    · exact Nat.le_trans (Nat.le_max_right w (f a)) hStart

theorem length_ofNat_le_columnWidth {ds : List Diagnostic} {d : Diagnostic} (h : d ∈ ds) :
    (ofNat d.line).length ≤ columnWidth ds :=
  (le_foldl_max (fun d : Diagnostic => (ofNat d.line).length) ds 4).2 d h

/-- What is shown for a diagnostic: what it says, its line number in a column, and a line of the source. -/
structure Excerpt where
  heading : Text
  column : Text
  physical : Text

/-- The excerpt as two lines, the source line without the blanks at its end. -/
def Excerpt.rows (e : Excerpt) : List Text := [e.heading, e.column ++ " | ".toList ++ trimEnd e.physical]

/-- The excerpt shows the diagnostic over its own line of the source. -/
structure Shows (source : Text) (width : Nat) (d : Diagnostic) (e : Excerpt) : Prop where
  heading : e.heading = "line ".toList ++ ofNat d.line ++ ": ".toList ++ d.message
  aligned : ∃ indent, e.column = indent ++ ofNat d.line ∧ ∀ c ∈ indent, c = ' '
  width : e.column.length = width
  positive : 1 ≤ d.line
  physical : source.physicalLines[d.line - 1]? = some e.physical
  code : ¬AllBlank e.physical
  oneLine : '\n' ∉ d.message ∧ ∀ row ∈ e.rows, '\n' ∉ row

theorem newline_notMem_rows {width : Nat} {d : Diagnostic} {p : Text} (hMessage : '\n' ∉ d.message)
    (hPhysical : '\n' ∉ p) : ∀ row ∈ (⟨d.display, padded width d.line, p⟩ : Excerpt).rows, '\n' ∉ row := by
  have hDigits : '\n' ∉ ofNat d.line := fun hMem => by cases isDigit_of_mem_ofNat hMem
  have hSpaces (n : Nat) : '\n' ∉ List.replicate n ' ' := fun hMem => by cases List.eq_of_mem_replicate hMem
  have hTrimmed : '\n' ∉ trimEnd p := by
    obtain ⟨w, -, hEnd⟩ := exists_trimEnd_append p
    exact fun hMem => hPhysical (hEnd ▸ List.mem_append_left w hMem)
  refine List.forall_mem_cons.mpr ⟨?_, List.forall_mem_singleton.mpr ?_⟩
  · change '\n' ∉ "line ".toList ++ ofNat d.line ++ ": ".toList ++ d.message
    repeat' apply List.not_mem_append
    all_goals first | exact hDigits | exact hMessage | decide
  · change '\n' ∉ List.replicate _ ' ' ++ ofNat d.line ++ " | ".toList ++ trimEnd p
    repeat' apply List.not_mem_append
    all_goals first | exact hDigits | exact hTrimmed | exact hSpaces _ | decide

theorem exists_shows {source : Text} {width : Nat} {d : Diagnostic} {k : Nat} {p : Text}
    (hWidth : (ofNat d.line).length ≤ width) (hNumber : d.line = 1 + k)
    (hLine : source.physicalLines[k]? = some p) (hCode : ¬AllBlank p) (hMessage : '\n' ∉ d.message) :
    ∃ e, Shows source width d e ∧ entry source width d = endLines e.rows := by
  obtain ⟨l, hShown, hTrim⟩ := exists_lines_getElem? hLine hCode
  have hSource : sourceLine? source d.line = some l := by
    rw [hNumber, Nat.add_comm]
    exact hShown
  refine ⟨⟨d.display, padded width d.line, p⟩, ⟨rfl, ?_, ?_, ?_, ?_, hCode, hMessage, ?_⟩, ?_⟩
  · exact ⟨_, rfl, fun c hc => List.eq_of_mem_replicate hc⟩
  · rw [padded, List.length_leftpad, Nat.max_eq_left hWidth]
  · exact hNumber ▸ Nat.le_add_right 1 k
  · rwa [hNumber, Nat.add_sub_cancel_left]
  · have hPhysical : '\n' ∉ p := newline_notMem_of_mem_physicalLines (List.mem_of_getElem? hLine)
    exact newline_notMem_rows hMessage hPhysical
  · simp [entry, hSource, hTrim, Excerpt.rows]

theorem exists_forall₂_flatMap {α β γ : Type} {R : α → β → Prop} {f : α → List γ} {g : β → List γ} {l : List α}
    (h : ∀ a ∈ l, ∃ b, R a b ∧ f a = g b) : ∃ m, List.Forall₂ R l m ∧ l.flatMap f = m.flatMap g := by
  induction l with
  | nil => exact ⟨[], .nil, rfl⟩
  | cons a l ih =>
    obtain ⟨hFirst, hRest⟩ := List.forall_mem_cons.mp h
    obtain ⟨b, hb, hEq⟩ := hFirst
    obtain ⟨m, hm, hFlat⟩ := ih hRest
    exact ⟨b :: m, .cons hb hm, by rw [List.flatMap_cons, List.flatMap_cons, hEq, hFlat]⟩

/-- Every diagnostic of a program is rendered as two lines, in order, with one width for all numbers. -/
theorem exists_excerpts (strictness : Strictness) (source : Text) :
    ∃ width es, List.Forall₂ (Shows source width) (check strictness source).1 es ∧
      render source (check strictness source).1 = endLines (es.flatMap Excerpt.rows) := by
  have hShows : ∀ d ∈ (check strictness source).1,
      ∃ e, Shows source (columnWidth (check strictness source).1) d e ∧
        entry source (columnWidth (check strictness source).1) d = endLines e.rows := by
    intro d hd
    obtain ⟨s, hStatement, hLine⟩ := Check.exists_statement_of_mem_check hd
    obtain ⟨l, hCode, hNumber⟩ := LogicalStatement.exists_codeLine_of_mem_ofSource hStatement
    obtain ⟨k, p, hPhysical, hPlace, hFiller⟩ := CodeLine.exists_physical_of_mem_ofLines hCode
    have hMessage := (Check.message_of_mem_check hd).1
    exact exists_shows (length_ofNat_le_columnWidth hd) (by rw [← hLine, ← hNumber, hPlace]) hPhysical
      (fun hBlank => hFiller (.blanks hBlank)) hMessage
  obtain ⟨es, hForall, hRender⟩ := exists_forall₂_flatMap hShows
  refine ⟨_, es, hForall, hRender.trans ?_⟩
  rw [endLines, List.flatMap_assoc]
  rfl

end Rendering
end LessonCheck
