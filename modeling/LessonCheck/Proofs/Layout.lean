import LessonCheck.CodeLine
import LessonCheck.Proofs.Text.Trim

/-!
# Layout

Blanks in front of a line, blanks behind it, a comment at its end, blank lines and lines of comment are
layout. A line whose quotes are closed and that has no hash sign outside them comes back from any layout
unchanged, and the lines of layout alone leave nothing.
-/

namespace LessonCheck.CodeLine

open Text

/-- No comment starts in the text, and its quotes are closed: what follows is read as if it stood alone. -/
def Whole (t : Text) : Prop := ∀ r, dropComment false (t ++ r) = t ++ dropComment false r

theorem Whole.append {s t : Text} (hs : Whole s) (ht : Whole t) : Whole (s ++ t) := by
  intro r
  rw [List.append_assoc, hs, ht, List.append_assoc]

def isPlain (c : Char) : Bool := c != '"' && c != '#'

theorem whole_of_plain {t : Text} (h : t.all isPlain = true) : Whole t := by
  intro r
  induction t with
  | nil => rfl
  | cons c t ih =>
    obtain ⟨hPlain, hRest⟩ := Bool.and_eq_true _ _ |>.mp h
    obtain ⟨hQuote, hHash⟩ : c ≠ '"' ∧ c ≠ '#' := by simpa [isPlain] using hPlain
    rw [List.cons_append, dropComment, if_neg hQuote, if_neg (fun hComment => hHash hComment.1), ih hRest]
    rfl

theorem dropComment_quoted {body : Text} (h : '"' ∉ body) (r : Text) :
    dropComment true (body ++ '"' :: r) = body ++ '"' :: dropComment false r := by
  induction body with
  | nil => rfl
  | cons c body ih =>
    rw [List.mem_cons, not_or] at h
    obtain ⟨hQuote, hRest⟩ := h
    rw [List.cons_append, dropComment, if_neg (Ne.symm hQuote), if_neg (by simp), ih hRest]
    rfl

theorem whole_quoted {body : Text} (h : '"' ∉ body) : Whole ('"' :: (body ++ ['"'])) := by
  intro r
  have hBody := dropComment_quoted h r
  rw [List.cons_append, List.append_assoc, List.singleton_append, dropComment, if_pos rfl]
  rw [Bool.not_false, hBody, List.cons_append, List.append_assoc, List.singleton_append]

/-! ## Layout around a line -/

/-- Blanks, and then perhaps a comment. -/
inductive Filler : Text → Prop
  | blanks {w : Text} (hBlank : AllBlank w) : Filler w
  | comment {w : Text} (hBlank : AllBlank w) (remark : Text) : Filler (w ++ '#' :: remark)

theorem dropComment_allBlank {w : Text} (h : AllBlank w) (quoted : Bool) (r : Text) :
    dropComment quoted (w ++ r) = w ++ dropComment quoted r := by
  induction w with
  | nil => rfl
  | cons c w ih =>
    have hc : isBlank c = true := h c List.mem_cons_self
    have hQuote : c ≠ '"' := by
      rintro rfl
      cases hc
    have hHash : c ≠ '#' := by
      rintro rfl
      cases hc
    rw [List.cons_append, dropComment, if_neg hQuote, if_neg (fun hComment => hHash hComment.1),
      ih fun d hd => h d (List.mem_cons_of_mem _ hd)]
    rfl

theorem allBlank_dropComment {w : Text} (h : Filler w) : AllBlank (dropComment false w) := by
  cases h with
  | blanks hBlank =>
    have hDrop := dropComment_allBlank hBlank false []
    rw [List.append_nil] at hDrop
    rw [hDrop]
    simpa [dropComment] using hBlank
  | comment hBlank remark =>
    rw [dropComment_allBlank hBlank]
    simpa [dropComment] using hBlank

theorem dropComment_append_of_allBlank {w : Text} (hw : AllBlank w) (quoted : Bool) (t : Text) :
    ∃ v, AllBlank v ∧ dropComment quoted (t ++ w) = dropComment quoted t ++ v := by
  induction t generalizing quoted with
  | nil =>
    refine ⟨w, hw, ?_⟩
    have hDrop := dropComment_allBlank hw quoted []
    rw [List.append_nil] at hDrop
    rw [List.nil_append, hDrop]
    simp [dropComment]
  | cons c t ih =>
    by_cases hQuote : c = '"'
    · obtain ⟨v, hv, hDrop⟩ := ih (!quoted)
      exact ⟨v, hv, by simp only [List.cons_append, dropComment, if_pos hQuote, hDrop]⟩
    · by_cases hHash : c = '#' ∧ quoted = false
      · exact ⟨[], allBlank_nil, by simp [dropComment, hHash]⟩
      · obtain ⟨v, hv, hDrop⟩ := ih quoted
        exact ⟨v, hv, by simp only [List.cons_append, dropComment, if_neg hQuote, if_neg hHash, hDrop]⟩

theorem clean_eq_trimEnd (t : Text) : clean t = trimEnd (dropComment false (trimStart t)) := by
  obtain ⟨w, hw, hEnd⟩ := exists_trimEnd_append (trimStart t)
  obtain ⟨v, hv, hDrop⟩ := dropComment_append_of_allBlank hw false (trimEnd (trimStart t))
  rw [← hEnd] at hDrop
  rw [hDrop, trimEnd_append_of_allBlank hv]
  rfl

theorem clean_of_filler {w : Text} (h : Filler w) : clean w = [] := by
  have hNil : ∀ v, AllBlank v → trimEnd v = [] := fun v hv => trimEnd_append_of_allBlank hv []
  obtain ⟨u, hu, hStart⟩ := exists_append_trimStart w
  have hBlank := allBlank_dropComment h
  rw [hStart, dropComment_allBlank hu] at hBlank
  rw [clean_eq_trimEnd]
  exact hNil _ fun c hc => hBlank c (List.mem_append_right u hc)

theorem clean_line {indent l w : Text} (hIndent : AllBlank indent) (hFramed : Framed l) (hWhole : Whole l)
    (hFiller : Filler w) : clean (indent ++ l ++ w) = l := by
  obtain ⟨c, hFirst, hc⟩ := hFramed.first
  obtain ⟨d, hLast, hd⟩ := hFramed.last
  have hStart : trimStart (indent ++ l ++ w) = l ++ w := by
    rw [List.append_assoc, trimStart_append_of_allBlank hIndent]
    exact trimStart_of_head? (by simp [hFirst]) hc
  rw [clean_eq_trimEnd, hStart, hWhole, trimEnd_append_of_allBlank (allBlank_dropComment hFiller)]
  exact trimEnd_of_getLast? hLast hd

/-! ## Layout of a list of lines -/

/-- The physical lines are the lines with layout around and between them. -/
inductive LaidOut : List Text → List Text → Prop
  | nil : LaidOut [] []
  | filler {ls ps : List Text} {w : Text} (hFiller : Filler w) (rest : LaidOut ls ps) : LaidOut ls (w :: ps)
  | line {l : Text} {ls ps : List Text} {indent w : Text} (hIndent : AllBlank indent) (hFiller : Filler w)
      (rest : LaidOut ls ps) : LaidOut (l :: ls) ((indent ++ l ++ w) :: ps)

theorem LaidOut.bare {l : Text} {ls ps : List Text} (rest : LaidOut ls ps) : LaidOut (l :: ls) (l :: ps) := by
  have h := LaidOut.line (l := l) allBlank_nil (.blanks allBlank_nil) rest
  rwa [List.nil_append, List.append_nil] at h

theorem laidOut_self (ls : List Text) : LaidOut ls ls := by
  induction ls with
  | nil => exact .nil
  | cons l ls ih => exact ih.bare

theorem map_text_ofLines {ls ps : List Text} (h : LaidOut ls ps) (hLines : ∀ l ∈ ls, Framed l ∧ Whole l)
    (n : Nat) : (ofLines n ps).map CodeLine.text = ls := by
  induction h generalizing n with
  | nil => rfl
  | filler hFiller rest ih =>
    rw [ofLines, ofPhysical?, if_pos (clean_of_filler hFiller)]
    exact ih hLines (n + 1)
  | line hIndent hFiller rest ih =>
    obtain ⟨⟨hFramed, hWhole⟩, hRest⟩ := List.forall_mem_cons.mp hLines
    have hClean := clean_line hIndent hFramed hWhole hFiller
    rw [ofLines, ofPhysical?, hClean, if_neg hFramed.ne_nil, List.map_append, ih hRest (n + 1)]
    rfl

end LessonCheck.CodeLine
