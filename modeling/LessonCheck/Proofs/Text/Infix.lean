import LessonCheck.Proofs.Text.Trim
import LessonCheck.Text.Line
import Mathlib.Data.List.Infix

/-!
# Texts within texts

What trimming, cutting and splitting leave stands in the text somewhere. The converse is for words that hold
neither the character between the parts nor a blank: if one stands in a text that was put together from parts, or
whose blanks were collapsed, it stands in one of the parts, or stood in the text before.
-/

namespace LessonCheck.Text

theorem isInfix_trim (t : Text) : trim t <:+: t := by
  obtain ⟨v, w, -, -, hEq⟩ := exists_blanks_around_trim t
  exact ⟨v, w, hEq.symm⟩

theorem exists_splitOnP_cons (p : Char → Bool) (t : Text) :
    ∃ first rest, t.splitOnP p = first :: rest ∧ first <+: t ∧ ∀ part ∈ rest, part <:+: t := by
  induction t with
  | nil => exact ⟨[], [], by simp [List.splitOnP_nil], List.nil_prefix, by simp⟩
  | cons c t ih =>
    obtain ⟨first, rest, hSplit, hFirst, hRest⟩ := ih
    have hMore : t <:+: c :: t := List.infix_cons (List.infix_refl t)
    have hLater : ∀ part ∈ rest, part <:+: c :: t := fun part hPart => (hRest part hPart).trans hMore
    rw [List.splitOnP_cons_eq_if_modifyHead, hSplit]
    split
    · refine ⟨[], first :: rest, rfl, List.nil_prefix, List.forall_mem_cons.mpr ⟨?_, hLater⟩⟩
      exact hFirst.isInfix.trans hMore
    · exact ⟨c :: first, rest, rfl, List.cons_prefix_cons.mpr ⟨rfl, hFirst⟩, hLater⟩

theorem infix_of_mem_splitOnP {p : Char → Bool} {t part : Text} (h : part ∈ t.splitOnP p) : part <:+: t := by
  obtain ⟨first, rest, hSplit, hFirst, hRest⟩ := exists_splitOnP_cons p t
  rw [hSplit] at h
  rcases List.mem_cons.mp h with rfl | h
  · exact hFirst.isInfix
  · exact hRest part h

theorem infix_of_mem_physicalLines {t l : Text} (h : l ∈ physicalLines t) : l <:+: t := infix_of_mem_splitOnP h

theorem infix_of_mem_words {t w : Text} (h : w ∈ words t) : w <:+: t :=
  infix_of_mem_splitOnP (List.mem_filter.mp h).1

/-- No word goes across a character that it does not hold. -/
theorem infix_append_cons_iff {c : Char} {w : Text} (hc : c ∉ w) {s t : Text} :
    w <:+: s ++ c :: t ↔ w <:+: s ∨ w <:+: t := by
  have hNone {v : Text} (hv : c ∉ v) (h : v <+: c :: t) : v = [] := by
    rcases List.prefix_cons_iff.mp h with rfl | ⟨u, rfl, -⟩
    · rfl
    · exact absurd List.mem_cons_self hv
  rw [List.infix_append_iff, List.infix_cons_iff]
  constructor
  · rintro (h | (h | h) | ⟨front, back, rfl, hFront, hBack⟩)
    · exact .inl h
    · exact .inl (hNone hc h ▸ List.nil_infix)
    · exact .inr h
    · obtain rfl := hNone (fun hMem => hc (List.mem_append_right front hMem)) hBack
      rw [List.append_nil]
      exact .inl hFront.isInfix
  · rintro (h | h)
    · exact .inl h
    · exact .inr (.inl (.inr h))

theorem exists_infix_of_infix_intercalate {c : Char} {w : Text} (hc : c ∉ w) (hne : w ≠ []) {parts : List Text}
    (h : w <:+: [c].intercalate parts) : ∃ part ∈ parts, w <:+: part := by
  induction parts with
  | nil => exact absurd (List.infix_nil.mp h) hne
  | cons part parts ih =>
    cases parts with
    | nil => exact ⟨part, List.mem_cons_self, by rwa [List.intercalate_singleton] at h⟩
    | cons next parts =>
      rw [List.intercalate_cons_cons, List.append_assoc, List.singleton_append] at h
      rcases (infix_append_cons_iff hc).mp h with h | h
      · exact ⟨part, List.mem_cons_self, h⟩
      · obtain ⟨other, hOther, hInfix⟩ := ih h
        exact ⟨other, List.mem_cons_of_mem part hOther, hInfix⟩

/-- Collapsing blanks brings no two words together. -/
theorem infix_of_infix_collapseBlanks {w t : Text} (hw : ∀ c ∈ w, isBlank c = false) (hne : w ≠ [])
    (h : w <:+: collapseBlanks t) : w <:+: t := by
  have hSpace : ' ' ∉ w := fun hMem => by cases hw ' ' hMem
  obtain ⟨part, hPart, hInfix⟩ := exists_infix_of_infix_intercalate hSpace hne h
  exact hInfix.trans (infix_of_mem_words hPart)

end LessonCheck.Text
