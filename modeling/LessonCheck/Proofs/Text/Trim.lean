import LessonCheck.Text.Blank

/-!
# What trimming leaves

A text is framed if it is not empty and neither its first nor its last character is a blank. Trimming gives
nothing or a framed text, and a framed text is what trimming finds between any blanks. Every later fact on
trimming is one of these two.
-/

namespace LessonCheck.Text

def AllBlank (w : Text) : Prop := ∀ c ∈ w, isBlank c = true

instance (w : Text) : Decidable (AllBlank w) := decidable_of_iff (w.all isBlank = true) List.all_eq_true

structure Framed (t : Text) : Prop where
  first : ∃ c, t.head? = some c ∧ isBlank c = false
  last : ∃ c, t.getLast? = some c ∧ isBlank c = false

theorem allBlank_nil : AllBlank [] := by
  intro c hc
  cases hc

theorem AllBlank.append {v w : Text} (hv : AllBlank v) (hw : AllBlank w) : AllBlank (v ++ w) := by
  intro c hc
  rcases List.mem_append.mp hc with hc | hc
  · exact hv c hc
  · exact hw c hc

theorem Framed.ne_nil {t : Text} (h : Framed t) : t ≠ [] := by
  rintro rfl
  obtain ⟨c, hc, -⟩ := h.first
  cases hc

theorem framed_append {s t : Text} (hs : Framed s) (ht : Framed t) (m : Text) : Framed (s ++ m ++ t) := by
  obtain ⟨c, hFirst, hc⟩ := hs.first
  obtain ⟨d, hLast, hd⟩ := ht.last
  exact ⟨⟨c, by simp [hFirst], hc⟩, ⟨d, by simp [hLast], hd⟩⟩

theorem framed_singleton {c : Char} (hc : isBlank c = false) : Framed [c] := ⟨⟨c, rfl, hc⟩, ⟨c, rfl, hc⟩⟩

theorem framed_of_ends {c d : Char} {m : Text} (hc : isBlank c = false) (hd : isBlank d = false) :
    Framed (c :: (m ++ [d])) :=
  ⟨⟨c, rfl, hc⟩, ⟨d, by rw [← List.cons_append, List.getLast?_concat], hd⟩⟩

theorem trimStart_append_of_allBlank {w : Text} (hw : AllBlank w) (t : Text) :
    trimStart (w ++ t) = trimStart t :=
  List.dropWhile_append_of_pos hw

theorem trimStart_cons_of_not_blank {c : Char} (hc : isBlank c = false) (t : Text) :
    trimStart (c :: t) = c :: t :=
  List.dropWhile_cons_of_neg (by simp [hc])

theorem trimStart_of_head? {t : Text} {c : Char} (ht : t.head? = some c) (hc : isBlank c = false) :
    trimStart t = t := by
  obtain ⟨r, rfl⟩ := List.head?_eq_some_iff.mp ht
  exact trimStart_cons_of_not_blank hc r

theorem exists_append_trimStart (t : Text) : ∃ w, AllBlank w ∧ t = w ++ trimStart t := by
  refine ⟨t.takeWhile isBlank, ?_, List.takeWhile_append_dropWhile.symm⟩
  intro c hc
  exact List.all_eq_true.mp List.all_takeWhile c hc

theorem allBlank_of_trimStart_eq_nil {t : Text} (h : trimStart t = []) : AllBlank t := by
  obtain ⟨w, hw, hEq⟩ := exists_append_trimStart t
  rwa [hEq, h, List.append_nil]

theorem trimStart_append_of_ne_nil {t : Text} (h : trimStart t ≠ []) (s : Text) :
    trimStart (t ++ s) = trimStart t ++ s := by
  obtain ⟨w, hw, hEq⟩ := exists_append_trimStart t
  obtain ⟨c, r, hStart⟩ := List.exists_cons_of_ne_nil h
  rw [hStart] at hEq ⊢
  rw [hEq, List.append_assoc, trimStart_append_of_allBlank hw, List.cons_append,
    trimStart_cons_of_not_blank (isBlank_eq_false_of_trimStart hStart)]

theorem trimEnd_append_of_allBlank {w : Text} (hw : AllBlank w) (t : Text) :
    trimEnd (t ++ w) = trimEnd t := by
  unfold trimEnd
  rw [List.reverse_append, List.dropWhile_append_of_pos]
  intro c hc
  exact hw c (List.mem_reverse.mp hc)

theorem trimEnd_of_getLast? {t : Text} {c : Char} (ht : t.getLast? = some c) (hc : isBlank c = false) :
    trimEnd t = t := by
  obtain ⟨r, rfl⟩ := List.getLast?_eq_some_iff.mp ht
  simp [trimEnd, hc]

theorem exists_trimEnd_append (t : Text) : ∃ w, AllBlank w ∧ t = trimEnd t ++ w := by
  obtain ⟨w, hw, hEq⟩ := exists_append_trimStart t.reverse
  refine ⟨w.reverse, fun c hc => hw c (List.mem_reverse.mp hc), ?_⟩
  have hRev := congrArg List.reverse hEq
  rwa [List.reverse_reverse, List.reverse_append] at hRev

theorem trimEnd_getLast? {t : Text} (h : trimEnd t ≠ []) :
    ∃ c, (trimEnd t).getLast? = some c ∧ isBlank c = false := by
  have hRev : trimStart t.reverse ≠ [] := by
    intro hNil
    exact h (congrArg List.reverse hNil)
  obtain ⟨c, r, hEq⟩ := List.exists_cons_of_ne_nil hRev
  refine ⟨c, ?_, isBlank_eq_false_of_trimStart hEq⟩
  have hEnd : trimEnd t = (c :: r).reverse := congrArg List.reverse hEq
  simp [hEnd]

theorem trim_append_of_framed {v m w : Text} (hv : AllBlank v) (hm : Framed m) (hw : AllBlank w) :
    trim (v ++ m ++ w) = m := by
  obtain ⟨c, hFirst, hc⟩ := hm.first
  obtain ⟨d, hLast, hd⟩ := hm.last
  have hHead : (m ++ w).head? = some c := by simp [hFirst]
  rw [trim, List.append_assoc, trimStart_append_of_allBlank hv, trimStart_of_head? hHead hc,
    trimEnd_append_of_allBlank hw, trimEnd_of_getLast? hLast hd]

theorem trim_of_framed {m : Text} (hm : Framed m) : trim m = m := by
  simpa using trim_append_of_framed allBlank_nil hm allBlank_nil

theorem trim_of_allBlank {w : Text} (hw : AllBlank w) : trim w = [] := by
  have h := trimStart_append_of_allBlank hw []
  rw [List.append_nil, trimStart_nil] at h
  rw [trim, h]
  rfl

/-- The text is its trimmed part between blanks. -/
theorem exists_blanks_around_trim (t : Text) : ∃ v w, AllBlank v ∧ AllBlank w ∧ t = v ++ trim t ++ w := by
  obtain ⟨v, hv, hStart⟩ := exists_append_trimStart t
  obtain ⟨w, hw, hEnd⟩ := exists_trimEnd_append (trimStart t)
  refine ⟨v, w, hv, hw, ?_⟩
  rw [List.append_assoc, trim, ← hEnd, ← hStart]

theorem allBlank_of_trim_eq_nil {t : Text} (h : trim t = []) : AllBlank t := by
  obtain ⟨v, w, hv, hw, hEq⟩ := exists_blanks_around_trim t
  rw [hEq, h, List.append_nil]
  exact hv.append hw

theorem framed_trim {t : Text} (h : trim t ≠ []) : Framed (trim t) := by
  refine ⟨?_, trimEnd_getLast? h⟩
  obtain ⟨w, -, hEnd⟩ := exists_trimEnd_append (trimStart t)
  obtain ⟨c, r, hEq⟩ := List.exists_cons_of_ne_nil h
  refine ⟨c, congrArg List.head? hEq, ?_⟩
  have hStart : trimStart t = c :: (r ++ w) := by rw [hEnd, show trimEnd (trimStart t) = c :: r from hEq]; rfl
  exact isBlank_eq_false_of_trimStart hStart

theorem framed_of_trim_eq {t : Text} (h : trim t = t) (ht : t ≠ []) : Framed t := by
  rw [← h] at ht ⊢
  exact framed_trim ht

theorem trim_eq_nil_or_framed (t : Text) : trim t = [] ∨ Framed (trim t) :=
  (Classical.em (trim t = [])).imp_right framed_trim

@[simp] theorem trim_trim (t : Text) : trim (trim t) = trim t := by
  rcases trim_eq_nil_or_framed t with h | h
  · rw [h, trim_nil]
  · exact trim_of_framed h

theorem trim_append_of_allBlank {w : Text} (hw : AllBlank w) (t : Text) : trim (t ++ w) = trim t := by
  obtain ⟨u, v, hu, hv, hTrim⟩ := exists_blanks_around_trim t
  rcases trim_eq_nil_or_framed t with hNil | hFramed
  · rw [hNil, List.append_nil] at hTrim
    have hAll : AllBlank (t ++ w) := by
      rw [hTrim]
      exact (hu.append hv).append hw
    rw [trim_of_allBlank hAll, hNil]
  · have hBehind := trim_append_of_framed hu hFramed (hv.append hw)
    rw [← List.append_assoc, ← hTrim] at hBehind
    exact hBehind

theorem trim_allBlank_append {w : Text} (hw : AllBlank w) (t : Text) : trim (w ++ t) = trim t := by
  rw [trim, trimStart_append_of_allBlank hw, ← trim]

theorem trim_cons_of_blank {c : Char} (hc : isBlank c = true) (t : Text) : trim (c :: t) = trim t := by
  have hBlank : AllBlank [c] := by
    intro d hd
    rwa [List.mem_singleton.mp hd]
  exact trim_allBlank_append hBlank t

theorem eq_nil_of_framed_append (front : Text) {w : Text} (h : Framed (front ++ w)) (hw : AllBlank w) :
    w = [] := by
  obtain ⟨c, hLast, hc⟩ := h.last
  rcases List.eq_nil_or_concat w with hNil | ⟨u, d, rfl⟩
  · exact hNil
  · have hBlank : isBlank d = true := hw d (by simp)
    have hEq : d = c := by simpa using hLast
    rw [hEq, hc] at hBlank
    cases hBlank

/-- Behind the front of a framed text nothing has to be trimmed at the end. -/
theorem exists_append_trim_of_framed {front back : Text} (h : Framed (front ++ back)) :
    ∃ v, AllBlank v ∧ back = v ++ trim back := by
  obtain ⟨v, w, hv, hw, hEq⟩ := exists_blanks_around_trim back
  have hNil : w = [] := by
    apply eq_nil_of_framed_append (front ++ (v ++ trim back)) _ hw
    rwa [List.append_assoc, ← hEq]
  rw [hNil, List.append_nil] at hEq
  exact ⟨v, hv, hEq⟩

theorem trim_back_of_framed {front back : Text} (h : Framed (front ++ back)) :
    back = [] ∨ Framed (trim back) ∧ ∃ v, back = v ++ trim back := by
  obtain ⟨v, hv, hEq⟩ := exists_append_trim_of_framed h
  rcases trim_eq_nil_or_framed back with hTrim | hTrim
  · rw [hTrim, List.append_nil] at hEq
    rw [hEq] at h ⊢
    exact .inl (eq_nil_of_framed_append front h hv)
  · exact .inr ⟨hTrim, v, hEq⟩

end LessonCheck.Text
