import LessonCheck.Proofs.Text.Trim

/-!
# Words and collapsed blanks

The words of two texts with a blank between them are the words of the first and then those of the second.
Collapsing keeps what stands at the two ends of a text, if it is not blank, and leaves no newline.
-/

namespace LessonCheck.Text

theorem words_append_cons_of_blank {c : Char} (hc : isBlank c = true) (s t : Text) :
    words (s ++ c :: t) = words s ++ words t := by
  rw [words, List.splitOnP_append_cons s t hc, List.filter_append]
  rfl

theorem words_nil : words [] = [] := by
  rw [words, List.splitOnP_nil]
  rfl

theorem words_cons_of_blank {c : Char} (hc : isBlank c = true) (t : Text) : words (c :: t) = words t := by
  rw [← List.nil_append (c :: t), words_append_cons_of_blank hc, words_nil, List.nil_append]

theorem words_of_allBlank {w : Text} (h : AllBlank w) : words w = [] := by
  induction w with
  | nil => exact words_nil
  | cons c w ih =>
    obtain ⟨hc, hw⟩ := List.forall_mem_cons.mp h
    rw [words_cons_of_blank hc, ih hw]

theorem words_of_solid {w : Text} (hne : w ≠ []) (h : ∀ c ∈ w, isBlank c = false) : words w = [w] := by
  rw [words, List.splitOnP_eq_singleton h]
  simp [hne]

theorem collapseBlanks_of_solid {w : Text} (hne : w ≠ []) (h : ∀ c ∈ w, isBlank c = false) :
    collapseBlanks w = w := by
  rw [collapseBlanks, words_of_solid hne h, List.intercalate_singleton]

theorem collapseBlanks_append_blank {w t : Text} (hne : w ≠ []) (h : ∀ c ∈ w, isBlank c = false)
    (ht : words t ≠ []) : collapseBlanks (w ++ ' ' :: t) = w ++ ' ' :: collapseBlanks t := by
  rw [collapseBlanks, words_append_cons_of_blank (by decide), words_of_solid hne h, List.singleton_append,
    List.intercalate_cons_of_ne_nil ht, List.append_assoc]
  rfl

/-! ## The ends of a text -/

theorem exists_words_cons {c : Char} (hc : isBlank c = false) (t : Text) :
    ∃ w ws, words (c :: t) = (c :: w) :: ws := by
  obtain ⟨w, ws, hSplit⟩ := List.exists_cons_of_ne_nil (List.splitOnP_ne_nil isBlank t)
  refine ⟨w, ws.filter (· ≠ []), ?_⟩
  rw [words, List.splitOnP_cons_eq_if_modifyHead, hc, hSplit]
  simp

theorem exists_splitOnP_concat {c : Char} (hc : isBlank c = false) (t : Text) :
    ∃ ws w, (t ++ [c]).splitOnP isBlank = ws ++ [w ++ [c]] := by
  induction t with
  | nil => exact ⟨[], [], by simp [List.splitOnP_cons_eq_if_modifyHead, hc, List.splitOnP_nil]⟩
  | cons d t ih =>
    obtain ⟨ws, w, hSplit⟩ := ih
    rw [List.cons_append, List.splitOnP_cons_eq_if_modifyHead, hSplit]
    cases hd : isBlank d with
    | true => exact ⟨[] :: ws, w, by simp⟩
    | false =>
      cases ws with
      | nil => exact ⟨[], d :: w, by simp⟩
      | cons u us => exact ⟨(d :: u) :: us, w, by simp⟩

theorem exists_intercalate_concat (ws : List Text) (w : Text) (c : Char) :
    ∃ m, [' '].intercalate (ws ++ [w ++ [c]]) = m ++ [c] := by
  cases ws with
  | nil => exact ⟨w, by rw [List.nil_append, List.intercalate_singleton]⟩
  | cons u us =>
    induction us generalizing u with
    | nil => exact ⟨u ++ ' ' :: w, by simp [List.intercalate_cons_cons, List.intercalate_singleton]⟩
    | cons v vs ih =>
      obtain ⟨m, hm⟩ := ih v
      refine ⟨u ++ ' ' :: m, ?_⟩
      rw [List.cons_append, List.intercalate_cons_of_ne_nil (by simp), hm]
      simp

theorem words_ne_nil_of_framed {t : Text} (h : Framed t) : words t ≠ [] := by
  obtain ⟨c, hFirst, hc⟩ := h.first
  obtain ⟨r, rfl⟩ := List.head?_eq_some_iff.mp hFirst
  obtain ⟨w, ws, hWords⟩ := exists_words_cons hc r
  rw [hWords]
  exact List.cons_ne_nil _ _

theorem exists_collapseBlanks_ends {c d : Char} (hc : isBlank c = false) (hd : isBlank d = false) (t : Text) :
    ∃ m, collapseBlanks (c :: (t ++ [d])) = c :: (m ++ [d]) := by
  obtain ⟨ws, w, hSplit⟩ := exists_splitOnP_concat hd t
  rw [collapseBlanks, words, List.splitOnP_cons_eq_if_modifyHead, hc, if_neg Bool.false_ne_true, hSplit]
  cases ws with
  | nil => exact ⟨w, by simp [List.intercalate_singleton]⟩
  | cons v vs =>
    obtain ⟨m, hm⟩ := exists_intercalate_concat (vs.filter (· ≠ [])) w d
    have hne : vs.filter (· ≠ []) ++ [w ++ [d]] ≠ [] := by simp
    have hWords : ((v :: vs ++ [w ++ [d]]).modifyHead (c :: ·)).filter (· ≠ []) =
        (c :: v) :: (vs.filter (· ≠ []) ++ [w ++ [d]]) := by simp
    refine ⟨v ++ ' ' :: m, ?_⟩
    rw [hWords, List.intercalate_cons_of_ne_nil hne, hm]
    simp

/-! ## The characters of a text -/

theorem isBlank_eq_false_of_mem_splitOnP {t w : Text} (hw : w ∈ t.splitOnP isBlank) :
    ∀ c ∈ w, isBlank c = false := by
  induction t generalizing w with
  | nil =>
    obtain rfl : w = [] := by simpa [List.splitOnP_nil] using hw
    intro c hc
    cases hc
  | cons d t ih =>
    obtain ⟨u, us, hSplit⟩ := List.exists_cons_of_ne_nil (List.splitOnP_ne_nil isBlank t)
    have hFirst := ih (w := u) (by rw [hSplit]; exact List.mem_cons_self)
    rw [List.splitOnP_cons_eq_if_modifyHead, hSplit] at hw
    cases hd : isBlank d with
    | true =>
      rw [hd, if_pos rfl] at hw
      rcases List.mem_cons.mp hw with rfl | hw
      · intro c hc
        cases hc
      · exact ih (by rwa [hSplit])
    | false =>
      rw [hd, if_neg Bool.false_ne_true, List.modifyHead_cons] at hw
      rcases List.mem_cons.mp hw with rfl | hw
      · exact List.forall_mem_cons.mpr ⟨hd, hFirst⟩
      · exact ih (by rw [hSplit]; exact List.mem_cons_of_mem u hw)

theorem eq_or_mem_of_mem_intercalate {ws : List Text} {c : Char} (h : c ∈ [' '].intercalate ws) :
    c = ' ' ∨ ∃ w ∈ ws, c ∈ w := by
  induction ws with
  | nil => cases h
  | cons w ws ih =>
    cases ws with
    | nil => exact .inr ⟨w, by simp, by simpa [List.intercalate_singleton] using h⟩
    | cons u us =>
      rw [List.intercalate_cons_cons, List.mem_append, List.mem_append] at h
      rcases h with (h | h) | h
      · exact .inr ⟨w, List.mem_cons_self, h⟩
      · exact .inl (List.mem_singleton.mp h)
      · exact (ih h).imp_right fun ⟨v, hv, hc⟩ => ⟨v, List.mem_cons_of_mem w hv, hc⟩

theorem newline_notMem_collapseBlanks (t : Text) : '\n' ∉ collapseBlanks t := by
  intro hMem
  rcases eq_or_mem_of_mem_intercalate hMem with hSpace | ⟨w, hw, hc⟩
  · cases hSpace
  · have hSolid := isBlank_eq_false_of_mem_splitOnP (List.mem_filter.mp hw).1 _ hc
    cases hSolid

/-! ## The parts of a text -/

/-- A character in front of a text that starts with no blank belongs to the first word. -/
theorem words_cons_of_solid {c d : Char} (hc : isBlank c = false) (hd : isBlank d = false) (t : Text) :
    ∃ w ws, words (d :: t) = w :: ws ∧ words (c :: d :: t) = (c :: w) :: ws := by
  obtain ⟨w, ws, hSplit⟩ := List.exists_cons_of_ne_nil (List.splitOnP_ne_nil isBlank t)
  refine ⟨d :: w, ws.filter (· ≠ []), ?_, ?_⟩
  · simp [words, List.splitOnP_cons_eq_if_modifyHead, hd, hSplit]
  · simp [words, List.splitOnP_cons_eq_if_modifyHead, hc, hd, hSplit]

theorem intercalate_cons_cons_char (c : Char) (w : Text) (ws : List Text) :
    [' '].intercalate ((c :: w) :: ws) = c :: [' '].intercalate (w :: ws) := by
  cases ws with
  | nil => simp [List.intercalate_singleton]
  | cons u us => simp [List.intercalate_cons_cons]

/-- A character that is no blank stays; the blanks behind it become one, if a word follows them. -/
theorem collapseBlanks_cons_of_solid {c : Char} (hc : isBlank c = false) (t : Text) :
    collapseBlanks (c :: t) =
      c :: ((if t.head?.any isBlank ∧ words t ≠ [] then [' '] else []) ++ collapseBlanks t) := by
  cases t with
  | nil => simp [collapseBlanks, words, List.splitOnP_cons_eq_if_modifyHead, hc, List.splitOnP_nil]
  | cons d t =>
    cases hd : isBlank d with
    | true =>
      have hWords : words (c :: d :: t) = [c] :: words t := by
        rw [← List.singleton_append, words_append_cons_of_blank hd, words_of_solid (List.cons_ne_nil c [])]
        · rfl
        · simpa using hc
      simp only [collapseBlanks, hWords, words_cons_of_blank hd, List.head?_cons, Option.any_some, hd, true_and]
      by_cases hNone : words t = []
      · simp [hNone, List.intercalate_singleton]
      · rw [List.intercalate_cons_of_ne_nil hNone, if_pos hNone]
        simp
    | false =>
      obtain ⟨w, ws, hWords, hMore⟩ := words_cons_of_solid hc hd t
      simp only [collapseBlanks, hMore, hWords, intercalate_cons_cons_char, List.head?_cons, Option.any_some, hd,
        Bool.false_eq_true, false_and, if_false, List.nil_append]

theorem collapseBlanks_cons_of_blank {c : Char} (hc : isBlank c = true) (t : Text) :
    collapseBlanks (c :: t) = collapseBlanks t := by
  rw [collapseBlanks, words_cons_of_blank hc, ← collapseBlanks]

theorem collapseBlanks_eq_nil_iff {t : Text} : collapseBlanks t = [] ↔ words t = [] := by
  constructor
  · intro h
    cases hWords : words t with
    | nil => rfl
    | cons w ws =>
      have hMem : w ∈ words t := by rw [hWords]; exact List.mem_cons_self
      have hne : w ≠ [] := by simpa using (List.mem_filter.mp hMem).2
      obtain ⟨c, u, rfl⟩ := List.exists_cons_of_ne_nil hne
      rw [collapseBlanks, hWords, intercalate_cons_cons_char] at h
      cases h
  · intro h
    rw [collapseBlanks, h]
    rfl

/-- One more word in front of a text whose blanks are collapsed. -/
theorem collapseBlanks_cons_word {w t : Text} (hne : w ≠ []) (hSolid : ∀ c ∈ w, isBlank c = false)
    (ht : collapseBlanks t = t) (htne : t ≠ []) : collapseBlanks (w ++ ' ' :: t) = w ++ ' ' :: t := by
  have hWords : words t ≠ [] := by
    rw [Ne, ← collapseBlanks_eq_nil_iff, ht]
    exact htne
  rw [collapseBlanks_append_blank hne hSolid hWords, ht]

theorem collapseBlanks_pair {c d : Char} (hc : isBlank c = false) (hd : isBlank d = false) :
    collapseBlanks [c, ' ', d] = [c, ' ', d] := by
  have hLast := collapseBlanks_of_solid (w := [d]) (by simp) (List.forall_mem_singleton.mpr hd)
  exact collapseBlanks_cons_word (w := [c]) (by simp) (List.forall_mem_singleton.mpr hc) hLast (by simp)

theorem allBlank_space : AllBlank [' '] := by decide

/-- Whatever the condition for it, a gap of one blank or none is all blank. -/
theorem allBlank_ite (p : Prop) [Decidable p] : AllBlank (if p then [' '] else []) := by
  split
  · exact allBlank_space
  · exact allBlank_nil

theorem collapseBlanks_eq_nil_or_framed (t : Text) : collapseBlanks t = [] ∨ Framed (collapseBlanks t) := by
  induction t with
  | nil => exact .inl (collapseBlanks_eq_nil_iff.mpr words_nil)
  | cons c t ih =>
    cases hc : isBlank c with
    | true => rwa [collapseBlanks_cons_of_blank hc]
    | false =>
      right
      have hFirst : Framed [c] := framed_singleton hc
      rw [collapseBlanks_cons_of_solid hc]
      rcases ih with hNil | hFramed
      · simpa [hNil, collapseBlanks_eq_nil_iff.mp hNil] using hFirst
      · exact framed_append hFirst hFramed _

/-- Collapsing around a character that is no blank: what stands before it and behind it collapses apart, with at
most one blank left on each side. -/
theorem exists_collapseBlanks_append_cons {c : Char} (hc : isBlank c = false) (s t : Text) :
    ∃ v w, AllBlank v ∧ AllBlank w ∧
      collapseBlanks (s ++ c :: t) = collapseBlanks s ++ v ++ c :: (w ++ collapseBlanks t) := by
  induction s with
  | nil =>
    exact ⟨[], _, allBlank_nil, allBlank_ite _, collapseBlanks_cons_of_solid hc t⟩
  | cons d s ih =>
    obtain ⟨v, w, hv, hw, hEq⟩ := ih
    cases hd : isBlank d with
    | true =>
      refine ⟨v, w, hv, hw, ?_⟩
      rw [List.cons_append, collapseBlanks_cons_of_blank hd, collapseBlanks_cons_of_blank hd, hEq]
    | false =>
      have hWords : words (s ++ c :: t) ≠ [] := by
        rw [Ne, ← collapseBlanks_eq_nil_iff, hEq]
        simp
      rw [List.cons_append, collapseBlanks_cons_of_solid hd, collapseBlanks_cons_of_solid hd, hEq]
      by_cases hNone : words s = []
      · refine ⟨(if (s ++ c :: t).head?.any isBlank then [' '] else []) ++ v, w, (allBlank_ite _).append hv, hw, ?_⟩
        simp only [collapseBlanks_eq_nil_iff.mpr hNone, hNone, ne_eq, not_true_eq_false, and_false, if_false, hWords,
          not_false_eq_true, and_true, List.append_nil, List.cons_append, List.nil_append, List.append_assoc]
      · have hHead : (s ++ c :: t).head? = s.head? := by
          cases s with
          | nil => exact absurd words_nil hNone
          | cons e s => rfl
        refine ⟨v, w, hv, hw, ?_⟩
        simp only [hHead, hWords, hNone, ne_eq, not_false_eq_true, and_true, List.cons_append,
          List.append_assoc]

theorem mem_of_mem_collapseBlanks {c : Char} (hc : isBlank c = false) {t : Text} (h : c ∈ collapseBlanks t) :
    c ∈ t := by
  induction t with
  | nil => cases h
  | cons d t ih =>
    cases hd : isBlank d with
    | true =>
      rw [collapseBlanks_cons_of_blank hd] at h
      exact List.mem_cons_of_mem d (ih h)
    | false =>
      rw [collapseBlanks_cons_of_solid hd, List.mem_cons, List.mem_append] at h
      rcases h with rfl | h | h
      · exact List.mem_cons_self
      · rw [allBlank_ite _ c h] at hc
        cases hc
      · exact List.mem_cons_of_mem d (ih h)

theorem trim_collapseBlanks (t : Text) : trim (collapseBlanks t) = collapseBlanks t := by
  rcases collapseBlanks_eq_nil_or_framed t with hNil | hFramed
  · rw [hNil, trim_nil]
  · exact trim_of_framed hFramed

theorem map_trim_splitOn_of_allBlank {w : Text} (hw : AllBlank w) (c : Char) (hc : isBlank c = false) (t : Text) :
    ((w ++ t).splitOn c).map trim = (t.splitOn c).map trim := by
  induction w with
  | nil => rfl
  | cons d w ih =>
    obtain ⟨hd, hw⟩ := List.forall_mem_cons.mp hw
    have hdc : (d == c) = false := by
      rw [beq_eq_false_iff_ne]
      rintro rfl
      rw [hc] at hd
      cases hd
    obtain ⟨p, ps, hSplit⟩ := List.exists_cons_of_ne_nil (List.splitOn_ne_nil c (w ++ t))
    rw [← ih hw, List.cons_append, List.splitOn_cons_eq_if_modifyHead, hdc, hSplit]
    simp [trim_cons_of_blank hd]

/-- Collapsing the blanks of a text and cutting it apart come to the same in either order, but for the blanks at the
ends of the parts. -/
theorem map_trim_splitOn_collapseBlanks {c : Char} (hc : isBlank c = false) (t : Text) :
    ((collapseBlanks t).splitOn c).map trim = (t.splitOn c).map collapseBlanks := by
  induction hLength : t.length using Nat.strongRecOn generalizing t with
  | ind n ih =>
    by_cases hMem : c ∈ t
    · obtain ⟨s, r, rfl, hs⟩ := List.eq_append_cons_of_mem hMem
      have hShorter : r.length < n := by
        rw [← hLength, List.length_append, List.length_cons]
        omega
      obtain ⟨v, w, hv, hw, hEq⟩ := exists_collapseBlanks_append_cons hc s r
      have hFront : c ∉ collapseBlanks s ++ v := by
        rw [List.mem_append, not_or]
        refine ⟨fun h => hs (mem_of_mem_collapseBlanks hc h), fun h => ?_⟩
        rw [hv c h] at hc
        cases hc
      rw [hEq, List.splitOn_append_cons_self, List.splitOn_eq_singleton hFront, List.splitOn_append_cons_self,
        List.splitOn_eq_singleton hs, List.map_append, List.map_append, map_trim_splitOn_of_allBlank hw c hc,
        ih r.length hShorter r rfl, List.map_singleton, List.map_singleton, trim_append_of_allBlank hv,
        trim_collapseBlanks]
    · have hCollapsed : c ∉ collapseBlanks t := fun h => hMem (mem_of_mem_collapseBlanks hc h)
      rw [List.splitOn_eq_singleton hCollapsed, List.splitOn_eq_singleton hMem, List.map_singleton,
        List.map_singleton, trim_collapseBlanks]

/-- Blanks around a text make no difference to its words. -/
theorem words_append_of_allBlank {v w : Text} (hv : AllBlank v) (hw : AllBlank w) (t : Text) :
    words (v ++ t ++ w) = words t := by
  have hFront : words (v ++ t) = words t := by
    induction v with
    | nil => rfl
    | cons c v ih =>
      obtain ⟨hc, hv⟩ := List.forall_mem_cons.mp hv
      rw [List.cons_append, words_cons_of_blank hc, ih hv]
  cases w with
  | nil => rw [List.append_nil, hFront]
  | cons c w =>
    obtain ⟨hc, hw⟩ := List.forall_mem_cons.mp hw
    rw [words_append_cons_of_blank hc, words_of_allBlank hw, List.append_nil, hFront]

theorem collapseBlanks_trim (t : Text) : collapseBlanks (trim t) = collapseBlanks t := by
  obtain ⟨v, w, hv, hw, hEq⟩ := exists_blanks_around_trim t
  have hWords := words_append_of_allBlank hv hw (trim t)
  rw [← hEq] at hWords
  rw [collapseBlanks, ← hWords, ← collapseBlanks]

end LessonCheck.Text
