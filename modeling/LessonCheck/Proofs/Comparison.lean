import LessonCheck.Proofs.Program.Recognition
import LessonCheck.Proofs.Text.Words

/-!
# Reading comparisons

The relations are tried with the longer spellings first, and one is passed over if no value stands behind it. In
a text whose blanks are collapsed that happens at the end of the text only. So the relation that is read has the
longest of the spellings that stand there, unless the text ends with its equals sign: then the relation is the
bare order, and the equals sign is its value.
-/

namespace LessonCheck

open Text

namespace Relation

/-- Of the spellings that the text starts with, none is longer. -/
structure IsLongest (r : Relation) (t : Text) : Prop where
  stands : r.text <+: t
  longest : ∀ q : Relation, q.text <+: t → q.text.length ≤ r.text.length

theorem mem_all (r : Relation) : r ∈ all := by cases r <;> decide

theorem solid_text (r : Relation) : r.text ≠ [] ∧ ∀ c ∈ r.text, isBlank c = false := by
  cases r <;> simp [text, isBlank]

theorem pairwise_all : all.Pairwise fun q r => r.text.length ≤ q.text.length := by decide

/-- A spelling continues another only by an equals sign behind a bare order. -/
theorem text_eq_of_shorter {q r : Relation} (hLength : r.text.length < q.text.length) (hStands : r.text <+: q.text) :
    q.text = r.text ++ ['='] ∧ (r = .less ∨ r = .greater) := by
  revert hLength hStands
  cases q <;> cases r <;> decide

end Relation

namespace Comparison

/-! ## Values -/

theorem value?_of_getLast? {t : Text} {d : Char} (hLast : t.getLast? = some d) (hd : isBlank d = false)
    (hLine : '\n' ∉ t) : value? t = some (trim t) := by
  have hNewline : (t.getLast?.all (· == '\n')) = false := by
    rw [hLast, Option.all_some, beq_eq_false_iff_ne]
    rintro rfl
    cases hd
  have hStart : (trimStart t).contains '\n' = false := by
    have hNot : '\n' ∉ trimStart t := fun hMem => hLine ((List.dropWhile_suffix isBlank).mem hMem)
    simpa using hNot
  rw [value?, hNewline, hStart]
  rfl

theorem value?_of_framed {v : Text} (h : Framed v) (hLine : '\n' ∉ v) : value? (' ' :: v) = some v := by
  obtain ⟨d, hLast, hd⟩ := h.last
  have hValue := value?_of_getLast? (t := ' ' :: v) (by rw [List.getLast?_cons, hLast]; rfl) hd (by simpa using hLine)
  rwa [trim_cons_of_framed (by decide) h] at hValue

theorem eq_trim_of_value? {t v : Text} (h : value? t = some v) : v = trim t := by
  rw [value?, Option.ite_none_left_eq_some] at h
  exact (Option.some.inj h.2).symm

/-- Whatever is left of a text whose blanks are collapsed is a value, unless nothing is left. -/
theorem value?_of_suffix {t rest : Text} (ht : collapseBlanks t = t) (hRest : rest <:+ t) (hne : rest ≠ []) :
    value? rest = some (trim rest) ∧ trim rest ≠ [] := by
  obtain ⟨front, rfl⟩ := hRest
  have hFramed := (collapseBlanks_eq_nil_or_framed (front ++ rest)).resolve_left (by simp [ht, hne])
  have hTrim := (trim_back_of_framed (ht ▸ hFramed)).resolve_left hne
  obtain ⟨d, hLast, hd⟩ := hFramed.last
  rw [ht, List.getLast?_append_of_ne_nil _ hne] at hLast
  have hLine : '\n' ∉ rest := by
    intro hMem
    apply newline_notMem_collapseBlanks (front ++ rest)
    rw [ht]
    exact List.mem_append_right front hMem
  exact ⟨value?_of_getLast? hLast hd hLine, hTrim.1.ne_nil⟩

/-! ## Relations -/

/-- What is read, and why no longer relation was: nothing that counts as a value stands behind it. -/
theorem exists_of_ofText? {t : Text} {c : Comparison} (h : ofText? t = some c) :
    ∃ gap rest, t = c.name ++ (gap ++ (c.relation.text ++ rest)) ∧ Word.isIdentifier c.name = true ∧ AllBlank gap ∧
      value? rest = some c.value ∧
      ∀ (q : Relation) (other : Text), c.relation.text.length < q.text.length →
        c.relation.text ++ rest = q.text ++ other → value? other = none := by
  simp only [ofText?, Option.bind_eq_bind, Option.bind_eq_some_iff, Prod.exists] at h
  obtain ⟨name, afterName, hName, hFind⟩ := h
  obtain ⟨front, r, back, hAll, hRead, hFront⟩ := List.findSome?_eq_some_iff.mp hFind
  simp only [Option.bind_eq_some_iff, Option.some.injEq] at hRead
  obtain ⟨rest, hRest, value, hValue, rfl⟩ := hRead
  have hStart := after?_eq_some_iff.mp hRest
  obtain ⟨gap, hGap, hSplit⟩ := exists_append_trimStart afterName
  refine ⟨gap, rest, ?_, Word.isIdentifier_of_identifier? hName, hGap, hValue, ?_⟩
  · rw [← hStart, ← hSplit, Word.identifier?_append hName]
  · intro q other hLonger hOther
    have hOrder := Relation.pairwise_all
    rw [hAll, List.pairwise_append, List.pairwise_cons] at hOrder
    have hMem : q ∈ front := by
      have hMem := q.mem_all
      rw [hAll, List.mem_append, List.mem_cons] at hMem
      rcases hMem with hMem | rfl | hMem
      · exact hMem
      · exact absurd hLonger (lt_irrefl _)
      · exact absurd (hOrder.2.1.1 q hMem) (not_le_of_gt hLonger)
    have hNone := hFront q hMem
    rw [hStart, hOther, after?_append, Option.bind_some] at hNone
    cases hValue : value? other with
    | none => rfl
    | some v =>
      rw [hValue] at hNone
      cases hNone

/-- The relation that is read is the longest that stands there, unless it is a bare order in front of an equals
sign that ends the text. -/
theorem isLongest_iff {r : Relation} {t rest : Text} (ht : collapseBlanks t = t) (hSuffix : r.text ++ rest <:+ t)
    (hPassed : ∀ (q : Relation) (other : Text), r.text.length < q.text.length →
      r.text ++ rest = q.text ++ other → value? other = none) :
    r.IsLongest (r.text ++ rest) ↔ ¬ (rest = ['='] ∧ (r = .less ∨ r = .greater)) := by
  constructor
  · rintro ⟨-, hLongest⟩ ⟨rfl, rfl | rfl⟩
    · exact absurd (hLongest .atMost (by decide)) (by decide)
    · exact absurd (hLongest .atLeast (by decide)) (by decide)
  · intro hNot
    refine ⟨List.prefix_append _ _, fun q hq => not_lt.mp fun hLonger => hNot ?_⟩
    obtain ⟨other, hOther⟩ := hq
    have hNone := hPassed q other hLonger hOther.symm
    -- a longer relation was passed over, so the text ends behind it
    have hEnd : other = [] := by
      by_contra hne
      have hValue := value?_of_suffix ht ((List.suffix_append q.text other).trans (hOther ▸ hSuffix)) hne
      rw [hNone] at hValue
      cases hValue.1
    rw [hEnd, List.append_nil] at hOther
    obtain ⟨hText, hOrder⟩ := Relation.text_eq_of_shorter hLonger (hOther ▸ List.prefix_append _ _)
    exact ⟨List.append_cancel_left (hOther.symm.trans hText), hOrder⟩

/-- A comparison read off a text whose blanks are collapsed: the name, blanks, the relation, and all the rest as
its value. The relation is the longest that stands there, unless the rest is one equals sign behind a bare order. -/
theorem exists_split_of_ofText? {t : Text} {c : Comparison} (ht : collapseBlanks t = t) (h : ofText? t = some c) :
    ∃ gap rest, t = c.name ++ (gap ++ (c.relation.text ++ rest)) ∧ Word.isIdentifier c.name = true ∧
      AllBlank gap ∧ c.value = trim rest ∧ c.value ≠ [] ∧
      (c.relation.IsLongest (c.relation.text ++ rest) ↔
        ¬ (rest = ['='] ∧ (c.relation = .less ∨ c.relation = .greater))) := by
  obtain ⟨gap, rest, hText, hName, hGap, hValue, hPassed⟩ := exists_of_ofText? h
  have hSuffix : c.relation.text ++ rest <:+ t := ⟨c.name ++ gap, by rw [hText, List.append_assoc]⟩
  have hTrim := eq_trim_of_value? hValue
  refine ⟨gap, rest, hText, hName, hGap, hTrim, ?_, isLongest_iff ht hSuffix hPassed⟩
  have hne : rest ≠ [] := by
    rintro rfl
    cases hValue
  rw [hTrim]
  exact (value?_of_suffix ht ((List.suffix_append _ _).trans hSuffix) hne).2

/-! ## Written comparisons -/

/-- A comparison without a value: the bare orders are left with the equals sign as the value. -/
theorem ofText?_missingValue {name : Text} (hName : Word.isIdentifier name = true) (r : Relation) :
    (ofText? (name ++ ' ' :: r.text)).map Comparison.name =
      if r = .atMost ∨ r = .atLeast then some name else none := by
  have hSubject : Word.identifier? (name ++ ' ' :: r.text) = some (name, ' ' :: r.text) :=
    Word.identifier?_of_isIdentifier hName rfl
  rw [ofText?, hSubject]
  cases r <;> rfl

theorem ofText?_written {name : Text} (hName : Word.isIdentifier name = true) (r : Relation) {v : Text}
    (h : Framed v) (hLine : '\n' ∉ v) : ofText? (name ++ ' ' :: (r.text ++ ' ' :: v)) = some ⟨name, r, v⟩ := by
  have hSubject : Word.identifier? (name ++ ' ' :: (r.text ++ ' ' :: v)) = some (name, ' ' :: (r.text ++ ' ' :: v)) :=
    Word.identifier?_of_isIdentifier hName rfl
  have hValue := value?_of_framed h hLine
  rw [ofText?, hSubject]
  cases r <;> simp [Relation.all, Relation.text, after?, trimStart, isBlank, hValue]

end Comparison
end LessonCheck
