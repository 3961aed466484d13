import LessonCheck.Proofs.LoopHeader.InitialValue

/-!
# Relations without a value

A loop counts while its variable compares with some value, but which value that is does not matter to the header.
So a header in which the value is left out is rejected for every relation but two: at most and at least fall apart
into a bare order and an equals sign, and the equals sign passes for the value.
-/

namespace LessonCheck

open Text

namespace LoopHeader

/-- A header in the accepted shape whose condition has no value. -/
def countingWithoutValue (name value : Text) (r : Relation) : Text :=
  counting name value (name ++ ' ' :: (r.text ++ [' ']))

theorem counter?_countingWithoutValue {name n : Text} (hName : Word.isIdentifier name = true)
    (hLiteral : Word.isIntegerLiteral n = true) (r : Relation) :
    counter? (countingWithoutValue name n r) = if r = .atMost ∨ r = .atLeast then some name else none := by
  obtain ⟨hValue, hne, hSemicolon⟩ := collapseBlanks_of_isIntegerLiteral hLiteral
  obtain ⟨hNameNe, hNameSolid⟩ := solid_of_isIdentifier hName
  have hRelation : collapseBlanks (r.text ++ [' ']) = r.text := by
    have hTrim : trim (r.text ++ [' ']) = r.text := by cases r <;> decide
    rw [← collapseBlanks_trim, hTrim]
    exact collapseBlanks_of_solid r.solid_text.1 r.solid_text.2
  have hRelationNe : words (r.text ++ [' ']) ≠ [] := by
    rw [Ne, ← collapseBlanks_eq_nil_iff, hRelation]
    exact r.solid_text.1
  have hNoSemicolon : ';' ∉ name ++ ' ' :: (r.text ++ [' ']) := by
    have hText : ';' ∉ r.text := by cases r <;> decide
    simp [semicolon_notMem_of_isIdentifier hName, hText]
  have hInitial : isInitialValue n = true :=
    isInitialValue_iff.mpr (isSigned_isDigit_iff.mp (Word.isIntegerLiteral_iff.mp hLiteral)).1
  rw [countingWithoutValue, counter?_counting hName hValue hne hSemicolon hNoSemicolon,
    collapseBlanks_append_blank hNameNe hNameSolid hRelationNe, hRelation, Comparison.ofText?_missingValue hName]
  by_cases hTwo : r = .atMost ∨ r = .atLeast
  · simp [hInitial, hTwo]
  · simp [hTwo]

/-- A relation that is read is the longest that stands behind the name, and all the rest is its value, unless it is a
bare order and the rest one equals sign. So a header with no value behind the relation is rejected for every relation
but at most and at least. -/
theorem relation_isLongest_iff (r : Relation) :
    (∀ t name value : Text, collapseBlanks t = t → Comparison.ofText? t = some ⟨name, r, value⟩ →
      ∃ gap rest, t = name ++ (gap ++ (r.text ++ rest)) ∧ Word.isIdentifier name = true ∧ AllBlank gap ∧
        value = trim rest ∧ value ≠ [] ∧
        (r.IsLongest (r.text ++ rest) ↔ ¬ (rest = ['='] ∧ (r = .less ∨ r = .greater)))) ∧
    ∀ name n : Text, Word.isIdentifier name = true → Word.isIntegerLiteral n = true →
      counter? (countingWithoutValue name n r) = if r = .atMost ∨ r = .atLeast then some name else none := by
  constructor
  · intro t name value ht hRead
    exact Comparison.exists_split_of_ofText? ht hRead
  · intro name n hName hLiteral
    exact counter?_countingWithoutValue hName hLiteral r

theorem relation_isLongest_different :
    (∃ rest, Relation.IsLongest .different (Relation.different.text ++ rest) ∧ trim rest = "10".toList) ∧
      counter? "PADAM i:ANKHE = 0; i != ; i = i + 1".toList = none := by
  obtain ⟨hRead, hMissing⟩ := relation_isLongest_iff .different
  obtain ⟨hNameNe, hNameSolid⟩ := @solid_of_isIdentifier "i".toList (by decide)
  obtain ⟨hRelationNe, hRelationSolid⟩ := Relation.different.solid_text
  obtain ⟨hNumeral, hNumeralNe, -⟩ := @collapseBlanks_of_isIntegerLiteral "10".toList (by decide)
  have hSpaced : collapseBlanks "i != 10".toList = "i != 10".toList :=
    collapseBlanks_cons_word hNameNe hNameSolid
      (collapseBlanks_cons_word hRelationNe hRelationSolid hNumeral hNumeralNe) (by decide)
  have hTen : Framed "10".toList := framed_of_ends (c := '1') (d := '0') (m := []) rfl rfl
  have hComparison : Comparison.ofText? "i != 10".toList = some ⟨"i".toList, .different, "10".toList⟩ :=
    @Comparison.ofText?_written "i".toList (by decide) .different "10".toList hTen (by decide)
  obtain ⟨gap, rest, -, -, -, hValue, -, hLongest⟩ := hRead _ _ _ hSpaced hComparison
  exact ⟨⟨rest, hLongest.mpr (by simp), hValue.symm⟩, hMissing "i".toList "0".toList (by decide) (by decide)⟩

/-- An equals sign that ends the text is a value rather than the end of the relation. -/
theorem reads_order_before_last_equals :
    Comparison.ofText? "i <=".toList = some ⟨"i".toList, .less, "=".toList⟩ ∧
      ¬ Relation.IsLongest .less "<=".toList ∧
      counter? "PADAM i:ANKHE = 0; i <= ; i = i + 1".toList = some "i".toList := by
  refine ⟨by decide +kernel, fun h => ?_, by decide +kernel⟩
  exact absurd (h.longest .atMost (by decide)) (by decide)

end LoopHeader
end LessonCheck
