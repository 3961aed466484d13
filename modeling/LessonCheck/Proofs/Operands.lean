import LessonCheck.Proofs.Bindings
import LessonCheck.Proofs.IntegerAssignment

/-!
# Unbound operands

A right-hand side or an argument that tokenizes with a name that is not in the table is reported, with one
exception. A text with a quote at both ends is one string literal whatever stands between, so where a string
may stand its names are never looked up.
-/

namespace LessonCheck

namespace Check

/-- Whether the text tokenizes with a name that the table does not hold. -/
def MentionsUnbound (symbols : SymbolTable) (t : Text) : Prop :=
  ∃ ls name, Arithmetic.lexemes t = .ok ls ∧ .ident name ∈ ls.map Arithmetic.Lexeme.token ∧
    symbols.contains name = false

theorem isType_eq_false {symbols : SymbolTable} {t : Text} (h : symbols.contains t = false)
    (type : ValueType) : symbols.isType t type = false := by
  have hNone : symbols.get? t = none := by simpa [SymbolTable.contains] using h
  rw [SymbolTable.isType, hNone]
  rfl

/-! ## Texts with an unbound name -/

section Unbound

variable {symbols : SymbolTable} {t : Text} (h : MentionsUnbound symbols t)

include h

theorem integerVerdict_ne_valid : integerVerdict symbols t ≠ .valid := by
  rw [Ne, integerVerdict_eq_valid_iff]
  rintro ⟨ts, hTokens, hTypes, -⟩
  obtain ⟨ls, name, hRead, hName, hUnbound⟩ := h
  obtain ⟨us, hRead', rfl⟩ := hTokens.read
  obtain rfl := Except.ok.inj (hRead.symm.trans hRead')
  rw [SymbolTable.contains, hTypes name hName] at hUnbound
  cases hUnbound

variable (hKeys : ∀ name, symbols.contains name = true → Word.isIdentifier name = true)

include hKeys

theorem contains_eq_false : symbols.contains t = false := by
  obtain ⟨ls, name, hRead, hName, hUnbound⟩ := h
  cases hBound : symbols.contains t with
  | false => rfl
  | true =>
    have hLexemes := Arithmetic.lexemes_of_isIdentifier (hKeys t hBound)
    obtain rfl := Except.ok.inj (hRead.symm.trans hLexemes)
    rw [Arithmetic.map_token_lexemesOf] at hName
    obtain rfl : name = t := by simpa using hName
    rw [hUnbound] at hBound
    cases hBound

theorem verdict_eq_valid_iff {type : ValueType} :
    verdict symbols t type = .valid ↔ type = .string ∧ Word.isStringLiteral t = true := by
  cases type with
  | integer => simpa [verdict] using integerVerdict_ne_valid h
  | string => simp [verdict, stringVerdict, isType_eq_false (contains_eq_false h hKeys)]

theorem ioDefects_eq_nil_iff (kind : IoKind) : ioDefects symbols kind t = [] ↔ Word.isStringLiteral t = true := by
  simp [ioDefects, contains_eq_false h hKeys]

end Unbound

namespace State

/-- At any point of a run outside the bodies of rejected loops, an assignment to a variable and a printed or
scanned argument that mention an unbound name are reported, unless they are spelled as one string literal where
a string may stand. -/
theorem findings_eq_nil_iff_of_mentionsUnbound {rules : Rules} {source : Text} {n : Nat} {t : Text}
    (hPlace : (after rules source n).blocks.inUnbound = false) (hTrim : Text.trim t = t)
    (hUnbound : MentionsUnbound (after rules source n).symbols t) :
    (∀ step target type, step.fragment.form = .assignment target t →
      (after rules source n).symbols.get? target = some type →
      ((after rules source n).findings rules step = [] ↔
        type = .string ∧ Word.isStringLiteral t = true)) ∧
    ∀ step kind, step.fragment.form = .io kind t →
      ((after rules source n).findings rules step = [] ↔ Word.isStringLiteral t = true) := by
  have hKeys : ∀ name, (after rules source n).symbols.contains name = true → Word.isIdentifier name = true :=
    fun name => isIdentifier_of_contains_after
  have hBound : (after rules source n).blocks.unbound = 0 := by
    simpa [BlockStack.inUnbound] using hPlace
  constructor
  · intro step target type hForm hTarget
    rw [findings_eq_nil_iff hBound, defects, hForm]
    simp only
    rw [assignmentDefects_eq_nil_iff hTarget, hTrim]
    exact verdict_eq_valid_iff hUnbound hKeys
  · intro step kind hForm
    rw [findings_eq_nil_iff hBound, defects, hForm]
    exact ioDefects_eq_nil_iff hUnbound hKeys kind

/-- Arithmetic over a name that was never declared is no literal, so it is reported. -/
theorem findings_ghost_sum :
    (after (.ofStrictness .strict) "PADAM n:ANKHE;".toList 1).findings (.ofStrictness .strict)
      ⟨2, ⟨"n = ghost + 1;".toList, .assignment ['n'] "ghost + 1".toList⟩⟩ ≠ [] := by
  have hRead := @Arithmetic.lexemes_spell
    [([], .ident "ghost".toList), ([' '], .plus), ([' '], .int ['1'])] (by decide)
  have hUnbound : MentionsUnbound (after (.ofStrictness .strict) "PADAM n:ANKHE;".toList 1).symbols
      "ghost + 1".toList :=
    ⟨_, "ghost".toList, hRead, by decide, by decide +kernel⟩
  obtain ⟨hAssignment, -⟩ := findings_eq_nil_iff_of_mentionsUnbound (by decide +kernel) (by decide) hUnbound
  intro hQuiet
  obtain ⟨hType, -⟩ := (hAssignment _ ['n'] .integer rfl (by decide +kernel)).mp hQuiet
  cases hType

/-- A right-hand side whose outer quotes belong to two literals. -/
def concatenation : Text := "\"a\" + ghost + \"b\"".toList

/-- The name between the two literals was never declared, and still nothing is reported. -/
theorem check_concatenation :
    MentionsUnbound (check .strict ("PADAM s:VARTTAI;\ns = ".toList ++ concatenation ++ [';'])).2 concatenation ∧
      (steps ("PADAM s:VARTTAI;\ns = ".toList ++ concatenation ++ [';'])).map (·.fragment.form) =
        [.declaration ['s'] .string none, .assignment ['s'] concatenation] ∧
      (check .strict ("PADAM s:VARTTAI;\ns = ".toList ++ concatenation ++ [';'])).1 = [] := by
  have hRead := @Arithmetic.lexemes_spell [([], .str ['a']), ([' '], .plus), ([' '], .ident "ghost".toList),
    ([' '], .plus), ([' '], .str ['b'])] (by decide)
  refine ⟨⟨_, "ghost".toList, hRead, by decide, ?_⟩, ?_, ?_⟩
  · decide +kernel
  · decide +kernel
  · decide +kernel

end State
end Check
end LessonCheck
