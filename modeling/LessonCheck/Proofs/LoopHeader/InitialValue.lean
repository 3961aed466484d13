import LessonCheck.Proofs.Comparison
import LessonCheck.Proofs.History

/-!
# Initial values of loops and of declarations

A loop header is read clause by clause, and blanks at the ends of a clause or in a row make no difference. So a
header in the one accepted shape stands or falls with its initial value and its condition. The initial value may
have the decimal digits of any script, while the value of a declaration is ASCII: the two agree on ASCII texts and
on nothing else that a header accepts.
-/

namespace LessonCheck

open Text Check

/-- A declaration of an integer that is not declared yet stands or falls with its value. -/
theorem Check.State.findings_integerDeclaration {s : State} {name : Text} (hReserved : Word.isReserved name = false)
    (hFree : s.symbols.contains name = false) (rules : Rules) (line : Nat) (t value : Text) :
    s.findings rules ⟨line, t, .declaration name .integer (some value)⟩ = [] ↔
      ValueType.integer.acceptsLiteral value = true := by
  rw [findings, reported_declaration, List.map_eq_nil_iff, declarationDefects,
    SymbolTable.judge_of_free hReserved hFree]
  simp

namespace LoopHeader

/-! ## Clauses -/

/-- A header is read clause by clause, each with its blanks collapsed. -/
theorem counter?_clauses {declaration condition update : Text} (hDeclaration : ';' ∉ declaration)
    (hCondition : ';' ∉ condition) (hUpdate : ';' ∉ update) :
    counter? (declaration ++ ';' :: (condition ++ ';' :: update)) =
      (declared? (collapseBlanks declaration)).bind fun name =>
        (Comparison.ofText? (collapseBlanks condition)).bind fun comparison =>
          (incremented? (collapseBlanks update)).bind fun updated =>
            if comparison.name = name ∧ updated = name then some name else none := by
  have hSplit : (declaration ++ ';' :: (condition ++ ';' :: update)).splitOn ';' =
      [declaration, condition, update] := by
    rw [List.splitOn_append_cons_self, List.splitOn_append_cons_self, List.splitOn_eq_singleton hDeclaration,
      List.splitOn_eq_singleton hCondition, List.splitOn_eq_singleton hUpdate]
    rfl
  rw [counter?, map_trim_splitOn_collapseBlanks (by decide), hSplit]
  rfl

section Name

variable {name : Text} (hName : Word.isIdentifier name = true)

include hName

theorem solid_of_isIdentifier : name ≠ [] ∧ ∀ c ∈ name, isBlank c = false := by
  obtain ⟨hne, hChars⟩ := Program.isNameChar_of_isIdentifier hName
  exact ⟨hne, fun c hc => Program.isBlank_eq_false_of_isNameChar (hChars c hc)⟩

theorem semicolon_notMem_of_isIdentifier : ';' ∉ name := by
  intro hMem
  cases (Program.isNameChar_of_isIdentifier hName).2 ';' hMem

theorem trimStart_identifier_append (r : Text) : trimStart (name ++ r) = name ++ r := by
  obtain ⟨hne, hSolid⟩ := solid_of_isIdentifier hName
  obtain ⟨c, w, rfl⟩ := List.exists_cons_of_ne_nil hne
  exact trimStart_cons_of_not_blank (hSolid c List.mem_cons_self) _

end Name

/-! ## The accepted shape -/

def declarationClause (name value : Text) : Text :=
  Keyword.declare.text ++ ' ' :: (name ++ ':' :: (Keyword.integer.text ++ ' ' :: '=' :: ' ' :: value))

def updateClause (name : Text) : Text := name ++ ' ' :: '=' :: ' ' :: (name ++ " + 1".toList)

/-- A header that counts with `name` from this initial value while this condition holds. -/
def counting (name value condition : Text) : Text :=
  declarationClause name value ++ ';' :: (' ' :: condition ++ ';' :: ' ' :: updateClause name)

section Shape

variable {name value : Text} (hName : Word.isIdentifier name = true)

include hName

theorem collapseBlanks_declarationClause (hValue : collapseBlanks value = value) (hne : value ≠ []) :
    collapseBlanks (declarationClause name value) = declarationClause name value := by
  obtain ⟨hNameNe, hNameSolid⟩ := solid_of_isIdentifier hName
  have hEquals : collapseBlanks (['='] ++ ' ' :: value) = ['='] ++ ' ' :: value :=
    collapseBlanks_cons_word (by decide) (List.forall_mem_singleton.mpr rfl) hValue hne
  obtain ⟨-, hTypeSolid⟩ := @solid_of_isIdentifier Keyword.integer.text (by decide)
  obtain ⟨hDeclareNe, hDeclareSolid⟩ := @solid_of_isIdentifier Keyword.declare.text (by decide)
  have hTyped : ∀ c ∈ name ++ ':' :: Keyword.integer.text, isBlank c = false := by
    intro c hc
    rcases List.mem_append.mp hc with hc | hc
    · exact hNameSolid c hc
    · rcases List.mem_cons.mp hc with rfl | hc
      · rfl
      · exact hTypeSolid c hc
  have hName := collapseBlanks_cons_word (by simp) hTyped hEquals (by simp)
  have hDeclare := collapseBlanks_cons_word hDeclareNe hDeclareSolid hName (by simp)
  simpa [declarationClause] using hDeclare

theorem collapseBlanks_updateClause : collapseBlanks (updateClause name) = updateClause name := by
  obtain ⟨hNameNe, hNameSolid⟩ := solid_of_isIdentifier hName
  have hStep : collapseBlanks "+ 1".toList = "+ 1".toList := collapseBlanks_pair rfl rfl
  have hRight := collapseBlanks_cons_word hNameNe hNameSolid hStep (by decide)
  have hEquals : collapseBlanks (['='] ++ ' ' :: (name ++ ' ' :: "+ 1".toList)) =
      ['='] ++ ' ' :: (name ++ ' ' :: "+ 1".toList) :=
    collapseBlanks_cons_word (by decide) (List.forall_mem_singleton.mpr rfl) hRight (by simp)
  exact collapseBlanks_cons_word hNameNe hNameSolid hEquals (by simp)

theorem declared?_declarationClause (hValue : trimStart value = value) :
    declared? (declarationClause name value) = if isInitialValue value then some name else none := by
  have hGap : afterBlanks? (' ' :: (name ++ ':' :: (Keyword.integer.text ++ ' ' :: '=' :: ' ' :: value))) =
      some (name ++ ':' :: (Keyword.integer.text ++ ' ' :: '=' :: ' ' :: value)) := by
    rw [afterBlanks?, if_pos (by decide), trimStart_identifier_append hName]
  have hWord := @Word.identifier?_of_isIdentifier name
    (':' :: (Keyword.integer.text ++ ' ' :: '=' :: ' ' :: value)) hName rfl
  have hColon (r : Text) : after? [':'] (trimStart (':' :: r)) = some r := rfl
  have hType (r : Text) : after? Keyword.integer.text (trimStart (Keyword.integer.text ++ r)) = some r := by
    rw [trimStart_of_head? (show (Keyword.integer.text ++ r).head? = some 'A' from rfl) (by decide), after?_append]
  have hEquals (r : Text) : after? ['='] (trimStart (' ' :: '=' :: r)) = some r := rfl
  have hBlank : trimStart (' ' :: value) = value := by
    rw [← List.singleton_append, trimStart_append_of_allBlank (by decide), hValue]
  simp only [declared?, declarationClause, after?_append, hGap, hWord, hColon, hType, hEquals, hBlank,
    Option.bind_eq_bind, Option.bind_some]

theorem incremented?_updateClause : incremented? (updateClause name) = some name := by
  have hTarget := @Word.identifier?_of_isIdentifier name (' ' :: '=' :: ' ' :: (name ++ " + 1".toList)) hName rfl
  have hEquals (r : Text) : after? ['='] (trimStart (' ' :: '=' :: r)) = some r := rfl
  have hBlank : trimStart (' ' :: (name ++ " + 1".toList)) = name ++ " + 1".toList := by
    rw [← List.singleton_append, trimStart_append_of_allBlank (by decide), trimStart_identifier_append hName]
  have hSource := @Word.identifier?_of_isIdentifier name " + 1".toList hName rfl
  have hStep : after? ['+'] (trimStart " + 1".toList) = some [' ', '1'] := rfl
  have hOne : trimStart [' ', '1'] = ['1'] := rfl
  simp only [incremented?, updateClause, hTarget, hEquals, hBlank, hSource, hStep, hOne, Option.bind_eq_bind,
    Option.bind_some, and_self, if_true]

/-- A header in the accepted shape stands or falls with its initial value and its condition. -/
theorem counter?_counting {condition : Text} (hValue : collapseBlanks value = value) (hne : value ≠ [])
    (hSemicolon : ';' ∉ value) (hCondition : ';' ∉ condition) :
    counter? (counting name value condition) =
      if isInitialValue value ∧ (Comparison.ofText? (collapseBlanks condition)).map Comparison.name = some name
      then some name else none := by
  have hNoSemicolon := semicolon_notMem_of_isIdentifier hName
  have hDeclaration : ';' ∉ declarationClause name value := by
    have hDeclare := @semicolon_notMem_of_isIdentifier Keyword.declare.text (by decide)
    have hType := @semicolon_notMem_of_isIdentifier Keyword.integer.text (by decide)
    simp [declarationClause, hNoSemicolon, hSemicolon, hDeclare, hType]
  have hUpdate : ';' ∉ ' ' :: updateClause name := by
    simp [updateClause, hNoSemicolon]
  have hFramed := (collapseBlanks_eq_nil_or_framed value).resolve_left (by rwa [hValue])
  obtain ⟨c, hFirst, hc⟩ := hFramed.first
  rw [hValue] at hFirst
  rw [counting, counter?_clauses hDeclaration (by simpa using hCondition) hUpdate,
    collapseBlanks_declarationClause hName hValue hne, declared?_declarationClause hName (trimStart_of_head? hFirst hc),
    collapseBlanks_cons_of_blank (by decide), collapseBlanks_cons_of_blank (by decide),
    collapseBlanks_updateClause hName, incremented?_updateClause hName]
  by_cases hInitial : isInitialValue value = true
  · cases hRead : Comparison.ofText? (collapseBlanks condition) with
    | none => simp
    | some comparison => simp [hInitial]
  · simp [hInitial]

end Shape

/-! ## The initial value -/

theorem isInitialValue_iff {t : Text} : isInitialValue t = true ↔ IsSigned isDecimalDigit t :=
  isSigned_iff (by decide)

theorem collapseBlanks_of_isIntegerLiteral {n : Text} (h : Word.isIntegerLiteral n = true) :
    collapseBlanks n = n ∧ n ≠ [] ∧ ';' ∉ n := by
  have hne := Program.Numeral.text_ne_nil ⟨n, h⟩
  have hChars := Program.Numeral.isTokenChar_of_mem ⟨n, h⟩
  refine ⟨collapseBlanks_of_solid hne fun c hc => ?_, hne, fun hMem => ?_⟩
  · exact Program.isBlank_eq_false_of_isTokenChar (hChars c hc)
  · exact (Program.plain_of_isTokenChar (hChars ';' hMem)).2.2 rfl

/-- A loop accepts the decimal digits of any script as its initial value, a declaration only ASCII digits. So what a
declaration accepts is exactly what a loop accepts among the ASCII texts. -/
theorem acceptsLiteral_iff_counts_and_ascii {name value : Text} (hName : Word.isIdentifier name = true)
    (hValue : collapseBlanks value = value) (hne : value ≠ []) (hSemicolon : ';' ∉ value) :
    (counter? (counting name value (name ++ " < 1".toList)) = some name ↔ IsSigned isDecimalDigit value) ∧
    (∀ (s : State) (rules : Rules) (line : Nat) (t : Text),
      Word.isReserved name = false → s.symbols.contains name = false →
        (s.findings rules ⟨line, t, .declaration name .integer (some value)⟩ = [] ↔
          ValueType.integer.acceptsLiteral value = true)) ∧
    (ValueType.integer.acceptsLiteral value = true ↔
      counter? (counting name value (name ++ " < 1".toList)) = some name ∧ ∀ c ∈ value, c.toNat < 128) := by
  have hLoop : counter? (counting name value (name ++ " < 1".toList)) = some name ↔
      IsSigned isDecimalDigit value := by
    have hNoSemicolon : ';' ∉ name ++ " < 1".toList := by simp [semicolon_notMem_of_isIdentifier hName]
    obtain ⟨hNameNe, hNameSolid⟩ := solid_of_isIdentifier hName
    have hCondition : collapseBlanks (name ++ " < 1".toList) = name ++ " < 1".toList :=
      collapseBlanks_cons_word hNameNe hNameSolid (collapseBlanks_pair rfl rfl) (by decide)
    have hRead : Comparison.ofText? (name ++ " < 1".toList) = some ⟨name, .less, ['1']⟩ :=
      Comparison.ofText?_written hName .less (framed_singleton (by decide)) (by decide)
    rw [counter?_counting hName hValue hne hSemicolon hNoSemicolon, hCondition, hRead, ← isInitialValue_iff]
    simp
  refine ⟨hLoop, fun s rules line t hReserved hFree => ?_, ?_⟩
  · exact State.findings_integerDeclaration hReserved hFree rules line t value
  · rw [hLoop, ValueType.acceptsLiteral, Word.isIntegerLiteral_iff, isSigned_isDigit_iff]

theorem counts_from_minusTwelve :
    counter? "PADAM i:ANKHE = -12; i < 1; i = i + 1".toList = some "i".toList ∧
      State.start.findings (.ofStrictness .strict)
        ⟨1, "PADAM i:ANKHE = -12;".toList, .declaration "i".toList .integer (some "-12".toList)⟩ = [] := by
  obtain ⟨hValue, hne, hSemicolon⟩ := @collapseBlanks_of_isIntegerLiteral "-12".toList (by decide)
  have h := @acceptsLiteral_iff_counts_and_ascii "i".toList "-12".toList (by decide) hValue hne hSemicolon
  exact ⟨(h.2.2.mp (by decide)).1, (h.2.1 _ _ 1 _ (by decide) rfl).mpr (by decide)⟩

/-- The Arabic-Indic digit three starts a loop, and no integer variable. -/
theorem check_arabicIndicThree :
    (check .strict "MALLI-MALLI (PADAM i:ANKHE = \u0663; i < 1; i = i + 1) [\n]".toList).1 = [] ∧
      (check .strict "PADAM i:ANKHE = \u0663;".toList).1 =
        [⟨1, "Invalid integer value for 'i'. Expected integer.".toList⟩] := by
  constructor
  · decide +kernel
  · decide +kernel

end LoopHeader
end LessonCheck
