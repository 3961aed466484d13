import LessonCheck.Proofs.Comparison
import LessonCheck.Proofs.Operands
import LessonCheck.Proofs.Program.Typing

/-!
# Judging typed statements

A typed statement has no defects against a table that agrees with its environment, and what it binds is what
its typing binds.
-/

namespace LessonCheck.Program

open Text Check

/-- The table holds the variables of the environment with their types. -/
def Agrees (symbols : SymbolTable) (Γ : Env) : Prop := ∀ name, symbols.get? name = Γ name

theorem isStringLiteral_quoted (b : Body) : Word.isStringLiteral b.quoted = true := by
  have hLine : '\n' ∉ b.text := fun hMem => (b.plain '\n' hMem).2.1 rfl
  simp [Word.isStringLiteral, Body.quoted, hLine]

theorem Literal.accepts_text (l : Literal) : l.type.acceptsLiteral l.text = true := by
  cases l with
  | number n => exact n.isLiteral
  | string b => exact isStringLiteral_quoted b

theorem not_isIdentifier_cons {c : Char} (t : Text) (h : Word.isNameStart c = false) :
    Word.isIdentifier (c :: t) = false := by
  rw [Word.isIdentifier, h, Bool.false_and]

theorem Numeral.not_isIdentifier (n : Numeral) : Word.isIdentifier n.text = false := by
  obtain ⟨sign, digits, hText, hSign, hne, hDigits⟩ := n.isSigned
  obtain ⟨d, rest, rfl⟩ := List.exists_cons_of_ne_nil hne
  rw [hText]
  rcases hSign with rfl | rfl
  · cases hStart : Word.isNameStart d with
    | false => exact not_isIdentifier_cons rest hStart
    | true =>
      have hDigit := hDigits d List.mem_cons_self
      rw [Arithmetic.isDigit_eq_false_of_isNameStart hStart] at hDigit
      cases hDigit
  · exact not_isIdentifier_cons _ (by decide)

/-! ## Formulas -/

theorem plainTokens_formula (e : Formula) : Arithmetic.PlainTokens e.text (e.pieces.map Prod.snd) :=
  ⟨⟨_, Arithmetic.lexemes_spell e.wellSpelled, Arithmetic.map_token_lexemesOf 0 _⟩,
    str_notMem_of_derives e.derived⟩

/-! ## Written conditions -/

theorem collapseBlanks_name (x : Name) : collapseBlanks x.text = x.text :=
  collapseBlanks_of_solid x.text_ne_nil fun c hc => isBlank_eq_false_of_isTokenChar (x.isTokenChar_of_mem c hc)

theorem collapseBlanks_numeral (n : Numeral) : collapseBlanks n.text = n.text :=
  collapseBlanks_of_solid n.text_ne_nil fun c hc => isBlank_eq_false_of_isTokenChar (n.isTokenChar_of_mem c hc)

theorem isStringLiteral_collapseBlanks (b : Body) : Word.isStringLiteral (collapseBlanks b.quoted) = true := by
  obtain ⟨m, hEnds⟩ := exists_collapseBlanks_ends (c := '"') (d := '"') (by decide) (by decide) b.text
  have hLine := newline_notMem_collapseBlanks b.quoted
  rw [Body.quoted, hEnds] at hLine ⊢
  rw [List.mem_cons, not_or] at hLine
  simp [Word.isStringLiteral, hLine.2]

theorem framed_collapseBlanks (v : Comparand) : Framed (collapseBlanks v.text) := by
  cases v with
  | numeral n =>
    rw [Comparand.text, collapseBlanks_numeral]
    exact n.framed_text
  | argument a =>
    cases a with
    | named x =>
      rw [Comparand.text, Argument.text, collapseBlanks_name]
      exact x.framed_text
    | quoted b =>
      obtain ⟨m, hEnds⟩ := exists_collapseBlanks_ends (c := '"') (d := '"') (by decide) (by decide) b.text
      rw [Comparand.text, Argument.text, Body.quoted, hEnds]
      exact framed_of_ends (by decide) (by decide)

theorem collapseBlanks_condition (c : Condition) :
    collapseBlanks c.text = c.subject.text ++ ' ' :: (c.relation.text ++ ' ' :: collapseBlanks c.value.text) := by
  have hValue := words_ne_nil_of_framed c.value.framed_text
  obtain ⟨hRelationNe, hRelationSolid⟩ := c.relation.solid_text
  have hSubject : ∀ d ∈ c.subject.text, isBlank d = false := fun d hd =>
    isBlank_eq_false_of_isTokenChar (c.subject.isTokenChar_of_mem d hd)
  have hRest : words (c.relation.text ++ ' ' :: c.value.text) ≠ [] := by
    rw [words_append_cons_of_blank (by decide)]
    simp [hValue]
  rw [Condition.text, collapseBlanks_append_blank c.subject.text_ne_nil hSubject hRest,
    collapseBlanks_append_blank hRelationNe hRelationSolid hValue]

/-! ## Tables that agree with an environment -/

section Judgement

variable {symbols : SymbolTable} {Γ : Env} (hAgrees : Agrees symbols Γ)

include hAgrees

theorem contains_of_agrees {name : Text} {type : ValueType} (h : Γ name = some type) :
    symbols.contains name = true := by
  rw [SymbolTable.contains, hAgrees, h]
  rfl

theorem isType_of_agrees {name : Text} {type : ValueType} (h : Γ name = some type) :
    symbols.isType name type = true := by
  rw [SymbolTable.isType, hAgrees, h]
  exact beq_self_eq_true _

theorem agrees_affirm (x : Name) (type : ValueType) : Agrees (symbols.affirm x.text type) (Γ.bind x type) := by
  intro name
  rw [SymbolTable.get?_affirm, hAgrees]
  rfl

/-! ## Declarations -/

theorem judge_fresh {x : Name} (h : Γ x.text = none) : symbols.judge x.text = .inserted := by
  have hContains : symbols.contains x.text = false := by
    rw [SymbolTable.contains, hAgrees, h]
    rfl
  simp [SymbolTable.judge, x.isFree, hContains]

theorem declarationDefects_eq_nil {x : Name} {type : ValueType} {value : Option Literal}
    (hFresh : Γ x.text = none) (hValue : ∀ l ∈ value, l.type = type) :
    declarationDefects symbols x.text type (value.map Literal.text) = [] := by
  rw [declarationDefects, judge_fresh hAgrees hFresh]
  cases value with
  | none => rfl
  | some l =>
    have hAccepts := l.accepts_text
    rw [hValue l rfl] at hAccepts
    simp [hAccepts]

/-! ## Right-hand sides -/

theorem stringVerdict_eq_valid {a : Argument} (h : a.HasType Γ .string) :
    stringVerdict symbols a.text = .valid := by
  cases h with
  | quoted b => simp [stringVerdict, Argument.text, isStringLiteral_quoted]
  | named hName => simp [stringVerdict, Argument.text, isType_of_agrees hAgrees hName]

theorem integerVerdict_eq_valid {e : Formula}
    (hNames : ∀ name, Arithmetic.Token.ident name ∈ e.pieces.map Prod.snd → Γ name = some .integer) :
    integerVerdict symbols e.text = .valid := by
  refine integerVerdict_eq_valid_iff.mpr ⟨_, plainTokens_formula e, fun name hName => ?_, ?_⟩
  · rw [hAgrees, hNames name hName]
  · exact Arithmetic.checkGrammar_of_derives e.derived e.shallow

theorem assignmentDefects_eq_nil {target : Name} {v : RightHandSide} {type : ValueType}
    (hTarget : Γ target.text = some type) (hValue : v.HasType Γ type) :
    assignmentDefects symbols target.text v.text = [] := by
  have hGet : symbols.get? target.text = some type := by rw [hAgrees, hTarget]
  rw [assignmentDefects_eq_nil_iff hGet, trim_of_framed v.framed_text]
  cases hValue with
  | formula hNames => exact integerVerdict_eq_valid hAgrees hNames
  | argument hArgument => exact stringVerdict_eq_valid hAgrees hArgument

theorem ioDefects_eq_nil {a : Argument} {type : ValueType} (kind : IoKind) (h : a.HasType Γ type) :
    ioDefects symbols kind a.text = [] := by
  cases h with
  | quoted b => simp [ioDefects, Argument.text, isStringLiteral_quoted]
  | named hName => simp [ioDefects, Argument.text, contains_of_agrees hAgrees hName]

/-! ## Conditions -/

theorem comparable_of_hasType {v : Comparand} {type : ValueType} {r : Relation} (h : v.HasType Γ type)
    (hRelation : type = .string → r.isOrdering = false) :
    (Word.isIdentifier (collapseBlanks v.text) && !symbols.contains (collapseBlanks v.text)) = false ∧
      comparable symbols r (collapseBlanks v.text) type = true := by
  cases h with
  | numeral n =>
    rw [Comparand.text, collapseBlanks_numeral, n.not_isIdentifier]
    exact ⟨rfl, by simp [comparable, n.isLiteral]⟩
  | argument hArgument =>
    cases hArgument with
    | quoted b =>
      have hLiteral := isStringLiteral_collapseBlanks b
      obtain ⟨m, hEnds⟩ := exists_collapseBlanks_ends (c := '"') (d := '"') (by decide) (by decide) b.text
      rw [Comparand.text, Argument.text]
      constructor
      · rw [Body.quoted, hEnds, not_isIdentifier_cons _ (by decide), Bool.false_and]
      · simp [comparable, hLiteral, hRelation rfl]
    | @named x type hName =>
      rw [Comparand.text, Argument.text, collapseBlanks_name, contains_of_agrees hAgrees hName]
      refine ⟨by simp, ?_⟩
      have hType := isType_of_agrees hAgrees hName
      cases type with
      | integer => simp [comparable, hType]
      | string => simp [comparable, hType, hRelation rfl]

theorem conditionDefects_eq_nil {c : Condition} (h : c.WellTyped Γ) : conditionDefects symbols c.text = [] := by
  obtain ⟨hSubject, hValue, hRelation⟩ := h
  have hRead := Comparison.ofText?_written c.subject.isIdentifier c.relation (framed_collapseBlanks c.value)
    (newline_notMem_collapseBlanks _)
  obtain ⟨hKnown, hComparable⟩ := comparable_of_hasType hAgrees hValue hRelation
  rw [conditionDefects, collapseBlanks_condition, hRead]
  simp only [hAgrees c.subject.text, hSubject, hKnown, hComparable, Bool.false_eq_true, if_false, if_true]

end Judgement

end LessonCheck.Program
