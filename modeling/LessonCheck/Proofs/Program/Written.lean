import LessonCheck.Proofs.Program.Tree
import LessonCheck.Proofs.Text.Numeral

/-!
# Written lines

What the layout asks of a line holds of every line of a written program: no blank at its ends, no comment in
it, and no quote left open. It holds of the leaves and passes from the parts of a line to the line.
-/

namespace LessonCheck.Program

open Text Arithmetic CodeLine

/-! ## Characters -/

theorem isBlank_eq_false_of_isNameChar {c : Char} (h : Word.isNameChar c = true) : isBlank c = false := by
  rcases Bool.or_eq_true _ _ |>.mp h with hWord | hUnder
  · have hRange : 48 ≤ c.toNat ∧ c.toNat ≤ 122 := by
      rcases Bool.or_eq_true _ _ |>.mp hWord with hAlpha | hDigit
      · have hLetter := toNat_of_isAlpha hAlpha
        omega
      · have hNumeral := toNat_of_isDigit hDigit
        omega
    simp [isBlank]
    omega
  · rw [beq_iff_eq.mp hUnder]
    decide

/-- The characters of which the tokens of a formula are made. -/
def isTokenChar (c : Char) : Bool := Word.isNameChar c || ['+', '-', '*', '/', '(', ')'].contains c

theorem isBlank_eq_false_of_isTokenChar {c : Char} (h : isTokenChar c = true) : isBlank c = false := by
  rcases Bool.or_eq_true _ _ |>.mp h with hName | hSymbol
  · exact isBlank_eq_false_of_isNameChar hName
  · simp only [List.contains_iff_mem, List.mem_cons, List.not_mem_nil, or_false] at hSymbol
    rcases hSymbol with rfl | rfl | rfl | rfl | rfl | rfl <;> decide

theorem plain_of_isTokenChar {c : Char} (h : isTokenChar c = true) : c ≠ '"' ∧ c ≠ '#' ∧ c ≠ ';' := by
  refine ⟨?_, ?_, ?_⟩
  · rintro rfl
    exact absurd h (by decide)
  · rintro rfl
    exact absurd h (by decide)
  · rintro rfl
    exact absurd h (by decide)

theorem framed_of_tokenChars {t : Text} (hne : t ≠ []) (h : ∀ c ∈ t, isTokenChar c = true) : Framed t := by
  have hBlank : ∀ c ∈ t, isBlank c = false := fun c hc => isBlank_eq_false_of_isTokenChar (h c hc)
  constructor
  · exact ⟨t.head hne, List.head?_eq_some_head hne, hBlank _ (List.head_mem hne)⟩
  · exact ⟨t.getLast hne, List.getLast?_eq_some_getLast hne, hBlank _ (List.getLast_mem hne)⟩

theorem whole_of_forall {t : Text} (h : ∀ c ∈ t, c ≠ '"' ∧ c ≠ '#') : Whole t := by
  apply whole_of_plain
  rw [List.all_eq_true]
  intro c hc
  simpa [isPlain] using h c hc

theorem whole_of_tokenChars {t : Text} (h : ∀ c ∈ t, isTokenChar c = true) : Whole t := by
  apply whole_of_forall
  intro c hc
  obtain ⟨hQuote, hHash, -⟩ := plain_of_isTokenChar (h c hc)
  exact ⟨hQuote, hHash⟩

/-! ## Leaves -/

theorem isNameChar_of_isIdentifier {w : Text} (h : Word.isIdentifier w = true) :
    w ≠ [] ∧ ∀ c ∈ w, Word.isNameChar c = true := by
  cases w with
  | nil => cases h
  | cons c w =>
    obtain ⟨hStart, hAll⟩ := Bool.and_eq_true _ _ |>.mp h
    refine ⟨List.cons_ne_nil c w, List.forall_mem_cons.mpr ⟨?_, List.all_eq_true.mp hAll⟩⟩
    exact isNameChar_of_isNameStart hStart

namespace Name

theorem isNameChar_of_mem (x : Name) : ∀ c ∈ x.text, Word.isNameChar c = true :=
  (isNameChar_of_isIdentifier x.isIdentifier).2

theorem text_ne_nil (x : Name) : x.text ≠ [] := (isNameChar_of_isIdentifier x.isIdentifier).1

theorem isTokenChar_of_mem (x : Name) : ∀ c ∈ x.text, isTokenChar c = true := by
  intro c hc
  simp [isTokenChar, x.isNameChar_of_mem c hc]

theorem framed_text (x : Name) : Framed x.text := framed_of_tokenChars x.text_ne_nil x.isTokenChar_of_mem

theorem whole_text (x : Name) : Whole x.text := whole_of_tokenChars x.isTokenChar_of_mem

end Name

namespace Numeral

theorem isSigned (n : Numeral) : IsSigned Char.isDigit n.text := Word.isIntegerLiteral_iff.mp n.isLiteral

theorem text_ne_nil (n : Numeral) : n.text ≠ [] := by
  obtain ⟨sign, digits, hText, -, hne, -⟩ := n.isSigned
  rw [hText]
  simp [hne]

theorem isTokenChar_of_mem (n : Numeral) : ∀ c ∈ n.text, isTokenChar c = true := by
  obtain ⟨sign, digits, hText, hSign, -, hDigits⟩ := n.isSigned
  intro c hc
  rw [hText, List.mem_append] at hc
  rcases hc with hc | hc
  · rcases hSign with rfl | rfl
    · cases hc
    · rw [List.mem_singleton.mp hc]
      decide
  · simp [isTokenChar, isNameChar_of_isDigit (hDigits c hc)]

theorem framed_text (n : Numeral) : Framed n.text := framed_of_tokenChars n.text_ne_nil n.isTokenChar_of_mem

theorem whole_text (n : Numeral) : Whole n.text := whole_of_tokenChars n.isTokenChar_of_mem

end Numeral

namespace Body

theorem plain (b : Body) : ∀ c ∈ b.text, c ≠ '"' ∧ c ≠ '\n' ∧ c ≠ ';' := by
  intro c hc
  have hChar := List.all_eq_true.mp b.isPlain c hc
  simpa [isBodyChar, and_assoc] using hChar

theorem quote_notMem (b : Body) : '"' ∉ b.text := fun hMem => (b.plain _ hMem).1 rfl

theorem framed_quoted (b : Body) : Framed b.quoted := framed_of_ends (by decide) (by decide)

theorem whole_quoted (b : Body) : Whole b.quoted := CodeLine.whole_quoted b.quote_notMem

end Body

theorem Literal.framed_text (l : Literal) : Framed l.text := by
  cases l with
  | number n => exact n.framed_text
  | string b => exact b.framed_quoted

theorem Literal.whole_text (l : Literal) : Whole l.text := by
  cases l with
  | number n => exact n.whole_text
  | string b => exact b.whole_quoted

theorem Argument.framed_text (a : Argument) : Framed a.text := by
  cases a with
  | quoted b => exact b.framed_quoted
  | named x => exact x.framed_text

theorem Argument.whole_text (a : Argument) : Whole a.text := by
  cases a with
  | quoted b => exact b.whole_quoted
  | named x => exact x.whole_text

/-! ## Formulas -/

theorem str_notMem_of_derives {p : Phrase} {d : Nat} {ts : List Token} (h : Derives p d ts) (body : Text) :
    .str body ∉ ts := by
  induction h with
  | int | ident => simp
  | group inner ih => simpa using ih
  | atom operand ih | unary first ih | term first ih => exact ih
  | sign hSign operand ih =>
    rcases isTermOperator_iff.mp hSign with rfl | rfl
    · simpa using ih
    · simpa using ih
  | factor front hOperator last ihFront ihLast =>
    rcases isFactorOperator_iff.mp hOperator with rfl | rfl
    · simpa using ⟨ihFront, ihLast⟩
    · simpa using ⟨ihFront, ihLast⟩
  | summand front hOperator last ihFront ihLast =>
    rcases isTermOperator_iff.mp hOperator with rfl | rfl
    · simpa using ⟨ihFront, ihLast⟩
    · simpa using ⟨ihFront, ihLast⟩

theorem ne_nil_of_derives {p : Phrase} {d : Nat} {ts : List Token} (h : Derives p d ts) : ts ≠ [] := by
  induction h with
  | int | ident | group | sign => simp
  | atom operand ih | unary first ih | term first ih => exact ih
  | factor | summand => simp

theorem isTokenChar_of_mem_text {t : Token} (h : t.isWellFormed = true) (hStr : ∀ body, t ≠ .str body) :
    t.text ≠ [] ∧ ∀ c ∈ t.text, isTokenChar c = true := by
  cases t with
  | int digits =>
    obtain ⟨hne, hDigits⟩ := Bool.and_eq_true _ _ |>.mp h
    refine ⟨by simpa [Token.text] using hne, fun c hc => ?_⟩
    simp [isTokenChar, isNameChar_of_isDigit (List.all_eq_true.mp hDigits c hc)]
  | ident name =>
    obtain ⟨hne, hAll⟩ := isNameChar_of_isIdentifier h
    refine ⟨hne, fun c hc => ?_⟩
    simp [isTokenChar, hAll c hc]
  | str body => exact absurd rfl (hStr body)
  | plus | minus | star | slash | leftParen | rightParen =>
    exact ⟨List.cons_ne_nil _ _, List.forall_mem_singleton.mpr (by decide)⟩

namespace Formula

variable (e : Formula)

theorem token_chars {p : Piece} (h : p ∈ e.pieces) :
    p.2.text ≠ [] ∧ ∀ c ∈ p.2.text, isTokenChar c = true := by
  apply isTokenChar_of_mem_text (e.wellSpelled.tokens p h)
  intro body hStr
  exact str_notMem_of_derives e.derived body (List.mem_map.mpr ⟨p, h, hStr⟩)

theorem chars : ∀ c ∈ e.text, isLayout c = true ∨ isTokenChar c = true := by
  intro c hc
  obtain ⟨p, hp, hc⟩ := List.mem_flatMap.mp hc
  rcases List.mem_append.mp hc with hc | hc
  · exact .inl (List.all_eq_true.mp (e.wellSpelled.gaps p hp) c hc)
  · exact .inr ((e.token_chars hp).2 c hc)

theorem plain : ∀ c ∈ e.text, c ≠ '"' ∧ c ≠ '#' ∧ c ≠ ';' := by
  intro c hc
  rcases e.chars c hc with hLayout | hToken
  · simp only [isLayout, Bool.or_eq_true, beq_iff_eq] at hLayout
    rcases hLayout with (((rfl | rfl) | rfl) | rfl) | rfl <;> decide
  · exact plain_of_isTokenChar hToken

theorem whole_text : Whole e.text := whole_of_forall fun c hc => ⟨(e.plain c hc).1, (e.plain c hc).2.1⟩

theorem framed_text : Framed e.text := by
  have hne : e.pieces ≠ [] := fun hNil => ne_nil_of_derives e.derived (by rw [hNil, List.map_nil])
  obtain ⟨p, ps, hCons⟩ := List.exists_cons_of_ne_nil hne
  obtain ⟨qs, q, hConcat⟩ := (List.eq_nil_or_concat e.pieces).resolve_left hne
  have hp := e.token_chars (show p ∈ e.pieces by rw [hCons]; exact List.mem_cons_self)
  have hq := e.token_chars (show q ∈ e.pieces by rw [hConcat]; simp)
  have hBare := e.startsBare
  rw [hCons] at hBare
  have hGap : p.1 = [] := by simpa using hBare
  obtain ⟨c, hFirst, hc⟩ := (framed_of_tokenChars hp.1 hp.2).first
  obtain ⟨d, hLast, hd⟩ := (framed_of_tokenChars hq.1 hq.2).last
  constructor
  · refine ⟨c, ?_, hc⟩
    rw [Formula.text, hCons]
    simp [spell, hGap, hFirst]
  · refine ⟨d, ?_, hd⟩
    rw [Formula.text, hConcat]
    simp [spell, hLast]

end Formula

/-! ## Lines -/

theorem RightHandSide.framed_text (r : RightHandSide) : Framed r.text := by
  cases r with
  | formula e => exact e.framed_text
  | argument a => exact a.framed_text

theorem RightHandSide.whole_text (r : RightHandSide) : Whole r.text := by
  cases r with
  | formula e => exact e.whole_text
  | argument a => exact a.whole_text

theorem Comparand.framed_text (v : Comparand) : Framed v.text := by
  cases v with
  | numeral n => exact n.framed_text
  | argument a => exact a.framed_text

theorem Comparand.whole_text (v : Comparand) : Whole v.text := by
  cases v with
  | numeral n => exact n.whole_text
  | argument a => exact a.whole_text

theorem framed_keyword (k : Keyword) : Framed k.text := by
  cases k <;> exact ⟨⟨_, rfl, by decide⟩, ⟨_, rfl, by decide⟩⟩

theorem whole_keyword (k : Keyword) : Whole k.text := by
  cases k <;> exact whole_of_plain (by decide)

namespace Condition

variable (c : Condition)

theorem framed_text : Framed c.text := by
  have h := framed_append c.subject.framed_text c.value.framed_text (' ' :: (c.relation.text ++ [' ']))
  simpa [Condition.text] using h

theorem whole_text : Whole c.text := by
  have hRelation : Whole (' ' :: (c.relation.text ++ [' '])) := by
    cases c.relation <;> exact whole_of_plain (by decide)
  have h := (c.subject.whole_text.append hRelation).append c.value.whole_text
  simpa [Condition.text] using h

end Condition

theorem whole_initializer (value : Option Literal) : Whole (Command.initializer value) := by
  cases value with
  | none => exact whole_of_plain (by decide)
  | some l =>
    have hEquals : Whole [' ', '=', ' '] := whole_of_plain (by decide)
    exact hEquals.append l.whole_text

namespace Command

theorem framed_text (c : Command) : Framed c.text := by
  have hEnd : Framed [';'] := framed_singleton (by decide)
  cases c with
  | declare x type value =>
    have h := framed_append (framed_keyword .declare) hEnd
      (' ' :: (x.text ++ ':' :: (type.keyword.text ++ initializer value)))
    simpa [Command.text] using h
  | assign target value =>
    have h := framed_append target.framed_text hEnd (' ' :: '=' :: ' ' :: value.text)
    simpa [Command.text] using h
  | io kind a =>
    have h := framed_append (framed_keyword kind.keyword) hEnd ('(' :: (a.text ++ [')']))
    simpa [Command.text] using h

theorem whole_text (c : Command) : Whole c.text := by
  have hEnd : Whole [';'] := whole_of_plain (by decide)
  cases c with
  | declare x type value =>
    have hGap : Whole [' '] := whole_of_plain (by decide)
    have hColon : Whole [':'] := whole_of_plain (by decide)
    have h := ((((whole_keyword .declare).append hGap).append x.whole_text).append hColon).append
      (((whole_keyword type.keyword).append (whole_initializer value)).append hEnd)
    simpa [Command.text] using h
  | assign target value =>
    have hEquals : Whole [' ', '=', ' '] := whole_of_plain (by decide)
    have h := ((target.whole_text.append hEquals).append value.whole_text).append hEnd
    simpa [Command.text] using h
  | io kind a =>
    have hOpen : Whole ['('] := whole_of_plain (by decide)
    have hClose : Whole [')', ';'] := whole_of_plain (by decide)
    have h := (((whole_keyword kind.keyword).append hOpen).append a.whole_text).append hClose
    simpa [Command.text] using h

end Command

theorem framed_headerText (k : Keyword) (part : Text) : Framed (headerText k part) := by
  have hEnd : Framed ['['] := framed_singleton (by decide)
  have h := framed_append (framed_keyword k) hEnd (' ' :: '(' :: (part ++ [')', ' ']))
  simpa [headerText] using h

theorem whole_headerText (k : Keyword) {part : Text} (h : Whole part) : Whole (headerText k part) := by
  have hOpen : Whole [' ', '('] := whole_of_plain (by decide)
  have hClose : Whole [')', ' ', '['] := whole_of_plain (by decide)
  have hAll := (((whole_keyword k).append hOpen).append h).append hClose
  simpa [headerText] using hAll

theorem Line.framed_text (l : Line) : Framed l.text := by
  cases l with
  | command c => exact c.framed_text
  | condition c => exact framed_headerText .when c.text
  | loop h => exact framed_headerText .loop h.text
  | close => exact framed_singleton (by decide)
  | otherwise => exact ⟨⟨']', rfl, by decide⟩, ⟨'[', rfl, by decide⟩⟩

theorem Line.whole_text (l : Line) : Whole l.text := by
  cases l with
  | command c => exact c.whole_text
  | condition c => exact whole_headerText .when c.whole_text
  | loop h => exact whole_headerText .loop h.whole
  | close | otherwise => exact whole_of_plain (by decide)

end LessonCheck.Program
