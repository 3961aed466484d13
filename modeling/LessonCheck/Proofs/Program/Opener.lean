import LessonCheck.Header
import LessonCheck.Proofs.Program.Written

/-!
# Where a loop header seems to start

A line is searched for the start of a loop header without regard to quotes. In a command only the body of a
string literal can hold one: the parenthesis of a formula never follows a name, and the other parts of a command
have no parenthesis behind the keyword of a loop.
-/

namespace LessonCheck

namespace Header

open Text

/-- The characters of a loop header up to its parenthesis, blanks apart. -/
def openerChars : Text := "MALLI-MALLI(".toList

theorem after?_append_cons {w : Text} {c : Char} (hc : c ∉ w) (s t : Text) :
    after? w (s ++ c :: t) = (after? w s).map (· ++ c :: t) := by
  induction w generalizing s with
  | nil => rfl
  | cons a w ih =>
    rw [List.mem_cons, not_or] at hc
    cases s with
    | nil => simp [after?, Ne.symm hc.1]
    | cons b s =>
      rw [List.cons_append, after?, after?]
      split
      · exact ih hc.2 s
      · rfl

theorem trimStart_append_cons {c : Char} (hc : isBlank c = false) (s t : Text) :
    trimStart (s ++ c :: t) = trimStart s ++ c :: t := by
  induction s with
  | nil => exact trimStart_cons_of_not_blank hc t
  | cons b s ih =>
    rw [List.cons_append, trimStart, trimStart, List.dropWhile_cons, List.dropWhile_cons]
    split
    · exact ih
    · rfl

section Separator

variable {c : Char} (hBlank : isBlank c = false) (hc : c ∉ openerChars)

include hBlank hc

theorem isSome_afterParenthesis?_append_cons (s t : Text) :
    (afterParenthesis? .loop (s ++ c :: t)).isSome = (afterParenthesis? .loop s).isSome := by
  have hKeyword : c ∉ Keyword.loop.text := fun hMem => hc (List.mem_append_left ['('] hMem)
  have hParen : c ∉ ['('] := fun hMem => hc (List.mem_append_right Keyword.loop.text hMem)
  rw [afterParenthesis?, after?_append_cons hKeyword, afterParenthesis?]
  cases after? Keyword.loop.text s with
  | none => rfl
  | some u =>
    rw [Option.map_some, Option.bind_some, Option.bind_some, trimStart_append_cons hBlank,
      after?_append_cons hParen, Option.isSome_map]

/-- No opener goes across a character that none contains. -/
theorem containsLoop_append_cons (s t : Text) :
    containsLoop (s ++ c :: t) = (containsLoop s || containsLoop t) := by
  induction s with
  | nil =>
    have hFirst := isSome_afterParenthesis?_append_cons hBlank hc [] t
    rw [List.nil_append] at hFirst
    change ((afterParenthesis? .loop (c :: t)).isSome || containsLoop t) = containsLoop t
    rw [hFirst]
    rfl
  | cons b s ih =>
    have hFirst := isSome_afterParenthesis?_append_cons hBlank hc (b :: s) t
    rw [List.cons_append] at hFirst
    rw [List.cons_append, containsLoop, hFirst, ih, containsLoop, Bool.or_assoc]

end Separator

/-- A text with an opener is some text, the keyword, blanks and a parenthesis. -/
theorem exists_of_containsLoop {t : Text} (h : containsLoop t = true) :
    ∃ front w back, AllBlank w ∧ t = front ++ (Keyword.loop.text ++ (w ++ '(' :: back)) := by
  induction t with
  | nil => cases h
  | cons c t ih =>
    rw [containsLoop, Bool.or_eq_true] at h
    rcases h with h | h
    · obtain ⟨back, hRead⟩ := Option.isSome_iff_exists.mp h
      obtain ⟨u, hKeyword, hParen⟩ := Option.bind_eq_some_iff.mp hRead
      obtain ⟨w, hw, hEq⟩ := exists_append_trimStart u
      refine ⟨[], w, back, hw, ?_⟩
      rw [after?_eq_some_iff.mp hKeyword, hEq, after?_eq_some_iff.mp hParen]
      rfl
    · obtain ⟨front, w, back, hw, rfl⟩ := ih h
      exact ⟨c :: front, w, back, hw, rfl⟩

theorem containsLoop_eq_false {t : Text} (h : '(' ∉ t) : containsLoop t = false := by
  cases hLoop : containsLoop t with
  | false => rfl
  | true =>
    obtain ⟨front, w, back, -, rfl⟩ := exists_of_containsLoop hLoop
    simp at h

/-! ## Parentheses and the words before them -/

/-- Whether no parenthesis follows a name, blanks apart; `afterName` says whether the text does. -/
def calm : Bool → Text → Bool
  | _, [] => true
  | afterName, c :: t =>
    if isBlank c then calm afterName t
    else if c = '(' then !afterName && calm false t
    else calm (Word.isNameChar c) t

theorem calm_of_append {s t : Text} {afterName : Bool} (h : calm afterName (s ++ t) = true) :
    ∃ b, calm b t = true := by
  induction s generalizing afterName with
  | nil => exact ⟨afterName, h⟩
  | cons c s ih =>
    rw [List.cons_append, calm] at h
    split at h
    · exact ih h
    · split at h
      · exact ih (Bool.and_eq_true _ _ |>.mp h).2
      · exact ih h

theorem calm_allBlank {w : Text} (hw : AllBlank w) (afterName : Bool) (t : Text) :
    calm afterName (w ++ t) = calm afterName t := by
  induction w with
  | nil => rfl
  | cons c w ih =>
    have hRest : AllBlank w := fun d hd => hw d (List.mem_cons_of_mem c hd)
    rw [List.cons_append, calm, if_pos (hw c List.mem_cons_self), ih hRest]

theorem containsLoop_eq_false_of_calm {t : Text} {afterName : Bool} (h : calm afterName t = true) :
    containsLoop t = false := by
  cases hLoop : containsLoop t with
  | false => rfl
  | true =>
    obtain ⟨front, w, back, hw, rfl⟩ := exists_of_containsLoop hLoop
    obtain ⟨b, hCalm⟩ := calm_of_append h
    have hKeyword : calm b (Keyword.loop.text ++ (w ++ '(' :: back)) = calm true (w ++ '(' :: back) := rfl
    rw [hKeyword, calm_allBlank hw] at hCalm
    cases hCalm

end Header

namespace Program

open Text Arithmetic Header

theorem allBlank_of_layout {gap : Text} (h : gap.all isLayout = true) : AllBlank gap := by
  intro c hc
  have hLayout := List.all_eq_true.mp h c hc
  simp only [isLayout, Bool.or_eq_true, beq_iff_eq] at hLayout
  rcases hLayout with (((rfl | rfl) | rfl) | rfl) | rfl <;> decide

theorem calm_word {w : Text} (hne : w ≠ []) (h : ∀ c ∈ w, Word.isNameChar c = true) (afterName : Bool)
    (t : Text) : calm afterName (w ++ t) = calm true t := by
  induction w generalizing afterName with
  | nil => exact absurd rfl hne
  | cons c w ih =>
    obtain ⟨hc, hw⟩ := List.forall_mem_cons.mp h
    have hParen : c ≠ '(' := by
      rintro rfl
      cases hc
    rw [List.cons_append, calm, if_neg (by rw [isBlank_eq_false_of_isNameChar hc]; exact Bool.false_ne_true),
      if_neg hParen, hc]
    cases w with
    | nil => rfl
    | cons d w => exact ih (List.cons_ne_nil d w) hw true

theorem calm_spell {ps : List Piece} (hTokens : ∀ p ∈ ps, p.2.isWellFormed = true)
    (hGaps : ∀ p ∈ ps, p.1.all isLayout = true) {tail : Text} (hTail : ∀ b, calm b tail = true)
    {operandNext afterName : Bool} (hTurns : takesTurns operandNext (ps.map Prod.snd) = true)
    (hName : operandNext = true → afterName = false) : calm afterName (spell ps ++ tail) = true := by
  induction ps generalizing operandNext afterName with
  | nil => exact hTail afterName
  | cons p ps ih =>
    obtain ⟨gap, t⟩ := p
    obtain ⟨hToken, hTokens⟩ := List.forall_mem_cons.mp hTokens
    obtain ⟨hGap, hGaps⟩ := List.forall_mem_cons.mp hGaps
    rw [show spell ((gap, t) :: ps) ++ tail = gap ++ (t.text ++ (spell ps ++ tail)) by simp [spell],
      calm_allBlank (allBlank_of_layout hGap)]
    rw [List.map_cons] at hTurns
    have hNext {next : Bool} (b : Bool) (hTurns : takesTurns next (ps.map Prod.snd) = true)
        (hb : next = true → b = false) : calm b (spell ps ++ tail) = true := ih hTokens hGaps hTurns hb
    cases t with
    | int digits =>
      obtain ⟨hne, hDigits⟩ := Bool.and_eq_true _ _ |>.mp hToken
      have hWord : ∀ c ∈ digits, Word.isNameChar c = true := fun c hc =>
        isNameChar_of_isDigit (List.all_eq_true.mp hDigits c hc)
      cases operandNext with
      | true =>
        rw [Token.text, calm_word (by simpa using hne) hWord]
        exact hNext true hTurns (by simp)
      | false => cases hTurns
    | ident name =>
      cases operandNext with
      | true =>
        obtain ⟨hne, hWord⟩ := isNameChar_of_isIdentifier hToken
        rw [Token.text, calm_word hne hWord]
        exact hNext true hTurns (by simp)
      | false => cases hTurns
    | str body => cases operandNext <;> cases hTurns
    | plus | minus =>
      cases operandNext with
      | true => exact hNext false hTurns (fun _ => rfl)
      | false => exact hNext false hTurns (fun _ => rfl)
    | star | slash =>
      cases operandNext with
      | true => cases hTurns
      | false => exact hNext false hTurns (fun _ => rfl)
    | leftParen =>
      cases operandNext with
      | true =>
        rw [hName rfl]
        exact hNext false hTurns (fun _ => rfl)
      | false => cases hTurns
    | rightParen =>
      cases operandNext with
      | true => cases hTurns
      | false => exact hNext false hTurns (by simp)

theorem containsLoop_formula (e : Formula) : containsLoop (' ' :: (e.text ++ [';'])) = false := by
  have hTurns : takesTurns true (e.pieces.map Prod.snd) = true := by
    have h := takesTurns_append e.derived []
    rw [List.append_nil] at h
    exact h
  have hTail : ∀ b, calm b [';'] = true := by decide
  have hCalm : calm false (e.text ++ [';']) = true :=
    calm_spell e.wellSpelled.tokens e.wellSpelled.gaps hTail hTurns (fun _ => rfl)
  exact @containsLoop_eq_false_of_calm (' ' :: (e.text ++ [';'])) false hCalm

/-! ## Commands -/

/-- The body of the string literal in a command, if it has one. -/
def Command.body? : Command → Option Body
  | declare _ _ (some (.string b)) => some b
  | assign _ (.argument (.quoted b)) => some b
  | io _ (.quoted b) => some b
  | _ => none

theorem containsLoop_quoted {s t : Text} (hs : '(' ∉ s) (ht : '(' ∉ t) (b : Body) :
    containsLoop (s ++ (b.quoted ++ t)) = containsLoop b.text := by
  have hQuote : isBlank '"' = false := by decide
  have hSeparator : '"' ∉ openerChars := by decide
  have hEq : s ++ (b.quoted ++ t) = s ++ '"' :: (b.text ++ '"' :: t) := by simp [Body.quoted]
  rw [hEq, containsLoop_append_cons hQuote hSeparator, containsLoop_append_cons hQuote hSeparator,
    containsLoop_eq_false hs, containsLoop_eq_false ht, Bool.false_or, Bool.or_false]

theorem Name.paren_notMem (x : Name) : '(' ∉ x.text := fun hMem => by cases x.isNameChar_of_mem '(' hMem

theorem Numeral.paren_notMem (n : Numeral) : '(' ∉ n.text := by
  obtain ⟨sign, digits, hText, hSign, -, hDigits⟩ := n.isSigned
  rw [hText, List.mem_append]
  rintro (hMem | hMem)
  · rcases hSign with rfl | rfl <;> exact absurd hMem (by decide)
  · cases hDigits '(' hMem

theorem paren_notMem_keyword (k : Keyword) : '(' ∉ k.text := by cases k <;> decide

theorem containsLoop_assign (target : Name) (v : RightHandSide) :
    containsLoop (Command.assign target v).text =
      (Command.assign target v).body?.any fun b => containsLoop b.text := by
  have hTarget := target.paren_notMem
  cases v with
  | formula e =>
    have hEquals := @containsLoop_append_cons '=' (by decide) (by decide) (target.text ++ [' '])
      (' ' :: (e.text ++ [';']))
    have hFront : containsLoop (target.text ++ [' ']) = false := containsLoop_eq_false (by simp [hTarget])
    rw [containsLoop_formula, hFront] at hEquals
    simpa [Command.text, RightHandSide.text, Command.body?] using hEquals
  | argument a =>
    cases a with
    | named y =>
      exact containsLoop_eq_false
        (by simp [Command.text, RightHandSide.text, Argument.text, hTarget, y.paren_notMem])
    | quoted b =>
      have hFront : '(' ∉ target.text ++ [' ', '=', ' '] := by simp [hTarget]
      have hBody := containsLoop_quoted hFront (show '(' ∉ [';'] by decide) b
      simpa [Command.text, RightHandSide.text, Argument.text, Command.body?] using hBody

theorem containsLoop_declare (x : Name) (type : ValueType) (value : Option Literal) :
    containsLoop (Command.declare x type value).text =
      (Command.declare x type value).body?.any fun b => containsLoop b.text := by
  have hName := x.paren_notMem
  have hKeyword := paren_notMem_keyword .declare
  have hType := paren_notMem_keyword type.keyword
  cases value with
  | none => exact containsLoop_eq_false (by simp [Command.text, Command.initializer, hName, hKeyword, hType])
  | some l =>
    cases l with
    | number n =>
      have hNumeral := n.paren_notMem
      exact containsLoop_eq_false
        (by simp [Command.text, Command.initializer, Literal.text, hName, hKeyword, hType, hNumeral])
    | string b =>
      have hFront : '(' ∉ Keyword.declare.text ++ ' ' :: (x.text ++ ':' :: (type.keyword.text ++ [' ', '=', ' '])) := by
        simp [hName, hKeyword, hType]
      have hBody := containsLoop_quoted hFront (show '(' ∉ [';'] by decide) b
      simpa [Command.text, Command.initializer, Literal.text, Command.body?] using hBody

theorem containsLoop_io (kind : IoKind) (a : Argument) :
    containsLoop (Command.io kind a).text = (Command.io kind a).body?.any fun b => containsLoop b.text := by
  -- Both keywords end with a letter of no opener, so the text can be searched in two parts.
  obtain ⟨front, hKeyword, hFront⟩ : ∃ front, kind.keyword.text = front ++ ['U'] ∧ '(' ∉ front := by
    cases kind with
    | print => exact ⟨"CHATIMP".toList, by decide, by decide⟩
    | scan => exact ⟨"CHEPP".toList, by decide, by decide⟩
  have hSplit := @containsLoop_append_cons 'U' (by decide) (by decide) front ('(' :: (a.text ++ [')', ';']))
  have hOpening : containsLoop ('(' :: (a.text ++ [')', ';'])) = containsLoop (a.text ++ [')', ';']) := rfl
  have hText : (Command.io kind a).text = front ++ 'U' :: '(' :: (a.text ++ [')', ';']) := by
    simp [Command.text, hKeyword]
  rw [hText, hSplit, containsLoop_eq_false hFront, hOpening, Bool.false_or]
  cases a with
  | named x => exact containsLoop_eq_false (by simp [Argument.text, x.paren_notMem])
  | quoted b =>
    have hBody := containsLoop_quoted (show '(' ∉ [] by simp) (show '(' ∉ [')', ';'] by decide) b
    simpa [Argument.text, Command.body?] using hBody

theorem containsLoop_command (c : Command) :
    containsLoop c.text = c.body?.any fun b => containsLoop b.text := by
  cases c with
  | declare x type value => exact containsLoop_declare x type value
  | assign target value => exact containsLoop_assign target value
  | io kind a => exact containsLoop_io kind a

end Program
end LessonCheck
