import LessonCheck.Arithmetic.Expression
import Mathlib.Data.List.Chain

/-!
# Reading spelled tokens

A token list is spelled by writing every token behind a gap of layout. Two words must not touch, since they
would read as one; any other neighbours may. Reading the spelling gives the tokens back with the bytes they
cover.
-/

namespace LessonCheck.Arithmetic

namespace Token

/-- Whether the token is a number or a name, which goes on as long as name characters follow. -/
def isWord : Token → Bool
  | int _ | ident _ => true
  | _ => false

/-- Whether the token can be read: an integer has digits, and a string holds no quote. -/
def isWellFormed : Token → Bool
  | int digits => !digits.isEmpty && digits.all Char.isDigit
  | ident name => Word.isIdentifier name
  | str body => !body.contains '"'
  | _ => true

end Token

abbrev Piece := Text × Token

def spell (ps : List Piece) : Text := ps.flatMap fun p => p.1 ++ p.2.text

/-- No two words touch. -/
def Separated (ps : List Piece) : Prop :=
  ps.IsChain fun a b => a.2.isWord = true → b.2.isWord = true → b.1 ≠ []

instance (ps : List Piece) : Decidable (Separated ps) :=
  inferInstanceAs (Decidable (ps.IsChain fun a b => a.2.isWord = true → b.2.isWord = true → b.1 ≠ []))

/-- Tokens that can be read, with layout between them. -/
structure WellSpelled (ps : List Piece) : Prop where
  tokens : ∀ p ∈ ps, p.2.isWellFormed = true
  gaps : ∀ p ∈ ps, p.1.all isLayout = true
  separated : Separated ps

instance (ps : List Piece) : Decidable (WellSpelled ps) :=
  decidable_of_iff ((∀ p ∈ ps, p.2.isWellFormed = true) ∧ (∀ p ∈ ps, p.1.all isLayout = true) ∧ Separated ps)
    ⟨fun ⟨hTokens, hGaps, hSeparated⟩ => ⟨hTokens, hGaps, hSeparated⟩,
      fun h => ⟨h.tokens, h.gaps, h.separated⟩⟩

/-- The lexemes of spelled tokens that start at the byte `offset`. -/
def lexemesOf (offset : Nat) : List Piece → List Lexeme
  | [] => []
  | (gap, t) :: ps =>
    let start := offset + Text.byteSize gap
    let stop := start + Text.byteSize t.text
    ⟨t, start, stop⟩ :: lexemesOf stop ps

theorem map_token_lexemesOf (offset : Nat) (ps : List Piece) :
    (lexemesOf offset ps).map Lexeme.token = ps.map Prod.snd := by
  induction ps generalizing offset with
  | nil => rfl
  | cons p ps ih =>
    rw [lexemesOf, List.map_cons, ih]
    rfl

/-! ## Characters at the borders of words -/

theorem isNameChar_of_isDigit {c : Char} (h : c.isDigit = true) : Word.isNameChar c = true := by
  simp [Word.isNameChar, Char.isAlphanum, h]

theorem isNameChar_of_isNameStart {c : Char} (h : Word.isNameStart c = true) : Word.isNameChar c = true := by
  rcases Bool.or_eq_true _ _ |>.mp h with hAlpha | hUnder
  · simp [Word.isNameChar, Char.isAlphanum, hAlpha]
  · simp [Word.isNameChar, hUnder]

theorem toNat_of_isDigit {c : Char} (h : c.isDigit = true) : 48 ≤ c.toNat ∧ c.toNat ≤ 57 :=
  Char.isDigit_iff_toNat.mp h

theorem toNat_of_isAlpha {c : Char} (h : c.isAlpha = true) :
    65 ≤ c.toNat ∧ c.toNat ≤ 90 ∨ 97 ≤ c.toNat ∧ c.toNat ≤ 122 := by
  rcases Bool.or_eq_true _ _ |>.mp h with hUpper | hLower
  · left
    exact of_decide_eq_true hUpper
  · right
    obtain ⟨hMin, hMax⟩ := Bool.and_eq_true _ _ |>.mp hLower
    constructor
    · exact of_decide_eq_true hMin
    · exact of_decide_eq_true hMax

theorem isDigit_eq_false_of_isNameStart {c : Char} (h : Word.isNameStart c = true) : c.isDigit = false := by
  cases hDigit : c.isDigit with
  | false => rfl
  | true =>
    rcases Bool.or_eq_true _ _ |>.mp h with hAlpha | hUnder
    · have hLetter := toNat_of_isAlpha hAlpha
      have hRange := toNat_of_isDigit hDigit
      omega
    · rw [beq_iff_eq.mp hUnder] at hDigit
      cases hDigit

theorem isNameChar_eq_false_of_isLayout {c : Char} (h : isLayout c = true) : Word.isNameChar c = false := by
  simp only [isLayout, Bool.or_eq_true, beq_iff_eq] at h
  rcases h with (((rfl | rfl) | rfl) | rfl) | rfl <;> decide

theorem isLayout_eq_false_of_isNameChar {c : Char} (h : Word.isNameChar c = true) : isLayout c = false := by
  cases hLayout : isLayout c with
  | false => rfl
  | true => exact absurd h (by simp [isNameChar_eq_false_of_isLayout hLayout])

theorem run_of_all {p : Char → Bool} {w r : Text} (hWord : w.all p = true)
    (hRest : r.head?.all (!p ·) = true) : Text.run p (w ++ r) = (w, r) := by
  have hAll : ∀ c ∈ w, p c = true := List.all_eq_true.mp hWord
  rw [Text.run, List.takeWhile_append_of_pos hAll, List.dropWhile_append_of_pos hAll]
  cases r with
  | nil => simp
  | cons c r =>
    have hStop : p c = false := by simpa using hRest
    simp [hStop]

/-! ## One token -/

/-- A spelled token starts with a character that is no layout and reads back, if a word meets no further name
character. -/
theorem exists_token? {t : Token} (h : t.isWellFormed = true) {r : Text}
    (hRest : t.isWord = true → r.head?.all (!Word.isNameChar ·) = true) :
    ∃ c w, t.text = c :: w ∧ isLayout c = false ∧ token? c (w ++ r) = .ok (t, r) := by
  cases t with
  | int digits =>
    obtain ⟨hne, hDigits⟩ := Bool.and_eq_true _ _ |>.mp h
    obtain ⟨c, w, rfl⟩ : ∃ c w, digits = c :: w := List.exists_cons_of_ne_nil (by simpa using hne)
    obtain ⟨hc, hw⟩ := Bool.and_eq_true _ _ |>.mp hDigits
    have hName : w.all Word.isNameChar = true :=
      List.all_eq_true.mpr fun d hd => isNameChar_of_isDigit (List.all_eq_true.mp hw d hd)
    refine ⟨c, w, rfl, isLayout_eq_false_of_isNameChar (isNameChar_of_isDigit hc), ?_⟩
    rw [token?, run_of_all hName (hRest rfl)]
    simp only [hc, if_true, hw]
  | ident name =>
    cases name with
    | nil => cases h
    | cons c w =>
      obtain ⟨hc, hw⟩ := Bool.and_eq_true _ _ |>.mp h
      refine ⟨c, w, rfl, isLayout_eq_false_of_isNameChar (isNameChar_of_isNameStart hc), ?_⟩
      rw [token?, run_of_all hw (hRest rfl)]
      simp only [isDigit_eq_false_of_isNameStart hc, hc, if_true, Bool.false_eq_true, if_false]
  | str body =>
    refine ⟨'"', body ++ ['"'], rfl, by decide, ?_⟩
    have hCut : Text.cut? '"' (body ++ ['"'] ++ r) = some (body, r) :=
      Text.cut?_eq_some_iff.mpr ⟨by simp, by simpa [Token.isWellFormed] using h⟩
    have hDigit : ('"').isDigit = false := by decide
    have hStart : Word.isNameStart '"' = false := by decide
    simp only [token?, hDigit, hStart, hCut, Bool.false_eq_true, if_false, if_true]
  | plus => exact ⟨'+', [], rfl, by decide, rfl⟩
  | minus => exact ⟨'-', [], rfl, by decide, rfl⟩
  | star => exact ⟨'*', [], rfl, by decide, rfl⟩
  | slash => exact ⟨'/', [], rfl, by decide, rfl⟩
  | leftParen => exact ⟨'(', [], rfl, by decide, rfl⟩
  | rightParen => exact ⟨')', [], rfl, by decide, rfl⟩

theorem lexemesFrom_token {t : Token} (h : t.isWellFormed = true) {r : Text}
    (hRest : t.isWord = true → r.head?.all (!Word.isNameChar ·) = true) (offset : Nat) :
    lexemesFrom offset (t.text ++ r) =
      (lexemesFrom (offset + Text.byteSize t.text) r).map
        (⟨t, offset, offset + Text.byteSize t.text⟩ :: ·) := by
  obtain ⟨c, w, hText, hLayout, hToken⟩ := exists_token? h hRest
  rw [show t.text ++ r = c :: (w ++ r) by simp [hText], lexemesFrom, hLayout]
  simp only [Bool.false_eq_true, if_false]
  split
  · next hError =>
    rw [hToken] at hError
    cases hError
  · next hOk =>
    obtain ⟨rfl, rfl⟩ := Prod.mk.inj (Except.ok.inj (hToken.symm.trans hOk))
    rfl

theorem lexemesFrom_layout {gap : Text} (h : gap.all isLayout = true) (offset : Nat) (r : Text) :
    lexemesFrom offset (gap ++ r) = lexemesFrom (offset + Text.byteSize gap) r := by
  induction gap generalizing offset with
  | nil => rfl
  | cons c gap ih =>
    obtain ⟨hc, hGap⟩ := Bool.and_eq_true _ _ |>.mp h
    rw [List.cons_append, lexemesFrom, if_pos hc, ih hGap, Text.byteSize_cons, Nat.add_assoc]

/-! ## Spelled lists -/

theorem head?_all_of_layout {gap r : Text} (hGap : gap.all isLayout = true)
    (hRest : gap = [] → r.head?.all (!Word.isNameChar ·) = true) :
    (gap ++ r).head?.all (!Word.isNameChar ·) = true := by
  cases gap with
  | nil => exact hRest rfl
  | cons c gap =>
    have hc : isLayout c = true := (Bool.and_eq_true _ _ |>.mp hGap).1
    simp [isNameChar_eq_false_of_isLayout hc]

theorem head?_text_of_not_word {t : Token} (h : t.isWord = false) (r : Text) :
    (t.text ++ r).head?.all (!Word.isNameChar ·) = true := by
  cases t with
  | int | ident => simp [Token.isWord] at h
  | str | plus | minus | star | slash | leftParen | rightParen =>
    simp only [Token.text, List.cons_append, List.nil_append, List.head?_cons, Option.all_some]
    decide

theorem head?_spell {ps : List Piece} {t : Token} {gap tail : Text} (hWord : t.isWord = true)
    (hSeparated : Separated ((gap, t) :: ps)) (hGaps : ∀ p ∈ ps, p.1.all isLayout = true)
    (hTail : ps = [] → tail.head?.all (!Word.isNameChar ·) = true) :
    (spell ps ++ tail).head?.all (!Word.isNameChar ·) = true := by
  cases ps with
  | nil => simpa [spell] using hTail rfl
  | cons q ps =>
    obtain ⟨hFirst, -⟩ := List.isChain_cons_cons.mp hSeparated
    have hGap := hGaps q List.mem_cons_self
    rw [show spell (q :: ps) ++ tail = q.1 ++ (q.2.text ++ (spell ps ++ tail)) by simp [spell]]
    refine head?_all_of_layout hGap (fun hNil => head?_text_of_not_word ?_ _)
    cases hq : q.2.isWord with
    | false => rfl
    | true => exact absurd hNil (hFirst hWord hq)

theorem lexemesFrom_spell {ps : List Piece} {tail : Text} (h : WellSpelled ps)
    (hTail : tail.all isLayout = true) (offset : Nat) :
    lexemesFrom offset (spell ps ++ tail) = .ok (lexemesOf offset ps) := by
  induction ps generalizing offset with
  | nil =>
    have hRead := lexemesFrom_layout hTail offset []
    rw [List.append_nil] at hRead
    rw [show spell [] ++ tail = tail from rfl, hRead, lexemesFrom]
    rfl
  | cons p ps ih =>
    obtain ⟨gap, t⟩ := p
    obtain ⟨hToken, hTokens⟩ := List.forall_mem_cons.mp h.tokens
    obtain ⟨hGap, hGaps⟩ := List.forall_mem_cons.mp h.gaps
    have hBorder : tail.head?.all (!Word.isNameChar ·) = true := by
      simpa using head?_all_of_layout (r := []) hTail (fun _ => rfl)
    have hRest : t.isWord = true → (spell ps ++ tail).head?.all (!Word.isNameChar ·) = true :=
      fun hWord => head?_spell hWord h.separated hGaps fun _ => hBorder
    rw [show spell ((gap, t) :: ps) ++ tail = gap ++ (t.text ++ (spell ps ++ tail)) by simp [spell],
      lexemesFrom_layout hGap, lexemesFrom_token hToken hRest, ih ⟨hTokens, hGaps, h.separated.tail⟩]
    rfl

theorem lexemes_spell {ps : List Piece} (h : WellSpelled ps) : lexemes (spell ps) = .ok (lexemesOf 0 ps) := by
  have hTail : ([] : Text).all isLayout = true := rfl
  have hRead := lexemesFrom_spell h hTail 0
  rwa [List.append_nil] at hRead

theorem lexemes_text {t : Token} (h : t.isWellFormed = true) : lexemes t.text = .ok (lexemesOf 0 [([], t)]) := by
  have hSpelled : WellSpelled [([], t)] := by
    refine ⟨?_, ?_, .singleton _⟩
    · simpa using h
    · simp
  have hText : spell [([], t)] = t.text := by simp [spell]
  rw [← hText]
  exact lexemes_spell hSpelled

/-! ## Tokens read -/

theorem isWellFormed_of_symbol? {c : Char} {t : Token} (h : symbol? c = some t) : t.isWellFormed = true := by
  have hMem := List.mem_of_find?_eq_some h
  simp only [List.mem_cons, List.not_mem_nil, or_false] at hMem
  rcases hMem with rfl | rfl | rfl | rfl | rfl | rfl <;> rfl

theorem isWellFormed_of_token? {c : Char} {r rest : Text} {t : Token} (h : token? c r = .ok (t, rest)) :
    t.isWellFormed = true := by
  unfold token? at h
  simp only at h
  split at h
  · next hDigit =>
    split at h
    · next hDigits =>
      obtain ⟨rfl, -⟩ := Prod.mk.inj (Except.ok.inj h)
      simp [Token.isWellFormed, hDigit, hDigits]
    · cases h
  · split at h
    · next hStart =>
      obtain ⟨rfl, -⟩ := Prod.mk.inj (Except.ok.inj h)
      have hRun : (Text.run Word.isNameChar r).1.all Word.isNameChar = true := List.all_takeWhile
      simp [Token.isWellFormed, Word.isIdentifier, hStart, hRun]
    · split at h
      · split at h
        · next body tail hCut =>
          obtain ⟨rfl, -⟩ := Prod.mk.inj (Except.ok.inj h)
          have hQuote := (Text.cut?_eq_some_iff.mp hCut).2
          simpa [Token.isWellFormed] using hQuote
        · cases h
      · split at h
        · next hSymbol =>
          obtain ⟨rfl, -⟩ := Prod.mk.inj (Except.ok.inj h)
          exact isWellFormed_of_symbol? hSymbol
        · cases h

/-- Every token that is read could have been spelled. -/
theorem isWellFormed_of_mem_lexemesFrom {offset : Nat} {t : Text} {ls : List Lexeme}
    (h : lexemesFrom offset t = .ok ls) : ∀ l ∈ ls, l.token.isWellFormed = true := by
  fun_induction lexemesFrom offset t generalizing ls with
  | case1 offset =>
    obtain rfl := Except.ok.inj h
    simp
  | case2 offset c r hLayout ih => exact ih h
  | case3 => cases h
  | case4 offset c r hLayout token rest hToken hShorter stop =>
    rename_i ih
    cases hRest : lexemesFrom stop rest with
    | error e =>
      rw [hRest] at h
      cases h
    | ok tail =>
      rw [hRest] at h
      obtain rfl := Except.ok.inj h
      exact List.forall_mem_cons.mpr ⟨isWellFormed_of_token? hToken, ih hRest⟩

end LessonCheck.Arithmetic
