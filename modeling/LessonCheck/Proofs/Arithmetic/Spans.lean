import LessonCheck.Proofs.Arithmetic.Spelling

/-!
# What lexemes cover

The lexer reads a spelled front of the text and stops in front of what it rejects, or behind layout at the end.
The places of the lexemes follow from the spelling: they lie one behind the other, the text has the token's text
at each, and what lies between them is layout. No place falls inside a word, so a digit run is never split from
the letters, digits and underscores directly behind it, and what is rejected is rejected whole.
-/

namespace LessonCheck.Arithmetic

/-- What is rejected in front of the text `back`: a word that starts with a digit and is not all digits, an
unclosed quote with all that follows, or one character that starts no token. -/
inductive Misfit : Text → Text → Prop
  | word {d : Char} {w back : Text} (hDigit : d.isDigit = true) (hWord : w.all Word.isNameChar = true)
      (hMixed : w.all Char.isDigit = false) (hBack : back.head?.all (!Word.isNameChar ·) = true) :
      Misfit (d :: w) back
  | quote {w : Text} (hOpen : '"' ∉ w) : Misfit ('"' :: w) []
  | stranger {c : Char} {back : Text} (hLayout : isLayout c = false)
      (hStart : ∀ t : Token, t.isWellFormed = true → t.text.head? ≠ some c) : Misfit [c] back

theorem Misfit.ne_nil {rejected back : Text} (h : Misfit rejected back) : rejected ≠ [] := by
  cases h <;> simp

/-! ## One token -/

theorem head?_run (p : Char → Bool) (t : Text) : (Text.run p t).2.head?.all (!p ·) = true := by
  have hStop := List.head?_dropWhile_not p t
  cases hHead : (List.dropWhile p t).head? with
  | none => simp [Text.run, hHead]
  | some c =>
    rw [hHead] at hStop
    simpa [Text.run, hHead] using hStop

theorem head?_of_token? {c : Char} {r rest : Text} {t : Token} (h : token? c r = .ok (t, rest))
    (hWord : t.isWord = true) : rest.head?.all (!Word.isNameChar ·) = true := by
  unfold token? at h
  simp only at h
  split at h
  · split at h
    · obtain ⟨-, rfl⟩ := Prod.mk.inj (Except.ok.inj h)
      exact head?_run _ r
    · cases h
  · split at h
    · obtain ⟨-, rfl⟩ := Prod.mk.inj (Except.ok.inj h)
      exact head?_run _ r
    · split at h
      · split at h
        · obtain ⟨rfl, -⟩ := Prod.mk.inj (Except.ok.inj h)
          cases hWord
        · cases h
      · split at h
        · next hSymbol =>
          obtain ⟨rfl, -⟩ := Prod.mk.inj (Except.ok.inj h)
          have hMem := List.mem_of_find?_eq_some hSymbol
          simp only [List.mem_cons, List.not_mem_nil, or_false] at hMem
          rcases hMem with rfl | rfl | rfl | rfl | rfl | rfl <;> cases hWord
        · cases h

/-- A well-formed token starts with a digit, a letter or underscore, a quote, or the character of a symbol. -/
theorem head?_text_ne {c : Char} (hDigit : c.isDigit = false) (hStart : Word.isNameStart c = false)
    (hQuote : c ≠ '"') (hSymbol : symbol? c = none) {t : Token} (ht : t.isWellFormed = true) :
    t.text.head? ≠ some c := by
  intro hHead
  have hSymbol := List.find?_eq_none.mp hSymbol
  cases t with
  | int digits =>
    obtain ⟨w, rfl⟩ := List.head?_eq_some_iff.mp hHead
    simp [Token.isWellFormed, hDigit] at ht
  | ident name =>
    obtain ⟨w, rfl⟩ := List.head?_eq_some_iff.mp hHead
    simp [Token.isWellFormed, Word.isIdentifier, hStart] at ht
  | str body => exact hQuote (Option.some.inj hHead).symm
  | plus | minus | star | slash | leftParen | rightParen =>
    obtain rfl := Option.some.inj hHead
    revert hSymbol
    decide

theorem misfit_of_token? {c : Char} {r rejected : Text} (hLayout : isLayout c = false)
    (h : token? c r = .error rejected) : ∃ back, c :: r = rejected ++ back ∧ Misfit rejected back := by
  unfold token? at h
  simp only at h
  split at h
  · next hDigit =>
    split at h
    · cases h
    · next hMixed =>
      obtain rfl := Except.error.inj h
      refine ⟨(Text.run Word.isNameChar r).2, by simp [Text.run_append], ?_⟩
      exact .word hDigit List.all_takeWhile (Bool.eq_false_iff.mpr hMixed) (head?_run _ r)
  · next hDigit =>
    split at h
    · cases h
    · next hStart =>
      split at h
      · next hQuote =>
        split at h
        · cases h
        · next hCut =>
          obtain rfl := Except.error.inj h
          subst hQuote
          exact ⟨[], by simp, .quote (Text.cut?_eq_none_iff.mp hCut)⟩
      · next hQuote =>
        split at h
        · cases h
        · next hSymbol =>
          obtain rfl := Except.error.inj h
          refine ⟨r, rfl, .stranger hLayout fun t ht => ?_⟩
          exact head?_text_ne (Bool.eq_false_iff.mpr hDigit) (Bool.eq_false_iff.mpr hStart) hQuote hSymbol ht

theorem exists_nameChar_of_isWord {t : Token} (ht : t.isWellFormed = true) (hWord : t.isWord = true) :
    ∃ c w, t.text = c :: w ∧ Word.isNameChar c = true := by
  cases t with
  | int digits =>
    obtain ⟨hne, hDigits⟩ := Bool.and_eq_true _ _ |>.mp ht
    obtain ⟨c, w, rfl⟩ : ∃ c w, digits = c :: w := List.exists_cons_of_ne_nil (by simpa using hne)
    exact ⟨c, w, rfl, isNameChar_of_isDigit (List.all_eq_true.mp hDigits c List.mem_cons_self)⟩
  | ident name =>
    cases name with
    | nil => cases ht
    | cons c w => exact ⟨c, w, rfl, isNameChar_of_isNameStart (Bool.and_eq_true _ _ |>.mp ht).1⟩
  | str | plus | minus | star | slash | leftParen | rightParen => cases hWord

/-! ## The spelled front -/

/-- Spelled tokens and a gap, with `rest` behind them that does not go on with the last word. -/
structure Front (ps : List Piece) (gap rest : Text) : Prop where
  spelled : WellSpelled ps
  layout : gap.all isLayout = true
  apart : ∀ p ∈ ps.getLast?, p.2.isWord = true → (gap ++ rest).head?.all (!Word.isNameChar ·) = true

namespace Front

variable {ps : List Piece} {gap rest : Text}

theorem nil (rest : Text) : Front [] [] rest where
  spelled := ⟨by simp, by simp, .nil⟩
  layout := rfl
  apart := by simp

/-- Layout in front of the text widens the first gap. -/
theorem cons {c : Char} (h : Front ps gap rest) (hc : isLayout c = true) (offset : Nat) :
    ∃ qs gap', Front qs gap' rest ∧ spell qs ++ gap' = c :: (spell ps ++ gap) ∧
      lexemesOf offset qs = lexemesOf (offset + c.utf8Size) ps := by
  cases ps with
  | nil => exact ⟨[], c :: gap, ⟨h.spelled, by simp [hc, h.layout], by simp⟩, rfl, rfl⟩
  | cons p ps =>
    obtain ⟨hTokens, hGaps, hSeparated⟩ := h.spelled
    obtain ⟨hToken, hTokens⟩ := List.forall_mem_cons.mp hTokens
    obtain ⟨hGap, hGaps⟩ := List.forall_mem_cons.mp hGaps
    have hSpelled : WellSpelled ((c :: p.1, p.2) :: ps) := by
      refine ⟨List.forall_mem_cons.mpr ⟨hToken, hTokens⟩, List.forall_mem_cons.mpr ⟨by simp [hc, hGap], hGaps⟩, ?_⟩
      cases ps with
      | nil => exact .singleton _
      | cons q ps => exact List.isChain_cons_cons.mpr (List.isChain_cons_cons.mp hSeparated)
    refine ⟨(c :: p.1, p.2) :: ps, gap, ⟨hSpelled, h.layout, ?_⟩, by simp [spell], ?_⟩
    · cases ps with
      | nil => simpa using h.apart
      | cons q ps => simpa using h.apart
    · simp [lexemesOf, Nat.add_assoc]

/-- A token goes in front if it is no word or the text does not go on with it. -/
theorem token {t : Token} (h : Front ps gap rest) (ht : t.isWellFormed = true)
    (hRest : t.isWord = true → (spell ps ++ (gap ++ rest)).head?.all (!Word.isNameChar ·) = true) :
    Front (([], t) :: ps) gap rest := by
  refine ⟨⟨List.forall_mem_cons.mpr ⟨ht, h.spelled.tokens⟩, List.forall_mem_cons.mpr ⟨rfl, h.spelled.gaps⟩, ?_⟩,
    h.layout, ?_⟩
  · cases ps with
    | nil => exact .singleton _
    | cons q ps =>
      refine List.isChain_cons_cons.mpr ⟨fun hWord hq hNil => ?_, h.spelled.separated⟩
      obtain ⟨c, w, hText, hc⟩ := exists_nameChar_of_isWord (h.spelled.tokens q List.mem_cons_self) hq
      have hBorder := hRest hWord
      simp [spell, hNil, hText, hc] at hBorder
  · cases ps with
    | nil => simpa [spell] using hRest
    | cons q ps => simpa using h.apart

end Front

/-- The lexer stops behind a spelled front: at the end of the text, or at what it rejects. -/
theorem exists_front (offset : Nat) (t : Text) : ∃ ps gap rest, t = spell ps ++ (gap ++ rest) ∧ Front ps gap rest ∧
    (rest = [] ∧ lexemesFrom offset t = .ok (lexemesOf offset ps) ∨
      ∃ rejected back, rest = rejected ++ back ∧ Misfit rejected back ∧
        lexemesFrom offset t =
          .error (.unexpectedInput (offset + Text.byteSize (spell ps ++ gap)) rejected)) := by
  fun_induction lexemesFrom offset t with
  | case1 offset => exact ⟨[], [], [], rfl, .nil [], .inl ⟨rfl, rfl⟩⟩
  | case2 offset c r hLayout ih =>
    obtain ⟨ps, gap, rest, rfl, hFront, hEnd⟩ := ih
    obtain ⟨qs, gap', hFront', hSpell, hLexemes⟩ := hFront.cons hLayout offset
    have hText : c :: (spell ps ++ (gap ++ rest)) = spell qs ++ (gap' ++ rest) := by
      rw [← List.append_assoc (spell qs), hSpell]
      simp
    refine ⟨qs, gap', rest, hText, hFront', ?_⟩
    rw [hSpell, hLexemes, Text.byteSize_cons, ← Nat.add_assoc]
    exact hEnd
  | case3 offset c r hLayout rejected hToken =>
    obtain ⟨back, hText, hMisfit⟩ := misfit_of_token? (by simpa using hLayout) hToken
    exact ⟨[], [], c :: r, rfl, .nil _, .inr ⟨rejected, back, hText, hMisfit, by simp [spell]⟩⟩
  | case4 offset c r hLayout token rest hToken hShorter stop ih =>
    obtain ⟨ps, gap, tail, rfl, hFront, hEnd⟩ := ih
    obtain ⟨w, hText, rfl⟩ := token?_append hToken
    refine ⟨([], token) :: ps, gap, tail, by simp [spell, hText],
      hFront.token (isWellFormed_of_token? hToken) (head?_of_token? hToken), ?_⟩
    rcases hEnd with ⟨rfl, hRead⟩ | ⟨rejected, back, rfl, hMisfit, hRead⟩
    · left
      refine ⟨rfl, ?_⟩
      rw [hRead]
      rfl
    · right
      refine ⟨rejected, back, rfl, hMisfit, ?_⟩
      rw [hRead]
      simp [spell, stop, Except.map, Nat.add_assoc]

/-! ## Places in the text -/

/-- The text has `w` at the byte `offset`. -/
def StandsAt (t : Text) (offset : Nat) (w : Text) : Prop :=
  ∃ front back, t = front ++ (w ++ back) ∧ Text.byteSize front = offset

/-- The byte `place` stands between two letters, digits or underscores. -/
def InsideWord (t : Text) (place : Nat) : Prop :=
  ∃ front c d back, t = front ++ [c] ++ d :: back ∧ Word.isNameChar c = true ∧ Word.isNameChar d = true ∧
    Text.byteSize (front ++ [c]) = place

theorem byteSize_pos {t : Text} (h : t ≠ []) : 0 < Text.byteSize t := by
  cases t with
  | nil => exact absurd rfl h
  | cons c t =>
    have := c.utf8Size_pos
    rw [Text.byteSize_cons]
    omega

/-- A byte offset cuts a text in one way only. -/
theorem append_inj_of_byteSize {front back front' back' : Text} (hText : front ++ back = front' ++ back')
    (hSize : Text.byteSize front = Text.byteSize front') : front = front' ∧ back = back' := by
  rcases List.append_eq_append_iff.mp hText with ⟨w, rfl, rfl⟩ | ⟨w, rfl, rfl⟩ <;>
    rw [Text.byteSize_append] at hSize <;>
    obtain rfl : w = [] := by_contra fun hne => by have := byteSize_pos hne; omega
  · simp
  · simp

theorem not_insideWord {front back : Text}
    (h : ∀ c ∈ front.getLast?, Word.isNameChar c = true → back.head?.all (!Word.isNameChar ·) = true) :
    ¬InsideWord (front ++ back) (Text.byteSize front) := by
  rintro ⟨front', c, d, back', hText, hc, hd, hPlace⟩
  obtain ⟨rfl, rfl⟩ := append_inj_of_byteSize hText hPlace.symm
  have hBorder := h c (by simp) hc
  simp [hd] at hBorder

theorem getLast?_text_of_not_word {t : Token} (h : t.isWord = false) :
    ∀ c ∈ t.text.getLast?, Word.isNameChar c = false := by
  cases t with
  | int | ident => simp [Token.isWord] at h
  | str body =>
    rw [Token.text, ← List.cons_append, List.getLast?_concat]
    simp only [Option.mem_def, Option.some.injEq, forall_eq']
    decide
  | plus | minus | star | slash | leftParen | rightParen =>
    simp only [Token.text, List.getLast?_singleton, Option.mem_def, Option.some.injEq, forall_eq']
    decide

theorem text_ne_nil {t : Token} (ht : t.isWellFormed = true) : t.text ≠ [] := by
  obtain ⟨c, w, hText, -⟩ := exists_token? (r := []) ht fun _ => rfl
  simp [hText]

namespace Front

variable {ps qs : List Piece} {g gap rest : Text} {t : Token}

/-- What stands behind the front does not go on with a word that it ends in. -/
theorem border (h : Front ps gap rest) :
    ∀ c ∈ (spell ps ++ gap).getLast?, Word.isNameChar c = true → rest.head?.all (!Word.isNameChar ·) = true := by
  intro c hLast hc
  rcases List.eq_nil_or_concat gap with rfl | ⟨gap', d, rfl⟩
  · rcases List.eq_nil_or_concat ps with rfl | ⟨qs, q, rfl⟩
    · simp [spell] at hLast
    · have hText : q.2.text ≠ [] := text_ne_nil (h.spelled.tokens q (by simp))
      rw [List.append_nil, List.concat_eq_append, spell, List.flatMap_append, List.flatMap_singleton,
        ← List.append_assoc, List.getLast?_append_of_ne_nil _ hText] at hLast
      cases hWord : q.2.isWord with
      | true => exact h.apart q (by simp) hWord
      | false => simp [getLast?_text_of_not_word hWord c hLast] at hc
  · have hLayout : isLayout d = true := List.all_eq_true.mp h.layout d (by simp)
    obtain rfl : d = c := by simpa using hLast
    simp [isNameChar_eq_false_of_isLayout hLayout] at hc

theorem before (h : Front (ps ++ (g, t) :: qs) gap rest) :
    Front ps g (t.text ++ (spell qs ++ (gap ++ rest))) where
  spelled := ⟨fun p hp => h.spelled.tokens p (by simp [hp]), fun p hp => h.spelled.gaps p (by simp [hp]),
    h.spelled.separated.left_of_append⟩
  layout := h.spelled.gaps (g, t) (by simp)
  apart := by
    intro p hp hWord
    obtain ⟨-, -, hNext⟩ := List.isChain_append.mp h.spelled.separated
    refine head?_all_of_layout (h.spelled.gaps (g, t) (by simp)) fun hNil => head?_text_of_not_word ?_ _
    cases ht : t.isWord with
    | false => rfl
    | true => exact absurd hNil (hNext p hp (g, t) rfl hWord ht)

theorem behind (h : Front (ps ++ (g, t) :: qs) gap rest) :
    Front (ps ++ [(g, t)]) [] (spell qs ++ (gap ++ rest)) where
  spelled := by
    obtain ⟨hTokens, hGaps, hSeparated⟩ := h.spelled
    rw [List.append_cons] at hTokens hGaps hSeparated
    exact ⟨fun p hp => hTokens p (List.mem_append_left _ hp), fun p hp => hGaps p (List.mem_append_left _ hp),
      hSeparated.left_of_append⟩
  layout := rfl
  apart := by
    intro p hp hWord
    obtain rfl : (g, t) = p := by simpa using hp
    have hSeparated : Separated ((g, t) :: qs) := h.spelled.separated.right_of_append
    refine head?_spell hWord hSeparated (fun q hq => h.spelled.gaps q (by simp [hq])) fun hNil => ?_
    exact h.apart (g, t) (by simp [hNil]) hWord

end Front

/-! ## Places of the lexemes -/

theorem exists_piece_of_mem_lexemesOf {offset : Nat} {ps : List Piece} {l : Lexeme} (h : l ∈ lexemesOf offset ps) :
    ∃ qs gap rs, ps = qs ++ (gap, l.token) :: rs ∧ l.start = offset + Text.byteSize (spell qs ++ gap) ∧
      l.stop = l.start + Text.byteSize l.token.text := by
  induction ps generalizing offset with
  | nil => cases h
  | cons p ps ih =>
    rcases List.mem_cons.mp h with rfl | hMem
    · exact ⟨[], p.1, ps, rfl, by simp [spell], rfl⟩
    · obtain ⟨qs, gap, rs, rfl, hStart, hStop⟩ := ih hMem
      refine ⟨p :: qs, gap, rs, rfl, ?_, hStop⟩
      rw [hStart]
      simp [spell, Nat.add_assoc]

theorem pairwise_lexemesOf (offset : Nat) (ps : List Piece) :
    (lexemesOf offset ps).Pairwise fun a b => a.stop ≤ b.start := by
  induction ps generalizing offset with
  | nil => exact .nil
  | cons p ps ih =>
    refine List.pairwise_cons.mpr ⟨fun b hb => ?_, ih _⟩
    obtain ⟨qs, gap, rs, -, hStart, -⟩ := exists_piece_of_mem_lexemesOf hb
    rw [hStart]
    exact Nat.le_add_right _ _

/-- Where a text in two parts holds the character `c`. -/
theorem exists_of_append_eq_append_cons {a b front back : Text} {c : Char} (h : a ++ b = front ++ c :: back) :
    (∃ back', a = front ++ c :: back') ∨ ∃ front', front = a ++ front' ∧ b = front' ++ c :: back := by
  rcases List.append_eq_append_iff.mp h with ⟨w, rfl, rfl⟩ | ⟨w, rfl, hw⟩
  · exact .inr ⟨w, rfl, rfl⟩
  · cases w with
    | nil => exact .inr ⟨[], by simp, by simpa using hw.symm⟩
    | cons d w =>
      obtain ⟨rfl, -⟩ := List.cons.inj hw
      exact .inl ⟨w, rfl⟩

/-- A character that is no layout belongs to a token. -/
theorem exists_lexeme_around {ps : List Piece} {tail front back : Text} {c : Char}
    (hGaps : ∀ p ∈ ps, p.1.all isLayout = true) (hTail : tail.all isLayout = true) (hc : isLayout c = false)
    (h : spell ps ++ tail = front ++ c :: back) (offset : Nat) :
    ∃ l ∈ lexemesOf offset ps, l.start ≤ offset + Text.byteSize front ∧
      offset + Text.byteSize front + c.utf8Size ≤ l.stop := by
  have hAbsent : ∀ {w front' back' : Text}, w.all isLayout = true → w ≠ front' ++ c :: back' := by
    rintro w front' back' hw rfl
    have hLayout := List.all_eq_true.mp hw c (by simp)
    rw [hc] at hLayout
    cases hLayout
  induction ps generalizing offset front with
  | nil => exact absurd h (hAbsent hTail)
  | cons p ps ih =>
    obtain ⟨hGap, hGaps⟩ := List.forall_mem_cons.mp hGaps
    rw [show spell (p :: ps) ++ tail = p.1 ++ (p.2.text ++ (spell ps ++ tail)) by simp [spell]] at h
    rcases exists_of_append_eq_append_cons h with ⟨back', hText⟩ | ⟨front, rfl, hBehind⟩
    · exact absurd hText (hAbsent hGap)
    rcases exists_of_append_eq_append_cons hBehind with ⟨back', hText⟩ | ⟨front, rfl, hRest⟩
    · refine ⟨_, List.mem_cons_self, ?_, ?_⟩
      · simp only [Text.byteSize_append]
        omega
      · simp only [hText, Text.byteSize_append, Text.byteSize_cons]
        omega
    · obtain ⟨l, hMem, hStart, hStop⟩ := ih hGaps hRest (offset + Text.byteSize p.1 + Text.byteSize p.2.text)
      refine ⟨l, List.mem_cons_of_mem _ hMem, ?_, ?_⟩
      · simp only [Text.byteSize_append]
        omega
      · simp only [Text.byteSize_append]
        omega

/-- The lexemes of a text cover it but for layout. Each is the text of its token, one behind the other, and none
starts or stops inside a word. -/
structure Spans (t : Text) (ls : List Lexeme) : Prop where
  slice : ∀ l ∈ ls, StandsAt t l.start l.token.text ∧ l.stop = l.start + Text.byteSize l.token.text
  solid : ∀ l ∈ ls, l.start < l.stop
  bounds : ∀ l ∈ ls, l.stop ≤ Text.byteSize t
  ordered : ls.Pairwise fun a b => a.stop ≤ b.start
  between : ∀ front c back, t = front ++ c :: back → isLayout c = false →
    ∃ l ∈ ls, l.start ≤ Text.byteSize front ∧ Text.byteSize front + c.utf8Size ≤ l.stop
  unsplit : ∀ l ∈ ls, ¬InsideWord t l.start ∧ ¬InsideWord t l.stop

/-- What is rejected stands at its offset behind a text that is read, and no word goes across the offset. -/
structure Rejected (t : Text) (offset : Nat) (rejected : Text) : Prop where
  ne_nil : rejected ≠ []
  place : ∃ front back, t = front ++ (rejected ++ back) ∧ Text.byteSize front = offset ∧
    (∃ ls, lexemes front = .ok ls) ∧ Misfit rejected back
  unsplit : ¬InsideWord t offset

/-- What the outcome of reading promises about the text. -/
def Faithful (t : Text) : Except Error (List Lexeme) → Prop
  | .ok ls => Spans t ls
  | .error e => ∃ offset rejected, e = .unexpectedInput offset rejected ∧ Rejected t offset rejected

theorem Front.spans {ps : List Piece} {gap : Text} (h : Front ps gap []) :
    Spans (spell ps ++ gap) (lexemesOf 0 ps) where
  slice := by
    intro l hl
    obtain ⟨qs, g, rs, rfl, hStart, hStop⟩ := exists_piece_of_mem_lexemesOf hl
    exact ⟨⟨spell qs ++ g, spell rs ++ gap, by simp [spell], by simp [hStart]⟩, hStop⟩
  solid := by
    intro l hl
    obtain ⟨qs, g, rs, rfl, -, hStop⟩ := exists_piece_of_mem_lexemesOf hl
    have hSize := byteSize_pos (text_ne_nil (h.spelled.tokens (g, l.token) (by simp)))
    simp only at hSize
    omega
  bounds := by
    intro l hl
    obtain ⟨qs, g, rs, rfl, hStart, hStop⟩ := exists_piece_of_mem_lexemesOf hl
    rw [show spell (qs ++ (g, l.token) :: rs) ++ gap = (spell qs ++ g) ++ (l.token.text ++ (spell rs ++ gap)) by
      simp [spell]]
    simp only [Text.byteSize_append] at hStart hStop ⊢
    omega
  ordered := pairwise_lexemesOf 0 ps
  between := by
    intro front c back hText hc
    simpa using exists_lexeme_around h.spelled.gaps h.layout hc hText 0
  unsplit := by
    intro l hl
    obtain ⟨qs, g, rs, rfl, hStart, hStop⟩ := exists_piece_of_mem_lexemesOf hl
    constructor
    · have hPlace := not_insideWord h.before.border
      rw [hStart]
      simpa [spell] using hPlace
    · have hPlace := not_insideWord h.behind.border
      rw [hStop, hStart]
      simpa [spell, Nat.add_assoc] using hPlace

theorem text_infix_of_mem_lexemes {t : Text} {ls : List Lexeme} (h : lexemes t = .ok ls) {l : Lexeme} (hl : l ∈ ls) :
    l.token.text <:+: t := by
  obtain ⟨ps, gap, rest, rfl, -, ⟨rfl, hRead⟩ | ⟨rejected, back, rfl, -, hRead⟩⟩ := exists_front 0 t
  · obtain rfl := Except.ok.inj (hRead.symm.trans h)
    obtain ⟨qs, g, rs, rfl, -, -⟩ := exists_piece_of_mem_lexemesOf hl
    exact ⟨spell qs ++ g, spell rs ++ (gap ++ []), by simp [spell]⟩
  · cases hRead.symm.trans h

/-- The lexer is faithful to every text it reads or rejects. -/
theorem faithful_lexemes (t : Text) : Faithful t (lexemes t) := by
  obtain ⟨ps, gap, rest, rfl, hFront, ⟨rfl, hRead⟩ | ⟨rejected, back, rfl, hMisfit, hRead⟩⟩ := exists_front 0 t
  · rw [lexemes, hRead, List.append_nil]
    exact hFront.spans
  · rw [lexemes, hRead, Nat.zero_add]
    refine ⟨_, _, rfl, hMisfit.ne_nil, ⟨spell ps ++ gap, back, by simp, rfl, ?_, hMisfit⟩, ?_⟩
    · exact ⟨_, lexemesFrom_spell hFront.spelled hFront.layout 0⟩
    · have hPlace := not_insideWord hFront.border
      simpa using hPlace

end LessonCheck.Arithmetic
