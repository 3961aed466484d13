import LessonCheck.Proofs.Arithmetic.Spans

/-!
# How much layout tokens need

Tokens written one behind the other, with layout in front of each and behind the last, are read back as they
are, each at the bytes that were written for it. The only layout needed stands between two words: without it they
are read as one, or not at all, and whatever is read then is another list of tokens.
-/

namespace LessonCheck.Arithmetic

/-- The lexemes of the text are the tokens of the pieces in order, each over the text that was written for it. -/
structure ReadBack (ps : List Piece) (t : Text) (ls : List Lexeme) : Prop where
  read : lexemes t = .ok ls
  tokens : ls.map Lexeme.token = ps.map Prod.snd
  places : ∀ front gap token back, ps = front ++ (gap, token) :: back →
    ls[front.length]? = some ⟨token, Text.byteSize (spell front ++ gap),
      Text.byteSize (spell front ++ gap ++ token.text)⟩

theorem lexemesOf_getElem? (offset : Nat) (front : List Piece) (gap : Text) (t : Token) (back : List Piece) :
    (lexemesOf offset (front ++ (gap, t) :: back))[front.length]? =
      some ⟨t, offset + Text.byteSize (spell front ++ gap), offset + Text.byteSize (spell front ++ gap ++ t.text)⟩ := by
  induction front generalizing offset with
  | nil => simp [lexemesOf, spell, Nat.add_assoc]
  | cons p front ih =>
    rw [List.cons_append, lexemesOf, List.length_cons, List.getElem?_cons_succ, ih]
    simp [spell, Nat.add_assoc]

/-- A text and the tokens in it leave no choice of the gaps between them. -/
theorem pieces_unique {ps qs : List Piece} {s t : Text} (hTokens : ∀ p ∈ ps, p.2.isWellFormed = true)
    (hGaps : ∀ p ∈ ps, p.1.all isLayout = true) (hOther : ∀ q ∈ qs, q.1.all isLayout = true)
    (hSame : ps.map Prod.snd = qs.map Prod.snd) (hText : spell ps ++ s = spell qs ++ t) : ps = qs := by
  induction ps generalizing qs with
  | nil => exact (List.map_eq_nil_iff.mp hSame.symm).symm
  | cons p ps ih =>
    obtain ⟨gap, token⟩ := p
    obtain ⟨q, qs, rfl⟩ := List.exists_cons_of_ne_nil (l := qs) (by rintro rfl; cases hSame)
    obtain ⟨gap', token'⟩ := q
    obtain ⟨rfl, hSameTail⟩ := List.cons.inj hSame
    obtain ⟨hToken, hTokens⟩ := List.forall_mem_cons.mp hTokens
    obtain ⟨hGap, hGaps⟩ := List.forall_mem_cons.mp hGaps
    obtain ⟨hGap', hOtherTail⟩ := List.forall_mem_cons.mp hOther
    -- A token starts with no layout, so the gap in front of it is all the layout at the start of the text.
    obtain ⟨c, w, hStart, hc, -⟩ := exists_token? (r := []) hToken fun _ => rfl
    have hRun {g : Text} (hg : g.all isLayout = true) (r : Text) :
        Text.run isLayout (g ++ (token.text ++ r)) = (g, token.text ++ r) :=
      run_of_all hg (by simp [hStart, hc])
    have hSplit : gap ++ (token.text ++ (spell ps ++ s)) = gap' ++ (token.text ++ (spell qs ++ t)) := by
      simpa [spell] using hText
    have hParts := congrArg (Text.run isLayout) hSplit
    rw [hRun hGap, hRun hGap'] at hParts
    obtain ⟨rfl, hRest⟩ := Prod.mk.inj hParts
    rw [ih hTokens hGaps hOtherTail hSameTail (List.append_cancel_left hRest)]

theorem separated_of_tokens {ps : List Piece} {tail : Text} (hTokens : ∀ p ∈ ps, p.2.isWellFormed = true)
    (hGaps : ∀ p ∈ ps, p.1.all isLayout = true) {ls : List Lexeme} (hRead : lexemes (spell ps ++ tail) = .ok ls)
    (hSame : ls.map Lexeme.token = ps.map Prod.snd) : Separated ps := by
  obtain ⟨qs, gap, rest, hText, hFront, ⟨rfl, hLexemes⟩ | ⟨_, _, -, -, hLexemes⟩⟩ := exists_front 0 (spell ps ++ tail)
  · obtain rfl := Except.ok.inj (hLexemes.symm.trans hRead)
    rw [map_token_lexemesOf] at hSame
    obtain rfl := pieces_unique hTokens hGaps hFront.spelled.gaps hSame.symm hText
    exact hFront.spelled.separated
  · cases hLexemes.symm.trans hRead

theorem readBack_of_separated {ps : List Piece} {tail : Text} (h : WellSpelled ps)
    (hTail : tail.all isLayout = true) : ReadBack ps (spell ps ++ tail) (lexemesOf 0 ps) := by
  refine ⟨lexemesFrom_spell h hTail 0, map_token_lexemesOf 0 ps, ?_⟩
  rintro front gap token back rfl
  simpa using lexemesOf_getElem? 0 front gap token back

/-- Tokens written with layout anywhere between them are read back, each at its place, if no two words touch; and
the same tokens come back in no other case. -/
theorem reread_tokens {ps : List Piece} {tail : Text} (hTokens : ∀ p ∈ ps, p.2.isWellFormed = true)
    (hGaps : ∀ p ∈ ps, p.1.all isLayout = true) (hTail : tail.all isLayout = true) :
    (Separated ps → ∃ ls, ReadBack ps (spell ps ++ tail) ls) ∧
      ∀ ls, lexemes (spell ps ++ tail) = .ok ls → ls.map Lexeme.token = ps.map Prod.snd → Separated ps := by
  refine ⟨fun hSeparated => ?_, fun ls hRead hSame => ?_⟩
  · exact ⟨_, readBack_of_separated ⟨hTokens, hGaps, hSeparated⟩ hTail⟩
  · exact separated_of_tokens hTokens hGaps hRead hSame

/-- Tokens with no layout where none is needed, two strings that touch among them. -/
def tight : List Piece :=
  [([], .minus), ([], .int ['0', '7']), ([], .str ['é', '\n']), ([], .str []), ([], .ident ['_', '1']),
    (['\x0c'], .ident ['x']), ([], .leftParen), (['\r', '\n'], .int ['2'])]

theorem reread_tokens_tight :
    spell tight ++ ['\t'] = "-07\"é\n\"\"\"_1\x0cx(\r\n2\t".toList ∧
      ∃ ls, ReadBack tight (spell tight ++ ['\t']) ls := by
  have hTokens : ∀ p ∈ tight, p.2.isWellFormed = true := by decide
  have hGaps : ∀ p ∈ tight, p.1.all isLayout = true := by decide
  exact ⟨by decide, (reread_tokens hTokens hGaps (by decide)).1 (by decide)⟩

end LessonCheck.Arithmetic
