import LessonCheck.Arithmetic.Token

/-!
# From text to lexemes

A word that starts with a digit is an integer if it is all digits and is rejected whole if not, so no digit
run is ever split from what follows it. An unclosed quote is rejected with everything after it, and any
other unfit character alone. A token read is what the text starts with, so reading always shortens the text.
-/

namespace LessonCheck.Arithmetic

def isLayout (c : Char) : Bool := c == ' ' || c == '\t' || c == '\r' || c == '\n' || c == '\x0c'

def symbol? (c : Char) : Option Token :=
  [.plus, .minus, .star, .slash, .leftParen, .rightParen].find? fun t => t.text == [c]

/-- The token at the start of the text `c :: r` and what follows it, or the characters that are rejected. -/
def token? (c : Char) (r : Text) : Except Text (Token × Text) :=
  let w := Text.run Word.isNameChar r
  if c.isDigit then
    if w.1.all Char.isDigit then .ok (.int (c :: w.1), w.2) else .error (c :: w.1)
  else if Word.isNameStart c then .ok (.ident (c :: w.1), w.2)
  else if c = '"' then
    match Text.cut? '"' r with
    | some (body, rest) => .ok (.str body, rest)
    | none => .error (c :: r)
  else
    match symbol? c with
    | some t => .ok (t, r)
    | none => .error [c]

theorem text_of_symbol? {c : Char} {t : Token} (h : symbol? c = some t) : t.text = [c] := by
  simpa using List.find?_some h

theorem token?_append {c : Char} {r rest : Text} {t : Token} (h : token? c r = .ok (t, rest)) :
    ∃ w, t.text = c :: w ∧ r = w ++ rest := by
  unfold token? at h
  simp only at h
  split at h
  · split at h
    · obtain ⟨rfl, rfl⟩ := Prod.mk.inj (Except.ok.inj h)
      exact ⟨_, rfl, (Text.run_append _ _).symm⟩
    · cases h
  · split at h
    · obtain ⟨rfl, rfl⟩ := Prod.mk.inj (Except.ok.inj h)
      exact ⟨_, rfl, (Text.run_append _ _).symm⟩
    · split at h
      · next hc =>
        split at h
        · next body rest' hcut =>
          obtain ⟨rfl, rfl⟩ := Prod.mk.inj (Except.ok.inj h)
          refine ⟨body ++ ['"'], by simp [Token.text, hc], ?_⟩
          simp [(Text.cut?_eq_some_iff.1 hcut).1]
        · cases h
      · split at h
        · next hsym =>
          obtain ⟨rfl, rfl⟩ := Prod.mk.inj (Except.ok.inj h)
          exact ⟨[], text_of_symbol? hsym, rfl⟩
        · cases h

theorem length_of_token? {c : Char} {r rest : Text} {t : Token} (h : token? c r = .ok (t, rest)) :
    rest.length ≤ r.length := by
  obtain ⟨w, -, rfl⟩ := token?_append h
  simp

/-- The lexemes of a text that starts at the byte `offset`. -/
def lexemesFrom (offset : Nat) : Text → Except Error (List Lexeme)
  | [] => .ok []
  | c :: r =>
    if isLayout c then lexemesFrom (offset + c.utf8Size) r
    else
      match h : token? c r with
      | .error rejected => .error (.unexpectedInput offset rejected)
      | .ok (t, rest) =>
        have : rest.length < r.length + 1 := Nat.lt_succ_of_le (length_of_token? h)
        let stop := offset + Text.byteSize t.text
        (lexemesFrom stop rest).map (⟨t, offset, stop⟩ :: ·)
termination_by t => t.length

def lexemes (t : Text) : Except Error (List Lexeme) := lexemesFrom 0 t

end LessonCheck.Arithmetic
