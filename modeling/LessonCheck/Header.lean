import LessonCheck.Word

/-!
# Headers

A header is a keyword, a parenthesised part and the opening bracket of a block. The parenthesis that ends
the part is the one right before the bracket, so the part itself may hold parentheses.
-/

namespace LessonCheck.Header

/-- What follows the keyword, blanks and an opening parenthesis. -/
def afterParenthesis? (k : Keyword) (t : Text) : Option Text :=
  (Text.after? k.text t).bind fun r => Text.after? ['('] (Text.trimStart r)

/-- What stands before a closing parenthesis, blanks and an opening bracket that end the text. -/
def beforeBracket? (t : Text) : Option Text :=
  (Text.after? ['['] t.reverse).bind fun r =>
    (Text.after? [')'] (Text.trimStart r)).map List.reverse

/-- The parenthesised part of a header with this keyword, without the blanks at its ends. -/
def inside? (k : Keyword) (t : Text) : Option Text :=
  (afterParenthesis? k t).bind fun r =>
    (beforeBracket? r).bind fun part => if part = [] then none else some (Text.trim part)

def containsLoop : Text → Bool
  | [] => false
  | c :: r => (afterParenthesis? .loop (c :: r)).isSome || containsLoop r

theorem length_afterParenthesis? {k : Keyword} {t r : Text} (h : afterParenthesis? k t = some r) :
    r.length < t.length := by
  obtain ⟨u, hu, hr⟩ := Option.bind_eq_some_iff.1 h
  have h1 := Text.length_after? hu
  have h2 := Text.length_after? hr
  have h3 := Text.length_trimStart_le u
  simp only [List.length_singleton] at h2
  omega

end LessonCheck.Header
