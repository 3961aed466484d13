import LessonCheck.Text.Cut

/-!
# Words of the language

The eight keywords, all reserved, and the three kinds of word that a statement is made of: identifiers,
integer literals and string literals. These classes are ASCII only; a string literal has no escapes, so its
body may even hold quotes.
-/

namespace LessonCheck

inductive Keyword
  | declare | integer | string | when | otherwise | loop | print | scan
  deriving DecidableEq, Repr

namespace Keyword

def text : Keyword → Text
  | declare => "PADAM".toList
  | integer => "ANKHE".toList
  | string => "VARTTAI".toList
  | when => "ELAITHE".toList
  | otherwise => "ALAITHE".toList
  | loop => "MALLI-MALLI".toList
  | print => "CHATIMPU".toList
  | scan => "CHEPPU".toList

def all : List Keyword := [declare, integer, string, when, otherwise, loop, print, scan]

end Keyword

namespace Word

def reserved : List Text := Keyword.all.map Keyword.text

def isReserved (w : Text) : Bool := reserved.contains w

def isNameStart (c : Char) : Bool := c.isAlpha || c == '_'

def isNameChar (c : Char) : Bool := c.isAlphanum || c == '_'

def isIdentifier : Text → Bool
  | [] => false
  | c :: r => isNameStart c && r.all isNameChar

/-- The identifier at the start of the text, as long as possible, and what follows it. -/
def identifier? : Text → Option (Text × Text)
  | [] => none
  | c :: r => if isNameStart c then some (c :: (Text.run isNameChar r).1, (Text.run isNameChar r).2) else none

/-- Digits with at most one minus sign in front. -/
def isIntegerLiteral (w : Text) : Bool :=
  let digits := (Text.after? ['-'] w).getD w
  !digits.isEmpty && digits.all Char.isDigit

/-- A quote at both ends and no newline. -/
def isStringLiteral : Text → Bool
  | '"' :: r => r.getLast? == some '"' && !r.contains '\n'
  | _ => false

theorem identifier?_append {t w r : Text} (h : identifier? t = some (w, r)) : w ++ r = t := by
  cases t with
  | nil => simp [identifier?] at h
  | cons c t =>
    by_cases hc : isNameStart c
    · simp only [identifier?, hc, if_true, Option.some.injEq, Prod.mk.injEq] at h
      obtain ⟨rfl, rfl⟩ := h
      simp [Text.run_append]
    · simp [identifier?, hc] at h

theorem isIdentifier_of_identifier? {t w r : Text} (h : identifier? t = some (w, r)) :
    isIdentifier w = true := by
  cases t with
  | nil => simp [identifier?] at h
  | cons c t =>
    by_cases hc : isNameStart c
    · simp only [identifier?, hc, if_true, Option.some.injEq, Prod.mk.injEq] at h
      obtain ⟨rfl, -⟩ := h
      have hall : (Text.run isNameChar t).1.all isNameChar = true := List.all_takeWhile
      simp [isIdentifier, hc, hall]
    · simp [identifier?, hc] at h

theorem length_identifier? {t w r : Text} (h : identifier? t = some (w, r)) : r.length < t.length := by
  have hw := isIdentifier_of_identifier? h
  cases w with
  | nil => simp [isIdentifier] at hw
  | cons c w =>
    have hl := congrArg List.length (identifier?_append h)
    simp only [List.length_append, List.length_cons] at hl
    omega

end Word
end LessonCheck
