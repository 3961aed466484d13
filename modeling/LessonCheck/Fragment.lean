import LessonCheck.Form.Reader

/-!
# Fragments of a statement

A statement text is a chain of fragments: each is classified, and the next starts with what the form left.
After a closing bracket the spellings of an alternative belong to the bracket; anything else there is a
fragment of its own. The chain does not depend on any declaration, so it is fixed before checking starts.
-/

namespace LessonCheck

inductive Continuation
  | nothing
  | otherwise
  | otherwiseSemicolon
  | semicolonOtherwise
  | fragment (text : Text)
  deriving DecidableEq, Repr

namespace Continuation

def isSemicolonElse (t : Text) : Bool :=
  ((Text.after? [';'] t).map fun r => Form.isElse (Text.trimStart r)) == some true

def ofText (rest : Text) : Continuation :=
  let t := Text.trim rest
  if t = [] then nothing
  else if Form.isElse t then otherwise
  else if Form.isElseSemicolon t then otherwiseSemicolon
  else if isSemicolonElse t then semicolonOtherwise
  else fragment t

def text : Continuation → Text
  | fragment t => t
  | _ => []

theorem length_text_ofText_le (rest : Text) : (ofText rest).text.length ≤ rest.length := by
  have h := Text.length_trim_le rest
  unfold ofText
  simp only
  repeat' split
  all_goals simp [text, h]

end Continuation

/-- A piece of a statement: the text from its start to the end of the statement, and its form. -/
structure Fragment where
  text : Text
  form : Form
  deriving DecidableEq, Repr

namespace Fragment

/-- The fragment at the start of the text, and where the next one starts. -/
def first (t : Text) : Fragment × Text :=
  match Form.classify t with
  | (.closer rest, _) => (⟨t, .closer rest⟩, (Continuation.ofText rest).text)
  | (form, rest) => (⟨t, form⟩, rest)

theorem length_first_lt {t : Text} (h : t ≠ []) : (first t).2.length < t.length := by
  obtain ⟨hrest, hcloser⟩ := Form.classify_shortens h
  unfold first
  split
  · next rest _ heq =>
    rw [heq] at hcloser
    exact Nat.lt_of_le_of_lt (Continuation.length_text_ofText_le rest) (hcloser rest rfl)
  · next form rest _ heq =>
    rw [heq] at hrest
    exact hrest

def chain (t : Text) : List Fragment :=
  if h : t = [] then []
  else
    have := length_first_lt h
    (first t).1 :: chain (first t).2
termination_by t.length

def ofStatement (text : Text) : List Fragment := chain (Text.trim text)

end Fragment
end LessonCheck
