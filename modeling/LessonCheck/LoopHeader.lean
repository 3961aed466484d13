import LessonCheck.Comparison
import LessonCheck.Text.Numeral

/-!
# Loop headers

The part in parentheses of a counting loop is accepted in one shape only: a declaration of the loop variable
as an integer with an initial value, a comparison of that variable, and its increment by one. Blanks do not
matter, since the header is read with its blanks collapsed.
-/

namespace LessonCheck.LoopHeader

/-- An initial value: decimal digits of any script with at most one minus sign in front. -/
def isInitialValue (t : Text) : Bool :=
  let digits := (Text.after? ['-'] t).getD t
  !digits.isEmpty && digits.all Text.isDecimalDigit

def declared? (clause : Text) : Option Text := do
  let afterKeyword ← Text.after? Keyword.declare.text clause
  let afterGap ← Text.afterBlanks? afterKeyword
  let (name, afterName) ← Word.identifier? afterGap
  let afterColon ← Text.after? [':'] (Text.trimStart afterName)
  let afterType ← Text.after? Keyword.integer.text (Text.trimStart afterColon)
  let value ← Text.after? ['='] (Text.trimStart afterType)
  if isInitialValue (Text.trimStart value) then some name else none

def incremented? (clause : Text) : Option Text := do
  let (target, afterTarget) ← Word.identifier? clause
  let afterEquals ← Text.after? ['='] (Text.trimStart afterTarget)
  let (name, afterName) ← Word.identifier? (Text.trimStart afterEquals)
  let step ← Text.after? ['+'] (Text.trimStart afterName)
  if target = name ∧ Text.trimStart step = ['1'] then some name else none

/-- The loop variable, if the header is accepted. -/
def counter? (header : Text) : Option Text :=
  match ((Text.collapseBlanks header).splitOn ';').map Text.trim with
  | [declaration, condition, update] => do
    let name ← declared? declaration
    let comparison ← Comparison.ofText? condition
    let updated ← incremented? update
    if comparison.name = name ∧ updated = name then some name else none
  | _ => none

end LessonCheck.LoopHeader
