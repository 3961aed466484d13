import LessonCheck.Check.Run
import LessonCheck.Proofs.Form

/-!
# Brackets of a statement

A closing bracket in front of a fragment closes a block, and a fragment may open one. In the chain of a
statement only the last fragment opens, and it does exactly if the text of the statement ends with an opening
bracket. So the brackets of a statement are one closing for each closer and then at most one opening.
-/

namespace LessonCheck

open Check

inductive Bracket
  | opening | closing
  deriving DecidableEq, Repr

namespace Bracket

/-- The number of open brackets after the events, if no closing one meets an empty stack. -/
def depthAfter : Nat → List Bracket → Option Nat
  | d, [] => some d
  | d, opening :: events => depthAfter (d + 1) events
  | d + 1, closing :: events => depthAfter d events
  | 0, closing :: _ => none

/-- No closing bracket without an opening one before it, and nothing left open. -/
def Balanced (events : List Bracket) : Prop := depthAfter 0 events = some 0

theorem depthAfter_append (d : Nat) (front back : List Bracket) :
    depthAfter d (front ++ back) = (depthAfter d front).bind fun d => depthAfter d back := by
  induction front generalizing d with
  | nil => rfl
  | cons event front ih =>
    cases event with
    | opening => exact ih (d + 1)
    | closing =>
      cases d with
      | zero => rfl
      | succ d => exact ih d

end Bracket

namespace Continuation

/-- Whether what follows a closing bracket is some spelling of an alternative. -/
def isAlternative : Continuation → Bool
  | otherwise | otherwiseSemicolon | semicolonOtherwise => true
  | nothing | fragment _ => false

theorem getLast?_of_isSemicolonElse {t : Text} (h : isSemicolonElse t = true) : t.getLast? = some '[' := by
  obtain ⟨r, hSemicolon, hElse⟩ := Option.map_eq_some_iff.mp (beq_iff_eq.mp h)
  rw [Text.after?_eq_some_iff.mp hSemicolon, List.getLast?_append,
    Form.getLast?_of_trimStart (Form.getLast?_of_isElse hElse), Option.some_or]

theorem ofText_cases (rest : Text) :
    Text.trim rest = [] ∧ ofText rest = nothing ∨
    (Text.trim rest).getLast? = some '[' ∧ (ofText rest).isAlternative = true ∨
    Text.trim rest ≠ [] ∧ ofText rest = fragment (Text.trim rest) := by
  unfold ofText
  simp only
  split
  · next hNil => exact .inl ⟨hNil, rfl⟩
  · next hNil =>
    right
    split
    · next hElse => exact .inl ⟨Form.getLast?_of_isElse hElse, rfl⟩
    · split
      · next hElse => exact .inl ⟨Form.getLast?_of_isElseSemicolon hElse, rfl⟩
      · split
        · next hElse => exact .inl ⟨getLast?_of_isSemicolonElse hElse, rfl⟩
        · exact .inr ⟨hNil, rfl⟩

theorem text_of_isAlternative {next : Continuation} (h : next.isAlternative = true) : next.text = [] := by
  cases next with
  | nothing | fragment => cases h
  | otherwise | otherwiseSemicolon | semicolonOtherwise => rfl

end Continuation

namespace Fragment

def opens (f : Fragment) : Bool :=
  match f.form with
  | .closer rest => (Continuation.ofText rest).isAlternative
  | .unterminatedDeclaration | .unknown => endsWith '[' f.text
  | form => form.isHeader

theorem isSome_opened? (rules : Rules) (line : Nat) (f : Fragment) :
    (State.opened? rules line f).isSome = f.opens := by
  obtain ⟨t, form⟩ := f
  cases form with
  | closer rest =>
    simp only [State.opened?, opens]
    cases Continuation.ofText rest <;> rfl
  | unterminatedDeclaration | unknown =>
    simp only [State.opened?, opens]
    cases endsWith '[' t <;> rfl
  | _ => rfl

/-- The brackets of one fragment: it closes before it opens. -/
def brackets (f : Fragment) : List Bracket :=
  (if State.closes f.form then [.closing] else []) ++ if f.opens then [.opening] else []

theorem brackets_of_isSimple {t : Text} {form : Form} (h : form.isSimple = true) :
    State.closes form = false ∧ opens ⟨t, form⟩ = false := by
  cases form with
  | declaration | assignment | io => exact ⟨rfl, rfl⟩
  | _ => cases h

theorem brackets_of_isHeader {t : Text} {form : Form} (h : form.isHeader = true) :
    State.closes form = false ∧ opens ⟨t, form⟩ = true := by
  cases form with
  | ifHeader | elseHeader | elseSemicolon | loopHeader => exact ⟨rfl, rfl⟩
  | _ => cases h

theorem first_of_closer {t rest left : Text} (h : Form.classify t = (.closer rest, left)) :
    first t = (⟨t, .closer rest⟩, (Continuation.ofText rest).text) := by
  rw [first, h]

theorem first_of_not_closer {t left : Text} {form : Form} (h : Form.classify t = (form, left))
    (hForm : State.closes form = false) : first t = (⟨t, form⟩, left) := by
  rw [first, h]
  cases form with
  | closer => cases hForm
  | _ => rfl

/-- A fragment that leaves nothing opens a block exactly if its text ends with a bracket; one that leaves
something opens none, and what it leaves is the back of its text. -/
inductive Leaves (t : Text) (f : Fragment) : Text → Prop
  | nothing (hOpens : f.opens = endsWith '[' t) : Leaves t f []
  | back {rest : Text} (hOpens : f.opens = false) (hRest : Text.Framed rest)
      (hText : ∃ front, t = front ++ rest) : Leaves t f rest

theorem leaves_closer {t tail : Text} (h : Text.Framed t) (hText : t = ']' :: tail) :
    Leaves t ⟨t, .closer (Text.trim tail)⟩ (Continuation.ofText (Text.trim tail)).text := by
  have hBack := @Text.trim_back_of_framed [']'] tail (by rw [List.singleton_append, ← hText]; exact h)
  have hCases := Continuation.ofText_cases (Text.trim tail)
  rw [Text.trim_trim] at hCases
  rcases hCases with ⟨hNil, hNext⟩ | ⟨hBracket, hNext⟩ | ⟨hNil, hNext⟩
  · rcases hBack with rfl | ⟨hFramed, -⟩
    · exact .nothing (by rw [hText]; rfl)
    · exact absurd hNil hFramed.ne_nil
  · rw [Continuation.text_of_isAlternative hNext]
    refine .nothing ?_
    rcases hBack with rfl | ⟨-, v, hTail⟩
    · cases hBracket
    · have hEnd : t.getLast? = some '[' := by
        rw [hText, hTail, ← List.cons_append, List.getLast?_append, hBracket, Option.some_or]
      rw [opens, endsWith, hEnd]
      exact hNext
  · rcases hBack with rfl | ⟨hFramed, v, hTail⟩
    · exact absurd rfl hNil
    · rw [hNext]
      refine .back ?_ hFramed ⟨']' :: v, ?_⟩
      · change (Continuation.ofText (Text.trim tail)).isAlternative = false
        rw [hNext]
        rfl
      · rw [Continuation.text, hText, List.cons_append, ← hTail]

theorem leaves_first {t : Text} (h : Text.Framed t) : Leaves t (first t).1 (first t).2 := by
  obtain ⟨⟨form, left⟩, hClassify⟩ : ∃ p, Form.classify t = p := ⟨_, rfl⟩
  cases Form.reads_of_classify hClassify with
  | closer hText =>
    rw [first_of_closer hClassify]
    exact leaves_closer h hText
  | simple hForm hText =>
    obtain ⟨hCloses, hOpens⟩ := brackets_of_isSimple (t := t) hForm
    obtain ⟨front, hText⟩ := hText
    rw [← List.singleton_append, ← List.append_assoc] at hText
    rw [first_of_not_closer hClassify hCloses]
    rcases Text.trim_back_of_framed (hText ▸ h) with rfl | ⟨hFramed, v, hTail⟩
    · refine .nothing ?_
      rw [hOpens, hText]
      simp [endsWith]
    · refine .back hOpens hFramed ⟨front ++ [';'] ++ v, ?_⟩
      rw [List.append_assoc (front ++ [';']), ← hTail]
      exact hText
  | header hForm hEnd =>
    obtain ⟨hCloses, hOpens⟩ := brackets_of_isHeader (t := t) hForm
    rw [first_of_not_closer hClassify hCloses]
    exact .nothing (by rw [hOpens, endsWith, hEnd]; rfl)
  | unterminated | unknown =>
    rw [first_of_not_closer hClassify rfl]
    exact .nothing rfl

theorem chain_nil : chain [] = [] := by
  rw [chain, dif_pos rfl]

theorem chain_of_ne_nil {t : Text} (h : t ≠ []) : chain t = (first t).1 :: chain (first t).2 := by
  rw [chain, dif_neg h]

/-- A form that leaves nothing, and is no closing bracket, is the only fragment of its text. -/
theorem chain_of_classify {t : Text} {form : Form} (ht : t ≠ []) (h : Form.classify t = (form, []))
    (hForm : State.closes form = false) : chain t = [⟨t, form⟩] := by
  rw [chain_of_ne_nil ht, first_of_not_closer h hForm, chain_nil]

theorem endsWith_of_back {front back : Text} (c : Char) (h : back ≠ []) :
    endsWith c (front ++ back) = endsWith c back := by
  obtain ⟨d, hLast⟩ := Option.isSome_iff_exists.mp (List.getLast?_isSome.mpr h)
  rw [endsWith, endsWith, List.getLast?_append, hLast, Option.some_or]

/-- The brackets of a chain: one closing for each closer, then one opening if the text ends with a bracket. -/
theorem brackets_chain {t : Text} (h : Text.Framed t) :
    (chain t).flatMap brackets =
      ((chain t).filter fun f => State.closes f.form).map (fun _ => Bracket.closing) ++
        if endsWith '[' t then [.opening] else [] := by
  induction t using chain.induct with
  | case1 => exact absurd rfl h.ne_nil
  | case2 t ht _ ih =>
    rw [chain_of_ne_nil ht, List.flatMap_cons, List.filter_cons]
    have hLeaves := leaves_first h
    generalize (first t).1 = f at hLeaves
    generalize (first t).2 = rest at hLeaves ih
    cases hLeaves with
    | nothing hOpens =>
      rw [chain_nil, brackets, hOpens]
      cases State.closes f.form <;> simp
    | back hOpens hRest hText =>
      obtain ⟨front, rfl⟩ := hText
      rw [ih hRest, brackets, hOpens, endsWith_of_back '[' hRest.ne_nil]
      cases State.closes f.form <;> simp

end Fragment
end LessonCheck
