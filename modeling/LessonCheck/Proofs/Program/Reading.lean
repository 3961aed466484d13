import LessonCheck.Proofs.Brackets
import LessonCheck.Proofs.Program.Recognition

/-!
# Reading joined lines

The lines of one statement are joined by newlines, and its fragments are read off the front of the joined
text. As long as only commands and closing brackets stand before the last line, the fragments are the lines.
An alternative before the last line is lost: its bracket no longer ends the statement, so the rest of its line
is no form at all.
-/

namespace LessonCheck.Program

open Text

/-- The text of a statement that consists of these lines. -/
def joined : List Line → Text
  | [] => []
  | [l] => l.text
  | l :: m :: ls => l.text ++ '\n' :: joined (m :: ls)

theorem joined_concat {ls : List Line} (h : ls ≠ []) (l : Line) :
    joined (ls ++ [l]) = joined ls ++ '\n' :: l.text := by
  induction ls with
  | nil => exact absurd rfl h
  | cons m ls ih =>
    cases ls with
    | nil => rfl
    | cons k ls =>
      have hRest := ih (List.cons_ne_nil k ls)
      simp only [List.cons_append] at hRest
      simp only [List.cons_append, joined, hRest, List.append_assoc]

theorem framed_joined {ls : List Line} (h : ls ≠ []) : Framed (joined ls) := by
  induction ls with
  | nil => exact absurd rfl h
  | cons l ls ih =>
    cases ls with
    | nil => exact l.framed_text
    | cons m ls =>
      have hFramed := framed_append l.framed_text (ih (List.cons_ne_nil m ls)) ['\n']
      rwa [List.append_assoc] at hFramed

theorem exists_joined_cons (l : Line) (ls : List Line) : ∃ s, joined (l :: ls) = l.text ++ s := by
  cases ls with
  | nil => exact ⟨[], (List.append_nil _).symm⟩
  | cons m ls => exact ⟨_, rfl⟩

/-! ## No line is the spelling of an alternative -/

theorem equals_notMem_of_afterOtherwise? {t r : Text} (h : Form.afterOtherwise? t = some r) (hr : '=' ∉ r) :
    '=' ∉ t := by
  obtain ⟨u, hKeyword, rfl⟩ := Option.map_eq_some_iff.mp h
  obtain ⟨w, hw, hEq⟩ := exists_append_trimStart u
  rw [after?_eq_some_iff.mp hKeyword, hEq, List.mem_append, List.mem_append]
  rintro (hMem | hMem | hMem)
  · exact absurd hMem (by decide)
  · exact absurd (hw '=' hMem) (by decide)
  · exact hr hMem

theorem equals_notMem_of_isElse {t : Text} (h : Form.isElse t = true) : '=' ∉ t :=
  equals_notMem_of_afterOtherwise? (beq_iff_eq.mp h) (by decide)

theorem equals_notMem_of_isElseSemicolon {t : Text} (h : Form.isElseSemicolon t = true) : '=' ∉ t := by
  obtain ⟨u, hSemicolon, hStart⟩ := Option.map_eq_some_iff.mp (beq_iff_eq.mp h)
  obtain ⟨v, hKeyword, hAfter⟩ := Option.bind_eq_some_iff.mp hSemicolon
  obtain ⟨w, hw, hEq⟩ := exists_append_trimStart u
  apply equals_notMem_of_afterOtherwise? hKeyword
  rw [after?_eq_some_iff.mp hAfter, hEq, hStart, List.mem_append, List.mem_append]
  rintro (hMem | hMem | hMem)
  · exact absurd hMem (by decide)
  · exact absurd (hw '=' hMem) (by decide)
  · exact absurd hMem (by decide)

/-- A text that starts with neither the keyword nor a semicolon is no alternative, nor is one with an equals
sign behind a name. -/
theorem ofText_eq_fragment {t : Text} {c : Char} (hFramed : Framed t) (hFirst : t.head? = some c)
    (hSemicolon : c ≠ ';') (hKeyword : c ≠ 'A' ∨ '=' ∈ t) : Continuation.ofText t = .fragment t := by
  have hAfter (h : c ≠ 'A') : Form.afterOtherwise? t = none := by
    obtain ⟨u, rfl⟩ := List.head?_eq_some_iff.mp hFirst
    rw [Form.afterOtherwise?, show Keyword.otherwise.text = 'A' :: "LAITHE".toList from rfl, after?,
      if_neg (Ne.symm h)]
    rfl
  have hElse : ¬ Form.isElse t = true := by
    intro hElse
    rcases hKeyword with h | h
    · rw [Form.isElse, hAfter h] at hElse
      cases hElse
    · exact equals_notMem_of_isElse hElse h
  have hElseSemicolon : ¬ Form.isElseSemicolon t = true := by
    intro hElse
    rcases hKeyword with h | h
    · rw [Form.isElseSemicolon, hAfter h] at hElse
      cases hElse
    · exact equals_notMem_of_isElseSemicolon hElse h
  have hSemicolonElse : ¬ Continuation.isSemicolonElse t = true := by
    obtain ⟨u, rfl⟩ := List.head?_eq_some_iff.mp hFirst
    rw [Continuation.isSemicolonElse, after?, if_neg (Ne.symm hSemicolon)]
    exact Bool.false_ne_true
  unfold Continuation.ofText
  simp only [trim_of_framed hFramed]
  rw [if_neg hFramed.ne_nil, if_neg hElse, if_neg hElseSemicolon, if_neg hSemicolonElse]

theorem ofText_line {l : Line} {s : Text} (hFramed : Framed (l.text ++ s)) :
    Continuation.ofText (l.text ++ s) = .fragment (l.text ++ s) := by
  cases l with
  | command c =>
    cases c with
    | declare x type value => exact ofText_eq_fragment (c := 'P') hFramed rfl (by decide) (.inl (by decide))
    | assign target value =>
      obtain ⟨c, u, hText⟩ := List.exists_cons_of_ne_nil target.text_ne_nil
      have hName := target.isNameChar_of_mem c (by rw [hText]; exact List.mem_cons_self)
      refine ofText_eq_fragment (c := c) hFramed ?_ ?_ (.inr ?_)
      · simp [Line.text, Command.text, hText]
      · rintro rfl
        cases hName
      · simp [Line.text, Command.text]
    | io kind a =>
      refine ofText_eq_fragment (c := 'C') hFramed ?_ (by decide) (.inl (by decide))
      cases kind <;> rfl
  | condition c => exact ofText_eq_fragment (c := 'E') hFramed rfl (by decide) (.inl (by decide))
  | loop h => exact ofText_eq_fragment (c := 'M') hFramed rfl (by decide) (.inl (by decide))
  | close | otherwise => exact ofText_eq_fragment (c := ']') hFramed rfl (by decide) (.inl (by decide))

theorem ofText_joined {ls : List Line} (h : ls ≠ []) :
    Continuation.ofText (joined ls) = .fragment (joined ls) := by
  obtain ⟨l, ls, rfl⟩ := List.exists_cons_of_ne_nil h
  have hFramed := framed_joined h
  obtain ⟨s, hText⟩ := exists_joined_cons l ls
  rw [hText] at hFramed ⊢
  exact ofText_line hFramed

/-! ## Fragments of joined lines -/

/-- The form as which a line is read. A closing bracket is followed by nothing that belongs to it. -/
inductive ReadsAs : Line → Form → Prop
  | command (c : Command) : ReadsAs (.command c) c.form
  | condition (c : Condition) : ReadsAs (.condition c) (.ifHeader c.text)
  | loop (h : Counting) : ReadsAs (.loop h) (.loopHeader h.text)
  | close {rest : Text} (hRest : (Continuation.ofText rest).isAlternative = false) : ReadsAs .close (.closer rest)
  | otherwise {rest : Text} (hRest : Continuation.ofText rest = .otherwise) : ReadsAs .otherwise (.closer rest)

/-- Whether a line may stand before others in a statement and still be read. -/
def Line.isPlain : Line → Bool
  | command _ | close => true
  | condition _ | loop _ | otherwise => false

theorem Command.closes_form (c : Command) : Check.State.closes c.form = false := by
  cases c <;> rfl

/-- The first fragment of a statement of several lines is its first line. -/
theorem chain_plain {l : Line} (hPlain : l.isPlain = true) {ls : List Line} (h : ls ≠ []) :
    ∃ f, ReadsAs l f.form ∧ Fragment.chain (l.text ++ '\n' :: joined ls) = f :: Fragment.chain (joined ls) := by
  have hTrim : trim ('\n' :: joined ls) = joined ls := trim_cons_of_framed (by decide) (framed_joined h)
  have hne : l.text ++ '\n' :: joined ls ≠ [] := by simp
  rw [Fragment.chain_of_ne_nil hne]
  cases l with
  | command c =>
    have hClassify := c.classify_append ('\n' :: joined ls)
    rw [hTrim] at hClassify
    rw [show (Line.command c).text = c.text from rfl, Fragment.first_of_not_closer hClassify c.closes_form]
    exact ⟨_, .command c, rfl⟩
  | close =>
    have hClassify := classify_closer ('\n' :: joined ls)
    rw [hTrim] at hClassify
    rw [show Line.close.text ++ '\n' :: joined ls = ']' :: '\n' :: joined ls from rfl,
      Fragment.first_of_closer hClassify, ofText_joined h]
    exact ⟨_, .close (by rw [ofText_joined h]; rfl), rfl⟩
  | condition | loop | otherwise => cases hPlain

theorem chain_line (l : Line) : ∃ f, ReadsAs l f.form ∧ Fragment.chain l.text = [f] := by
  have hClassify : ∃ form, ReadsAs l form ∧
      (Form.classify l.text = (form, []) ∧ Check.State.closes form = false ∨
        ∃ rest, form = .closer rest ∧ Form.classify l.text = (form, []) ∧
          (Continuation.ofText rest).text = []) := by
    cases l with
    | command c =>
      have h := c.classify_append []
      rw [List.append_nil, trim_nil] at h
      exact ⟨c.form, .command c, .inl ⟨h, c.closes_form⟩⟩
    | condition c =>
      have hClassify := classify_condition c.framed_text.ne_nil
      rw [trim_of_framed c.framed_text] at hClassify
      exact ⟨_, .condition c, .inl ⟨hClassify, rfl⟩⟩
    | loop h =>
      have hClassify := classify_loop h.framed.ne_nil
      rw [trim_of_framed h.framed] at hClassify
      exact ⟨_, .loop h, .inl ⟨hClassify, rfl⟩⟩
    | close => exact ⟨_, .close (by decide), .inr ⟨_, rfl, classify_closer [], by decide⟩⟩
    | otherwise => exact ⟨_, .otherwise (by decide), .inr ⟨_, rfl, classify_closer _, by decide⟩⟩
  obtain ⟨form, hReads, hForm⟩ := hClassify
  refine ⟨⟨l.text, form⟩, hReads, ?_⟩
  rcases hForm with ⟨hClassify, hCloses⟩ | ⟨rest, rfl, hClassify, hNil⟩
  · exact Fragment.chain_of_classify l.framed_text.ne_nil hClassify hCloses
  · rw [Fragment.chain_of_ne_nil l.framed_text.ne_nil, Fragment.first_of_closer hClassify, hNil,
      Fragment.chain_nil]

/-- A statement is read line by line if only commands and closing brackets stand before its last line. -/
theorem forall₂_readsAs_chain {front : List Line} (h : ∀ l ∈ front, l.isPlain = true) (last : Line) :
    List.Forall₂ (fun l f => ReadsAs l (Fragment.form f)) (front ++ [last])
      (Fragment.chain (joined (front ++ [last]))) := by
  induction front with
  | nil =>
    obtain ⟨f, hReads, hChain⟩ := chain_line last
    rw [List.nil_append, joined, hChain]
    exact .cons hReads .nil
  | cons l front ih =>
    obtain ⟨hPlain, hFront⟩ := List.forall_mem_cons.mp h
    have hne : front ++ [last] ≠ [] := by simp
    obtain ⟨f, hReads, hChain⟩ := chain_plain hPlain hne
    obtain ⟨m, rest, hRest⟩ := List.exists_cons_of_ne_nil hne
    rw [hRest] at hChain ih
    rw [List.cons_append, hRest, joined, hChain]
    exact .cons hReads (ih hFront)

theorem ofText_otherwise_append {r : Text} (hr : r ≠ [])
    (hFramed : Framed (Keyword.otherwise.text ++ ' ' :: '[' :: r)) :
    Continuation.ofText (Keyword.otherwise.text ++ ' ' :: '[' :: r) =
      .fragment (Keyword.otherwise.text ++ ' ' :: '[' :: r) := by
  have hElse : ¬ Form.isElse (Keyword.otherwise.text ++ ' ' :: '[' :: r) = true := by
    rw [isElse_otherwise_append hr]
    exact Bool.false_ne_true
  have hElseSemicolon : ¬ Form.isElseSemicolon (Keyword.otherwise.text ++ ' ' :: '[' :: r) = true :=
    Bool.false_ne_true
  have hSemicolonElse : ¬ Continuation.isSemicolonElse (Keyword.otherwise.text ++ ' ' :: '[' :: r) = true :=
    Bool.false_ne_true
  unfold Continuation.ofText
  simp only [trim_of_framed hFramed]
  rw [if_neg hFramed.ne_nil, if_neg hElse, if_neg hElseSemicolon, if_neg hSemicolonElse]

/-- An alternative before the last line of a statement leaves a fragment of no known form. -/
theorem exists_unknown_chain {front back : List Line} (h : ∀ l ∈ front, l.isPlain = true) (hBack : back ≠ []) :
    ∃ f ∈ Fragment.chain (joined (front ++ .otherwise :: back)), f.form = .unknown := by
  induction front with
  | nil =>
    obtain ⟨m, back, rfl⟩ := List.exists_cons_of_ne_nil hBack
    have hFramed := framed_joined hBack
    have hRest : Framed (Keyword.otherwise.text ++ ' ' :: '[' :: '\n' :: joined (m :: back)) := by
      have hAll := framed_append (framed_keyword .otherwise) hFramed (' ' :: '[' :: ['\n'])
      simpa using hAll
    have hne : '\n' :: joined (m :: back) ≠ [] := List.cons_ne_nil _ _
    have hText : joined (.otherwise :: m :: back) =
        ']' :: ' ' :: (Keyword.otherwise.text ++ ' ' :: '[' :: '\n' :: joined (m :: back)) := rfl
    have hCloser := classify_closer (' ' :: (Keyword.otherwise.text ++ ' ' :: '[' :: '\n' :: joined (m :: back)))
    rw [trim_cons_of_framed (by decide) hRest] at hCloser
    rw [List.nil_append, hText, Fragment.chain_of_ne_nil (List.cons_ne_nil _ _), Fragment.first_of_closer hCloser,
      ofText_otherwise_append hne hRest, Continuation.text, Fragment.chain_of_ne_nil hRest.ne_nil,
      Fragment.first_of_not_closer (classify_otherwise_append hne) rfl]
    exact ⟨_, List.mem_cons_of_mem _ List.mem_cons_self, rfl⟩
  | cons l front ih =>
    obtain ⟨hPlain, hFront⟩ := List.forall_mem_cons.mp h
    have hne : front ++ .otherwise :: back ≠ [] := by simp
    obtain ⟨f, -, hChain⟩ := chain_plain hPlain hne
    obtain ⟨m, rest, hRest⟩ := List.exists_cons_of_ne_nil hne
    rw [hRest] at hChain ih
    rw [List.cons_append, hRest, joined, hChain]
    obtain ⟨g, hMem, hUnknown⟩ := ih hFront
    exact ⟨g, List.mem_cons_of_mem f hMem, hUnknown⟩

end LessonCheck.Program
