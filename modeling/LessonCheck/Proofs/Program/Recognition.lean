import LessonCheck.Proofs.Shapes

/-!
# Recognition of written lines

Each line of a written program is recognised as the form it was written for. A command has the shape of its form
with any text behind its semicolon, so it is recognised in front of any continuation; a header ends its statement,
and the readers tried before the right one fail on its first word.
-/

namespace LessonCheck

namespace Program

open Text

/-! ## Commands -/

theorem Literal.plain_text (l : Literal) : ∀ c ∈ l.text, c ≠ '\n' ∧ c ≠ ';' := by
  intro c hc
  cases l with
  | number n =>
    have hToken := n.isTokenChar_of_mem c hc
    refine ⟨?_, (plain_of_isTokenChar hToken).2.2⟩
    rintro rfl
    cases hToken
  | string b =>
    rcases List.mem_cons.mp hc with rfl | hc
    · decide
    · rcases List.mem_append.mp hc with hc | hc
      · exact (b.plain c hc).2
      · rw [List.mem_singleton.mp hc]
        decide

theorem headShape (x : Name) (type : ValueType) (rest : Text) :
    Form.HeadShape (Keyword.declare.text ++ ' ' :: (x.text ++ ':' :: (type.keyword.text ++ rest))) x.text type
      rest := by
  have hGap : AllBlank [' '] := by decide
  exact ⟨.inl x.isIdentifier, [' '], [], [], List.cons_ne_nil _ _, hGap, allBlank_nil, allBlank_nil, rfl⟩

theorem declarationShape (x : Name) (type : ValueType) (value : Option Literal) (r : Text) :
    Form.DeclarationShape ((Command.declare x type value).text ++ r) x.text type
      (value.map fun l => ' ' :: l.text) r := by
  refine ⟨?text, ?semicolon, ?line⟩
  case text =>
    cases value with
    | none =>
      have hHead := headShape x type (';' :: r)
      exact ⟨[], allBlank_nil, by simpa [Command.text, Command.initializer, Form.valuePart] using hHead⟩
    | some l =>
      have hHead := headShape x type (' ' :: '=' :: ' ' :: (l.text ++ ';' :: r))
      exact ⟨[' '], by decide, by simpa [Command.text, Command.initializer, Form.valuePart] using hHead⟩
  case semicolon =>
    intro b hb
    obtain ⟨l, -, rfl⟩ := Option.map_eq_some_iff.mp hb
    rw [List.mem_cons, not_or]
    exact ⟨by decide, fun hMem => (l.plain_text ';' hMem).2 rfl⟩
  case line =>
    intro b hb
    obtain ⟨l, -, rfl⟩ := Option.map_eq_some_iff.mp hb
    rw [trim_cons_of_framed (by decide) l.framed_text]
    exact fun hMem => (l.plain_text '\n' hMem).1 rfl

theorem Argument.plain_text (a : Argument) : ∀ c ∈ a.text, c ≠ '\n' ∧ c ≠ ';' := by
  cases a with
  | quoted b => exact Literal.plain_text (.string b)
  | named x =>
    intro c hc
    have hName := x.isNameChar_of_mem c hc
    constructor
    · rintro rfl
      cases hName
    · rintro rfl
      cases hName

theorem RightHandSide.semicolon_notMem (v : RightHandSide) : ';' ∉ v.text := by
  intro hMem
  cases v with
  | formula e => exact (e.plain ';' hMem).2.2 rfl
  | argument a => exact (a.plain_text ';' hMem).2 rfl

theorem rightHandSide_of_framed {v : Text} (h : Framed v) : Form.rightHandSide (' ' :: v) = v := by
  have hTrim : trim (' ' :: v) = v := trim_cons_of_framed (by decide) h
  rw [Form.rightHandSide, hTrim, if_neg h.ne_nil]

theorem assignmentShape (target : Name) (v : RightHandSide) (r : Text) :
    Form.AssignmentShape ((Command.assign target v).text ++ r) target.text (' ' :: v.text) r := by
  refine ⟨target.isIdentifier, ⟨[' '], by decide, by simp [Command.text]⟩, List.cons_ne_nil _ _, ?_⟩
  rw [List.mem_cons, not_or]
  exact ⟨by decide, v.semicolon_notMem⟩

/-- A parenthesis inside the argument closes nothing: the argument has no semicolon to follow it. -/
theorem cutClosing?_append {part : Text} (h : ';' ∉ part) (r : Text) :
    Form.cutClosing? (part ++ ')' :: ';' :: r) = some (part, r) := by
  induction part with
  | nil => rfl
  | cons c part ih =>
    rw [List.mem_cons, not_or] at h
    have hNone : (if c = ')' then after? [';'] (trimStart (part ++ ')' :: ';' :: r)) else none) = none := by
      split
      · obtain ⟨w, hw, hEq⟩ := exists_append_trimStart part
        cases hStart : trimStart part with
        | nil =>
          rw [hEq, hStart, List.append_nil, trimStart_append_of_allBlank hw]
          rfl
        | cons d rest =>
          have hd : isBlank d = false := isBlank_eq_false_of_trimStart hStart
          have hSemicolon : ';' ≠ d := by
            rintro rfl
            apply h.2
            rw [hEq, hStart]
            simp
          rw [hEq, hStart, List.append_assoc, trimStart_append_of_allBlank hw, List.cons_append,
            trimStart_cons_of_not_blank hd, after?, if_neg hSemicolon]
      · rfl
    rw [List.cons_append, Form.cutClosing?, hNone, ih h.2]
    rfl

theorem ioShape (kind : IoKind) (a : Argument) (r : Text) :
    Form.IoShape kind ((Command.io kind a).text ++ r) a.text r := by
  have hCut := cutClosing?_append (fun hMem => (a.plain_text ';' hMem).2 rfl) r
  refine ⟨⟨[], a.text ++ ')' :: ';' :: r, allBlank_nil, by simp [Command.text], Form.cutClosing?_iff.mp hCut⟩, ?_⟩
  rw [trim_of_framed a.framed_text]
  exact fun hMem => (a.plain_text '\n' hMem).1 rfl

namespace Command

def form : Command → Form
  | declare x type value => .declaration x.text type (value.map Literal.text)
  | assign target value => .assignment target.text value.text
  | io kind a => .io kind a.text

theorem classify_append (c : Command) (r : Text) : Form.classify (c.text ++ r) = (c.form, trim r) := by
  cases c with
  | declare x type value =>
    have hValue : value.map Literal.text = (value.map fun l => ' ' :: l.text).map trim := by
      cases value with
      | none => rfl
      | some l => rw [Option.map_some, Option.map_some, Option.map_some, trim_cons_of_framed (by decide) l.framed_text]
    exact Form.classify_of_declaration? (Form.declaration?_iff.mpr ⟨_, r, declarationShape x type value r, hValue, rfl⟩)
  | assign target value =>
    have hExpr := (rightHandSide_of_framed value.framed_text).symm
    exact Form.classify_of_assignment? (Form.assignment?_iff.mpr ⟨_, r, assignmentShape target value r, hExpr, rfl⟩)
  | io kind a =>
    have hArg := (trim_of_framed a.framed_text).symm
    exact Form.classify_of_io? (Form.io?_iff.mpr ⟨_, r, ioShape kind a r, hArg, rfl⟩)

end Command

/-! ## Headers -/

theorem beforeBracket?_append (part : Text) : Header.beforeBracket? (part ++ [')', ' ', '[']) = some part := by
  simp [Header.beforeBracket?, after?, trimStart, isBlank]

theorem inside?_headerText (k : Keyword) {part : Text} (h : part ≠ []) :
    Header.inside? k (headerText k part) = some (trim part) := by
  have hOpening : Header.afterParenthesis? k (headerText k part) = some (part ++ [')', ' ', '[']) := by
    rw [headerText, Header.afterParenthesis?, after?_append]
    rfl
  rw [Header.inside?, hOpening, Option.bind_some, beforeBracket?_append, Option.bind_some, if_neg h]

theorem classify_condition {part : Text} (h : part ≠ []) :
    Form.classify (headerText .when part) = (.ifHeader (trim part), []) := by
  have hWord : Word.identifier? (headerText .when part) =
      some (Keyword.when.text, ' ' :: '(' :: (part ++ [')', ' ', '['])) :=
    Word.identifier?_of_isIdentifier (by decide) rfl
  have hDeclare : Keyword.when.text ≠ Keyword.declare.text := by decide
  have hAssignment : Form.assignment? (headerText .when part) = none :=
    Form.assignment?_eq_none hWord (by simp [trimStart, isBlank])
  have hPrint : Form.io? .print (headerText .when part) = none := rfl
  have hScan : Form.io? .scan (headerText .when part) = none := rfl
  have hHeader : Form.ifHeader? (headerText .when part) = some (.ifHeader (trim part), []) := by
    rw [Form.ifHeader?, inside?_headerText .when h]
    rfl
  rw [Form.classify_eq_of_firstWord hWord hDeclare]
  simp only [List.findSome?_cons, hAssignment, hPrint, hScan, hHeader, Option.getD_some]

theorem classify_loop {part : Text} (h : part ≠ []) :
    Form.classify (headerText .loop part) = (.loopHeader (trim part), []) := by
  have hWord : Word.identifier? (headerText .loop part) =
      some ("MALLI".toList, "-MALLI ".toList ++ '(' :: (part ++ [')', ' ', '['])) :=
    @Word.identifier?_of_isIdentifier "MALLI".toList _ (by decide) rfl
  have hDeclare : "MALLI".toList ≠ Keyword.declare.text := by decide
  have hAssignment : Form.assignment? (headerText .loop part) = none :=
    Form.assignment?_eq_none hWord (by simp [trimStart, isBlank])
  have hPrint : Form.io? .print (headerText .loop part) = none := rfl
  have hScan : Form.io? .scan (headerText .loop part) = none := rfl
  have hCondition : Form.ifHeader? (headerText .loop part) = none := rfl
  have hElse : Form.elseHeader? (headerText .loop part) = none := rfl
  have hElseSemicolon : Form.elseSemicolon? (headerText .loop part) = none := rfl
  have hHeader : Form.loopHeader? (headerText .loop part) = some (.loopHeader (trim part), []) := by
    rw [Form.loopHeader?, inside?_headerText .loop h]
    rfl
  rw [Form.classify_eq_of_firstWord hWord hDeclare]
  simp only [List.findSome?_cons, hAssignment, hPrint, hScan, hCondition, hElse, hElseSemicolon, hHeader,
    Option.getD_some]

/-! ## Closing brackets -/

theorem classify_closer (r : Text) : Form.classify (']' :: r) = (.closer (trim r), []) := rfl

theorem isElse_otherwise_append {r : Text} (hr : r ≠ []) :
    Form.isElse (Keyword.otherwise.text ++ ' ' :: '[' :: r) = false := by
  have hAfter : Form.afterOtherwise? (Keyword.otherwise.text ++ ' ' :: '[' :: r) = some ('[' :: r) := rfl
  rw [Form.isElse, hAfter]
  simpa using hr

/-- The spelling of an alternative is one only at the end of its statement. -/
theorem classify_otherwise_append {r : Text} (hr : r ≠ []) :
    Form.classify (Keyword.otherwise.text ++ ' ' :: '[' :: r) = (.unknown, []) := by
  have hWord : Word.identifier? (Keyword.otherwise.text ++ ' ' :: '[' :: r) =
      some (Keyword.otherwise.text, ' ' :: '[' :: r) :=
    Word.identifier?_of_isIdentifier (by decide) rfl
  have hDeclare : Keyword.otherwise.text ≠ Keyword.declare.text := by decide
  have hAssignment : Form.assignment? (Keyword.otherwise.text ++ ' ' :: '[' :: r) = none :=
    Form.assignment?_eq_none hWord (by simp [trimStart, isBlank])
  have hPrint : Form.io? .print (Keyword.otherwise.text ++ ' ' :: '[' :: r) = none := rfl
  have hScan : Form.io? .scan (Keyword.otherwise.text ++ ' ' :: '[' :: r) = none := rfl
  have hCondition : Form.ifHeader? (Keyword.otherwise.text ++ ' ' :: '[' :: r) = none := rfl
  have hLoop : Form.loopHeader? (Keyword.otherwise.text ++ ' ' :: '[' :: r) = none := rfl
  have hElse := isElse_otherwise_append hr
  have hElseSemicolon : Form.isElseSemicolon (Keyword.otherwise.text ++ ' ' :: '[' :: r) = false := rfl
  rw [Form.classify_eq_of_firstWord hWord hDeclare]
  simp only [List.findSome?_cons, hAssignment, hPrint, hScan, hCondition, Form.elseHeader?, Form.elseSemicolon?,
    hElse, hElseSemicolon, hLoop, Bool.false_eq_true, if_false, List.findSome?_nil, Option.getD_none]

end Program
end LessonCheck
