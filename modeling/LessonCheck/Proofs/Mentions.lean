import LessonCheck.Proofs.Comparison
import LessonCheck.Proofs.Messages
import LessonCheck.Proofs.Partition
import LessonCheck.Proofs.Shapes

/-!
# What a statement mentions

Every name that a form looks up or binds is written in one of its parts, the parts are written in the fragment, the
fragment in its statement, and the statement in the source. Joining lines and collapsing blanks make no new names.
So a name that is not written anywhere in the source is mentioned by no step of the program.
-/

namespace LessonCheck

open Text

/-! ## Names in headers -/

theorem Comparison.infix_of_ofText? {t : Text} {c : Comparison} (h : ofText? t = some c) :
    c.name <:+: t ∧ c.value <:+: t := by
  obtain ⟨gap, rest, hText, -, -, hValue, -⟩ := exists_of_ofText? h
  refine ⟨⟨[], _, hText.symm⟩, ?_⟩
  rw [eq_trim_of_value? hValue]
  exact (isInfix_trim rest).trans ⟨c.name ++ (gap ++ c.relation.text), [], by simp [hText]⟩

/-- The variable of an accepted loop header is compared in it. -/
theorem LoopHeader.infix_of_counter? {header name : Text} (h : counter? header = some name) :
    name <:+: collapseBlanks header := by
  unfold counter? at h
  split at h
  · next declaration condition update hParts =>
    simp only [Option.bind_eq_bind, Option.bind_eq_some_iff] at h
    obtain ⟨declared, -, c, hCompared, updated, -, h⟩ := h
    obtain ⟨⟨hSame, -⟩, hEq⟩ := Option.ite_none_right_eq_some.mp h
    obtain rfl := Option.some.inj hEq
    have hMem : condition ∈ ((collapseBlanks header).splitOn ';').map trim := by simp [hParts]
    obtain ⟨part, hPart, rfl⟩ := List.mem_map.mp hMem
    rw [← hSame]
    exact ((Comparison.infix_of_ofText? hCompared).1.trans (isInfix_trim part)).trans (infix_of_mem_splitOnP hPart)
  · cases h

namespace Header

theorem suffix_of_afterParenthesis? {k : Keyword} {t r : Text} (h : afterParenthesis? k t = some r) : r <:+ t := by
  obtain ⟨u, hKeyword, hParen⟩ := Option.bind_eq_some_iff.mp h
  obtain ⟨w, -, hEq⟩ := exists_append_trimStart u
  exact ⟨k.text ++ (w ++ ['(']), by rw [after?_eq_some_iff.mp hKeyword, hEq, after?_eq_some_iff.mp hParen]; simp⟩

theorem prefix_of_beforeBracket? {t part : Text} (h : beforeBracket? t = some part) : part <+: t := by
  obtain ⟨u, hBracket, hPart⟩ := Option.bind_eq_some_iff.mp h
  obtain ⟨v, hParen, rfl⟩ := Option.map_eq_some_iff.mp hPart
  obtain ⟨w, -, hEq⟩ := exists_append_trimStart u
  rw [← List.reverse_suffix, List.reverse_reverse]
  exact ⟨'[' :: (w ++ [')']), by rw [after?_eq_some_iff.mp hBracket, hEq, after?_eq_some_iff.mp hParen]; simp⟩

theorem infix_of_inside? {k : Keyword} {t part : Text} (h : inside? k t = some part) : part <:+: t := by
  obtain ⟨r, hOpening, hRest⟩ := Option.bind_eq_some_iff.mp h
  obtain ⟨inner, hClosing, hInner⟩ := Option.bind_eq_some_iff.mp hRest
  obtain ⟨-, hEq⟩ := Option.ite_none_left_eq_some.mp hInner
  obtain rfl := Option.some.inj hEq
  exact (isInfix_trim inner).trans
    ((prefix_of_beforeBracket? hClosing).isInfix.trans (suffix_of_afterParenthesis? hOpening).isInfix)

end Header

namespace Form

/-- The parts of a form in which names are looked up or bound. -/
def readings : Form → List Text
  | declaration name _ _ => [name]
  | assignment target expr => [target, expr]
  | io _ arg => [arg]
  | ifHeader part | loopHeader part => [part]
  | closer _ | unterminatedDeclaration | elseHeader | elseSemicolon | unknown => []

/-- The name is written in such a part. -/
def Mentions (form : Form) (name : Text) : Prop := ∃ part ∈ form.readings, name <:+: part

theorem isInfix_rightHandSide (body : Text) : rightHandSide body <:+: body := by
  unfold rightHandSide
  split
  · cases hLast : body.getLast? with
    | none => exact List.nil_infix
    | some c =>
      obtain ⟨front, rfl⟩ := List.getLast?_eq_some_iff.mp hLast
      exact (List.suffix_append front [c]).isInfix
  · exact isInfix_trim body

theorem infix_of_mem_readings {t rest part : Text} {form : Form} (h : classify t = (form, rest))
    (hPart : part ∈ form.readings) : part <:+: t := by
  have hReader := reader_of_classify h
  cases form with
  | declaration name type value =>
    obtain ⟨body, tail, hShape, -, -⟩ := declaration?_iff.mp (hReader nofun)
    obtain ⟨w, -, hHead⟩ := hShape.text
    obtain ⟨gap, u, v, -, -, -, -, rfl⟩ := hHead.text
    obtain rfl := List.mem_singleton.mp hPart
    exact ⟨"PADAM".toList ++ gap, _, by rw [List.append_assoc, List.append_assoc]⟩
  | assignment target expr =>
    obtain ⟨body, tail, hShape, rfl, -⟩ := assignment?_iff.mp (hReader nofun)
    obtain ⟨w, -, rfl⟩ := hShape.text
    rcases List.mem_cons.mp hPart with rfl | hPart
    · exact (List.prefix_append _ _).isInfix
    · obtain rfl := List.mem_singleton.mp hPart
      exact (isInfix_rightHandSide body).trans ⟨target ++ (w ++ ['=']), ';' :: tail, by simp⟩
  | io kind arg =>
    obtain ⟨body, tail, hShape, rfl, -⟩ := io?_iff.mp (hReader nofun)
    obtain ⟨v, r, -, rfl, ⟨w, -, rfl⟩, -⟩ := hShape.text
    obtain rfl := List.mem_singleton.mp hPart
    exact (isInfix_trim body).trans ⟨kind.keyword.text ++ (v ++ ['(']), ')' :: (w ++ ';' :: tail), by simp⟩
  | ifHeader condition | loopHeader header =>
    obtain ⟨inner, hInside, hEq⟩ := Option.map_eq_some_iff.mp (hReader nofun)
    cases hEq
    obtain rfl := List.mem_singleton.mp hPart
    exact Header.infix_of_inside? hInside
  | closer | unterminatedDeclaration | elseHeader | elseSemicolon | unknown => cases hPart

end Form

/-! ## From fragments to the source -/

theorem Continuation.isInfix_text_ofText (rest : Text) : (ofText rest).text <:+: rest := by
  unfold ofText
  simp only
  repeat' split
  all_goals first | exact List.nil_infix | exact isInfix_trim rest

namespace Fragment

theorem isInfix_rest_first (t : Text) : (first t).2 <:+: t := by
  have hReads := Form.reads_classify t
  unfold first
  split
  · next rest left hClassify =>
    rw [hClassify] at hReads
    cases hReads with
    | @closer tail hText =>
      exact (Continuation.isInfix_text_ofText _).trans ((isInfix_trim tail).trans ⟨[']'], [], by simp [hText]⟩)
    | simple hForm => cases hForm
    | header hForm => cases hForm
  · next form rest hCloser hClassify =>
    rw [hClassify] at hReads
    cases hReads with
    | closer => exact List.nil_infix
    | @simple _ tail _ hText =>
      obtain ⟨front, rfl⟩ := hText
      exact (isInfix_trim tail).trans ⟨front ++ [';'], [], by simp⟩
    | header | unterminated | unknown => exact List.nil_infix

theorem text_infix_of_mem_chain {t : Text} {f : Fragment} (h : f ∈ chain t) : f.text <:+: t := by
  induction t using chain.induct with
  | case1 =>
    rw [chain_nil] at h
    cases h
  | case2 t ht _ ih =>
    rw [chain_of_ne_nil ht] at h
    rcases List.mem_cons.mp h with rfl | h
    · rw [(form_first t).2]
    · exact (ih h).trans (isInfix_rest_first t)

end Fragment

/-- A statement holds no words but those of its source, if they go over no line. -/
theorem LogicalStatement.infix_of_infix_text {source w : Text} {s : LogicalStatement} (hs : s ∈ ofSource source)
    (hne : w ≠ []) (hLine : '\n' ∉ w) (h : w <:+: s.text) : w <:+: source := by
  rw [← joinLines_physicalLines s.text] at h
  obtain ⟨l, hl, hInfix⟩ := exists_infix_of_infix_intercalate hLine hne h
  have hGreedy : GreedyPartition (CodeLine.ofSource source) (ofSource source) := greedyPartition_iff.mpr rfl
  have hLines := hGreedy.flatMap_physicalLines fun _ => CodeLine.newline_notMem_text
  have hCode : l ∈ (CodeLine.ofSource source).map CodeLine.text := hLines ▸ List.mem_flatMap.mpr ⟨s, hs, hl⟩
  obtain ⟨code, hMem, rfl⟩ := List.mem_map.mp hCode
  obtain ⟨k, p, hPhysical, -, hText⟩ := CodeLine.exists_clean_of_mem_ofLines hMem
  rw [hText] at hInfix
  exact (hInfix.trans (CodeLine.isInfix_clean p)).trans (infix_of_mem_physicalLines (List.mem_of_getElem? hPhysical))

/-- What no source text holds, no step mentions. -/
theorem Check.not_mentions_of_mem_steps {source name : Text} (hName : Word.isIdentifier name = true)
    (h : ¬name <:+: source) {step : Step} (hStep : step ∈ steps source) : ¬step.fragment.form.Mentions name := by
  rintro ⟨part, hPart, hInfix⟩
  obtain ⟨s, hs, hStep'⟩ := List.mem_flatMap.mp hStep
  obtain ⟨f, hFragment, rfl⟩ := List.mem_map.mp hStep'
  have hForm : f.form.readings = (Form.classify f.text).1.readings :=
    congrArg Form.readings (Fragment.form_of_mem_chain hFragment)
  have hText := Form.infix_of_mem_readings rfl (hForm ▸ hPart)
  have hStatement := (hText.trans (Fragment.text_infix_of_mem_chain hFragment)).trans (isInfix_trim s.text)
  have hLine := Word.newline_notMem_of_isIdentifier hName
  exact h (s.infix_of_infix_text hs (Program.isNameChar_of_isIdentifier hName).1 hLine (hInfix.trans hStatement))

end LessonCheck
