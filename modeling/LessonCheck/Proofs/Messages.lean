import LessonCheck.Proofs.Findings
import LessonCheck.Proofs.Operands

/-!
# Messages are lines

A message starts and ends with characters that are no blanks, whatever it quotes. What it quotes of a program
is a name or the argument of an input or output, and neither of them goes over the end of a line. So every
message of a program is one line, and trimming does not change it.
-/

namespace LessonCheck

open Text

/-! ## Literals -/

-- A literal is its list of characters by definition, so these need no decoding of it.

theorem getLast?_toList {l : Text} {c : Char} (h : l.getLast? = some c) :
    (String.ofList l).toList.getLast? = some c := by
  rw [String.toList_ofList, h]

theorem notMem_toList {l : Text} {c : Char} (h : c ∉ l) : c ∉ (String.ofList l).toList := by
  rwa [String.toList_ofList]

theorem getLast?_append_of_getLast? {s t : Text} {c : Char} (h : t.getLast? = some c) :
    (s ++ t).getLast? = some c := by
  rw [List.getLast?_append, h, Option.some_or]

namespace Defect

/-- The texts that stand in the message and are not part of its wording. -/
def parts : Defect → List Text
  | reservedName name | alreadyDeclared name | invalidInitializer name _ | undeclared name => [name]
  | typeMismatch description _ target => [description, target]
  | undeclaredIn name context => [name, context]
  | _ => []

theorem framed_message (d : Defect) : Framed d.message := by
  have hFirst := congrArg Prod.fst (signs_message d)
  refine ⟨⟨d.signs.1, hFirst, ?_⟩, ?_⟩
  · cases d with
    | invalidInitializer name type => cases type <;> rfl
    | _ => rfl
  · cases d with
    | unmatchedCloser => exact ⟨'\'', getLast?_toList rfl, rfl⟩
    | reservedName | alreadyDeclared | invalidInitializer | undeclared | typeMismatch | undeclaredIn =>
      exact ⟨'.', getLast?_append_of_getLast? (getLast?_toList rfl), rfl⟩
    | _ => exact ⟨'.', getLast?_toList rfl, rfl⟩

theorem newline_notMem_message {d : Defect} (h : ∀ w ∈ d.parts, '\n' ∉ w) : '\n' ∉ d.message := by
  cases d with
  | reservedName name | alreadyDeclared name | undeclared name =>
    have hName := h name List.mem_cons_self
    repeat' apply List.not_mem_append
    all_goals first | exact hName | exact notMem_toList (by decide)
  | invalidInitializer name type =>
    have hName := h name List.mem_cons_self
    have hType : '\n' ∉ type.describe ∧ '\n' ∉ literalOf type := by cases type <;> decide
    repeat' apply List.not_mem_append
    all_goals first | exact hName | exact hType.1 | exact hType.2 | exact notMem_toList (by decide)
  | typeMismatch description type target =>
    obtain ⟨hDescription, hRest⟩ := List.forall_mem_cons.mp h
    have hTarget := hRest target List.mem_cons_self
    have hType : '\n' ∉ type.describe := by cases type <;> decide
    repeat' apply List.not_mem_append
    all_goals first | exact hDescription | exact hTarget | exact hType | exact notMem_toList (by decide)
  | undeclaredIn name context =>
    obtain ⟨hName, hRest⟩ := List.forall_mem_cons.mp h
    have hContext := hRest context List.mem_cons_self
    repeat' apply List.not_mem_append
    all_goals first | exact hName | exact hContext | exact notMem_toList (by decide)
  | _ => exact notMem_toList (by decide)

end Defect

/-! ## What a form holds -/

theorem Word.newline_notMem_of_isIdentifier {w : Text} (h : isIdentifier w = true) : '\n' ∉ w := by
  have hNewline : isNameStart '\n' = false ∧ isNameChar '\n' = false := by decide
  cases w with
  | nil => exact List.not_mem_nil
  | cons c w =>
    obtain ⟨hFirst, hRest⟩ := Bool.and_eq_true _ _ |>.mp h
    apply List.not_mem_cons_of_ne_of_not_mem
    · rintro rfl
      rw [hNewline.1] at hFirst
      cases hFirst
    · intro hMem
      have hChar := List.all_eq_true.mp hRest _ hMem
      rw [hNewline.2] at hChar
      cases hChar

namespace Form

/-- The texts of a form that a defect of it may quote. -/
def parts : Form → List Text
  | declaration name _ _ => [name]
  | assignment target _ => [target]
  | io _ arg => [arg]
  | _ => []

/-- None of the texts goes over the end of a line. -/
def OneLine (form : Form) : Prop := ∀ w ∈ form.parts, '\n' ∉ w

theorem oneLine_of_parts {form : Form} (h : form.parts = []) : form.OneLine := by
  intro w hw
  rw [h] at hw
  cases hw

theorem oneLine_declaration? {t : Text} {p : Form × Text} (h : declaration? t = some p) : p.1.OneLine := by
  obtain ⟨form, rest⟩ := p
  obtain ⟨name, type, value, rfl⟩ := exists_declaration_of_declaration? h
  intro w hw
  obtain rfl := List.mem_singleton.mp hw
  rcases name_of_declaration? h with rfl | hName
  · decide
  · exact Word.newline_notMem_of_isIdentifier hName

theorem oneLine_assignment? {t : Text} {p : Form × Text} (h : assignment? t = some p) : p.1.OneLine := by
  simp only [assignment?, Option.bind_eq_bind, Option.bind_eq_some_iff, Prod.exists] at h
  obtain ⟨target, _, hTarget, _, _, _, _, _, h⟩ := h
  split at h
  · cases h
  · obtain rfl := Option.some.inj h
    intro w hw
    obtain rfl := List.mem_singleton.mp hw
    exact Word.newline_notMem_of_isIdentifier (Word.isIdentifier_of_identifier? hTarget)

theorem oneLine_io? {kind : IoKind} {t : Text} {p : Form × Text} (h : io? kind t = some p) : p.1.OneLine := by
  simp only [io?, Option.bind_eq_bind, Option.bind_eq_some_iff, Prod.exists] at h
  obtain ⟨_, _, part, _, _, h⟩ := h
  split at h
  · cases h
  · next hLine =>
    obtain rfl := Option.some.inj h
    intro w hw
    obtain rfl := List.mem_singleton.mp hw
    simpa using hLine

theorem oneLine_classify (t : Text) : (classify t).1.OneLine := by
  cases hClassify : classify t with
  | mk form rest =>
    have hRead := reader_of_classify hClassify
    cases form with
    | declaration => exact oneLine_declaration? (hRead nofun)
    | assignment => exact oneLine_assignment? (hRead nofun)
    | io => exact oneLine_io? (hRead nofun)
    | closer | unterminatedDeclaration | ifHeader | elseHeader | elseSemicolon | loopHeader | unknown =>
      exact oneLine_of_parts rfl

end Form

namespace Check

/-! ## What a defect quotes -/

theorem isIdentifier_of_mem_names {t : Text} {e : Arithmetic.Expression}
    (h : Arithmetic.Expression.ofText t = .ok e) {name : Text} (hName : name ∈ e.names) :
    Word.isIdentifier name = true := by
  cases hRead : Arithmetic.lexemes t with
  | error cause =>
    rw [Arithmetic.Expression.ofText, hRead] at h
    cases h
  | ok ls =>
    rw [Arithmetic.Expression.ofText, hRead] at h
    simp only [Except.bind] at h
    split at h
    · cases h
    · obtain rfl := Except.ok.inj h
      obtain ⟨l, hLexeme, hToken⟩ := List.mem_map.mp (Arithmetic.Expression.mem_names_iff.mp hName)
      have hFormed := Arithmetic.isWellFormed_of_mem_lexemesFrom hRead l hLexeme
      rwa [hToken] at hFormed

theorem isIdentifier_of_verdict {symbols : SymbolTable} {t name : Text} {type : ValueType} {names : List Text}
    (h : verdict symbols t type = .undeclared names) (hName : name ∈ names) : Word.isIdentifier name = true := by
  cases type with
  | string =>
    simp only [verdict, stringVerdict] at h
    split at h <;> cases h
  | integer =>
    simp only [verdict, integerVerdict] at h
    repeat' split at h
    all_goals try cases h
    next e hExpression =>
      apply isIdentifier_of_mem_names hExpression
      unfold expressionVerdict at h
      split at h
      · next first others hFilter =>
        obtain rfl := Verdict.undeclared.inj h
        rw [← hFilter] at hName
        exact (List.mem_filter.mp hName).1
      · repeat' split at h
        all_goals cases h

theorem newline_notMem_shape (s : Shape) : '\n' ∉ s.text := by
  cases s <;> decide

/-- The defects of a fragment whose form goes over no line quote nothing that does. -/
theorem oneLine_of_mem_defects {strictness : Strictness} {symbols : SymbolTable} {nothingOpen : Bool}
    {f : Fragment} {d : Defect} (hForm : f.form.OneLine) (h : d ∈ defects strictness symbols nothingOpen f) :
    ∀ w ∈ d.parts, '\n' ∉ w := by
  have hConcerns := concerns_of_mem_defects h
  obtain ⟨t, form⟩ := f
  unfold defects at h
  cases form with
  | declaration name type value =>
    simp only [declarationDefects] at h
    split at h
    · obtain rfl := List.mem_singleton.mp h
      exact hForm
    · obtain rfl := List.mem_singleton.mp h
      exact hForm
    · split at h
      · cases h
      · obtain rfl := List.mem_singleton.mp h
        exact hForm
  | assignment target expr =>
    simp only [assignmentDefects] at h
    split at h
    · obtain rfl := List.mem_singleton.mp h
      exact hForm
    · split at h
      · cases h
      · next hVerdict =>
        obtain ⟨name, hMem, rfl⟩ := List.mem_map.mp h
        have hName := Word.newline_notMem_of_isIdentifier (isIdentifier_of_verdict hVerdict hMem)
        exact fun w hw => List.mem_singleton.mp hw ▸ hName
      · obtain rfl := List.mem_singleton.mp h
        exact List.forall_mem_cons.mpr ⟨newline_notMem_shape _, hForm⟩
  | io kind arg =>
    have hArg : '\n' ∉ arg := hForm arg List.mem_cons_self
    have hContext : '\n' ∉ kind.context := by cases kind <;> decide
    simp only [ioDefects] at h
    split at h
    · cases h
    · obtain rfl := List.mem_singleton.mp h
      exact List.forall_mem_cons.mpr ⟨hArg, fun w hw => List.mem_singleton.mp hw ▸ hContext⟩
  | _ =>
    -- A defect of any other form quotes nothing.
    have hParts : d.parts = [] := by cases d <;> first | rfl | cases hConcerns
    rw [hParts]
    intro w hw
    cases hw

/-- A message of a program is one line, and trimming leaves it as it is. -/
theorem message_of_mem_check {strictness : Strictness} {source : Text} {d : Diagnostic}
    (h : d ∈ (check strictness source).1) : '\n' ∉ d.message ∧ Framed d.message := by
  rw [State.check_fst] at h
  rcases List.mem_append.mp h with hReport | hUnclosed
  · obtain ⟨f, hFinding, rfl⟩ := List.mem_map.mp hReport
    obtain ⟨step, hStep, -, symbols, nothingOpen, hDefect⟩ := State.exists_defects_of_mem_run hFinding
    have hForm : step.fragment.form.OneLine := by
      rw [form_of_mem_steps hStep]
      exact Form.oneLine_classify _
    exact ⟨Defect.newline_notMem_message (oneLine_of_mem_defects hForm hDefect), f.defect.framed_message⟩
  · obtain ⟨f, hFinding, rfl⟩ := List.mem_map.mp hUnclosed
    rw [Finding.diagnostic, State.defect_of_mem_unclosed hFinding]
    have hLine : '\n' ∉ Defect.unclosedBlock.message := by decide
    exact ⟨hLine, Defect.framed_message .unclosedBlock⟩

end Check
end LessonCheck
