import LessonCheck.Proofs.Bindings
import LessonCheck.Proofs.History

/-!
# Type mismatches

Whether a right-hand side fits its target and how a misfit is described are found out by two chains of tests over
the same text. They agree because every name in the table of a run is an identifier: a variable of the wanted type
would have been accepted as one, so no message says that a thing cannot be assigned to its own type. A message can be
read back, since neither the description nor the target in it holds an apostrophe.
-/

namespace LessonCheck

namespace Defect

/-- The first apostrophe of the message stands in front of the target. -/
theorem message_typeMismatch (description : Text) (type : ValueType) (target : Text) :
    (typeMismatch description type target).message =
      ("Type mismatch: Cannot assign ".toList ++ (description ++ (" to ".toList ++ (type.describe ++
        " variable ".toList)))) ++ '\'' :: (target ++ "'.".toList) := by
  have hQuote : " variable '".toList = " variable ".toList ++ ['\''] := by decide
  have hAssoc (a b c d e f g : Text) :
      a ++ b ++ c ++ d ++ (e ++ ['\'']) ++ f ++ g = (a ++ (b ++ (c ++ (d ++ e)))) ++ '\'' :: (f ++ g) := by
    simp
  change _ ++ _ ++ _ ++ _ ++ " variable '".toList ++ _ ++ _ = _
  rw [hQuote]
  exact hAssoc _ _ _ _ _ _ _

theorem exists_typeMismatch_of_prefix {d : Defect} (h : "Type mismatch".toList <+: d.message) :
    ∃ description type target, d = typeMismatch description type target := by
  obtain ⟨rest, hMessage⟩ := h
  have hSigns := signs_message d
  rw [← hMessage] at hSigns
  have hFirst : 'T' = d.signs.1 := Option.some.inj (congrArg Prod.fst hSigns)
  cases d with
  | typeMismatch description type target => exact ⟨description, type, target, rfl⟩
  | invalidInitializer name type => cases type <;> cases hFirst
  | _ => cases hFirst

section ReadBack

variable {description description' target target' : Text} {type type' : ValueType}

theorem cut?_message_typeMismatch (h : '\'' ∉ description) :
    Text.cut? '\'' (typeMismatch description type target).message =
      some ("Type mismatch: Cannot assign ".toList ++ (description ++ (" to ".toList ++ (type.describe ++
        " variable ".toList))), target ++ "'.".toList) := by
  rw [message_typeMismatch, Text.cut?_eq_some_iff]
  have hType : '\'' ∉ type.describe := by cases type <;> decide
  refine ⟨rfl, ?_⟩
  repeat' apply List.not_mem_append
  all_goals first | exact h | exact hType | decide

theorem getLast?_append_describe (w : Text) (type : ValueType) :
    (w ++ (" to ".toList ++ type.describe)).getLast? = type.describe.getLast? := by
  rw [List.getLast?_append, List.getLast?_append]
  cases type <;> rfl

/-- The message of a mismatch tells its description, type and target apart. -/
theorem typeMismatch_inj (hDescription : '\'' ∉ description) (hDescription' : '\'' ∉ description')
    (h : (typeMismatch description type target).message = (typeMismatch description' type' target').message) :
    description = description' ∧ type = type' ∧ target = target' := by
  have hCut := congrArg (Text.cut? '\'') h
  rw [cut?_message_typeMismatch hDescription, cut?_message_typeMismatch hDescription'] at hCut
  obtain ⟨hFront, hBack⟩ := Prod.mk.inj (Option.some.inj hCut)
  have hCancel {a b c d a' c' : Text} (h : a ++ (b ++ (c ++ d)) = a' ++ (b ++ (c' ++ d))) :
      a ++ (b ++ c) = a' ++ (b ++ c') := by
    simpa only [← List.append_assoc, List.append_left_inj] using h
  have hFront := hCancel (List.append_cancel_left hFront)
  have hType : type = type' := by
    have hLast := congrArg List.getLast? hFront
    rw [getLast?_append_describe, getLast?_append_describe] at hLast
    cases type <;> cases type' <;> first | rfl | exact absurd hLast (by decide)
  obtain rfl := hType
  exact ⟨List.append_cancel_right hFront, rfl, List.append_cancel_right hBack⟩

end ReadBack

end Defect

namespace Check

namespace Shape

def literal : ValueType → Shape
  | .integer => integerLiteral
  | .string => stringLiteral

/-- The shape of a name that is bound so. -/
def name : Option ValueType → Shape
  | some .integer => integerVariable
  | some .string => stringVariable
  | none => undeclaredVariable

theorem text_inj {a b : Shape} : a.text = b.text ↔ a = b := by
  cases a <;> cases b <;> decide

theorem apostrophe_notMem_text (s : Shape) : '\'' ∉ s.text := by
  cases s <;> decide

variable {symbols : SymbolTable} {expr : Text}

theorem acceptsLiteral_of_ofExpr {type : ValueType} (h : ofExpr symbols expr = literal type) :
    type.acceptsLiteral expr = true := by
  unfold ofExpr at h
  cases type <;> grind [literal, ValueType.acceptsLiteral]

theorem get?_of_ofExpr {binding : Option ValueType} (h : ofExpr symbols expr = name binding) :
    expr ≠ [] ∧ expr.all Word.isNameChar = true ∧ symbols.get? expr = binding := by
  unfold ofExpr at h
  rcases binding with _ | _ | _ <;> grind [name]

end Shape

/-! ## Verdict and description -/

section Verdict

variable {symbols : SymbolTable} {expr : Text} {type : ValueType}

theorem verdict_of_acceptsLiteral (symbols : SymbolTable) (h : type.acceptsLiteral expr = true) :
    verdict symbols expr type = .valid := by
  cases type with
  | integer =>
    have hLiteral : Word.isIntegerLiteral expr = true := h
    simp [verdict, integerVerdict, hLiteral]
  | string =>
    have hLiteral : Word.isStringLiteral expr = true := h
    simp [verdict, stringVerdict, hLiteral]

/-- A variable of the wanted type is accepted, since it is spelled as an identifier. -/
theorem verdict_of_get? (hName : Word.isIdentifier expr = true) (h : symbols.get? expr = some type) :
    verdict symbols expr type = .valid := by
  have hType : symbols.isType expr type = true := by simp [SymbolTable.isType, h]
  cases type with
  | integer => simp [verdict, integerVerdict, hName, hType]
  | string => simp [verdict, stringVerdict, hType]

end Verdict

/-- A description of a right-hand side that does not speak against its being rejected: no literal and no variable of
the wanted type is refused, and what is called an undeclared variable is one unknown name. -/
structure Coherent (symbols : SymbolTable) (expr : Text) (type : ValueType) (description : Text) : Prop where
  integer : type = .integer → description ≠ "integer literal".toList ∧ description ≠ "integer variable".toList
  string : type = .string → description ≠ "string literal".toList ∧ description ≠ "string variable".toList
  undeclared : description = "undeclared variable".toList →
    expr ≠ [] ∧ expr.all Word.isNameChar = true ∧ symbols.get? expr = none

theorem coherent_of_mismatch {symbols : SymbolTable} {expr : Text} {type : ValueType}
    (hKeys : ∀ name, symbols.contains name = true → Word.isIdentifier name = true)
    (h : verdict symbols expr type = .mismatch) :
    Coherent symbols expr type (Shape.ofExpr symbols expr).text := by
  have hLiteral : (Shape.ofExpr symbols expr).text ≠ (Shape.literal type).text := by
    rw [Ne, Shape.text_inj]
    intro hShape
    rw [verdict_of_acceptsLiteral symbols (Shape.acceptsLiteral_of_ofExpr hShape)] at h
    cases h
  have hVariable : (Shape.ofExpr symbols expr).text ≠ (Shape.name (some type)).text := by
    rw [Ne, Shape.text_inj]
    intro hShape
    obtain ⟨-, -, hBound⟩ := Shape.get?_of_ofExpr hShape
    have hName := hKeys expr (by rw [SymbolTable.contains, hBound]; rfl)
    rw [verdict_of_get? hName hBound] at h
    cases h
  refine ⟨?_, ?_, ?_⟩
  · rintro rfl
    exact ⟨hLiteral, hVariable⟩
  · rintro rfl
    exact ⟨hLiteral, hVariable⟩
  · intro hUndeclared
    have hShape : Shape.ofExpr symbols expr = Shape.name none := Shape.text_inj.mp hUndeclared
    exact Shape.get?_of_ofExpr hShape

namespace State

/-- A mismatch is found at an assignment to a variable, and its description is the shape of what is assigned. -/
theorem exists_assignment_of_mem_findingsAt {rules : Rules} {source : Text} {n line : Nat}
    {description target : Text} {type : ValueType}
    (h : ⟨line, .typeMismatch description type target⟩ ∈ findingsAt rules source n) :
    ∃ t expr, (steps source)[n]? = some ⟨line, t, .assignment target expr⟩ ∧
      (after rules source n).symbols.get? target = some type ∧
      verdict (after rules source n).symbols (Text.trim expr) type = .mismatch ∧
      description = (Shape.ofExpr (after rules source n).symbols (Text.trim expr)).text := by
  obtain ⟨step, hStep, hFinding⟩ := List.mem_flatMap.mp h
  obtain ⟨d, hReported, hEq⟩ := List.mem_map.mp hFinding
  obtain ⟨rfl, rfl⟩ := Finding.mk.inj hEq
  have hDefect := mem_defects_of_mem_reported hReported
  obtain ⟨line, t, form⟩ := step
  have hForm := concerns_of_mem_defects hDefect
  cases form with
  | assignment target' expr =>
    refine ⟨t, expr, ?_⟩
    have hDefect : _ ∈ assignmentDefects (after rules source n).symbols target' expr := hDefect
    unfold assignmentDefects at hDefect
    split at hDefect
    · cases List.mem_singleton.mp hDefect
    · next hTarget =>
      split at hDefect
      · cases hDefect
      · obtain ⟨_, -, hEq⟩ := List.mem_map.mp hDefect
        cases hEq
      · next hVerdict =>
        obtain ⟨rfl, rfl, rfl⟩ := Defect.typeMismatch.inj (List.mem_singleton.mp hDefect)
        exact ⟨Option.mem_toList.mp hStep, hTarget, hVerdict, rfl⟩
  | _ => cases hForm

end State

/-- Where the mismatches of a program are reported and what they say. A message counts as the text that it is, with
whatever description, type and target it reads as. -/
structure Mismatches (strictness : Strictness) (source : Text) : Prop where
  located : ∀ d ∈ (check strictness source).1, "Type mismatch".toList <+: d.message →
    ∃ n description type target, d ∈ reportsAt strictness source n ∧ '\'' ∉ description ∧
      d = (Defect.typeMismatch description type target).onLine d.line
  coherent : ∀ n line description type target, '\'' ∉ description →
    (Defect.typeMismatch description type target).onLine line ∈ reportsAt strictness source n →
      ∃ t expr, (steps source)[n]? = some ⟨line, t, .assignment target expr⟩ ∧
        (tableAt strictness source n).get? target = some type ∧
        Coherent (tableAt strictness source n) (Text.trim expr) type description

theorem mismatches (strictness : Strictness) (source : Text) : Mismatches strictness source where
  located := by
    intro d hd hPrefix
    rw [State.check_fst] at hd
    rcases List.mem_append.mp hd with hRun | hUnclosed
    · obtain ⟨f, hFinding, rfl⟩ := List.mem_map.mp hRun
      obtain ⟨description, type, target, hDefect⟩ := Defect.exists_typeMismatch_of_prefix hPrefix
      rw [← List.take_length (l := steps source), State.run_take_fst] at hFinding
      obtain ⟨n, -, hFinding⟩ := List.mem_flatMap.mp hFinding
      have hReport := List.mem_map_of_mem (f := Finding.diagnostic) hFinding
      obtain ⟨line, defect⟩ := f
      obtain rfl : defect = .typeMismatch description type target := hDefect
      obtain ⟨t, expr, -, -, -, rfl⟩ := State.exists_assignment_of_mem_findingsAt hFinding
      exact ⟨n, _, type, target, hReport, Shape.apostrophe_notMem_text _, rfl⟩
    · obtain ⟨f, hFinding, rfl⟩ := List.mem_map.mp hUnclosed
      rw [Finding.diagnostic, State.defect_of_mem_unclosed hFinding] at hPrefix
      obtain ⟨_, _, _, hDefect⟩ := Defect.exists_typeMismatch_of_prefix (d := .unclosedBlock) hPrefix
      cases hDefect
  coherent := by
    intro n line description type target hDescription hReport
    obtain ⟨⟨line', defect⟩, hFinding, hDiagnostic⟩ := List.mem_map.mp hReport
    obtain ⟨hLine, hMessage⟩ := Diagnostic.mk.inj hDiagnostic
    obtain rfl : line' = line := hLine
    have hPrefix : "Type mismatch".toList <+: defect.message := by
      rw [show defect.message = _ from hMessage]
      exact ⟨_, rfl⟩
    obtain ⟨_, type', target', rfl⟩ := Defect.exists_typeMismatch_of_prefix hPrefix
    obtain ⟨t, expr, hStep, hTarget, hVerdict, rfl⟩ := State.exists_assignment_of_mem_findingsAt hFinding
    obtain ⟨rfl, rfl, rfl⟩ :=
      Defect.typeMismatch_inj hDescription (Shape.apostrophe_notMem_text _) hMessage.symm
    exact ⟨t, expr, hStep, hTarget, coherent_of_mismatch (fun _ => State.isIdentifier_of_contains_after) hVerdict⟩

end Check
end LessonCheck
