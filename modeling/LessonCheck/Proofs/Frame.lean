import LessonCheck.Proofs.Arithmetic.Spans
import LessonCheck.Proofs.History
import LessonCheck.Proofs.IntegerAssignment
import LessonCheck.Proofs.Mentions

/-!
# Runs that do not mention a name

A form is judged by what the table says about the names that it mentions, so two tables that differ in one name only
give the same defects on a form that does not mention it, and the form changes both in the same way. A run over such
forms therefore finds the same from both, and the binding of the name is at the end what it was at the start.
-/

namespace LessonCheck

open Text

/-- An identifier holds no blank, so collapsing blanks does not make it. -/
theorem Word.infix_of_infix_collapseBlanks {w t : Text} (hw : isIdentifier w = true) (h : w <:+: collapseBlanks t) :
    w <:+: t := by
  obtain ⟨hne, hChars⟩ := Program.isNameChar_of_isIdentifier hw
  exact Text.infix_of_infix_collapseBlanks (fun c hc => Program.isBlank_eq_false_of_isNameChar (hChars c hc)) hne h

/-! ## Tables that differ in one name -/

theorem Entries.mem_iff_lookup {es : Entries} (h : es.Pairwise fun a b => a.1 < b.1) (name : Text)
    (type : ValueType) : (name, type) ∈ es ↔ lookup name es = some type := by
  induction es with
  | nil => simp [lookup]
  | cons e es ih =>
    obtain ⟨key, old⟩ := e
    obtain ⟨hFirst, hRest⟩ := List.pairwise_cons.mp h
    rw [List.mem_cons, Prod.mk.injEq, lookup]
    split
    · next hSame =>
      subst hSame
      -- The names behind the first one are greater, so that it does not come again.
      have hOnce : (name, type) ∉ es := fun hMem => List.lt_irrefl name (hFirst _ hMem)
      simp only [true_and, hOnce, or_false, Option.some.injEq, eq_comm]
    · next hOther => simp only [hOther, false_and, false_or, ih hRest]

namespace SymbolTable

theorem nodup_entries (s : SymbolTable) : s.entries.Nodup := by
  refine s.sorted.imp ?_
  rintro e e' hLess rfl
  exact List.lt_irrefl e.1 hLess

/-- The tables say the same about every other name. -/
def AgreeOff (name : Text) (s t : SymbolTable) : Prop := ∀ other, other ≠ name → s.get? other = t.get? other

section AgreeOff

variable {name other : Text} {s t : SymbolTable} (h : AgreeOff name s t) (hne : other ≠ name)

include h hne

theorem AgreeOff.contains_eq : s.contains other = t.contains other := congrArg Option.isSome (h other hne)

theorem AgreeOff.isType_eq (type : ValueType) : s.isType other type = t.isType other type :=
  congrArg (· == some type) (h other hne)

theorem AgreeOff.judge_eq : s.judge other = t.judge other := by
  rw [judge, judge, h.contains_eq hne]

end AgreeOff

/-- A table that binds one more name has one more entry. -/
theorem AgreeOff.perm_entries {name : Text} {type : ValueType} {s t : SymbolTable} (h : AgreeOff name s t)
    (hFree : s.get? name = none) (hBound : t.get? name = some type) :
    t.entries.Perm ((name, type) :: s.entries) := by
  have hNew : (name, type) ∉ s.entries := by
    rw [Entries.mem_iff_lookup s.sorted, ← get?, hFree]
    exact (Option.some_ne_none type).symm
  rw [List.perm_ext_iff_of_nodup t.nodup_entries (List.nodup_cons.mpr ⟨hNew, s.nodup_entries⟩)]
  rintro ⟨other, old⟩
  rw [List.mem_cons, Prod.mk.injEq, Entries.mem_iff_lookup s.sorted, Entries.mem_iff_lookup t.sorted, ← get?, ← get?]
  by_cases hSame : other = name
  · subst hSame
    simp [hFree, hBound, eq_comm]
  · simp [hSame, h other hSame]

end SymbolTable

namespace Check

theorem infix_of_mem_names {t name : Text} {e : Arithmetic.Expression} (h : Arithmetic.Expression.ofText t = .ok e)
    (hName : name ∈ e.names) : name <:+: t := by
  obtain ⟨ls, hRead, hTokens⟩ := (Arithmetic.plainTokens_iff.mpr ⟨e, h, rfl⟩).read
  have hToken := Arithmetic.Expression.mem_names_iff.mp hName
  rw [← hTokens] at hToken
  obtain ⟨l, hl, hEq⟩ := List.mem_map.mp hToken
  have hInfix := Arithmetic.text_infix_of_mem_lexemes hRead hl
  rwa [hEq] at hInfix

/-! ## Judgements -/

section Judgements

variable {name : Text} {s t : SymbolTable} (h : SymbolTable.AgreeOff name s t)

include h

theorem integerVerdict_congr {expr : Text} (hName : ¬name <:+: expr) :
    integerVerdict s expr = integerVerdict t expr := by
  have hExpr : expr ≠ name := fun hEq => hName (hEq ▸ List.infix_refl expr)
  unfold integerVerdict
  rw [h.isType_eq hExpr]
  split
  · rfl
  · split
    · rfl
    · split
      · rfl
      · split
        · next e hRead =>
          have hNames : ∀ other ∈ e.names, other ≠ name := by
            rintro other hOther rfl
            exact hName (infix_of_mem_names hRead hOther)
          have hUnknown : e.names.filter (fun n => !s.contains n) = e.names.filter fun n => !t.contains n :=
            List.filter_congr fun n hn => by rw [h.contains_eq (hNames n hn)]
          have hInteger : (e.names.all fun n => s.isType n .integer) = e.names.all fun n => t.isType n .integer := by
            rw [Bool.eq_iff_iff, List.all_eq_true, List.all_eq_true]
            exact forall₂_congr fun n hn => by rw [h.isType_eq (hNames n hn)]
          rw [expressionVerdict, expressionVerdict, hUnknown, hInteger]
        · rfl

theorem verdict_congr {expr : Text} (hName : ¬name <:+: expr) (type : ValueType) :
    verdict s expr type = verdict t expr type := by
  cases type with
  | integer => exact integerVerdict_congr h hName
  | string =>
    have hExpr : expr ≠ name := fun hEq => hName (hEq ▸ List.infix_refl expr)
    rw [verdict, verdict, stringVerdict, stringVerdict, h.isType_eq hExpr]

theorem ofExpr_congr {expr : Text} (hExpr : expr ≠ name) : Shape.ofExpr s expr = Shape.ofExpr t expr := by
  rw [Shape.ofExpr, Shape.ofExpr, h expr hExpr]

theorem assignmentDefects_congr {target expr : Text} (hTarget : target ≠ name) (hName : ¬name <:+: expr) :
    assignmentDefects s target expr = assignmentDefects t target expr := by
  have hTrim : ¬name <:+: trim expr := fun hInfix => hName (hInfix.trans (isInfix_trim expr))
  have hExpr : trim expr ≠ name := fun hEq => hTrim (hEq ▸ List.infix_refl _)
  unfold assignmentDefects
  rw [h target hTarget, ofExpr_congr h hExpr]
  simp only [verdict_congr h hTrim]

theorem conditionDefects_congr {condition : Text} (hName : ¬name <:+: collapseBlanks condition) :
    conditionDefects s condition = conditionDefects t condition := by
  unfold conditionDefects
  cases hRead : Comparison.ofText? (collapseBlanks condition) with
  | none => rfl
  | some c =>
    obtain ⟨hSubject, hValue⟩ := Comparison.infix_of_ofText? hRead
    have hSubject : c.name ≠ name := fun hEq => hName (hEq ▸ hSubject)
    have hValue : c.value ≠ name := fun hEq => hName (hEq ▸ hValue)
    have hComparable (type : ValueType) :
        comparable s c.relation c.value type = comparable t c.relation c.value type := by
      cases type with
      | integer => rw [comparable, comparable, h.isType_eq hValue]
      | string => rw [comparable, comparable, h.isType_eq hValue]
    simp only [h c.name hSubject, h.contains_eq hValue, hComparable]

/-- A form is judged alike by tables that say the same about the names that it mentions. -/
theorem defects_congr (hWord : Word.isIdentifier name = true) {f : Fragment} (hMentions : ¬f.form.Mentions name)
    (strictness : Strictness) (nothingOpen : Bool) :
    defects strictness s nothingOpen f = defects strictness t nothingOpen f := by
  obtain ⟨text, form⟩ := f
  have hParts : ∀ part ∈ form.readings, ¬name <:+: part := fun part hPart hInfix => hMentions ⟨part, hPart, hInfix⟩
  have hWhole : ∀ part ∈ form.readings, part ≠ name := by
    rintro part hPart rfl
    exact hParts part hPart (List.infix_refl part)
  unfold defects
  cases form with
  | declaration declared type value =>
    have hDeclared := hWhole declared List.mem_cons_self
    simp only [declarationDefects, h.judge_eq hDeclared]
  | assignment target expr =>
    exact assignmentDefects_congr h (hWhole target List.mem_cons_self) (hParts expr (by simp [Form.readings]))
  | io kind arg =>
    have hArg := hWhole arg List.mem_cons_self
    simp only [ioDefects, h.contains_eq hArg]
  | ifHeader condition =>
    have hCollapsed : ¬name <:+: collapseBlanks condition := fun hInfix =>
      hParts condition List.mem_cons_self (Word.infix_of_infix_collapseBlanks hWord hInfix)
    simp only [conditionDefects_congr h hCollapsed]
  | closer | unterminatedDeclaration | elseHeader | elseSemicolon | loopHeader | unknown => rfl

end Judgements

/-! ## Steps and runs -/

/-- A form that does not mention a name does not bind it. -/
theorem get?_bound_of_not_mentions {name : Text} (hWord : Word.isIdentifier name = true) {form : Form}
    (h : ¬form.Mentions name) (symbols : SymbolTable) : (State.bound symbols form).get? name = symbols.get? name := by
  have hCounter : counterOf form ≠ some name := by
    intro hCounter
    cases form with
    | loopHeader header =>
      have hInfix := Word.infix_of_infix_collapseBlanks hWord (LoopHeader.infix_of_counter? hCounter)
      exact h ⟨header, List.mem_cons_self, hInfix⟩
    | _ => cases hCounter
  have hDeclared : declaredType? name form = none := by
    cases form with
    | declaration declared type value =>
      refine if_neg fun hSame => h ⟨declared, List.mem_cons_self, ?_⟩
      rw [hSame.1]
    | _ => rfl
  rw [State.get?_bound, if_neg hCounter, hDeclared, Option.or_none]

namespace State

/-- The second state has the same blocks open, and binds the name to the type as the only difference. -/
structure Extends (name : Text) (type : ValueType) (s t : State) : Prop where
  blocks : t.blocks = s.blocks
  others : SymbolTable.AgreeOff name s.symbols t.symbols
  bound : t.symbols.get? name = some type

variable {name : Text} {type : ValueType} {s t : State}

/-- A step that does not mention the name finds the same and keeps the difference. -/
theorem Extends.step (h : Extends name type s t) (hWord : Word.isIdentifier name = true) {step : Step}
    (hMentions : ¬step.fragment.form.Mentions name) (rules : Rules) :
    t.findings rules step = s.findings rules step ∧ Extends name type (s.next rules step) (t.next rules step) := by
  constructor
  · have hDefects := defects_congr h.others hWord hMentions rules.strictness s.blocks.top?.isNone
    rw [findings, findings, reported, reported, h.blocks, hDefects]
  · refine ⟨?_, ?_, ?_⟩
    · simp only [next, h.blocks]
    · intro other hne
      simp only [next, get?_bound, h.others other hne]
    · simp only [next, get?_bound_of_not_mentions hWord hMentions, h.bound]

/-- A run over steps that do not mention the name finds the same and keeps the difference. -/
theorem Extends.run (h : Extends name type s t) (hWord : Word.isIdentifier name = true) {steps : List Step}
    (hMentions : ∀ step ∈ steps, ¬step.fragment.form.Mentions name) (rules : Rules) :
    (t.run rules steps).1 = (s.run rules steps).1 ∧
      Extends name type (s.run rules steps).2 (t.run rules steps).2 := by
  induction steps generalizing s t with
  | nil => exact ⟨rfl, h⟩
  | cons step rest ih =>
    obtain ⟨hFirst, hRest⟩ := List.forall_mem_cons.mp hMentions
    obtain ⟨hFindings, hNext⟩ := h.step hWord hFirst rules
    obtain ⟨hLater, hEnd⟩ := ih hNext hRest
    exact ⟨by rw [run_cons_fst, run_cons_fst, hFindings, hLater], hEnd⟩

theorem Extends.findings_outcome (h : Extends name type s t) (hWord : Word.isIdentifier name = true)
    {steps : List Step} (hMentions : ∀ step ∈ steps, ¬step.fragment.form.Mentions name) (rules : Rules) :
    (t.outcome rules steps).findings = (s.outcome rules steps).findings := by
  obtain ⟨hFindings, hEnd⟩ := h.run hWord hMentions rules
  rw [outcome, outcome, hFindings, unclosed, hEnd.blocks, unclosed]

/-- A run over steps that do not mention a name leaves it as it is. -/
theorem get?_run_of_not_mentions (hWord : Word.isIdentifier name = true) {steps : List Step}
    (hMentions : ∀ step ∈ steps, ¬step.fragment.form.Mentions name) (rules : Rules) (s : State) :
    (s.run rules steps).2.symbols.get? name = s.symbols.get? name := by
  induction steps generalizing s with
  | nil => rfl
  | cons step rest ih =>
    obtain ⟨hFirst, hRest⟩ := List.forall_mem_cons.mp hMentions
    rw [run_cons_snd, ih hRest]
    exact get?_bound_of_not_mentions hWord hFirst s.symbols

/-- A name that the run does not mention and that only the second state binds is one more entry at the end. -/
theorem Extends.perm_entries_outcome (h : Extends name type s t) (hWord : Word.isIdentifier name = true)
    (hFree : s.symbols.get? name = none) {steps : List Step}
    (hMentions : ∀ step ∈ steps, ¬step.fragment.form.Mentions name) (rules : Rules) :
    (t.outcome rules steps).symbols.entries.Perm ((name, type) :: (s.outcome rules steps).symbols.entries) := by
  obtain ⟨-, hEnd⟩ := h.run hWord hMentions rules
  have hFreeEnd := get?_run_of_not_mentions hWord hMentions rules s
  rw [hFree] at hFreeEnd
  exact hEnd.others.perm_entries hFreeEnd hEnd.bound

end State

end Check
end LessonCheck
