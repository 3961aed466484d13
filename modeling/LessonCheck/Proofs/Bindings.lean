import LessonCheck.Proofs.Form
import LessonCheck.Proofs.Run

/-!
# Variables of a run

A name is in the table after a run if it was there before or if some form of the run binds it: a declaration
of a name that is not reserved, or an accepted loop header. Both writers take only identifiers, so every key
is one. Declarations refuse reserved words, but loop headers do not ask, so a keyword becomes a variable
exactly through an accepted loop over it.
-/

namespace LessonCheck

theorem LoopHeader.isIdentifier_of_declared? {clause name : Text} (h : declared? clause = some name) :
    Word.isIdentifier name = true := by
  simp only [declared?, Option.bind_eq_bind, Option.bind_eq_some_iff, Prod.exists] at h
  obtain ⟨_, _, _, _, name', _, hName, _, _, _, _, _, _, h⟩ := h
  obtain ⟨-, hEq⟩ := Option.ite_none_right_eq_some.mp h
  obtain rfl := Option.some.inj hEq
  exact Word.isIdentifier_of_identifier? hName

theorem LoopHeader.isIdentifier_of_counter? {header name : Text} (h : counter? header = some name) :
    Word.isIdentifier name = true := by
  unfold counter? at h
  split at h
  · simp only [Option.bind_eq_bind, Option.bind_eq_some_iff] at h
    obtain ⟨declared, hDeclared, _, _, _, _, h⟩ := h
    obtain ⟨-, hEq⟩ := Option.ite_none_right_eq_some.mp h
    obtain rfl := Option.some.inj hEq
    exact isIdentifier_of_declared? hDeclared
  · cases h

namespace SymbolTable

@[simp] theorem contains_affirm (s : SymbolTable) (name query : Text) (type : ValueType) :
    (s.affirm name type).contains query = (decide (query = name) || s.contains query) := by
  by_cases h : query = name <;> simp [contains, h]

theorem contains_declare (s : SymbolTable) (name query : Text) (type : ValueType) :
    (s.declare name type).contains query =
      (s.contains query || (decide (query = name) && !Word.isReserved name)) := by
  unfold declare judge
  by_cases hReserved : Word.isReserved name = true
  · simp [hReserved]
  · by_cases hBound : s.contains name = true
    · by_cases hEq : query = name
      · simp [hReserved, hBound, hEq]
      · simp [hReserved, hBound, hEq]
    · simp [hReserved, hBound, Bool.or_comm]

end SymbolTable

namespace Form

theorem name_of_declaration? {t rest name : Text} {type : ValueType} {value : Option Text}
    (h : declaration? t = some (declaration name type value, rest)) :
    name = Keyword.loop.text ∨ Word.isIdentifier name = true := by
  simp only [declaration?, declarationHead?, Option.bind_eq_bind, Option.bind_eq_some_iff, Prod.exists,
    Option.some.injEq, Prod.mk.injEq, declaration.injEq] at h
  obtain ⟨name', _, _, ⟨_, _, _, _, _, _, hName, _, _, _, _, _, rfl, _, _⟩, _, _, _, ⟨rfl, _, _⟩, _⟩ := h
  unfold declaredName? at hName
  split at hName
  · exact .inl (Prod.mk.inj (Option.some.inj hName)).1.symm
  · exact .inr (Word.isIdentifier_of_identifier? hName)

theorem declaration?_of_classify {t name : Text} {type : ValueType} {value : Option Text}
    (h : (classify t).1 = declaration name type value) :
    ∃ rest, declaration? t = some (declaration name type value, rest) := by
  have hClassify : classify t = (declaration name type value, (classify t).2) := Prod.ext h rfl
  exact ⟨(classify t).2, reader_of_classify hClassify nofun⟩

end Form

namespace Fragment

theorem form_first (t : Text) : (first t).1.form = (Form.classify t).1 ∧ (first t).1.text = t := by
  unfold first
  split
  · next h => exact ⟨by rw [h], rfl⟩
  · next h => exact ⟨by rw [h], rfl⟩

theorem form_of_mem_chain {t : Text} {f : Fragment} (h : f ∈ chain t) : f.form = (Form.classify f.text).1 := by
  induction t using chain.induct with
  | case1 =>
    rw [chain] at h
    cases h
  | case2 t ht _ ih =>
    rw [chain, dif_neg ht] at h
    rcases List.mem_cons.mp h with rfl | h
    · obtain ⟨hForm, hText⟩ := form_first t
      rw [hForm, hText]
    · exact ih h

end Fragment

namespace Check

/-- The name that a form binds, if it binds one. -/
def binds : Form → Option Text
  | .declaration name _ _ => if Word.isReserved name then none else some name
  | .loopHeader header => LoopHeader.counter? header
  | _ => none

theorem form_of_mem_steps {source : Text} {step : Step} (h : step ∈ steps source) :
    step.fragment.form = (Form.classify step.fragment.text).1 := by
  obtain ⟨s, -, hStep⟩ := List.mem_flatMap.mp h
  obtain ⟨f, hFragment, rfl⟩ := List.mem_map.mp hStep
  exact Fragment.form_of_mem_chain hFragment

theorem isIdentifier_of_binds {t name : Text} (h : binds (Form.classify t).1 = some name) :
    Word.isIdentifier name = true := by
  unfold binds at h
  split at h
  · next declared type value hForm =>
    obtain ⟨hFree, hEq⟩ := Option.ite_none_left_eq_some.mp h
    obtain rfl := Option.some.inj hEq
    obtain ⟨rest, hRead⟩ := Form.declaration?_of_classify hForm
    rcases Form.name_of_declaration? hRead with rfl | hName
    · exact absurd (by decide) hFree
    · exact hName
  · exact LoopHeader.isIdentifier_of_counter? h
  · cases h

namespace State

theorem contains_bound_iff (symbols : SymbolTable) (form : Form) (name : Text) :
    (bound symbols form).contains name = true ↔ symbols.contains name = true ∨ binds form = some name := by
  cases form with
  | declaration declared type value =>
    simp only [bound, binds, SymbolTable.contains_declare]
    by_cases hReserved : Word.isReserved declared = true
    · simp [hReserved]
    · rw [if_neg hReserved, Option.some.injEq, eq_comm (a := declared)]
      simp [hReserved]
  | loopHeader header =>
    simp only [bound, binds]
    cases hCounter : LoopHeader.counter? header with
    | none => simp
    | some counter =>
      rw [Option.some.injEq, eq_comm (a := counter)]
      simp [or_comm]
  | _ => simp [bound, binds]

theorem contains_run_iff (rules : Rules) (s : State) (run : List Step) (name : Text) :
    (s.run rules run).2.symbols.contains name = true ↔
      s.symbols.contains name = true ∨ ∃ step ∈ run, binds step.fragment.form = some name := by
  induction run generalizing s with
  | nil => simp [State.run]
  | cons step rest ih =>
    rw [run_cons_snd, ih, next, contains_bound_iff, or_assoc]
    simp only [List.mem_cons, exists_eq_or_imp]

theorem contains_after_iff (rules : Rules) (source : Text) (n : Nat) (name : Text) :
    (after rules source n).symbols.contains name = true ↔
      ∃ step ∈ (steps source).take n, binds step.fragment.form = some name := by
  rw [after, contains_run_iff]
  simp [start, SymbolTable.contains]

theorem isIdentifier_of_contains_after {rules : Rules} {source : Text} {n : Nat} {name : Text}
    (h : (after rules source n).symbols.contains name = true) : Word.isIdentifier name = true := by
  obtain ⟨step, hStep, hBinds⟩ := (contains_after_iff rules source n name).mp h
  rw [form_of_mem_steps (List.mem_of_mem_take hStep)] at hBinds
  exact isIdentifier_of_binds hBinds

theorem binds_keyword_iff (form : Form) (k : Keyword) :
    binds form = some k.text ↔
      ∃ header, form = .loopHeader header ∧ LoopHeader.counter? header = some k.text := by
  have hReserved : Word.isReserved k.text = true := by cases k <;> decide
  constructor
  · intro h
    unfold binds at h
    split at h
    · obtain ⟨hFree, hEq⟩ := Option.ite_none_left_eq_some.mp h
      rw [Option.some.inj hEq] at hFree
      exact absurd hReserved hFree
    · next header => exact ⟨header, rfl, h⟩
    · cases h
  · rintro ⟨header, rfl, hCounter⟩
    exact hCounter

/-- A keyword is a variable at some point of a run, or at its end, exactly if an accepted loop header over it
stands before: no declaration ever binds one. -/
theorem contains_keyword_iff (strictness : Strictness) (source : Text) (k : Keyword) :
    (∀ n, (after (.ofStrictness strictness) source n).symbols.contains k.text = true ↔
      ∃ step ∈ (steps source).take n, ∃ header,
        step.fragment.form = .loopHeader header ∧ LoopHeader.counter? header = some k.text) ∧
    ((check strictness source).2.contains k.text = true ↔
      ∃ step ∈ steps source, ∃ header,
        step.fragment.form = .loopHeader header ∧ LoopHeader.counter? header = some k.text) := by
  constructor
  · intro n
    simp only [contains_after_iff, binds_keyword_iff]
  · simp only [check_snd, contains_after_iff, List.take_length, binds_keyword_iff]

/-- A loop over a keyword is accepted and makes it a variable. -/
theorem contains_keyword_of_loop_over_it :
    (check .strict
      "MALLI-MALLI (PADAM ANKHE:ANKHE = 0; ANKHE < 3; ANKHE = ANKHE + 1) [\n]".toList).2.contains
        Keyword.integer.text = true ∧ Word.isReserved Keyword.integer.text = true := by
  decide +kernel

end State
end Check
end LessonCheck
