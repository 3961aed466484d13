import LessonCheck.Proofs.Findings
import LessonCheck.Proofs.Soundness

/-!
# The history of the variables

The table of a program is a function of its steps alone. The first declaration of a name gives it its type and
later ones are refused; an accepted loop header makes its variable an integer whatever it was before. So a name
that any loop counts with is an integer from then on, no later declaration changes that, and for every other
name the first declaration decides.
-/

namespace LessonCheck

namespace SymbolTable

theorem judge_of_reserved (s : SymbolTable) {name : Text} (h : Word.isReserved name = true) :
    s.judge name = .reserved := by
  rw [judge, if_pos h]

theorem judge_of_contains {s : SymbolTable} {name : Text} (h : Word.isReserved name = false)
    (hBound : s.contains name = true) : s.judge name = .duplicate := by
  simp [judge, h, hBound]

theorem judge_of_free {s : SymbolTable} {name : Text} (h : Word.isReserved name = false)
    (hFree : s.contains name = false) : s.judge name = .inserted := by
  simp [judge, h, hFree]

/-- A declaration fills a gap and overrides nothing. -/
theorem get?_declare (s : SymbolTable) (name query : Text) (type : ValueType) :
    (s.declare name type).get? query =
      (s.get? query).or (if name = query ∧ Word.isReserved name = false then some type else none) := by
  cases hReserved : Word.isReserved name with
  | true => simp [declare, judge_of_reserved s hReserved]
  | false =>
    cases hBound : s.contains name with
    | true =>
      rw [declare, judge_of_contains hReserved hBound]
      by_cases hName : name = query
      · obtain ⟨old, hOld⟩ := Option.isSome_iff_exists.mp hBound
        rw [← hName, hOld]
        rfl
      · simp [hName]
    | false =>
      rw [declare, judge_of_free hReserved hBound]
      by_cases hName : name = query
      · have hNone : s.get? name = none := Option.not_isSome_iff_eq_none.mp (by simpa [contains] using hBound)
        simp [← hName, hNone]
      · simp [hName, Ne.symm hName]

end SymbolTable

namespace Check

/-- The variable of an accepted loop header. -/
def counterOf : Form → Option Text
  | .loopHeader header => LoopHeader.counter? header
  | _ => none

/-- The variables of the accepted loop headers among the steps. -/
def counters (run : List Step) : List Text := run.filterMap fun step => counterOf step.fragment.form

/-- The type that a declaration of this name gives it; a reserved word gets none. -/
def declaredType? (name : Text) : Form → Option ValueType
  | .declaration declared type _ => if declared = name ∧ Word.isReserved declared = false then some type else none
  | _ => none

/-- The type in the first declaration of the name. -/
def firstDeclared? (run : List Step) (name : Text) : Option ValueType :=
  run.findSome? fun step => declaredType? name step.fragment.form

theorem mem_counters_cons {step : Step} {rest : List Step} {name : Text} :
    name ∈ counters (step :: rest) ↔ counterOf step.fragment.form = some name ∨ name ∈ counters rest := by
  simp only [counters, List.mem_filterMap, List.mem_cons, exists_eq_or_imp]

theorem firstDeclared?_cons (step : Step) (rest : List Step) (name : Text) :
    firstDeclared? (step :: rest) name =
      (declaredType? name step.fragment.form).or (firstDeclared? rest name) := by
  rw [firstDeclared?, List.findSome?_cons, ← firstDeclared?]
  cases declaredType? name step.fragment.form <;> rfl

theorem isSome_declaredType?_iff {name : Text} {form : Form} :
    (declaredType? name form).isSome = true ↔ Word.isReserved name = false ∧ declaredName form = some name := by
  cases form with
  | declaration declared type value =>
    rw [declaredType?, declaredName, Option.some.injEq]
    split
    · next h => exact iff_of_true rfl ⟨h.1 ▸ h.2, h.1⟩
    · next h => exact iff_of_false Bool.false_ne_true fun hName => h ⟨hName.2, hName.2 ▸ hName.1⟩
  | _ => exact iff_of_false Bool.false_ne_true (by rintro ⟨-, ⟨⟩⟩)

theorem isSome_firstDeclared?_iff {run : List Step} {name : Text} :
    (firstDeclared? run name).isSome = true ↔ Word.isReserved name = false ∧ name ∈ declaredNames run := by
  simp only [firstDeclared?, declaredNames, List.findSome?_isSome_iff, isSome_declaredType?_iff,
    List.mem_filterMap]
  constructor
  · rintro ⟨step, hStep, hReserved, hName⟩
    exact ⟨hReserved, step, hStep, hName⟩
  · rintro ⟨hReserved, step, hStep, hName⟩
    exact ⟨step, hStep, hReserved, hName⟩

/-- The type comes from the declaration in front of which no other one of the name stands. -/
theorem firstDeclared?_of_first {front back : List Step} {step : Step} {name : Text} {type : ValueType}
    {value : Option Text} (hForm : step.fragment.form = .declaration name type value)
    (hReserved : Word.isReserved name = false) (hFront : name ∉ declaredNames front) :
    firstDeclared? (front ++ step :: back) name = some type := by
  have hNone : firstDeclared? front name = none := by
    rw [← Option.not_isSome_iff_eq_none, isSome_firstDeclared?_iff]
    exact fun h => hFront h.2
  have hStep : declaredType? name step.fragment.form = some type := by
    rw [hForm, declaredType?, if_pos ⟨rfl, hReserved⟩]
  rw [firstDeclared?, List.findSome?_append, ← firstDeclared?, hNone, Option.none_or, List.findSome?_cons, hStep]

namespace State

variable {rules : Rules} {source : Text}

/-- What a form leaves a name bound to: a loop overrides, a declaration only fills a gap. -/
theorem get?_bound (symbols : SymbolTable) (form : Form) (name : Text) :
    (bound symbols form).get? name =
      if counterOf form = some name then some .integer
      else (symbols.get? name).or (declaredType? name form) := by
  cases form with
  | declaration declared type value => exact symbols.get?_declare declared name type
  | loopHeader header =>
    simp only [bound, counterOf, declaredType?, Option.or_none]
    cases LoopHeader.counter? header with
    | none => rfl
    | some counter => simp only [SymbolTable.get?_affirm, Option.some.injEq, eq_comm]
  | _ => exact Option.or_none.symm

/-- A form that is neither a declaration nor an accepted loop header leaves the table as it is. -/
theorem bound_eq_self {form : Form} (hDeclared : declaredName form = none) (hCounter : counterOf form = none)
    (symbols : SymbolTable) : bound symbols form = symbols := by
  cases form with
  | declaration => cases hDeclared
  | loopHeader header =>
    have hCounter : LoopHeader.counter? header = none := hCounter
    simp only [bound, hCounter]
  | _ => rfl

/-- The type of a name after a run: that of a loop if one counts with it, else the one it had, else that of
its first declaration. -/
theorem get?_run (rules : Rules) (s : State) (run : List Step) (name : Text) :
    (s.run rules run).2.symbols.get? name =
      if name ∈ counters run then some .integer
      else (s.symbols.get? name).or (firstDeclared? run name) := by
  induction run generalizing s with
  | nil => exact Option.or_none.symm
  | cons step rest ih =>
    rw [run_cons_snd, ih, next, get?_bound, firstDeclared?_cons, ← Option.or_assoc]
    simp only [mem_counters_cons]
    by_cases hRest : name ∈ counters rest
    · rw [if_pos hRest, if_pos (.inr hRest)]
    · by_cases hStep : counterOf step.fragment.form = some name
      · rw [if_neg hRest, if_pos hStep, if_pos (.inl hStep), Option.some_or]
      · rw [if_neg hRest, if_neg hStep, if_neg (not_or.mpr ⟨hStep, hRest⟩)]

/-- Nothing is withheld from a form that looks no name up. -/
theorem reported_of_forall {f : Fragment} (h : ∀ d : Defect, d.concerns f.form = true → d.isLookup = false)
    (rules : Rules) (s : State) :
    s.reported rules f = defects rules.strictness s.symbols s.blocks.top?.isNone f := by
  unfold reported
  split
  · apply List.filter_eq_self.mpr
    intro d hDefect
    rw [h d (concerns_of_mem_defects hDefect)]
    rfl
  · rfl

theorem reported_declaration (rules : Rules) (s : State) (t name : Text) (type : ValueType)
    (value : Option Text) : s.reported rules ⟨t, .declaration name type value⟩ =
      declarationDefects s.symbols name type value := by
  apply reported_of_forall
  intro d hConcerns
  cases d with
  | undeclared | undeclaredIn | unresolvedCondition | typeMismatch => cases hConcerns
  | _ => rfl

theorem reported_loopHeader (rules : Rules) (s : State) (t header : Text) :
    s.reported rules ⟨t, .loopHeader header⟩ =
      if (counterOf (.loopHeader header)).isSome then [] else [.invalidLoop] := by
  apply reported_of_forall
  intro d hConcerns
  cases d with
  | undeclared | undeclaredIn | unresolvedCondition | typeMismatch => cases hConcerns
  | _ => rfl

end State

/-- The table of the run after its first `n` steps. -/
def tableAt (strictness : Strictness) (source : Text) (n : Nat) : SymbolTable :=
  (State.after (.ofStrictness strictness) source n).symbols

/-- The diagnostics of the step with this number. -/
def reportsAt (strictness : Strictness) (source : Text) (n : Nat) : List Diagnostic :=
  (State.findingsAt (.ofStrictness strictness) source n).map Finding.diagnostic

section Steps

variable {strictness : Strictness} {source : Text} {n : Nat}

theorem tableAt_succ {step : Step} (h : (steps source)[n]? = some step) :
    tableAt strictness source (n + 1) = State.bound (tableAt strictness source n) step.fragment.form := by
  rw [tableAt, State.after_succ h]
  rfl

theorem reportsAt_declaration {line : Nat} {t name : Text} {type : ValueType} {value : Option Text}
    (h : (steps source)[n]? = some ⟨line, t, .declaration name type value⟩) :
    reportsAt strictness source n =
      (declarationDefects (tableAt strictness source n) name type value).map (·.onLine line) := by
  rw [reportsAt, State.findingsAt_of_getElem? h, State.findings, State.reported_declaration, List.map_map]
  rfl

theorem reportsAt_loopHeader {line : Nat} {t header : Text}
    (h : (steps source)[n]? = some ⟨line, t, .loopHeader header⟩) :
    reportsAt strictness source n = if (counterOf (.loopHeader header)).isSome then []
      else [⟨line, "Invalid MALLI-MALLI syntax.".toList⟩] := by
  rw [reportsAt, State.findingsAt_of_getElem? h, State.findings, State.reported_loopHeader]
  split <;> rfl

theorem contains_tableAt_of_le {m : Nat} {name : Text} (hle : m ≤ n)
    (h : (tableAt strictness source m).contains name = true) :
    (tableAt strictness source n).contains name = true := by
  rw [tableAt, State.contains_after_iff] at h ⊢
  obtain ⟨step, hStep, hBinds⟩ := h
  exact ⟨step, (List.take_sublist_take_left hle).mem hStep, hBinds⟩

end Steps

/-- What the steps of a program do to its variables, and what its declarations report. -/
structure History (strictness : Strictness) (source : Text) : Prop where
  bound : ∀ name, (check strictness source).2.contains name = true ↔
    Word.isReserved name = false ∧ name ∈ declaredNames (steps source) ∨ name ∈ counters (steps source)
  ofLoop : ∀ name ∈ counters (steps source), (check strictness source).2.get? name = some .integer
  ofDeclaration : ∀ front step back name type value, steps source = front ++ step :: back →
    step.fragment.form = .declaration name type value → Word.isReserved name = false →
    name ∉ declaredNames front → name ∉ counters (steps source) →
      (check strictness source).2.get? name = some type
  final : (check strictness source).2 = tableAt strictness source (steps source).length
  kept : ∀ m n name, m ≤ n → (tableAt strictness source m).contains name = true →
    (tableAt strictness source n).contains name = true
  reports : (check strictness source).1 =
    (List.range (steps source).length).flatMap (reportsAt strictness source) ++
      (State.after (.ofStrictness strictness) source (steps source).length).unclosed.map Finding.diagnostic
  duplicate : ∀ n line t name type value,
    (steps source)[n]? = some ⟨line, t, .declaration name type value⟩ →
    Word.isReserved name = false → (tableAt strictness source n).contains name = true →
      reportsAt strictness source n =
        [⟨line, "Variable '".toList ++ name ++ "' already declared.".toList⟩] ∧
      tableAt strictness source (n + 1) = tableAt strictness source n
  reserved : ∀ n line t name type value,
    (steps source)[n]? = some ⟨line, t, .declaration name type value⟩ → Word.isReserved name = true →
      reportsAt strictness source n =
        [⟨line, "Variable name '".toList ++ name ++ "' is reserved.".toList⟩] ∧
      tableAt strictness source (n + 1) = tableAt strictness source n
  fresh : ∀ n line t name type value,
    (steps source)[n]? = some ⟨line, t, .declaration name type value⟩ →
    Word.isReserved name = false → (tableAt strictness source n).contains name = false →
      reportsAt strictness source n = (if value.all type.acceptsLiteral then []
        else [(Defect.invalidInitializer name type).onLine line]) ∧
      tableAt strictness source (n + 1) = (tableAt strictness source n).affirm name type
  accepted : ∀ n line t header, (steps source)[n]? = some ⟨line, t, .loopHeader header⟩ →
    reportsAt strictness source n = if (counterOf (.loopHeader header)).isSome then []
      else [⟨line, "Invalid MALLI-MALLI syntax.".toList⟩]
  others : ∀ n step, (steps source)[n]? = some step → declaredName step.fragment.form = none →
    counterOf step.fragment.form = none → tableAt strictness source (n + 1) = tableAt strictness source n

theorem history (strictness : Strictness) (source : Text) : History strictness source := by
  have hFinal : (check strictness source).2 = tableAt strictness source (steps source).length :=
    State.check_snd strictness source
  have hTypes (name : Text) : (check strictness source).2.get? name =
      if name ∈ counters (steps source) then some .integer else firstDeclared? (steps source) name := by
    rw [hFinal, tableAt, State.after_length, State.get?_run]
    rfl
  refine ⟨?bound, ?ofLoop, ?ofDeclaration, hFinal, ?kept, ?reports, ?duplicate, ?reserved, ?fresh,
    ?accepted, ?others⟩
  case bound =>
    intro name
    rw [SymbolTable.contains, hTypes, ← isSome_firstDeclared?_iff]
    split
    · next hCounter => exact iff_of_true rfl (.inr hCounter)
    · next hCounter => exact (or_iff_left hCounter).symm
  case ofLoop =>
    intro name hCounter
    rw [hTypes, if_pos hCounter]
  case ofDeclaration =>
    intro front step back name type value hSteps hForm hReserved hFront hCounter
    rw [hTypes, if_neg hCounter, hSteps]
    exact firstDeclared?_of_first hForm hReserved hFront
  case kept =>
    intro m n name hle h
    exact contains_tableAt_of_le hle h
  case reports =>
    have hRun := State.run_take_fst (.ofStrictness strictness) source (steps source).length
    rw [List.take_length] at hRun
    rw [State.check_fst, hRun, List.map_flatMap, State.after_length]
    rfl
  case duplicate =>
    intro n line t name type value hStep hReserved hBound
    have hJudge := SymbolTable.judge_of_contains hReserved hBound
    rw [reportsAt_declaration hStep, tableAt_succ hStep, State.bound, declarationDefects, SymbolTable.declare,
      hJudge]
    exact ⟨rfl, rfl⟩
  case reserved =>
    intro n line t name type value hStep hReserved
    have hJudge := (tableAt strictness source n).judge_of_reserved hReserved
    rw [reportsAt_declaration hStep, tableAt_succ hStep, State.bound, declarationDefects, SymbolTable.declare,
      hJudge]
    exact ⟨rfl, rfl⟩
  case fresh =>
    intro n line t name type value hStep hReserved hFree
    have hJudge := SymbolTable.judge_of_free hReserved hFree
    rw [reportsAt_declaration hStep, tableAt_succ hStep, State.bound, declarationDefects, SymbolTable.declare,
      hJudge]
    exact ⟨apply_ite (List.map fun d : Defect => d.onLine line) _ _ _, rfl⟩
  case accepted =>
    intro n line t header hStep
    exact reportsAt_loopHeader hStep
  case others =>
    intro n step hStep hDeclared hCounter
    rw [tableAt_succ hStep, State.bound_eq_self hDeclared hCounter]

example : (check .strict ("PADAM x:VARTTAI = 1;\nPADAM x:ANKHE;\n" ++
      "MALLI-MALLI (PADAM x:ANKHE = 0; x < 3; x = x + 1) [\n]").toList).map id SymbolTable.entries =
    ([⟨1, "Invalid string value for 'x'. Expected string in quotes.".toList⟩,
      ⟨2, "Variable 'x' already declared.".toList⟩], [("x".toList, .integer)]) := by
  decide +kernel

end Check
end LessonCheck
