import LessonCheck.Proofs.Blocks
import LessonCheck.Proofs.Program.Grouping
import LessonCheck.Proofs.Program.Judgement

/-!
# Typed programs are clean

A typed program that is written line by line, with any layout, has no diagnostics, and its variables are those
of its typing. The exception is a program with a swallowed alternative: it always has one. The proof types the
lines one by one and follows the run over them, from a state that fits the environment to the next.
-/

namespace LessonCheck

namespace Program

open Check

/-! ## Typed lines -/

/-- The environment and the number of open blocks before and after a line. -/
inductive Line.Types : Env → Nat → Line → Env → Nat → Prop
  | command {Γ Δ : Env} {d : Nat} {c : Command} (hCommand : c.Types Γ Δ) : Types Γ d (.command c) Δ d
  | condition {Γ : Env} {d : Nat} {c : Condition} (hCondition : c.WellTyped Γ) :
      Types Γ d (.condition c) Γ (d + 1)
  | loop {Γ : Env} {d : Nat} (h : Counting) : Types Γ d (.loop h) (Γ.bind h.counter .integer) (d + 1)
  | close {Γ : Env} {d : Nat} : Types Γ (d + 1) .close Γ d
  | otherwise {Γ : Env} {d : Nat} : Types Γ (d + 1) .otherwise Γ (d + 1)

inductive LinesType : Env → Nat → List Line → Env → Nat → Prop
  | nil {Γ : Env} {d : Nat} : LinesType Γ d [] Γ d
  | cons {Γ Δ Θ : Env} {d e f : Nat} {l : Line} {ls : List Line} (hLine : l.Types Γ d Δ e)
      (hRest : LinesType Δ e ls Θ f) : LinesType Γ d (l :: ls) Θ f

theorem LinesType.append {Γ Δ Θ : Env} {d e f : Nat} {ls ms : List Line} (h : LinesType Γ d ls Δ e)
    (hRest : LinesType Δ e ms Θ f) : LinesType Γ d (ls ++ ms) Θ f := by
  induction h with
  | nil => exact hRest
  | cons hLine hLines ih => exact .cons hLine (ih hRest)

/-- The lines of a typed program are typed, and every block that they open they close. -/
theorem linesType_lines {p : Program} {Γ Δ : Env} (h : Types Γ p Δ) (d : Nat) :
    LinesType Γ d p.lines Δ d := by
  induction h generalizing d with
  | done => exact .nil
  | command hCommand hRest ih => exact .cons (.command hCommand) (ih d)
  | branch hCondition hBody hRest ihBody ihRest =>
    exact .cons (.condition hCondition) ((ihBody (d + 1)).append (.cons .close (ihRest d)))
  | choice hCondition hBody hAlternative hRest ihBody ihAlternative ihRest =>
    have hAfter := (ihAlternative (d + 1)).append (.cons .close (ihRest d))
    exact .cons (.condition hCondition) ((ihBody (d + 1)).append (.cons .otherwise hAfter))
  | @loop _ _ _ h body rest hBody hRest ihBody ihRest =>
    exact .cons (.loop h) ((ihBody (d + 1)).append (.cons .close (ihRest d)))

theorem getLast?_lines (p : Program) : p.lines.getLast?.all (!·.isOtherwise) = true := by
  have hClose (ls : List Line) {ms : List Line} (h : ms.getLast?.all (!·.isOtherwise) = true) :
      (ls ++ .close :: ms).getLast?.all (!·.isOtherwise) = true := by
    rw [List.getLast?_append, List.getLast?_cons]
    cases hLast : ms.getLast? with
    | none => rfl
    | some l => rwa [hLast] at h
  induction p with
  | done => rfl
  | command c rest ih =>
    rw [lines, List.getLast?_cons]
    cases hLast : rest.lines.getLast? with
    | none => rfl
    | some l => rwa [hLast] at ih
  | branch c body rest ihBody ihRest => exact hClose (.condition c :: body.lines) ihRest
  | choice c body alternative rest ihBody ihAlternative ihRest =>
    have h := hClose (.condition c :: (body.lines ++ .otherwise :: alternative.lines)) ihRest
    simpa [lines] using h
  | loop h body rest ihBody ihRest => exact hClose (.loop h :: body.lines) ihRest

/-! ## The run over typed lines -/

/-- Outside rejected loops, the table holds the environment, and this many blocks are open. -/
structure Fits (Γ : Env) (d : Nat) (s : State) : Prop where
  agrees : Agrees s.symbols Γ
  bound : s.blocks.unbound = 0
  depth : s.blocks.depth = d

section Run

variable (rules : Rules) {s : State} {Γ Δ : Env} {d e : Nat}

theorem quiet_next {step : Step} (hFits : Fits Γ d s)
    (hDefects : defects rules.strictness s.symbols s.blocks.top?.isNone step.fragment = [])
    (hAgrees : Agrees (State.bound s.symbols step.fragment.form) Δ)
    (hDepth : (if State.closes step.fragment.form then d - 1 else d) +
      (if step.fragment.opens then 1 else 0) = e) :
    s.findings rules step = [] ∧ Fits Δ e (s.next rules step) := by
  refine ⟨(State.findings_eq_nil_iff hFits.bound).mpr hDefects, hAgrees, ?_, ?_⟩
  · exact State.unbound_next hFits.bound (State.accepts_of_defects hDefects)
  · rw [State.depth_next, hFits.depth, hDepth]

theorem quiet_command {c : Command} {step : Step} (hForm : step.fragment.form = c.form) (hFits : Fits Γ d s)
    (h : c.Types Γ Δ) : s.findings rules step = [] ∧ Fits Δ d (s.next rules step) := by
  obtain ⟨line, t, form⟩ := step
  obtain rfl : form = c.form := hForm
  cases h with
  | @declare x type value hFresh hValue =>
    refine quiet_next rules hFits (declarationDefects_eq_nil hFits.agrees hFresh hValue) ?_ rfl
    simp only [Command.form, State.bound, SymbolTable.declare, judge_fresh hFits.agrees hFresh]
    exact agrees_affirm hFits.agrees x type
  | assign hTarget hValue =>
    exact quiet_next rules hFits (assignmentDefects_eq_nil hFits.agrees hTarget hValue) hFits.agrees rfl
  | io hArgument => exact quiet_next rules hFits (ioDefects_eq_nil hFits.agrees _ hArgument) hFits.agrees rfl

theorem continuationDefects_eq_nil {next : Continuation} (h : next.isAlternative = false) :
    continuationDefects next = [] := by
  cases next with
  | nothing | fragment => rfl
  | otherwise | otherwiseSemicolon | semicolonOtherwise => cases h

theorem closerDefects_eq_nil {rest : Text} (hFits : Fits Γ (d + 1) s)
    (h : continuationDefects (Continuation.ofText rest) = []) (line : Nat) (t : Text) :
    defects rules.strictness s.symbols s.blocks.top?.isNone (Step.fragment ⟨line, t, .closer rest⟩) = [] := by
  have hOpen : s.blocks.top?.isNone = false := by
    rw [BlockStack.isNone_top?, hFits.depth]
    rfl
  simp [defects, hOpen, h]

theorem quiet_line {l : Line} {step : Step} (hReads : ReadsAs l step.fragment.form) (hFits : Fits Γ d s)
    (h : l.Types Γ d Δ e) : s.findings rules step = [] ∧ Fits Δ e (s.next rules step) := by
  cases h with
  | command hCommand =>
    generalize hForm : step.fragment.form = form at hReads
    cases hReads
    exact quiet_command rules hForm hFits hCommand
  | condition hCondition =>
    obtain ⟨line, t, form⟩ := step
    cases hReads
    refine quiet_next rules hFits ?_ hFits.agrees rfl
    simp only [defects, conditionDefects_eq_nil hFits.agrees hCondition, ite_self]
  | loop h =>
    obtain ⟨line, t, form⟩ := step
    cases hReads
    refine quiet_next rules hFits ?_ ?_ rfl
    · simp [defects, h.accepted]
    · simp only [State.bound, h.accepted]
      exact agrees_affirm hFits.agrees h.counter .integer
  | close =>
    obtain ⟨line, t, form⟩ := step
    cases hReads with
    | close hRest =>
      have hDefects := closerDefects_eq_nil rules hFits (continuationDefects_eq_nil hRest) line t
      refine quiet_next rules hFits hDefects hFits.agrees ?_
      simp [State.closes, Fragment.opens, hRest]
  | otherwise =>
    obtain ⟨line, t, form⟩ := step
    cases hReads with
    | @otherwise rest hRest =>
      have hNext : continuationDefects (Continuation.ofText rest) = [] := by
        rw [hRest]
        rfl
      refine quiet_next rules hFits (closerDefects_eq_nil rules hFits hNext line t) hFits.agrees ?_
      simp [State.closes, Fragment.opens, hRest, Continuation.isAlternative]

theorem quiet_run_lines {ls : List Line} {run : List Step}
    (hReads : List.Forall₂ (fun l step => ReadsAs l (Step.fragment step).form) ls run) (hFits : Fits Γ d s)
    (h : LinesType Γ d ls Δ e) : (s.run rules run).1 = [] ∧ Fits Δ e (s.run rules run).2 := by
  induction h generalizing s run with
  | nil =>
    obtain rfl := List.forall₂_nil_left_iff.mp hReads
    exact ⟨rfl, hFits⟩
  | cons hLine hRest ih =>
    obtain ⟨step, rest, hStep, hLater, rfl⟩ := List.forall₂_cons_left_iff.mp hReads
    obtain ⟨hQuiet, hNext⟩ := quiet_line rules hStep hFits hLine
    obtain ⟨hRun, hEnd⟩ := ih hLater hNext
    rw [State.run_cons_fst, State.run_cons_snd, hQuiet, hRun]
    exact ⟨rfl, hEnd⟩

end Run

/-! ## Programs -/

theorem map_fragment_steps (source : Text) :
    (steps source).map Step.fragment =
      (LogicalStatement.ofSource source).flatMap fun s => Fragment.ofStatement s.text := by
  rw [steps, List.map_flatMap]
  apply List.flatMap_congr
  intro s hs
  rw [stepsOf, List.map_map]
  exact List.map_id _

theorem findings_ne_nil_of_unknown {rules : Rules} {s : State} {step : Step}
    (h : step.fragment.form = .unknown) : s.findings rules step ≠ [] := by
  have hDefects : ∃ defect, defect.isLookup = false ∧
      defects rules.strictness s.symbols s.blocks.top?.isNone step.fragment = [defect] := by
    simp only [defects, h]
    split
    · exact ⟨_, rfl, rfl⟩
    · exact ⟨_, rfl, rfl⟩
  obtain ⟨defect, hLookup, hDefect⟩ := hDefects
  rw [State.findings, State.reported, hDefect]
  split
  · simp [hLookup]
  · simp

theorem run_ne_nil_of_mem {rules : Rules} {run : List Step} {step : Step} (hMem : step ∈ run)
    (h : step.fragment.form = .unknown) (s : State) : (s.run rules run).1 ≠ [] := by
  induction run generalizing s with
  | nil => cases hMem
  | cons first rest ih =>
    rw [State.run_cons_fst]
    intro hNil
    obtain ⟨hFirst, hRest⟩ := List.append_eq_nil_iff.mp hNil
    rcases List.mem_cons.mp hMem with rfl | hMem
    · exact findings_ne_nil_of_unknown h hFirst
    · exact ih hMem _ hRest

/-- Whether an alternative of the program stands behind a literal in which a loop header seems to start, with
no header in between. -/
def swallowsAlternative (p : Program) : Bool := swallows false p.lines

theorem check_eq_of_types {p : Program} {Γ : Env} {source : Text} (strictness : Strictness)
    (hTypes : p.Types .empty Γ) (hLayout : CodeLine.LaidOut (p.lines.map Line.text) source.physicalLines) :
    ((check strictness source).1 = [] ↔ p.swallowsAlternative = false) ∧
      (p.swallowsAlternative = false → ∀ name, (check strictness source).2.get? name = Γ name) := by
  have hCodes : (CodeLine.ofSource source).map CodeLine.text = p.lines.map Line.text := by
    refine CodeLine.map_text_ofLines hLayout ?_ 1
    intro t ht
    obtain ⟨l, -, rfl⟩ := List.mem_map.mp ht
    exact ⟨l.framed_text, l.whole_text⟩
  have hClean (hKept : p.swallowsAlternative = false) :
      (check strictness source).1 = [] ∧ ∀ name, (check strictness source).2.get? name = Γ name := by
    have hRead := forall₂_readsAs_group .none (by simp) hCodes hKept
    rw [List.nil_append, ← LogicalStatement.ofSource, ← map_fragment_steps, List.forall₂_map_right_iff] at hRead
    have hStart : Fits .empty 0 State.start := ⟨fun name => rfl, rfl, rfl⟩
    obtain ⟨hRun, hEnd⟩ := quiet_run_lines (.ofStrictness strictness) hRead hStart (linesType_lines hTypes 0)
    refine ⟨(State.check_fst_eq_nil_iff strictness source).mpr ⟨hRun, ?_⟩, hEnd.agrees⟩
    exact List.length_eq_zero_iff.mp hEnd.depth
  refine ⟨⟨?_, fun hKept => (hClean hKept).1⟩, fun hKept => (hClean hKept).2⟩
  intro hNil
  cases hSwallows : p.swallowsAlternative with
  | false => rfl
  | true =>
    obtain ⟨s, hStatement, f, hFragment, hUnknown⟩ :=
      exists_unknown_group .none (by simp) hCodes hSwallows (getLast?_lines p)
    have hMem : f ∈ (steps source).map Step.fragment := by
      rw [map_fragment_steps]
      exact List.mem_flatMap.mpr ⟨s, hStatement, hFragment⟩
    obtain ⟨step, hStep, rfl⟩ := List.mem_map.mp hMem
    have hRun := ((State.check_fst_eq_nil_iff strictness source).mp hNil).1
    exact absurd hRun (run_ne_nil_of_mem hStep hUnknown State.start)

/-! ## Two small programs -/

def number : Name := ⟨['n'], by decide, by decide⟩

def counter : Name := ⟨['i'], by decide, by decide⟩

/-- The formula of a product with a group, written with a gap on each side of the sign. -/
def product : Formula where
  pieces := [([], .ident ['n']), ([' '], .star), ([' '], .leftParen), ([], .ident ['n']), ([' '], .minus),
    ([' '], .int ['2']), ([], .rightParen)]
  depth := 1
  wellSpelled := by decide
  startsBare := rfl
  derived := by
    have hName : Arithmetic.Derives .unary 0 [.ident ['n']] := .atom (.ident _)
    have hInner : Arithmetic.Derives .expr 0 [.ident ['n'], .minus, .int ['2']] :=
      .summand (.term (.unary hName)) rfl (.unary (.atom (.int _)))
    exact .term (.factor (.unary hName) rfl (.atom (.group hInner)))
  shallow := by decide

def counting : Counting where
  text := "PADAM i:ANKHE = 0; i < 3; i = i + 1".toList
  counter := counter
  accepted := by decide +kernel
  framed := ⟨⟨'P', rfl, by decide⟩, ⟨'1', rfl, by decide⟩⟩
  whole := CodeLine.whole_of_plain (by decide)

def isOne : Condition := ⟨number, .equal, .numeral ⟨['1'], by decide⟩⟩

def drill : Program :=
  .command (.declare number .integer none)
    (.choice isOne (.command (.assign number (.formula product)) .done) .done
      (.loop counting (.command (.io .print (.named counter)) .done) .done))

def drillText : Text :=
  "PADAM n:ANKHE;\n# halves\nELAITHE (n == 1) [\n  n = n * (n - 2); # smaller\n] ALAITHE [\n\n]\n".toList ++
    "MALLI-MALLI (PADAM i:ANKHE = 0; i < 3; i = i + 1) [\nCHATIMPU(i);\n]".toList

theorem types_drill : drill.Types .empty ((Env.empty.bind number .integer).bind counter .integer) := by
  have hNumber : (Env.empty.bind number .integer) number.text = some .integer := rfl
  have hNames : ∀ name, Arithmetic.Token.ident name ∈ product.pieces.map Prod.snd →
      (Env.empty.bind number .integer) name = some .integer := by
    intro name hMem
    obtain rfl : name = ['n'] := by simpa [product] using hMem
    rfl
  have hCondition : isOne.WellTyped (Env.empty.bind number .integer) := .mk hNumber (.numeral _) (by simp)
  have hAssign : Types (Env.empty.bind number .integer) (.command (.assign number (.formula product)) .done)
      (Env.empty.bind number .integer) := .command (.assign hNumber (.formula hNames)) .done
  have hCounter : ((Env.empty.bind number .integer).bind counter .integer) counter.text = some .integer := rfl
  have hPrint : Types ((Env.empty.bind number .integer).bind counter .integer)
      (.command (.io .print (.named counter)) .done) ((Env.empty.bind number .integer).bind counter .integer) :=
    .command (.io (.named hCounter)) .done
  exact .command (.declare rfl (by simp)) (.choice hCondition hAssign .done (.loop hPrint .done))

theorem laidOut_drill : CodeLine.LaidOut (drill.lines.map Line.text) drillText.physicalLines := by
  have hLines : drillText.physicalLines = ["PADAM n:ANKHE;".toList, [] ++ '#' :: " halves".toList,
      "ELAITHE (n == 1) [".toList, "  ".toList ++ "n = n * (n - 2);".toList ++ ([' '] ++ '#' :: " smaller".toList),
      "] ALAITHE [".toList, [], "]".toList,
      "MALLI-MALLI (PADAM i:ANKHE = 0; i < 3; i = i + 1) [".toList, "CHATIMPU(i);".toList, "]".toList] := by
    decide +kernel
  have hBare : drill.lines.map Line.text = ["PADAM n:ANKHE;".toList, "ELAITHE (n == 1) [".toList,
      "n = n * (n - 2);".toList, "] ALAITHE [".toList, "]".toList,
      "MALLI-MALLI (PADAM i:ANKHE = 0; i < 3; i = i + 1) [".toList, "CHATIMPU(i);".toList, "]".toList] := by
    decide +kernel
  rw [hLines, hBare]
  have hHalves : CodeLine.Filler ([] ++ '#' :: " halves".toList) := .comment (by decide) _
  have hSmaller : CodeLine.Filler ([' '] ++ '#' :: " smaller".toList) := .comment (by decide) _
  have hIndent : Text.AllBlank "  ".toList := by decide
  have hEmpty : CodeLine.Filler [] := .blanks (by decide)
  exact .bare (.filler hHalves (.bare (.line hIndent hSmaller (.bare (.filler hEmpty (CodeLine.laidOut_self _))))))

theorem check_drill : (check .strict drillText).1 = [] ∧ ∀ name, (check .strict drillText).2.get? name =
    (Env.empty.bind number .integer).bind counter .integer name := by
  obtain ⟨hClean, hTable⟩ := check_eq_of_types .strict types_drill laidOut_drill
  exact ⟨hClean.mpr (by decide +kernel), hTable (by decide +kernel)⟩

/-- A literal that reads like a loop header, in the first block of a choice. -/
def misread : Program :=
  .command (.declare number .integer none)
    (.choice isOne (.command (.io .print (.quoted ⟨"MALLI-MALLI (".toList, by decide⟩)) .done) .done .done)

def misreadText : Text :=
  "PADAM n:ANKHE;\nELAITHE (n == 1) [\nCHATIMPU(\"MALLI-MALLI (\");\n] ALAITHE [\n]".toList

/-- The program is typed and written without any layout, and yet its alternative is not read. -/
theorem check_misread : misread.Types .empty (Env.empty.bind number .integer) ∧
    CodeLine.LaidOut (misread.lines.map Line.text) misreadText.physicalLines ∧
      (check .strict misreadText).1 ≠ [] := by
  have hNumber : (Env.empty.bind number .integer) number.text = some .integer := rfl
  have hCondition : isOne.WellTyped (Env.empty.bind number .integer) := .mk hNumber (.numeral _) (by simp)
  have hLines : misreadText.physicalLines = misread.lines.map Line.text := by decide +kernel
  refine ⟨?_, ?_, by decide +kernel⟩
  · exact .command (.declare rfl (by simp)) (.choice hCondition (.command (.io (.quoted _)) .done) .done .done)
  · rw [hLines]
    exact CodeLine.laidOut_self _

end Program
end LessonCheck
