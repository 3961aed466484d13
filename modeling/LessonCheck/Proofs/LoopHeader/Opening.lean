import LessonCheck.Proofs.History
import LessonCheck.Proofs.Program.Reading
import LessonCheck.Proofs.Text.Words

/-!
# Opening a loop

A statement that is the keyword of loops with anything in its parentheses is a loop header, whatever stands there:
parentheses, brackets, newlines or nothing but blanks. It is accepted or rejected as one, and either way it opens a
loop. Only the empty parentheses are no header at all. They are an unknown statement, and the block that they open
does not withhold anything.
-/

namespace LessonCheck

open Program Text

theorem LoopHeader.counter?_trim (header : Text) : counter? (trim header) = counter? header := by
  rw [counter?, collapseBlanks_trim, ← counter?]

namespace Check.State

/-- What a loop header is to come to: an accepted one binds its counter and opens a loop; a rejected one is
reported, changes no variable, and opens a loop with an unbound body. -/
def openLoop (s : State) (line : Nat) (header : Text) : List Finding × State :=
  match LoopHeader.counter? header with
  | some name => ([], ⟨s.symbols.affirm name .integer, s.blocks.push ⟨line, .loop, false⟩⟩)
  | none => ([⟨line, .invalidLoop⟩], ⟨s.symbols, s.blocks.push ⟨line, .loop, true⟩⟩)

theorem stepsOf_headerText {k : Keyword} {part : Text} {form : Form} (line : Nat)
    (h : Form.classify (headerText k part) = (form, [])) (hForm : closes form = false) :
    stepsOf ⟨headerText k part, line⟩ = [⟨line, headerText k part, form⟩] := by
  have hFramed := framed_headerText k part
  rw [stepsOf, Fragment.ofStatement, trim_of_framed hFramed,
    Fragment.chain_of_classify hFramed.ne_nil h hForm]
  rfl

theorem run_singleton (rules : Rules) (s : State) (step : Step) :
    s.run rules [step] = (s.findings rules step, s.next rules step) := by
  rw [run, run, List.append_nil]

theorem next_loopHeader (strictness : Strictness) (s : State) (line : Nat) (t header : Text) :
    s.next (.ofStrictness strictness) ⟨line, t, .loopHeader header⟩ = (s.openLoop line header).2 := by
  cases hCounter : LoopHeader.counter? header with
  | some name => simp [next, nested, bound, opened?, openLoop, closes, hCounter]
  | none => simp [next, nested, bound, opened?, openLoop, closes, hCounter, Rules.ofStrictness]

theorem findings_loopHeader (rules : Rules) (s : State) (line : Nat) (t header : Text) :
    s.findings rules ⟨line, t, .loopHeader header⟩ = (s.openLoop line header).1 := by
  rw [findings, reported_loopHeader, counterOf]
  cases hCounter : LoopHeader.counter? header with
  | some name => simp [openLoop, hCounter]
  | none => simp [openLoop, hCounter]

theorem run_loopHeader (strictness : Strictness) (s : State) (line : Nat) {header : Text} (h : header ≠ []) :
    s.run (.ofStrictness strictness) (stepsOf ⟨headerText .loop header, line⟩) = s.openLoop line header := by
  rw [stepsOf_headerText line (classify_loop h) rfl, run_singleton, findings_loopHeader, next_loopHeader]
  unfold openLoop
  rw [LoopHeader.counter?_trim]

/-- Nothing at all in the parentheses is an unknown statement. -/
theorem run_emptyLoopHeader (strictness : Strictness) (s : State) (line : Nat) :
    s.run (.ofStrictness strictness) (stepsOf ⟨headerText .loop [], line⟩) =
      ([⟨line, .unknownStatement⟩], ⟨s.symbols, s.blocks.push ⟨line, .other, false⟩⟩) := by
  have hUnknown : Form.classify (headerText .loop []) = (.unknown, []) := by decide +kernel
  have hReported : s.reported (.ofStrictness strictness) ⟨headerText .loop [], .unknown⟩ = [.unknownStatement] := by
    apply reported_of_forall
    intro d hConcerns
    cases d with
    | undeclared | undeclaredIn | unresolvedCondition | typeMismatch => cases hConcerns
    | _ => rfl
  rw [stepsOf_headerText line hUnknown rfl, run_singleton, findings, hReported]
  rfl

/-- From any state and in either mode, a header is accepted or rejected as a loop exactly if its parentheses are
not empty. If they are, the statement is unknown and opens a block that is no loop. -/
theorem run_loopHeader_iff (strictness : Strictness) (s : State) (line : Nat) (header : Text) :
    (s.run (.ofStrictness strictness) (stepsOf ⟨headerText .loop header, line⟩) = s.openLoop line header ↔
      header ≠ []) ∧
    s.run (.ofStrictness strictness) (stepsOf ⟨headerText .loop [], line⟩) =
      ([⟨line, .unknownStatement⟩], ⟨s.symbols, s.blocks.push ⟨line, .other, false⟩⟩) := by
  have hEmpty := run_emptyLoopHeader strictness s line
  refine ⟨⟨?_, run_loopHeader strictness s line⟩, hEmpty⟩
  rintro hRun rfl
  rw [hEmpty] at hRun
  cases (Prod.mk.inj hRun).1

/-- Empty parentheses are reported as no loop header is, and their body reports the counter that it misses, which
the body of a rejected loop does not. -/
theorem check_emptyLoopHeader :
    LoopHeader.counter? [] = none ∧
      (check .strict "MALLI-MALLI () [\nCHATIMPU(i);\n]".toList).1 =
        [⟨1, "Unknown or invalid statement.".toList⟩, ⟨2, "Undeclared variable 'i' in print.".toList⟩] ∧
      (check .strict "MALLI-MALLI ( ) [\nCHATIMPU(i);\n]".toList).1 =
        [⟨1, "Invalid MALLI-MALLI syntax.".toList⟩] := by
  refine ⟨by decide +kernel, ?_, ?_⟩
  · decide +kernel
  · decide +kernel

end Check.State
end LessonCheck
