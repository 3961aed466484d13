import LessonCheck.Text.Line
import LessonCheck.Text.Numeral

/-!
# Tallies

The outcomes of a run of cases are recorded one by one: four counts, and the outcomes that people are told about.
A case fails if its diagnostics are others than expected and is in error if it cannot be run; both are listed by
name and line.
-/

namespace LessonCheck

inductive Verdict
  | pass
  | fail (expected actual : Text)
  | skip (reason : Text)
  | error (message : Text)
  deriving DecidableEq, Repr

namespace Verdict

def isPass : Verdict → Bool
  | pass => true
  | _ => false

def isFail : Verdict → Bool
  | fail .. => true
  | _ => false

def details : Verdict → List Text
  | fail expected actual =>
      let indented (t : Text) := (Text.lines t).map ("      ".toList ++ ·)
      "    expected:".toList :: indented expected ++ "    actual:".toList :: indented actual
  | error message => ["    error: ".toList ++ message]
  | _ => []

end Verdict

structure Outcome where
  name : Text
  line : Nat
  verdict : Verdict
  deriving DecidableEq, Repr

structure Tally where
  passed : Nat
  failed : Nat
  skipped : Nat
  errors : Nat
  failures : List Outcome
  deriving DecidableEq, Repr

namespace Tally

def empty : Tally := ⟨0, 0, 0, 0, []⟩

/-- Every outcome is counted, and listed if something is wrong with the case. -/
def record (t : Tally) (o : Outcome) : Tally :=
  match o.verdict with
  | .pass => { t with passed := t.passed + 1 }
  | .skip _ => { t with skipped := t.skipped + 1 }
  | .fail .. => { t with failed := t.failed + 1, failures := t.failures ++ [o] }
  | .error _ => { t with errors := t.errors + 1, failures := t.failures ++ [o] }

def total (t : Tally) : Nat := t.passed + t.failed + t.skipped + t.errors

def allPassed (t : Tally) : Bool := t.failed = 0 && t.errors = 0

/-! ## The summary -/

def rule : Text := List.replicate 60 '═'

def countsLine (t : Tally) : Text :=
  "  ✓ ".toList ++ Text.ofNat t.passed ++ " passed  ✗ ".toList ++ Text.ofNat t.failed ++
    " failed  ⊘ ".toList ++ Text.ofNat t.skipped ++ " skipped  ⚠ ".toList ++ Text.ofNat t.errors ++
    " errors".toList

def failureLines (o : Outcome) : List Text :=
  [] :: ("  ".toList ++ o.name ++ " (line ".toList ++ Text.ofNat o.line ++ ")".toList) :: o.verdict.details

def summaryLines (t : Tally) : List Text :=
  [[], rule, "Validation cases: ".toList ++ Text.ofNat t.total ++ " total".toList, t.countsLine] ++
    (if t.failures = [] then [] else [] :: "Failures:".toList :: t.failures.flatMap failureLines) ++ [rule]

def summary (t : Tally) : Text := t.summaryLines.flatMap (· ++ ['\n'])

end Tally
end LessonCheck
